import Conformance.Descriptor.Value
import Conformance.Proofs.Descriptor.Lexing
import Conformance.Proofs.Store.Comparison

/-!
# The grammar of descriptors

The grammar is stated as derivations over whole lists of tokens, without a cursor: a union is
one or more terms with bars between them, and a term is `Maybe` and a term, a union in
brackets, a star or any other name. The descriptor of a union is that of its only term, or the
union of those of its terms in order.

Reading takes from the front of the tokens what the grammar derives and stops before a bracket
or at the end. Since reading has one result, a list of tokens derives at most one descriptor.

## Main definitions

* `Descriptor.DerivesTerm`, `Descriptor.DerivesOptions`, `Descriptor.DerivesUnion` — the
  derivations of terms, of terms with bars between them, and of unions.

## Main results

* `Descriptor.ofTokens_eq_ok_iff` — reading accepts exactly the derivable lists of tokens.
* `Descriptor.DerivesUnion.unique` — no list of tokens derives two descriptors.
* `Descriptor.ofValue_iff_derivesUnion` — the texts that are descriptors, and which.
-/

namespace Conformance

namespace Descriptor

/-! ### Derivations -/

mutual

/-- The tokens are a term, and stand for the descriptor. -/
inductive DerivesTerm : List Token → Descriptor → Prop
  | star : DerivesTerm [.star] (.named "*")
  | name {s : String} (h : s ≠ Pattern.maybeKeyword) : DerivesTerm [.name s] (.named s)
  | maybe {ts : List Token} {d : Descriptor} (h : DerivesTerm ts d) :
      DerivesTerm (.name Pattern.maybeKeyword :: ts) (.maybe d)
  | array {ts : List Token} {d : Descriptor} (h : DerivesUnion ts d) :
      DerivesTerm (.openBracket :: (ts ++ [.closeBracket])) (.arrayOf d)

/-- The tokens are one or more terms with bars between them, which stand for the descriptors. -/
inductive DerivesOptions : List Token → List Descriptor → Prop
  | one {ts : List Token} {d : Descriptor} (h : DerivesTerm ts d) : DerivesOptions ts [d]
  | more {ts us : List Token} {d : Descriptor} {ds : List Descriptor} (h : DerivesTerm ts d)
      (h' : DerivesOptions us ds) : DerivesOptions (ts ++ .bar :: us) (d :: ds)

/-- The tokens are a union, and stand for the descriptor. -/
inductive DerivesUnion : List Token → Descriptor → Prop
  | single {ts : List Token} {d : Descriptor} (h : DerivesTerm ts d) : DerivesUnion ts d
  | several {ts us : List Token} {d : Descriptor} {ds : List Descriptor} (h : DerivesTerm ts d)
      (h' : DerivesOptions us ds) : DerivesUnion (ts ++ .bar :: us) (.union (d :: ds))

end

theorem DerivesOptions.ne_nil {ts : List Token} {ds : List Descriptor}
    (h : DerivesOptions ts ds) : ds ≠ [] := by
  cases h <;> exact List.cons_ne_nil _ _

theorem ofOptions_of_ne_nil {d : Descriptor} {ds : List Descriptor} (h : ds ≠ []) :
    ofOptions d ds = .union (d :: ds) := by
  cases ds with
  | nil => exact absurd rfl h
  | cons e ds => rfl

/-- Terms with bars between them are a union of what they stand for. -/
theorem DerivesOptions.derivesUnion {ts : List Token} {d : Descriptor} {ds : List Descriptor}
    (h : DerivesOptions ts (d :: ds)) : DerivesUnion ts (ofOptions d ds) := by
  cases h with
  | one h => exact .single h
  | more h h' =>
    rw [ofOptions_of_ne_nil h'.ne_nil]
    exact .several h h'

/-- Reading options stops where no bar follows. -/
theorem readOptions_of_head?_ne_bar {ts : List Token} (h : ts.head? ≠ some .bar) :
    readOptions ts = .ok ⟨([], ts), Nat.le_refl _⟩ := by
  rw [readOptions]
  rintro us rfl
  exact h rfl

/-! ### The steps of reading -/

/-- A term and further options behind it are read as a union, and behind a bar as options. -/
theorem readUnion_and_readOptions {ts behind rest : List Token} {first : Descriptor}
    {others : List Descriptor} {hlt : behind.length < ts.length}
    {hle : rest.length ≤ behind.length} (hterm : readTerm ts = .ok ⟨(first, behind), hlt⟩)
    (hoptions : readOptions behind = .ok ⟨(others, rest), hle⟩) :
    readUnion ts = .ok ⟨(ofOptions first others, rest), Nat.lt_of_le_of_lt hle hlt⟩ ∧
      readOptions (.bar :: ts) = .ok ⟨(first :: others, rest),
        Nat.le_of_lt (Nat.lt_succ_of_lt (Nat.lt_of_le_of_lt hle hlt))⟩ := by
  constructor
  · rw [readUnion, hterm]
    simp only [hoptions]
  · rw [readOptions, hterm]
    simp only [hoptions]

/-- Both a union and what stands behind a bar are read as a term and then further options. -/
theorem readTerm_then_readOptions (ts : List Token) :
    (∃ e, readUnion ts = .error e ∧ readOptions (.bar :: ts) = .error e ∧
      (readTerm ts = .error e ∨ ∃ first behind, ∃ hlt : behind.length < ts.length,
        readTerm ts = .ok ⟨(first, behind), hlt⟩ ∧ readOptions behind = .error e)) ∨
    ∃ first behind others rest, ∃ (hlt : behind.length < ts.length)
      (hle : rest.length ≤ behind.length), readTerm ts = .ok ⟨(first, behind), hlt⟩ ∧
        readOptions behind = .ok ⟨(others, rest), hle⟩ ∧
        readUnion ts = .ok ⟨(ofOptions first others, rest), Nat.lt_of_le_of_lt hle hlt⟩ ∧
        readOptions (.bar :: ts) = .ok ⟨(first :: others, rest),
          Nat.le_of_lt (Nat.lt_succ_of_lt (Nat.lt_of_le_of_lt hle hlt))⟩ := by
  cases hterm : readTerm ts with
  | error e =>
    rw [readUnion, readOptions, hterm]
    exact .inl ⟨e, rfl, rfl, .inl rfl⟩
  | ok r =>
    obtain ⟨⟨first, behind⟩, hlt⟩ := r
    cases hoptions : readOptions behind with
    | error e =>
      rw [readUnion, readOptions, hterm]
      simp only [hoptions]
      exact .inl ⟨e, rfl, rfl, .inr ⟨first, behind, hlt, rfl, hoptions⟩⟩
    | ok r =>
      obtain ⟨⟨others, rest⟩, hle⟩ := r
      exact .inr ⟨first, behind, others, rest, hlt, hle, rfl, hoptions,
        readUnion_and_readOptions hterm hoptions⟩

theorem exists_of_readUnion_eq_ok {ts rest : List Token} {d : Descriptor}
    {hlt : rest.length < ts.length} (h : readUnion ts = .ok ⟨(d, rest), hlt⟩) :
    ∃ first behind others, ∃ (hlt' : behind.length < ts.length)
      (hle : rest.length ≤ behind.length), readTerm ts = .ok ⟨(first, behind), hlt'⟩ ∧
        readOptions behind = .ok ⟨(others, rest), hle⟩ ∧ d = ofOptions first others := by
  obtain ⟨e, hunion, -⟩ |
    ⟨first, behind, others, rest', hlt', hle, hterm, hoptions, hunion, -⟩ :=
      readTerm_then_readOptions ts
  · cases h.symm.trans hunion
  · cases h.symm.trans hunion
    exact ⟨first, behind, others, hlt', hle, hterm, hoptions, rfl⟩

theorem exists_of_readOptions_eq_ok {ts rest : List Token} {ds : List Descriptor}
    {hle : rest.length ≤ (Token.bar :: ts).length}
    (h : readOptions (.bar :: ts) = .ok ⟨(ds, rest), hle⟩) :
    ∃ first behind others, ∃ (hlt : behind.length < ts.length)
      (hle' : rest.length ≤ behind.length), readTerm ts = .ok ⟨(first, behind), hlt⟩ ∧
        readOptions behind = .ok ⟨(others, rest), hle'⟩ ∧ ds = first :: others := by
  obtain ⟨e, -, hbar, -⟩ |
    ⟨first, behind, others, rest', hlt, hle', hterm, hoptions, -, hbar⟩ :=
      readTerm_then_readOptions ts
  · cases h.symm.trans hbar
  · cases h.symm.trans hbar
    exact ⟨first, behind, others, hlt, hle', hterm, hoptions, rfl⟩

theorem exists_of_readUnion_eq_error {ts : List Token} {e : SyntaxFault}
    (h : readUnion ts = .error e) :
    readTerm ts = .error e ∨ ∃ first behind, ∃ hlt : behind.length < ts.length,
      readTerm ts = .ok ⟨(first, behind), hlt⟩ ∧ readOptions behind = .error e := by
  obtain ⟨e', hunion, -, hfails⟩ | ⟨_, _, _, _, _, _, _, _, hunion, -⟩ :=
    readTerm_then_readOptions ts
  · cases h.symm.trans hunion
    exact hfails
  · cases h.symm.trans hunion

theorem exists_of_readOptions_eq_error {ts : List Token} {e : SyntaxFault}
    (h : readOptions (.bar :: ts) = .error e) :
    readTerm ts = .error e ∨ ∃ first behind, ∃ hlt : behind.length < ts.length,
      readTerm ts = .ok ⟨(first, behind), hlt⟩ ∧ readOptions behind = .error e := by
  obtain ⟨e', -, hbar, hfails⟩ | ⟨_, _, _, _, _, _, _, _, -, hbar⟩ :=
    readTerm_then_readOptions ts
  · cases h.symm.trans hbar
    exact hfails
  · cases h.symm.trans hbar

/-! ### What reading takes is derivable -/

mutual

/-- What is read as a term is one. -/
theorem derivesTerm_of_readTerm {ts rest : List Token} {d : Descriptor}
    {hlt : rest.length < ts.length} (h : readTerm ts = .ok ⟨(d, rest), hlt⟩) :
    ∃ used, ts = used ++ rest ∧ DerivesTerm used d := by
  match ts with
  | [] => rw [readTerm] at h; cases h
  | .closeBracket :: ts => rw [readTerm] at h; cases h
  | .bar :: ts => rw [readTerm] at h; cases h
  | .star :: ts =>
    rw [readTerm] at h
    cases h
    exact ⟨[.star], rfl, .star⟩
  | .name s :: ts =>
    rw [readTerm] at h
    split_ifs at h with hs
    · subst hs
      cases hterm : readTerm ts with
      | error e => rw [hterm] at h; cases h
      | ok r =>
        obtain ⟨⟨d', rest'⟩, hlt'⟩ := r
        rw [hterm] at h
        cases h
        obtain ⟨used, hts, hused⟩ := derivesTerm_of_readTerm hterm
        exact ⟨.name Pattern.maybeKeyword :: used, by rw [hts, List.cons_append], .maybe hused⟩
    · cases h
      exact ⟨[.name s], rfl, .name hs⟩
  | .openBracket :: ts =>
    rw [readTerm] at h
    cases hunion : readUnion ts with
    | error e => rw [hunion] at h; cases h
    | ok r =>
      obtain ⟨⟨d', rest'⟩, hlt'⟩ := r
      obtain ⟨used, hts, hused⟩ := derivesUnion_of_readUnion hunion
      rw [hunion] at h
      match rest' with
      | [] => cases h
      | .closeBracket :: rest'' =>
        cases h
        exact ⟨.openBracket :: (used ++ [.closeBracket]), by simp [hts], .array hused⟩
      | .openBracket :: _ | .bar :: _ | .star :: _ | .name _ :: _ => cases h
termination_by (ts.length, 0)

/-- What is read as a union is one. -/
theorem derivesUnion_of_readUnion {ts rest : List Token} {d : Descriptor}
    {hlt : rest.length < ts.length} (h : readUnion ts = .ok ⟨(d, rest), hlt⟩) :
    ∃ used, ts = used ++ rest ∧ DerivesUnion used d := by
  obtain ⟨first, behind, others, hlt', hle, hterm, hoptions, rfl⟩ := exists_of_readUnion_eq_ok h
  obtain ⟨used, hts, hused⟩ := derivesTerm_of_readTerm hterm
  obtain ⟨used', hbehind, hused'⟩ := derivesOptions_of_readOptions hoptions hused
  exact ⟨used ++ used', by rw [hts, hbehind, List.append_assoc], hused'.derivesUnion⟩
termination_by (ts.length, 2)

/-- What is read as further options of a union makes up the options together with the one
before them. -/
theorem derivesOptions_of_readOptions {ts rest : List Token} {ds : List Descriptor}
    {hle : rest.length ≤ ts.length} (h : readOptions ts = .ok ⟨(ds, rest), hle⟩)
    {before : List Token} {d : Descriptor} (hd : DerivesTerm before d) :
    ∃ used, ts = used ++ rest ∧ DerivesOptions (before ++ used) (d :: ds) := by
  match ts with
  | .bar :: ts =>
    obtain ⟨first, behind, others, hlt, hle', hterm, hoptions, rfl⟩ :=
      exists_of_readOptions_eq_ok h
    obtain ⟨used, hts, hused⟩ := derivesTerm_of_readTerm hterm
    obtain ⟨used', hbehind, hused'⟩ := derivesOptions_of_readOptions hoptions hused
    exact ⟨.bar :: (used ++ used'), by simp [hts, hbehind], .more hd hused'⟩
  | [] | .openBracket :: _ | .closeBracket :: _ | .star :: _ | .name _ :: _ =>
    rw [readOptions_of_head?_ne_bar (by simp)] at h
    cases h
    exact ⟨[], rfl, by simpa using DerivesOptions.one hd⟩
termination_by (ts.length, 1)

end

/-! ### What is derivable is read -/

mutual

/-- A term is read whatever follows it. -/
theorem DerivesTerm.readTerm_append : ∀ {used : List Token} {d : Descriptor},
    DerivesTerm used d → ∀ rest : List Token,
      ∃ hlt, readTerm (used ++ rest) = .ok ⟨(d, rest), hlt⟩
  | _, _, .star, rest => by
    refine ⟨by simp, ?_⟩
    change readTerm (.star :: rest) = _
    rw [readTerm]
    rfl
  | _, _, @DerivesTerm.name s hs, rest => by
    refine ⟨by simp, ?_⟩
    change readTerm (.name s :: rest) = _
    rw [readTerm, if_neg hs]
  | _, _, @DerivesTerm.maybe ts _ h, rest => by
    obtain ⟨hlt, hterm⟩ := h.readTerm_append rest
    refine ⟨by simp only [List.cons_append, List.length_cons] at hlt ⊢; omega, ?_⟩
    change readTerm (.name Pattern.maybeKeyword :: (ts ++ rest)) = _
    rw [readTerm, if_pos rfl, hterm]
  | _, _, @DerivesTerm.array ts _ h, rest => by
    obtain ⟨hlt, hunion⟩ := h.readUnion_append (.closeBracket :: rest) (by simp)
    have happend : .openBracket :: (ts ++ [.closeBracket]) ++ rest =
        .openBracket :: (ts ++ .closeBracket :: rest) := by simp
    rw [happend]
    refine ⟨by simp only [List.length_cons] at hlt ⊢; omega, ?_⟩
    rw [readTerm, hunion]

/-- Terms with bars between them are read after a bar, if no bar follows them. -/
theorem DerivesOptions.readOptions_append : ∀ {used : List Token} {ds : List Descriptor},
    DerivesOptions used ds → ∀ rest : List Token, rest.head? ≠ some .bar →
      ∃ hle, readOptions (.bar :: (used ++ rest)) = .ok ⟨(ds, rest), hle⟩
  | _, _, .one h, rest, hrest => by
    obtain ⟨_, hterm⟩ := h.readTerm_append rest
    exact ⟨_, (readUnion_and_readOptions hterm (readOptions_of_head?_ne_bar hrest)).2⟩
  | _, _, @DerivesOptions.more _ us _ _ h h', rest, hrest => by
    obtain ⟨_, hterm⟩ := h.readTerm_append (.bar :: (us ++ rest))
    obtain ⟨_, hoptions⟩ := h'.readOptions_append rest hrest
    rw [List.append_assoc, List.cons_append]
    exact ⟨_, (readUnion_and_readOptions hterm hoptions).2⟩

/-- A union is read if no bar follows it. -/
theorem DerivesUnion.readUnion_append : ∀ {used : List Token} {d : Descriptor},
    DerivesUnion used d → ∀ rest : List Token, rest.head? ≠ some .bar →
      ∃ hlt, readUnion (used ++ rest) = .ok ⟨(d, rest), hlt⟩
  | _, _, .single h, rest, hrest => by
    obtain ⟨_, hterm⟩ := h.readTerm_append rest
    exact ⟨_, (readUnion_and_readOptions hterm (readOptions_of_head?_ne_bar hrest)).1⟩
  | _, _, @DerivesUnion.several _ us _ _ h h', rest, hrest => by
    obtain ⟨_, hterm⟩ := h.readTerm_append (.bar :: (us ++ rest))
    obtain ⟨_, hoptions⟩ := h'.readOptions_append rest hrest
    rw [List.append_assoc, List.cons_append, ← ofOptions_of_ne_nil h'.ne_nil]
    exact ⟨_, (readUnion_and_readOptions hterm hoptions).1⟩

end

/-- The tokens that make up a descriptor are those that derive it. -/
theorem ofTokens_eq_ok_iff {ts : List Token} {d : Descriptor} :
    ofTokens ts = .ok d ↔ DerivesUnion ts d := by
  rw [ofTokens]
  constructor
  · intro h
    split_ifs at h with hts
    cases hunion : readUnion ts with
    | error e => rw [hunion] at h; cases h
    | ok r =>
      obtain ⟨⟨d', rest⟩, hlt⟩ := r
      obtain ⟨used, hused, hderives⟩ := derivesUnion_of_readUnion hunion
      rw [hunion] at h
      cases rest with
      | nil =>
        cases h
        rwa [hused, List.append_nil]
      | cons t rest => cases h
  · intro h
    have hread : ∃ hlt, readUnion ts = .ok ⟨(d, []), hlt⟩ := by
      have happend := h.readUnion_append [] (by simp)
      rwa [List.append_nil] at happend
    obtain ⟨hlt, hunion⟩ := hread
    rw [if_neg (List.ne_nil_of_length_pos (Nat.lt_of_le_of_lt (Nat.zero_le _) hlt)), hunion]

/-- No tokens derive two descriptors. -/
theorem DerivesUnion.unique {ts : List Token} {d e : Descriptor} (hd : DerivesUnion ts d)
    (he : DerivesUnion ts e) : d = e :=
  Except.ok.inj ((ofTokens_eq_ok_iff.mpr hd).symm.trans (ofTokens_eq_ok_iff.mpr he))

/-- A text is a descriptor exactly if it is a row of tokens that derive it. -/
theorem parse_eq_ok_iff {s : String} {d : Descriptor} :
    parse s = .ok d ↔ ∃ ts, Token.Lexes s.toList ts ∧ DerivesUnion ts d := by
  have hread : parse s = .ok d ↔ ∃ ts, Token.scan s = .ok ts ∧ ofTokens ts = .ok d := by
    rw [parse, read]
    cases Token.scan s with
    | error position => simp [Except.mapError]
    | ok ts =>
      cases hts : ofTokens ts with
      | error e => simp [Except.mapError, hts]
      | ok d' => simp [Except.mapError, hts]
  simp only [hread, Token.scan_eq_ok_iff, ofTokens_eq_ok_iff]

/-- A text that is no descriptor is refused with a syntax error about it. -/
theorem exists_parse_eq_error {s : String}
    (h : ∀ ts d, Token.Lexes s.toList ts → ¬ DerivesUnion ts d) :
    ∃ fault, parse s = .error ⟨s, fault⟩ := by
  cases hread : read s with
  | error fault => exact ⟨fault, by rw [parse, hread]; rfl⟩
  | ok d =>
    have hparse : parse s = .ok d := by rw [parse, hread]; rfl
    obtain ⟨ts, hlexes, hderives⟩ := parse_eq_ok_iff.mp hparse
    exact absurd hderives (h ts d hlexes)

/-- Reading a text as a value reads the text. -/
theorem ofValue_of_str? (g : Store) {v : Value} {s : String} (hv : v.str? = some s) :
    ofValue g v = (parse s).mapError fun e => .schema (.descriptor v e) := by
  rw [ofValue, if_pos (g.isKey_of_str? hv), hv]

/-- **Reading accepts exactly the grammar.** A text is a descriptor exactly if it is a row of
tokens that derive it, every other text is refused with a syntax error, and no row of tokens
derives two descriptors. -/
theorem ofValue_iff_derivesUnion (g : Store) {v : Value} {s : String} (hv : v.str? = some s) :
    (∀ d, ofValue g v = .ok d ↔ ∃ ts, Token.Lexes s.toList ts ∧ DerivesUnion ts d) ∧
    ((∀ ts d, Token.Lexes s.toList ts → ¬ DerivesUnion ts d) →
      ∃ fault, ofValue g v = .error (.schema (.descriptor v ⟨s, fault⟩))) ∧
    ∀ ts d e, DerivesUnion ts d → DerivesUnion ts e → d = e := by
  refine ⟨fun d => ?_, fun h => ?_, fun ts d e => DerivesUnion.unique⟩
  · rw [← parse_eq_ok_iff, ofValue_of_str? g hv]
    cases parse s with
    | error e => simp [Except.mapError]
    | ok d' => simp [Except.mapError]
  · obtain ⟨fault, hparse⟩ := exists_parse_eq_error h
    exact ⟨fault, by rw [ofValue_of_str? g hv, hparse]; rfl⟩

/-- The keyword binds tighter than a bar. -/
theorem ofValue_iff_derivesUnion_maybe_bar :
    (Value.str "Maybe A|[B]").str? = some "Maybe A|[B]" ∧
      ofValue {} (.str "Maybe A|[B]") =
        .ok (.union [.maybe (.named "A"), .arrayOf (.named "B")]) := by
  have hlex : Token.Lexes "Maybe A|[B]".toList [Token.name "Maybe", Token.name "A", Token.bar,
      Token.openBracket, Token.name "B", Token.closeBracket] :=
    Token.scan_eq_ok_iff.mp (by cbv)
  have hmaybe : DerivesTerm [Token.name "Maybe", Token.name "A"] (.maybe (.named "A")) :=
    .maybe (.name (by simp [Pattern.maybeKeyword]))
  have harray : DerivesTerm [Token.openBracket, Token.name "B", Token.closeBracket]
      (.arrayOf (.named "B")) :=
    .array (.single (.name (by simp [Pattern.maybeKeyword])))
  have htext : (Value.str "Maybe A|[B]").str? = some "Maybe A|[B]" := rfl
  exact ⟨htext, ((ofValue_iff_derivesUnion {} htext).1 _).mpr
    ⟨_, hlex, .several hmaybe (.one harray)⟩⟩

end Descriptor

end Conformance
