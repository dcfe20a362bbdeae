import Conformance.Proofs.Descriptor.Grammar

/-!
# Canonical descriptors and their texts

The text of a descriptor puts no brackets around the options of a union, so that not every
descriptor reads back from its text: a union directly inside `Maybe` or inside another union
does not. Those that reading makes are canonical, and they do. The tokens of a canonical
descriptor are given by recursion on it; its text is a row of these tokens, and the tokens
derive the descriptor.

## Main definitions

* `Descriptor.Canonical` — the descriptors that reading makes.
* `Descriptor.tokens` — the tokens that a descriptor is written with.

## Main results

* `Descriptor.DerivesUnion.canonical` — what is derived from written tokens is canonical.
* `Descriptor.Canonical.lexes_text`, `Descriptor.Canonical.derivesUnion_tokens` — a canonical
  descriptor is written with tokens that derive it.
* `Descriptor.ofValue_text` — canonical descriptors are those read, and read back.
-/

namespace Conformance

theorem Token.forall_mem_space_isBlank : ∀ c ∈ [' '], Text.isBlank c = true :=
  List.forall_mem_singleton.mpr (by decide)

theorem Pattern.textsWith_eq_map {α : Type} (foreignText : α → String) (ps : List (Pattern α)) :
    textsWith foreignText ps = ps.map (textWith foreignText) := by
  induction ps with
  | nil => rfl
  | cons p ps ih => rw [textsWith, ih, List.map_cons]

namespace Descriptor

open Token (Lexes)

/-! ### Canonical descriptors -/

/-- The descriptor is a union. -/
def IsUnion : Descriptor → Prop
  | .union _ => True
  | _ => False

/-- A descriptor as reading makes it: its names are stars and identifiers other than `Maybe`, a
union has two options or more, and no union stands directly inside a union or `Maybe`. -/
inductive Canonical : Descriptor → Prop
  | star : Canonical (.named "*")
  | name {s : String} (hs : Token.IsIdentifier s.toList) (hmaybe : s ≠ Pattern.maybeKeyword) :
      Canonical (.named s)
  | union {ds : List Descriptor} (hlen : 2 ≤ ds.length) (hds : ∀ d ∈ ds, Canonical d)
      (hflat : ∀ d ∈ ds, ¬ IsUnion d) : Canonical (.union ds)
  | arrayOf {d : Descriptor} (h : Canonical d) : Canonical (.arrayOf d)
  | maybe {d : Descriptor} (h : Canonical d) (hflat : ¬ IsUnion d) : Canonical (.maybe d)

theorem two_le_length_of_derivesOptions {ts : List Token} {ds : List Descriptor}
    (h : DerivesOptions ts ds) (d : Descriptor) : 2 ≤ (d :: ds).length := by
  have hpos := List.length_pos_iff.mpr h.ne_nil
  rw [List.length_cons]
  omega

mutual

/-- A term made of written tokens is canonical and no union. -/
theorem DerivesTerm.canonical : ∀ {ts : List Token} {d : Descriptor}, DerivesTerm ts d →
    (∀ t ∈ ts, t.IsWritten) → d.Canonical ∧ ¬ d.IsUnion
  | _, _, .star, _ => ⟨.star, not_false⟩
  | _, _, .name hs, hts => ⟨.name (hts _ List.mem_cons_self) hs, not_false⟩
  | _, _, .maybe h, hts => by
    obtain ⟨hinner, hflat⟩ := h.canonical (List.forall_mem_cons.mp hts).2
    exact ⟨.maybe hinner hflat, not_false⟩
  | _, _, .array h, hts => by
    have hinner := (List.forall_mem_append.mp (List.forall_mem_cons.mp hts).2).1
    exact ⟨.arrayOf (h.canonical hinner), not_false⟩

/-- Terms made of written tokens are canonical and no unions. -/
theorem DerivesOptions.canonical : ∀ {ts : List Token} {ds : List Descriptor},
    DerivesOptions ts ds → (∀ t ∈ ts, t.IsWritten) → ∀ d ∈ ds, d.Canonical ∧ ¬ d.IsUnion
  | _, _, .one h, hts => by
    rw [List.forall_mem_singleton]
    exact h.canonical hts
  | _, _, .more h h', hts => by
    obtain ⟨hfirst, hothers⟩ := List.forall_mem_append.mp hts
    rw [List.forall_mem_cons]
    exact ⟨h.canonical hfirst, h'.canonical (List.forall_mem_cons.mp hothers).2⟩

/-- What is made of written tokens is canonical. -/
theorem DerivesUnion.canonical : ∀ {ts : List Token} {d : Descriptor}, DerivesUnion ts d →
    (∀ t ∈ ts, t.IsWritten) → d.Canonical
  | _, _, .single h, hts => (h.canonical hts).1
  | _, _, @DerivesUnion.several _ _ d ds h h', hts => by
    obtain ⟨hfirst, hothers⟩ := List.forall_mem_append.mp hts
    have hall : ∀ e ∈ d :: ds, e.Canonical ∧ ¬ e.IsUnion := by
      rw [List.forall_mem_cons]
      exact ⟨h.canonical hfirst, h'.canonical (List.forall_mem_cons.mp hothers).2⟩
    exact .union (two_le_length_of_derivesOptions h' d) (fun e he => (hall e he).1)
      fun e he => (hall e he).2

end

/-! ### Rows of tokens put together -/

theorem isIdentifier_maybeKeyword : Token.IsIdentifier Pattern.maybeKeyword.toList := by
  have hchars : Token.isNameStart 'M' = true ∧ Token.isNameChar 'a' = true ∧
      Token.isNameChar 'y' = true ∧ Token.isNameChar 'b' = true ∧ Token.isNameChar 'e' = true := by
    decide
  simpa [Pattern.maybeKeyword, Token.IsIdentifier] using hchars

section Rows

variable {s t : String} {ts us : List Token}

/-- Two rows of tokens with a bar between them are one row. -/
theorem lexes_separated (h : Lexes s.toList ts) (h' : Lexes t.toList us) :
    Lexes (s ++ Pattern.separator ++ t).toList (ts ++ .bar :: us) := by
  have hafter := h'.blanks_append Token.forall_mem_space_isBlank
  have hbar := Lexes.cons (t := .bar) Token.forall_mem_space_isBlank trivial trivial hafter
  have hall := h.append hbar (Token.not_isNameChar_head?_cons (c := ' ') (by decide))
  rw [String.toList_append, String.toList_append, List.append_assoc]
  exact hall

/-- A row of tokens in brackets is one row. -/
theorem lexes_bracketed (h : Lexes s.toList ts) :
    Lexes ("[" ++ s ++ "]").toList (.openBracket :: (ts ++ [.closeBracket])) := by
  have hclose : Lexes [']'] [.closeBracket] :=
    Lexes.token_append (t := .closeBracket) trivial trivial .empty
  have hinner := h.append hclose (Token.not_isNameChar_head?_cons (by decide))
  have hall : Lexes ('[' :: (s.toList ++ [']'])) (.openBracket :: (ts ++ [.closeBracket])) :=
    Lexes.token_append (t := .openBracket) trivial trivial hinner
  rw [String.toList_append, String.toList_append, List.append_assoc]
  exact hall

/-- The keyword in front of a row of tokens makes a row. -/
theorem lexes_maybe (h : Lexes s.toList ts) :
    Lexes (Pattern.maybeKeyword ++ " " ++ s).toList (.name Pattern.maybeKeyword :: ts) := by
  have hinner := h.blanks_append Token.forall_mem_space_isBlank
  have hall : Lexes (Pattern.maybeKeyword.toList ++ (' ' :: s.toList))
      (.name Pattern.maybeKeyword :: ts) :=
    Lexes.token_append (t := .name Pattern.maybeKeyword) isIdentifier_maybeKeyword
      (Token.not_isNameChar_head?_cons (c := ' ') (by decide)) hinner
  rw [String.toList_append, String.toList_append, List.append_assoc]
  exact hall

end Rows

/-! ### Texts and tokens -/

theorem text_union (ds : List Descriptor) :
    text (.union ds) = Pattern.separator.intercalate (ds.map text) := by
  rw [text, Pattern.textWith, Pattern.textsWith_eq_map]
  rfl

theorem text_arrayOf (d : Descriptor) : text (.arrayOf d) = "[" ++ d.text ++ "]" := rfl

theorem text_maybe (d : Descriptor) :
    text (.maybe d) = Pattern.maybeKeyword ++ " " ++ d.text := rfl

mutual

/-- The tokens that a descriptor is written with. -/
def tokens : Descriptor → List Token
  | .named name => [if name = "*" then .star else .name name]
  | .union options => [.bar].intercalate (tokensOfEach options)
  | .arrayOf item => .openBracket :: (tokens item ++ [.closeBracket])
  | .maybe inner => .name Pattern.maybeKeyword :: tokens inner

/-- The tokens that each of some descriptors is written with. -/
def tokensOfEach : List Descriptor → List (List Token)
  | [] => []
  | d :: ds => tokens d :: tokensOfEach ds

end

theorem tokens_union (ds : List Descriptor) :
    tokens (.union ds) = [.bar].intercalate (ds.map tokens) := by
  have hmap : tokensOfEach ds = ds.map tokens := by
    induction ds with
    | nil => rfl
    | cons d ds ih => rw [tokensOfEach, ih, List.map_cons]
  rw [tokens, hmap]

/-- The text of a union is a row of its tokens if the text of each option is one. -/
theorem lexes_text_union {ds : List Descriptor} (h : ∀ d ∈ ds, Lexes d.text.toList d.tokens) :
    Lexes (text (.union ds)).toList (tokens (.union ds)) := by
  rw [text_union, tokens_union]
  induction ds with
  | nil => exact .empty
  | cons d ds ih =>
    rw [List.forall_mem_cons] at h
    cases ds with
    | nil => simpa using h.1
    | cons e ds =>
      have hall := lexes_separated h.1 (ih h.2)
      simp only [List.map_cons, String.intercalate_cons_cons, List.intercalate_cons_cons,
        List.append_assoc] at hall ⊢
      exact hall

/-- **The text of a canonical descriptor is a row of its tokens.** -/
theorem Canonical.lexes_text {d : Descriptor} (h : d.Canonical) :
    Lexes d.text.toList d.tokens := by
  induction h with
  | star => exact Lexes.token_append (t := .star) trivial trivial .empty
  | @name s hs hmaybe =>
    have hstar : s ≠ "*" := by
      rintro rfl
      exact absurd hs.1 (by decide)
    have hends : (Token.name s).EndsBefore [] := fun c hc => nomatch hc
    have hlexes : Lexes (s.toList ++ []) [.name s] :=
      Lexes.token_append (t := .name s) hs hends .empty
    rw [List.append_nil] at hlexes
    rwa [tokens, if_neg hstar]
  | union hlen hds hflat ih => exact lexes_text_union ih
  | arrayOf h ih => exact lexes_bracketed ih
  | maybe h hflat ih => exact lexes_maybe ih

/-- Options that are derived by their tokens are derived together by those of the union. -/
theorem derivesOptions_tokens {ds : List Descriptor} (hne : ds ≠ [])
    (h : ∀ d ∈ ds, DerivesTerm d.tokens d) : DerivesOptions (tokens (.union ds)) ds := by
  rw [tokens_union]
  induction ds with
  | nil => exact absurd rfl hne
  | cons d ds ih =>
    rw [List.forall_mem_cons] at h
    cases ds with
    | nil => simpa using DerivesOptions.one h.1
    | cons e ds =>
      have hothers := ih (List.cons_ne_nil e ds) h.2
      simp only [List.map_cons, List.intercalate_cons_cons, List.append_assoc] at hothers ⊢
      exact .more h.1 hothers

/-- **The tokens of a canonical descriptor derive it,** as a term unless it is a union. -/
theorem Canonical.derivesUnion_tokens {d : Descriptor} (h : d.Canonical) :
    (¬ d.IsUnion → DerivesTerm d.tokens d) ∧ DerivesUnion d.tokens d := by
  induction h with
  | star => exact ⟨fun _ => .star, .single .star⟩
  | @name s hs hmaybe =>
    have hstar : s ≠ "*" := by
      rintro rfl
      exact absurd hs.1 (by decide)
    have hterm : DerivesTerm (tokens (.named s)) (.named s) := by
      rw [tokens, if_neg hstar]
      exact .name hmaybe
    exact ⟨fun _ => hterm, .single hterm⟩
  | @union ds hlen hds hflat ih =>
    refine ⟨fun hunion => absurd trivial hunion, ?_⟩
    obtain ⟨d, e, ds, rfl⟩ : ∃ d e ds', ds = d :: e :: ds' := by
      match ds with
      | d :: e :: ds => exact ⟨d, e, ds, rfl⟩
    have hterms : ∀ d' ∈ d :: e :: ds, DerivesTerm d'.tokens d' :=
      fun d' hd' => (ih d' hd').1 (hflat d' hd')
    exact (derivesOptions_tokens (List.cons_ne_nil d (e :: ds)) hterms).derivesUnion
  | @arrayOf d h ih =>
    have hterm : DerivesTerm (tokens (.arrayOf d)) (.arrayOf d) := .array ih.2
    exact ⟨fun _ => hterm, .single hterm⟩
  | @maybe d h hflat ih =>
    have hterm : DerivesTerm (tokens (.maybe d)) (.maybe d) := .maybe (ih.1 hflat)
    exact ⟨fun _ => hterm, .single hterm⟩

/-! ### Reading and writing -/

/-- What a text reads as is canonical. -/
theorem canonical_of_parse {s : String} {d : Descriptor} (h : parse s = .ok d) :
    d.Canonical := by
  obtain ⟨ts, hlexes, hderives⟩ := parse_eq_ok_iff.mp h
  exact hderives.canonical hlexes.isWritten

/-- A canonical descriptor reads back from its text. -/
theorem Canonical.parse_text {d : Descriptor} (h : d.Canonical) : parse d.text = .ok d :=
  parse_eq_ok_iff.mpr ⟨d.tokens, h.lexes_text, h.derivesUnion_tokens.2⟩

/-- Only texts are read as descriptors. -/
theorem exists_parse_of_ofValue {g : Store} {v : Value} {d : Descriptor}
    (h : ofValue g v = .ok d) : ∃ s, v.str? = some s ∧ parse s = .ok d := by
  cases hs : v.str? with
  | some s =>
    rw [ofValue_of_str? g hs] at h
    cases hparse : parse s with
    | error e =>
      rw [hparse] at h
      cases h
    | ok d' =>
      rw [hparse] at h
      cases h
      exact ⟨s, rfl, hparse⟩
  | none =>
    rw [ofValue, hs] at h
    split_ifs at h
    cases hrepr : g.repr? v with
    | none =>
      rw [hrepr] at h
      cases h
    | some text =>
      rw [hrepr] at h
      cases h

/-- **Reading and writing are inverse to each other** on canonical descriptors. What is read is
canonical; a canonical descriptor reads back from its text; and so does whatever was read. -/
theorem ofValue_text (g : Store) :
    (∀ v d, ofValue g v = .ok d → d.Canonical) ∧
    (∀ d : Descriptor, d.Canonical → ofValue g (.str d.text) = .ok d) ∧
    ∀ v d, ofValue g v = .ok d → ofValue g (.str d.text) = .ok d := by
  have hback : ∀ d : Descriptor, d.Canonical → ofValue g (.str d.text) = .ok d := by
    intro d hd
    rw [ofValue_of_str? g rfl, hd.parse_text]
    rfl
  have hcanonical : ∀ v d, ofValue g v = .ok d → d.Canonical := by
    intro v d hd
    obtain ⟨s, -, hparse⟩ := exists_parse_of_ofValue hd
    exact canonical_of_parse hparse
  exact ⟨hcanonical, hback, fun v d hd => hback d (hcanonical v d hd)⟩

/-- A union inside an array inside `Maybe`, beside a name, reads back. -/
theorem ofValue_text_nested :
    Canonical (.union [.maybe (.arrayOf (.union [.named "A", .named "*"])), .named "B_1"]) ∧
      ofValue {} (.str "Maybe [A | *] | B_1") =
        .ok (.union [.maybe (.arrayOf (.union [.named "A", .named "*"])), .named "B_1"]) := by
  have hfirst : Token.IsIdentifier "A".toList := by
    have hchar : Token.isNameStart 'A' = true := by decide
    simpa [Token.IsIdentifier] using hchar
  have hsecond : Token.IsIdentifier "B_1".toList := by
    have hchars : Token.isNameStart 'B' = true ∧ Token.isNameChar '_' = true ∧
        Token.isNameChar '1' = true := by
      decide
    simpa [Token.IsIdentifier] using hchars
  have hinner : Canonical (.union [.named "A", .named "*"]) := by
    refine .union (by decide) (fun d hd => ?_) fun d hd => ?_
    · rcases List.mem_pair.mp hd with rfl | rfl
      · exact .name hfirst (by decide)
      · exact .star
    · rcases List.mem_pair.mp hd with rfl | rfl <;> exact not_false
  have hall : Canonical
      (.union [.maybe (.arrayOf (.union [.named "A", .named "*"])), .named "B_1"]) := by
    refine .union (by decide) (fun d hd => ?_) fun d hd => ?_
    · rcases List.mem_pair.mp hd with rfl | rfl
      · exact .maybe (.arrayOf hinner) not_false
      · exact .name hsecond (by decide)
    · rcases List.mem_pair.mp hd with rfl | rfl <;> exact not_false
  have hback := (ofValue_text {}).2.1 _ hall
  have htext : text (.union [.maybe (.arrayOf (.union [.named "A", .named "*"])),
      .named "B_1"]) = "Maybe [A | *] | B_1" := by cbv
  rw [htext] at hback
  exact ⟨hall, hback⟩

end Descriptor

end Conformance
