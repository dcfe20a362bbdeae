import Conformance.Proofs.Descriptor.Viability
import Conformance.Proofs.Text.CodePoint

/-!
# White space between tokens

A text that is cut into tokens is made by a row: the tokens in order, with a run of white space
before each of them and one at the end. A run may be empty, but not between two names, which would
be one name then. This speaks of the tokens next to a run only, and not of the characters with
which the text goes on after a name, as `Token.Lexes` does; the two say the same. The row of a text
is unique, and a text without a row is not cut.

What a text reads as depends on the tokens of its row alone. So more white space in any of the runs
changes nothing, and neither does white space at the ends of a text that has no row.

Rows are made of characters, and texts are compared by their code points. A text with halves of
surrogate pairs has no row, since none of them is a character of one.

## Main definitions

* `Token.Row`, `Token.Row.IsSpaced` — tokens with runs around them, and when these are right.
* `Token.Row.Widens` — further white space in some of the runs.
* `Token.Row.Spells` — the row that makes a text.

## Main results

* `Token.Row.IsSpaced.lexes`, `Token.Lexes.exists_row` — the texts that rows make are those that
  are cut into tokens.
* `Token.Row.Spells.unique` — a text has one row at most.
* `Descriptor.ofValue_eq_ok_iff_of_spells` — what a text reads as depends on its tokens.
* `Descriptor.scan_exact_and_ofValue_ignores_blanks` — cutting finds the row, and reading does not
  see its white space.
-/

namespace Conformance

namespace Token

/-! ### Rows -/

/-- The token is a name. -/
def IsName : Token → Prop
  | name _ => True
  | _ => False

/-- Tokens with runs of characters around them: one before each token, and one at the end. -/
inductive Row
  | nil (run : List Char)
  | cons (run : List Char) (t : Token) (rest : Row)

namespace Row

/-- The run at the beginning of a row. -/
def lead : Row → List Char
  | nil run => run
  | cons run _ _ => run

/-- The tokens of a row. -/
def tokens : Row → List Token
  | nil _ => []
  | cons _ t rest => t :: rest.tokens

/-- The characters of a row. -/
def chars : Row → List Char
  | nil run => run
  | cons run t rest => run ++ (t.text.toList ++ rest.chars)

/-- The runs are white space, the tokens can stand in a text, and no run between two names is
empty. -/
def IsSpaced : Row → Prop
  | nil run => ∀ c ∈ run, Text.isBlank c = true
  | cons run t rest =>
    (∀ c ∈ run, Text.isBlank c = true) ∧ t.IsWritten ∧
      (t.IsName → rest.lead = [] → ∀ u ∈ rest.tokens.head?, ¬ u.IsName) ∧ rest.IsSpaced

/-- The second row has the tokens of the first, with further white space in some of the runs: next
to a token or inside the run. -/
inductive Widens : Row → Row → Prop
  | nil {run run' : List Char} (hsub : run.Sublist run')
      (hb : ∀ c ∈ run', Text.isBlank c = true) : Widens (nil run) (nil run')
  | cons {run run' : List Char} {t : Token} {rest rest' : Row} (hsub : run.Sublist run')
      (hb : ∀ c ∈ run', Text.isBlank c = true) (h : Widens rest rest') :
      Widens (cons run t rest) (cons run' t rest')

/-- The value is the text that the row makes, with white space where it has to be. -/
structure Spells (r : Row) (v : Value) : Prop where
  isSpaced : r.IsSpaced
  points?_eq : v.points? = some (r.chars.map Char.toNat)

end Row

variable {cs : List Char} {t : Token} {ts : List Token} {r r' : Row} {v : Value} {s : String}

/-! ### Rows and texts -/

/-- A token that is written does not continue a name exactly if it is none. -/
theorem IsWritten.not_isNameChar_head?_iff (ht : t.IsWritten) :
    (∀ c ∈ (t.text.toList ++ cs).head?, isNameChar c = false) ↔ ¬ t.IsName := by
  cases t with
  | name s =>
    change (∀ c ∈ (s.toList ++ cs).head?, _) ↔ ¬ True
    change IsIdentifier s.toList at ht
    cases hs : s.toList with
    | nil => rw [hs] at ht; exact ht.elim
    | cons c xs =>
      rw [hs] at ht
      have hname := isNameChar_of_isNameStart ht.1
      refine iff_of_false (fun h => ?_) (not_not_intro trivial)
      rw [h c rfl] at hname
      exact Bool.false_ne_true hname
  | _ => exact iff_of_true (not_isNameChar_head?_cons (by decide)) not_false

/-- A token ends before the characters of a row exactly if the row does not begin with a name right
after a name. -/
theorem Row.IsSpaced.endsBefore_iff (h : r.IsSpaced) :
    t.EndsBefore r.chars ↔ (t.IsName → r.lead = [] → ∀ u ∈ r.tokens.head?, ¬ u.IsName) := by
  cases t with
  | name s =>
    change (∀ c ∈ r.chars.head?, isNameChar c = false) ↔ (True → _)
    rw [true_imp_iff]
    cases r with
    | nil run =>
      refine iff_of_true (fun c hc => ?_) fun _ u hu => nomatch hu
      exact isNameChar_eq_false_of_isBlank (h c (List.mem_of_mem_head? hc))
    | cons run u rest =>
      obtain ⟨hb, hu, -, -⟩ := h
      cases run with
      | nil =>
        rw [Row.chars, List.nil_append, hu.not_isNameChar_head?_iff]
        simp [Row.lead, Row.tokens]
      | cons b bs =>
        have hblank := isNameChar_eq_false_of_isBlank (hb b List.mem_cons_self)
        exact iff_of_true (not_isNameChar_head?_cons hblank) fun hlead => nomatch hlead
  | _ => exact iff_of_true trivial fun hname => hname.elim

/-- A row makes a text that is cut into its tokens. -/
theorem Row.IsSpaced.lexes (h : r.IsSpaced) : Lexes r.chars r.tokens := by
  induction r with
  | nil run => exact .nil h
  | cons run t rest ih =>
    obtain ⟨hb, ht, hnames, hrest⟩ := h
    exact .cons hb ht (hrest.endsBefore_iff.mpr hnames) (ih hrest)

/-- A text that is cut into tokens is made by a row of them. -/
theorem Lexes.exists_row (h : Lexes cs ts) :
    ∃ r : Row, r.IsSpaced ∧ r.chars = cs ∧ r.tokens = ts := by
  induction h with
  | @nil blanks hb => exact ⟨.nil blanks, hb, rfl, rfl⟩
  | @cons blanks _ t _ hb ht he h ih =>
    obtain ⟨r, hr, rfl, rfl⟩ := ih
    exact ⟨.cons blanks t r, ⟨hb, ht, hr.endsBefore_iff.mp he, hr⟩, rfl, rfl⟩

/-- Rows of the same tokens that make the same text have the same runs. -/
theorem Row.eq_of_tokens_eq (h : r.IsSpaced) (h' : r'.IsSpaced) (hts : r.tokens = r'.tokens)
    (hcs : r.chars = r'.chars) : r = r' := by
  induction r generalizing r' with
  | nil run =>
    cases r' with
    | nil run' => exact congrArg Row.nil hcs
    | cons run' t' rest' => cases hts
  | cons run t rest ih =>
    cases r' with
    | nil run' => cases hts
    | cons run' t' rest' =>
      obtain ⟨rfl, hrest⟩ := List.cons.inj hts
      obtain ⟨hb, ht, -, hspaced⟩ := h
      obtain ⟨hb', ht', -, hspaced'⟩ := h'
      -- The token begins where the white space ends, in both texts.
      have hdrop := congrArg (List.dropWhile Text.isBlank) hcs
      rw [Row.chars, Row.chars, ht.dropWhile_append hb, ht'.dropWhile_append hb'] at hdrop
      have hrun : run = run' := by
        rw [Row.chars, Row.chars, hdrop] at hcs
        exact List.append_cancel_right hcs
      rw [hrun, ih hspaced hspaced' hrest (List.append_cancel_left hdrop)]

/-- A text is made by one row at most. -/
theorem Row.IsSpaced.eq_of_chars_eq (h : r.IsSpaced) (h' : r'.IsSpaced)
    (hcs : r.chars = r'.chars) : r = r' :=
  Row.eq_of_tokens_eq h h' (h.lexes.unique (hcs ▸ h'.lexes)) hcs

/-! ### Further white space -/

theorem Row.Widens.lead_sublist (hw : r.Widens r') : r.lead.Sublist r'.lead := by
  cases hw with
  | nil hsub | cons hsub => exact hsub

/-- Further white space leaves the tokens as they are, and two names apart. -/
theorem Row.Widens.isSpaced (hw : r.Widens r') (h : r.IsSpaced) :
    r'.IsSpaced ∧ r'.tokens = r.tokens := by
  induction hw with
  | nil hsub hb => exact ⟨hb, rfl⟩
  | @cons run run' t rest rest' hsub hb hw ih =>
    obtain ⟨-, ht, hnames, hrest⟩ := h
    obtain ⟨hspaced, htokens⟩ := ih hrest
    refine ⟨⟨hb, ht, fun hname hnil => ?_, hspaced⟩, congrArg (t :: ·) htokens⟩
    rw [htokens]
    exact hnames hname (List.sublist_nil.mp (hnil ▸ hw.lead_sublist))

/-! ### Rows and values -/

theorem isShownForItself_of_isBlank {c : Char} (h : Text.isBlank c = true) :
    Text.IsShownForItself c := by
  have hbounds := Text.toNat_of_isBlank h
  exact ⟨by omega, by omega⟩

theorem isShownForItself_of_isNameChar {c : Char} (h : isNameChar c = true) :
    Text.IsShownForItself c := by
  have hbounds := toNat_of_isNameChar h
  exact ⟨by omega, by omega⟩

theorem IsWritten.isShownForItself (ht : t.IsWritten) :
    ∀ c ∈ t.text.toList, Text.IsShownForItself c := by
  cases t with
  | name s =>
    change IsIdentifier s.toList at ht
    exact fun c hc => isShownForItself_of_isNameChar (ht.forall_isNameChar c hc)
  | _ => exact List.forall_mem_singleton.mpr ⟨by decide, by decide⟩

/-- The characters of a text that is cut into tokens stand for their own code points only. -/
theorem Lexes.isShownForItself (h : Lexes cs ts) : ∀ c ∈ cs, Text.IsShownForItself c := by
  induction h with
  | nil hb => exact fun c hc => isShownForItself_of_isBlank (hb c hc)
  | cons hb ht he h ih =>
    rw [List.forall_mem_append, List.forall_mem_append]
    exact ⟨fun c hc => isShownForItself_of_isBlank (hb c hc), ht.isShownForItself, ih⟩

/-- A text is cut into tokens exactly if a row of them makes it. -/
theorem scan_eq_ok_iff_spells (hv : v.str? = some s) :
    scan s = .ok ts ↔ ∃ r : Row, r.Spells v ∧ r.tokens = ts := by
  rw [scan_eq_ok_iff]
  constructor
  · intro h
    have hpoints := Value.points?_of_str? hv h.isShownForItself
    obtain ⟨r, hr, hcs, rfl⟩ := h.exists_row
    exact ⟨r, ⟨hr, by rw [hpoints, hcs]⟩, rfl⟩
  · rintro ⟨r, hr, rfl⟩
    rw [Value.str?_of_points? hr.points?_eq] at hv
    rw [← Option.some.inj hv, String.toList_ofList]
    exact hr.isSpaced.lexes

/-- A text has one row at most. -/
theorem Row.Spells.unique (h : r.Spells v) (h' : r'.Spells v) : r = r' := by
  have hpoints := Option.some.inj (h.points?_eq.symm.trans h'.points?_eq)
  exact h.isSpaced.eq_of_chars_eq h'.isSpaced (Text.map_toNat_injective hpoints)

end Token

namespace Descriptor

open Token

variable {g : Store} {v v' : Value} {s : String} {d : Descriptor} {r : Row}

/-- A value is a descriptor exactly if its code points are those of a text that is cut into tokens
which derive it. -/
theorem ofValue_eq_ok_iff : ofValue g v = .ok d ↔
    ∃ cs ts, v.points? = some (cs.map Char.toNat) ∧ Lexes cs ts ∧ DerivesUnion ts d := by
  constructor
  · intro h
    obtain ⟨s, hv, hparse⟩ := exists_parse_of_ofValue h
    obtain ⟨ts, hlexes, hderives⟩ := parse_eq_ok_iff.mp hparse
    exact ⟨s.toList, ts, Value.points?_of_str? hv hlexes.isShownForItself, hlexes, hderives⟩
  · rintro ⟨cs, ts, hpoints, hlexes, hderives⟩
    rw [← String.toList_ofList (l := cs)] at hlexes
    rw [ofValue_of_str? g (Value.str?_of_points? hpoints),
      parse_eq_ok_iff.mpr ⟨ts, hlexes, hderives⟩]
    rfl

/-- What a text reads as depends on the tokens of its row alone. -/
theorem ofValue_eq_ok_iff_of_spells (hr : r.Spells v) :
    ofValue g v = .ok d ↔ DerivesUnion r.tokens d := by
  rw [ofValue_eq_ok_iff]
  constructor
  · rintro ⟨cs, ts, hpoints, hlexes, hderives⟩
    obtain rfl : r.chars = cs :=
      Text.map_toNat_injective (Option.some.inj (hr.points?_eq.symm.trans hpoints))
    rwa [hr.isSpaced.lexes.unique hlexes]
  · exact fun h => ⟨r.chars, r.tokens, hr.points?_eq, hr.isSpaced.lexes, h⟩

/-- White space at the ends makes no difference to what a text reads as, whether or not it is cut
into tokens. -/
theorem ofValue_surrounded_iff {front back : List Char} {ps : List Nat}
    (hfront : ∀ c ∈ front, Text.isBlank c = true) (hback : ∀ c ∈ back, Text.isBlank c = true)
    (hv : v.points? = some ps)
    (hv' : v'.points? = some (front.map Char.toNat ++ (ps ++ back.map Char.toNat))) :
    ofValue g v' = .ok d ↔ ofValue g v = .ok d := by
  have hlexes {cs : List Char} {ts : List Token} :
      Lexes (front ++ (cs ++ back)) ts ↔ Lexes cs ts := by
    rw [lexes_blanks_append_iff hfront, lexes_append_blanks_iff hback]
  rw [ofValue_eq_ok_iff, ofValue_eq_ok_iff, hv, hv']
  constructor
  · rintro ⟨cs, ts, hpoints, h, hderives⟩
    obtain ⟨front', rest, rfl, hfront', hrest⟩ :=
      List.map_eq_append_iff.mp (Option.some.inj hpoints).symm
    obtain ⟨cs, back', rfl, rfl, hback'⟩ := List.map_eq_append_iff.mp hrest
    rw [Text.map_toNat_injective hfront', Text.map_toNat_injective hback'] at h
    exact ⟨cs, ts, rfl, hlexes.mp h, hderives⟩
  · rintro ⟨cs, ts, hpoints, h, hderives⟩
    refine ⟨front ++ (cs ++ back), ts, ?_, hlexes.mpr h, hderives⟩
    rw [Option.some.inj hpoints, List.map_append, List.map_append]

/-- A text that no row makes is not cut, and refused for a character of it. -/
theorem exists_scan_eq_error_iff (hv : v.str? = some s) :
    (∃ p, scan s = .error p ∧
      ofValue g v = .error (.schema (.descriptor v ⟨s, .unexpectedCharacter p⟩))) ↔
        ∀ r : Row, ¬ r.Spells v := by
  constructor
  · rintro ⟨p, hscan, -⟩ r hr
    cases hscan.symm.trans ((scan_eq_ok_iff_spells hv).mpr ⟨r, hr, rfl⟩)
  · intro h
    cases hscan : scan s with
    | ok ts =>
      obtain ⟨r, hr, -⟩ := (scan_eq_ok_iff_spells hv).mp hscan
      exact absurd hr (h r)
    | error p =>
      refine ⟨p, rfl, ?_⟩
      rw [ofValue_of_str? g hv, parse, read, hscan]
      rfl

/-- **Cutting is exact, and reading does not see white space.** A text is cut into tokens exactly if
a row of them makes it; it is refused for a character exactly if no row does; and no two rows make
it. Its tokens with single spaces between them are cut into the same tokens. White space at the ends
of any text, or further white space in the runs of the row that makes it, changes nothing about the
descriptor that it is. -/
theorem scan_exact_and_ofValue_ignores_blanks (g : Store) (hv : v.str? = some s) :
    (∀ ts, scan s = .ok ts ↔ ∃ r : Row, r.Spells v ∧ r.tokens = ts) ∧
    ((∃ p, scan s = .error p ∧
      ofValue g v = .error (.schema (.descriptor v ⟨s, .unexpectedCharacter p⟩))) ↔
        ∀ r : Row, ¬ r.Spells v) ∧
    (∀ r r' : Row, r.Spells v → r'.Spells v → r = r') ∧
    (∀ ts, scan s = .ok ts → scan (" ".intercalate (ts.map Token.text)) = .ok ts) ∧
    (∀ (front back : List Char) (ps : List Nat) (v' : Value),
      (∀ c ∈ front, Text.isBlank c = true) → (∀ c ∈ back, Text.isBlank c = true) →
      v.points? = some ps →
      v'.points? = some (front.map Char.toNat ++ (ps ++ back.map Char.toNat)) →
        ∀ d, ofValue g v' = .ok d ↔ ofValue g v = .ok d) ∧
    ∀ (r r' : Row) (v' : Value), r.Spells v → r.Widens r' →
      v'.points? = some (r'.chars.map Char.toNat) →
        r'.Spells v' ∧ ∀ d, ofValue g v' = .ok d ↔ ofValue g v = .ok d := by
  refine ⟨fun ts => scan_eq_ok_iff_spells hv, exists_scan_eq_error_iff hv,
    fun r r' => Row.Spells.unique, fun ts hscan => ?_, ?_, ?_⟩
  · exact scan_eq_ok_iff.mpr (lexes_joined (scan_eq_ok_iff.mp hscan).isWritten)
  · intro front back ps v' hfront hback hps hps' d
    exact ofValue_surrounded_iff hfront hback hps hps'
  · intro r r' v' hr hw hpoints
    obtain ⟨hspaced, htokens⟩ := hw.isSpaced hr.isSpaced
    have hr' : r'.Spells v' := ⟨hspaced, hpoints⟩
    refine ⟨hr', fun d => ?_⟩
    rw [ofValue_eq_ok_iff_of_spells hr', ofValue_eq_ok_iff_of_spells hr, htokens]

/-- The white space between two names may become more, and there may be some at the ends. -/
theorem scan_exact_and_ofValue_ignores_blanks_sample :
    (Value.str "Maybe A").str? = some "Maybe A" ∧
      scan "Maybe A" = .ok [.name "Maybe", .name "A"] ∧
      ofValue {} (.str "Maybe A") = .ok (.maybe (.named "A")) ∧
      ofValue {} (.str " Maybe\t A\n") = .ok (.maybe (.named "A")) := by
  have hblank : Text.isBlank ' ' = true ∧ Text.isBlank '\t' = true ∧ Text.isBlank '\n' = true := by
    decide
  have hread : ofValue {} (.str "Maybe A") = .ok (.maybe (.named "A")) := by cbv
  have hmaybe : (Token.name "Maybe").IsWritten := isIdentifier_maybeKeyword
  have hname : (Token.name "A").IsWritten := by
    have hchar : isNameStart 'A' = true := by decide
    simpa [IsWritten, IsIdentifier] using hchar
  let r : Row := .cons [] (.name "Maybe") (.cons [' '] (.name "A") (.nil []))
  have hr : r.Spells (.str "Maybe A") := by
    have hlast : (Row.cons [' '] (.name "A") (.nil [])).IsSpaced :=
      ⟨by simp [hblank], hname, fun _ _ _ hu => (Option.not_mem_none _ hu).elim, List.forall_mem_nil _⟩
    exact ⟨⟨List.forall_mem_nil _, hmaybe, fun _ hnil => (List.cons_ne_nil _ _ hnil).elim, hlast⟩,
      rfl⟩
  have hmore : r.Widens
      (.cons [' '] (.name "Maybe") (.cons ['\t', ' '] (.name "A") (.nil ['\n']))) :=
    .cons (List.nil_sublist _) (by simp [hblank]) (.cons (List.sublist_cons_self _ _)
      (by simp [hblank]) (.nil (List.nil_sublist _) (by simp [hblank])))
  obtain ⟨hcut, -, -, -, -, hwiden⟩ :=
    scan_exact_and_ofValue_ignores_blanks {} (v := .str "Maybe A") rfl
  exact ⟨rfl, (hcut _).mpr ⟨r, hr, rfl⟩, hread,
    ((hwiden r _ (.str " Maybe\t A\n") hr hmore rfl).2 _).mpr hread⟩

end Descriptor

end Conformance
