import Conformance.Proofs.Descriptor.Canonical

/-!
# What descriptor texts mean

No brackets stand around the options of a union, so that the text of a descriptor can read back
as another one: the keyword in `Maybe A | B` belongs to `A` alone, whatever was written. What the
text matches does not depend on this. A text is a row of terms with bars between them and matches
what one of the terms matches. Joining texts with bars joins their rows; the keyword in front of
a row lets the first term, and with it the whole row, match what is missing; and brackets make
one term of a row.

What a text matches is said by a property of values, in place of the descriptor that the text
reads as, so that nothing has to be known about how terms were regrouped.

## Main definitions

* `Descriptor.ListsTerms` — a text that is a row of terms.
* `Descriptor.Denotes` — a text that matches exactly the values with a property.
* `Descriptor.Writable` — the descriptors whose texts can be read.

## Main results

* `Descriptor.Denotes.separated`, `Descriptor.Denotes.bracketed`, `Descriptor.Denotes.maybe` —
  what texts made of texts match.
* `Descriptor.ofValue_text_matches` — the text of a descriptor matches what the descriptor does.
-/

namespace Conformance

namespace Descriptor

open Token (Lexes)

variable {g : Store}

/-! ### What descriptors match -/

section Matches

variable {d : Descriptor} {ds : List Descriptor} {v : Value}

/-- Matching meets no foreign matter in a descriptor. -/
theorem eval_eq_ok_matches (d : Descriptor) (v : Value) : d.eval g v = .ok (d.matches g v) := by
  rw [Descriptor.matches]
  cases d.eval g v with
  | ok b => rfl
  | error e => exact e.elim

theorem evalAny_eq_ok (ds : List Descriptor) (v : Value) :
    Pattern.evalAny g ds v = .ok (ds.any (·.matches g v)) := by
  induction ds with
  | nil => rfl
  | cons d ds ih =>
    rw [Pattern.evalAny, eval_eq_ok_matches, List.any_cons]
    cases d.matches g v with
    | true => rfl
    | false => exact ih

theorem matches_union_iff :
    Descriptor.matches g (.union ds) v = true ↔ ∃ d ∈ ds, d.matches g v = true := by
  rw [Descriptor.matches, Pattern.eval, evalAny_eq_ok, List.any_eq_true]

theorem matches_arrayOf_iff :
    Descriptor.matches g (.arrayOf d) v = true ↔
      ∃ xs, g.items? v = some xs ∧ ∀ x ∈ xs, d.matches g x = true := by
  have hall (xs : List Value) : (xs.allM fun x => d.eval g x) = .ok (xs.all (d.matches g)) := by
    induction xs with
    | nil => rfl
    | cons x xs ih =>
      rw [List.allM, eval_eq_ok_matches, List.all_cons]
      cases d.matches g x with
      | true => exact ih
      | false => rfl
  rw [Descriptor.matches, Pattern.eval]
  cases g.items? v with
  | none => simp
  | some xs => simp [hall]

theorem matches_maybe_iff :
    Descriptor.matches g (.maybe d) v = true ↔ v = .null ∨ d.matches g v = true := by
  rw [Descriptor.matches, Pattern.eval]
  by_cases hv : v = .null
  · simp [hv]
  · rw [if_neg hv, eval_eq_ok_matches]
    simp [hv]

/-- A union of terms matches what one of them does, also if it is a single term. -/
theorem matches_ofOptions_iff :
    (ofOptions d ds).matches g v = true ↔ ∃ e ∈ d :: ds, e.matches g v = true := by
  cases ds with
  | nil => simp [ofOptions]
  | cons e ds => exact matches_union_iff

end Matches

/-! ### Rows of terms -/

/-- Two rows of terms with a bar between them are one row. -/
theorem DerivesOptions.append : ∀ {ts : List Token} {ds : List Descriptor}, DerivesOptions ts ds →
    ∀ {us : List Token} {es : List Descriptor}, DerivesOptions us es →
      DerivesOptions (ts ++ .bar :: us) (ds ++ es)
  | _, _, .one h, _, _, h' => .more h h'
  | _, _, .more h hrest, _, _, h' => by
    rw [List.append_assoc, List.cons_append, List.cons_append]
    exact .more h (hrest.append h')

/-- The keyword in front of a row of terms belongs to the first of them. -/
theorem DerivesOptions.maybe {ts : List Token} {d : Descriptor} {ds : List Descriptor}
    (h : DerivesOptions ts (d :: ds)) :
    DerivesOptions (.name Pattern.maybeKeyword :: ts) (.maybe d :: ds) := by
  cases h with
  | one h => exact .one (.maybe h)
  | more h h' => exact .more (.maybe h) h'

/-- What is a union is a row of terms. -/
theorem DerivesUnion.exists_derivesOptions {ts : List Token} {d : Descriptor}
    (h : DerivesUnion ts d) : ∃ e es, DerivesOptions ts (e :: es) ∧ ofOptions e es = d := by
  cases h with
  | single h => exact ⟨d, [], .one h, rfl⟩
  | several h h' => exact ⟨_, _, .more h h', ofOptions_of_ne_nil h'.ne_nil⟩

/-- The text is one or more terms with bars between them, which stand for the descriptors. -/
def ListsTerms (s : String) (ds : List Descriptor) : Prop :=
  ∃ ts, Lexes s.toList ts ∧ DerivesOptions ts ds

/-- A text that reads as a descriptor is a row of terms. -/
theorem parse_eq_ok_iff_listsTerms {s : String} {d : Descriptor} :
    parse s = .ok d ↔ ∃ e es, ListsTerms s (e :: es) ∧ ofOptions e es = d := by
  rw [parse_eq_ok_iff]
  constructor
  · rintro ⟨ts, hlexes, hderives⟩
    obtain ⟨e, es, hoptions, hd⟩ := hderives.exists_derivesOptions
    exact ⟨e, es, ⟨ts, hlexes, hoptions⟩, hd⟩
  · rintro ⟨e, es, ⟨ts, hlexes, hoptions⟩, rfl⟩
    exact ⟨ts, hlexes, hoptions.derivesUnion⟩

/-! ### What texts match -/

/-- The text reads as a descriptor that matches exactly the values with the property. -/
def Denotes (g : Store) (s : String) (P : Value → Prop) : Prop :=
  ∃ d, parse s = .ok d ∧ ∀ v, d.matches g v = true ↔ P v

/-- A text matches what one of its terms matches. -/
theorem denotes_iff_listsTerms {s : String} {P : Value → Prop} :
    Denotes g s P ↔
      ∃ d ds, ListsTerms s (d :: ds) ∧ ∀ v, (∃ e ∈ d :: ds, e.matches g v = true) ↔ P v := by
  constructor
  · rintro ⟨d, hparse, hd⟩
    obtain ⟨e, es, hterms, rfl⟩ := parse_eq_ok_iff_listsTerms.mp hparse
    exact ⟨e, es, hterms, fun v => matches_ofOptions_iff.symm.trans (hd v)⟩
  · rintro ⟨e, es, hterms, hP⟩
    exact ⟨_, parse_eq_ok_iff_listsTerms.mpr ⟨e, es, hterms, rfl⟩, fun v =>
      matches_ofOptions_iff.trans (hP v)⟩

namespace Denotes

variable {s t : String} {P Q : Value → Prop}

theorem congr (h : Denotes g s P) (hPQ : ∀ v, P v ↔ Q v) : Denotes g s Q := by
  obtain ⟨d, hparse, hd⟩ := h
  exact ⟨d, hparse, fun v => (hd v).trans (hPQ v)⟩

/-- Two texts with a bar between them match what one of them matches. -/
theorem or (h : Denotes g s P) (h' : Denotes g t Q) :
    Denotes g (s ++ Pattern.separator ++ t) (fun v => P v ∨ Q v) := by
  obtain ⟨d, ds, ⟨ts, hts, hds⟩, hP⟩ := denotes_iff_listsTerms.mp h
  obtain ⟨e, es, ⟨us, hus, hes⟩, hQ⟩ := denotes_iff_listsTerms.mp h'
  refine denotes_iff_listsTerms.mpr
    ⟨d, ds ++ e :: es, ⟨_, lexes_separated hts hus, hds.append hes⟩, fun v => ?_⟩
  rw [← hP, ← hQ, ← List.cons_append]
  simp only [List.mem_append, or_and_right, exists_or]

/-- Texts with bars between them match what one of them matches. -/
theorem separated {α : Type} {text : α → String} {P : α → Value → Prop} {xs : List α}
    (hne : xs ≠ []) (h : ∀ x ∈ xs, Denotes g (text x) (P x)) :
    Denotes g (Pattern.separator.intercalate (xs.map text)) (fun v => ∃ x ∈ xs, P x v) := by
  induction xs with
  | nil => exact absurd rfl hne
  | cons x xs ih =>
    rw [List.forall_mem_cons] at h
    cases xs with
    | nil => simpa using h.1
    | cons y ys =>
      have hothers := ih (List.cons_ne_nil y ys) h.2
      rw [List.map_cons, List.map_cons, String.intercalate_cons_cons, ← List.map_cons]
      exact (h.1.or hothers).congr fun v => by simp only [List.exists_mem_cons_iff]

/-- A text in brackets matches the arrays whose items the text matches. -/
theorem bracketed (h : Denotes g s P) :
    Denotes g ("[" ++ s ++ "]") (fun v => ∃ xs, g.items? v = some xs ∧ ∀ x ∈ xs, P x) := by
  obtain ⟨d, hparse, hd⟩ := h
  obtain ⟨ts, hts, hderives⟩ := parse_eq_ok_iff.mp hparse
  refine ⟨.arrayOf d, parse_eq_ok_iff.mpr ⟨_, lexes_bracketed hts, .single (.array hderives)⟩,
    fun v => ?_⟩
  simp only [matches_arrayOf_iff, hd]

/-- A text after the keyword matches what is missing and what the text matches: although the
keyword belongs to the first term alone, what is missing matches this one term. -/
theorem maybe (h : Denotes g s P) :
    Denotes g (Pattern.maybeKeyword ++ " " ++ s) (fun v => v = .null ∨ P v) := by
  obtain ⟨d, ds, ⟨ts, hts, hds⟩, hP⟩ := denotes_iff_listsTerms.mp h
  refine denotes_iff_listsTerms.mpr ⟨.maybe d, ds, ⟨_, lexes_maybe hts, hds.maybe⟩, fun v => ?_⟩
  rw [← hP]
  simp only [List.exists_mem_cons_iff, matches_maybe_iff, or_assoc]

/-- Reading the text as a value gives the descriptor. -/
theorem exists_ofValue (h : Denotes g s P) :
    ∃ d, ofValue g (.str s) = .ok d ∧ ∀ v, d.matches g v = true ↔ P v := by
  obtain ⟨d, hparse, hd⟩ := h
  refine ⟨d, ?_, hd⟩
  rw [ofValue_of_str? g rfl, hparse]
  rfl

end Denotes

/-! ### The text of any descriptor -/

/-- A descriptor whose text can be read: its names are stars and identifiers other than `Maybe`,
and its unions have options. Unions may stand anywhere and have a single option. -/
inductive Writable : Descriptor → Prop
  | star : Writable (.named "*")
  | name {s : String} (hs : Token.IsIdentifier s.toList) (hmaybe : s ≠ Pattern.maybeKeyword) :
      Writable (.named s)
  | union {ds : List Descriptor} (hne : ds ≠ []) (hds : ∀ d ∈ ds, Writable d) :
      Writable (.union ds)
  | arrayOf {d : Descriptor} (h : Writable d) : Writable (.arrayOf d)
  | maybe {d : Descriptor} (h : Writable d) : Writable (.maybe d)

/-- A canonical descriptor denotes what it matches. -/
theorem Canonical.denotes_text {d : Descriptor} (h : d.Canonical) :
    Denotes g d.text (d.matches g · = true) :=
  ⟨d, h.parse_text, fun _ => Iff.rfl⟩

/-- The text of a descriptor matches what the descriptor matches. -/
theorem Writable.denotes_text {d : Descriptor} (h : d.Writable) :
    Denotes g d.text (d.matches g · = true) := by
  induction h with
  | star => exact Canonical.star.denotes_text
  | name hs hmaybe => exact (Canonical.name hs hmaybe).denotes_text
  | @union ds hne hds ih =>
    rw [text_union]
    exact (Denotes.separated hne ih).congr fun v => matches_union_iff.symm
  | @arrayOf d h ih =>
    rw [text_arrayOf]
    exact ih.bracketed.congr fun v => matches_arrayOf_iff.symm
  | @maybe d h ih =>
    rw [text_maybe]
    exact ih.maybe.congr fun v => matches_maybe_iff.symm

/-- **Writing keeps the meaning even where it loses the structure.** The text of every descriptor
whose names can be read and whose unions have options reads as a descriptor, and this matches the
same values: also if a union stands directly inside `Maybe` or another union or has one option
only, where the descriptor that is read is another one. -/
theorem ofValue_text_matches (g : Store) {d : Descriptor} (hd : d.Writable) :
    ∃ e, ofValue g (.str d.text) = .ok e ∧ ∀ v, e.matches g v = d.matches g v := by
  obtain ⟨e, hread, he⟩ := hd.denotes_text.exists_ofValue (g := g)
  exact ⟨e, hread, fun v => Bool.eq_iff_iff.mpr (he v)⟩

/-- A union inside `Maybe` inside another union reads back as one flat union. -/
theorem ofValue_text_matches_regrouped :
    Writable (.union [.maybe (.union [.named "A", .named "*"]), .union [.named "B"]]) ∧
      ofValue {} (.str "Maybe A | * | B") =
        .ok (.union [.maybe (.named "A"), .named "*", .named "B"]) ∧
      ∀ v, Descriptor.matches {} (.union [.maybe (.named "A"), .named "*", .named "B"]) v =
        Descriptor.matches {} (.union [.maybe (.union [.named "A", .named "*"]),
          .union [.named "B"]]) v := by
  have hfirst : Writable (.named "A") := .name ⟨by decide, List.forall_mem_nil _⟩ (by decide)
  have hsecond : Writable (.named "B") := .name ⟨by decide, List.forall_mem_nil _⟩ (by decide)
  have hinner : Writable (.union [.named "A", .named "*"]) :=
    .union (List.cons_ne_nil _ _) (List.forall_mem_cons.mpr
      ⟨hfirst, List.forall_mem_singleton.mpr .star⟩)
  have hall : Writable
      (.union [.maybe (.union [.named "A", .named "*"]), .union [.named "B"]]) :=
    .union (List.cons_ne_nil _ _) (List.forall_mem_cons.mpr ⟨.maybe hinner,
      List.forall_mem_singleton.mpr
        (.union (List.cons_ne_nil _ _) (List.forall_mem_singleton.mpr hsecond))⟩)
  have htext : text (.union [.maybe (.union [.named "A", .named "*"]), .union [.named "B"]]) =
      "Maybe A | * | B" := by cbv
  have hread : ofValue {} (.str "Maybe A | * | B") =
      .ok (.union [.maybe (.named "A"), .named "*", .named "B"]) := by cbv
  obtain ⟨e, he, hmatches⟩ := ofValue_text_matches {} hall
  rw [htext, hread] at he
  cases he
  exact ⟨hall, hread, hmatches⟩

end Descriptor

end Conformance
