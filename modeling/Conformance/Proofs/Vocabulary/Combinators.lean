import Conformance.Proofs.Descriptor.Meaning
import Conformance.Proofs.Descriptor.Spacing
import Conformance.Vocabulary

/-!
# The meaning of combinators

The combinators of the vocabulary join texts and know nothing of descriptors. Still each of them
means what its name says: if the texts it is given read as descriptors, then so does the text
that it makes, and this matches what is told by the texts given. The texts may be unions, may
have white space in them and may have been made by combinators, so that the same holds of every
expression in which combinators are nested.

## Main definitions

* `Vocabulary.Expression`, `Vocabulary.Expression.value` — nested combinators, and the text that
  they make.
* `Vocabulary.Expression.Means` — the values that an expression is to match.

## Main results

* `Vocabulary.exists_oneOf_denotes`, `Vocabulary.exists_arrayOf_denotes`,
  `Vocabulary.exists_maybe_denotes` — what each combinator matches.
* `Vocabulary.combinators_mean` — what each combinator and every expression matches.
-/

namespace Conformance

/-- A text is shown as it is. -/
theorem Store.str?_of_text? (g : Store) {v : Value} {t : Text} (h : v.text? = some t) :
    g.str? v = some t := by
  rw [Value.text?, Value.points?] at h
  rw [Store.str?]
  split at h
  · next hbase => rw [hbase]; exact h
  · next hbase => rw [hbase]; exact h
  · cases h

theorem Store.isSome_str?_of_str? (g : Store) {v : Value} {s : String} (h : v.str? = some s) :
    (g.str? v).isSome = true := by
  rw [Value.str?] at h
  rw [Store.str?]
  split at h
  · next hbase => rw [hbase]; rfl
  · next hbase => rw [hbase]; rfl
  · cases h

namespace Vocabulary

open Descriptor

variable {g : Store}

/-! ### Single combinators -/

theorem typeCheck_eq_ok_true_iff {t : Value} {d : Descriptor} (h : ofValue g t = .ok d) (v : Value) :
    typeCheck g t v = .ok true ↔ d.matches g v = true := by
  rw [typeCheck, h]
  simp [Except.map]

/-- What reads as a descriptor is a text that denotes what it matches. -/
theorem exists_denotes_of_ofValue {t : Value} {d : Descriptor} (h : ofValue g t = .ok d) :
    ∃ s : String, t.text? = some (s : Text) ∧
      Denotes g s (fun v => typeCheck g t v = .ok true) := by
  obtain ⟨s, hs, hparse⟩ := exists_parse_of_ofValue h
  obtain ⟨ts, hlexes, -⟩ := parse_eq_ok_iff.mp hparse
  refine ⟨s, ?_, d, hparse, fun v => (typeCheck_eq_ok_true_iff h v).symm⟩
  rw [Value.text?, Value.points?_of_str? hs hlexes.isShownForItself]
  rfl

/-- The strings of some texts, each of which is one. -/
theorem mapM_text?_eq_some {ts : List Value} {f : Value → String}
    (h : ∀ t ∈ ts, t.text? = some (f t : Text)) :
    ts.mapM Value.text? = some (ts.map fun t => (f t : Text)) := by
  induction ts with
  | nil => rfl
  | cons t ts ih =>
    rw [List.forall_mem_cons] at h
    simp [List.mapM_cons, ih h.2, h.1]

section Texts

variable {ts : List Value} (hne : ts ≠ []) (hts : ∀ t ∈ ts, ∃ d, ofValue g t = .ok d)

include hne hts

/-- One of some texts matches what one of them matches. -/
theorem exists_oneOf_denotes :
    ∃ s : String, oneOf ts = .ok s ∧
      Denotes g s (fun v => ∃ t ∈ ts, typeCheck g t v = .ok true) := by
  have hstrings (t : Value) : ∃ s : String, t ∈ ts → t.text? = some (s : Text) ∧
      Denotes g s (fun v => typeCheck g t v = .ok true) := by
    by_cases ht : t ∈ ts
    · obtain ⟨d, hd⟩ := hts t ht
      exact (exists_denotes_of_ofValue hd).imp fun s hs _ => hs
    · exact ⟨"", fun h => absurd h ht⟩
  choose f hf using hstrings
  refine ⟨_, ?_, Denotes.separated hne fun t ht => (hf t ht).2⟩
  rw [oneOf, mapM_text?_eq_some fun t ht => (hf t ht).1, Text.ofString_intercalate, List.map_map]
  rfl

/-- An array of some texts matches the arrays each of whose items one of them matches. -/
theorem exists_arrayOf_denotes :
    ∃ s : String, arrayOf ts = .ok s ∧ Denotes g s (fun v =>
      ∃ xs, g.items? v = some xs ∧ ∀ x ∈ xs, ∃ t ∈ ts, typeCheck g t x = .ok true) := by
  obtain ⟨s, hs, hdenotes⟩ := exists_oneOf_denotes hne hts
  refine ⟨_, ?_, hdenotes.bracketed⟩
  rw [arrayOf, hs, Text.ofString_append, Text.ofString_append]
  rfl

end Texts

/-- An optional text matches what is missing and what the text matches. -/
theorem exists_maybe_denotes {t : Value} (ht : ∃ d, ofValue g t = .ok d) :
    ∃ s : String, maybe g t = .ok s ∧
      Denotes g s (fun v => v = .null ∨ typeCheck g t v = .ok true) := by
  obtain ⟨d, hd⟩ := ht
  obtain ⟨s, hs, hdenotes⟩ := exists_denotes_of_ofValue hd
  refine ⟨_, ?_, hdenotes.maybe⟩
  rw [maybe, g.str?_of_text? hs, Text.ofString_append, Text.ofString_append]
  rfl

/-! ### Nested combinators -/

/-- Combinators applied to texts and to each other. -/
inductive Expression
  | text (t : Value)
  | oneOf (es : List Expression)
  | arrayOf (es : List Expression)
  | maybe (e : Expression)

namespace Expression

mutual

/-- The text that an expression makes. -/
def value (g : Store) : Expression → Except Failure Value
  | text t => .ok t
  | oneOf es => (values g es).bind fun ts => (Vocabulary.oneOf ts).map .ofText
  | arrayOf es => (values g es).bind fun ts => (Vocabulary.arrayOf ts).map .ofText
  | maybe e => (e.value g).bind fun t => (Vocabulary.maybe g t).map .ofText

/-- The texts that some expressions make. -/
def values (g : Store) : List Expression → Except Failure (List Value)
  | [] => .ok []
  | e :: es => (e.value g).bind fun t => (values g es).map (t :: ·)

end

/-- The values that an expression is to match: a text what it matches, a choice what one of its
expressions matches, an array the arrays of what the choice matches, and an option what is
missing, too. -/
inductive Means (g : Store) : Expression → Value → Prop
  | text {t v : Value} (h : typeCheck g t v = .ok true) : Means g (.text t) v
  | oneOf {es : List Expression} {e : Expression} {v : Value} (he : e ∈ es) (h : Means g e v) :
      Means g (.oneOf es) v
  | arrayOf {es : List Expression} {v : Value} {xs : List Value} (hv : g.items? v = some xs)
      (h : ∀ x ∈ xs, Means g (.oneOf es) x) : Means g (.arrayOf es) v
  | missing {e : Expression} : Means g (.maybe e) .null
  | present {e : Expression} {v : Value} (h : Means g e v) : Means g (.maybe e) v

/-- All texts in the expression read as descriptors, and each choice is one of something. -/
inductive Readable (g : Store) : Expression → Prop
  | text {t : Value} {d : Descriptor} (h : ofValue g t = .ok d) : Readable g (.text t)
  | oneOf {es : List Expression} (hne : es ≠ []) (hes : ∀ e ∈ es, Readable g e) :
      Readable g (.oneOf es)
  | arrayOf {es : List Expression} (hne : es ≠ []) (hes : ∀ e ∈ es, Readable g e) :
      Readable g (.arrayOf es)
  | maybe {e : Expression} (h : Readable g e) : Readable g (.maybe e)

section Means

variable {es : List Expression} {e : Expression} {t v : Value}

theorem means_text_iff : (text t).Means g v ↔ typeCheck g t v = .ok true :=
  ⟨fun h => by cases h with | text h => exact h, .text⟩

theorem means_oneOf_iff : (oneOf es).Means g v ↔ ∃ e ∈ es, e.Means g v :=
  ⟨fun h => by cases h with | oneOf he h => exact ⟨_, he, h⟩, fun ⟨_, he, h⟩ => .oneOf he h⟩

theorem means_arrayOf_iff :
    (arrayOf es).Means g v ↔ ∃ xs, g.items? v = some xs ∧ ∀ x ∈ xs, ∃ e ∈ es, e.Means g x := by
  simp only [← means_oneOf_iff]
  exact ⟨fun h => by cases h with | arrayOf hv h => exact ⟨_, hv, h⟩,
    fun ⟨_, hv, h⟩ => .arrayOf hv h⟩

theorem means_maybe_iff : (maybe e).Means g v ↔ v = .null ∨ e.Means g v := by
  constructor
  · intro h
    cases h with
    | missing => exact .inl rfl
    | present h => exact .inr h
  · rintro (rfl | h)
    · exact .missing
    · exact .present h

end Means

/-- The expression makes a value that reads as a descriptor of what the expression means. -/
def Makes (g : Store) (e : Expression) (t : Value) : Prop :=
  e.value g = .ok t ∧ ∃ d, ofValue g t = .ok d ∧ ∀ v, d.matches g v = true ↔ e.Means g v

/-- An expression that comes to a text makes it if the text denotes what the expression means. -/
theorem makes_of_denotes {e : Expression} {s : String} {P : Value → Prop}
    (hvalue : e.value g = .ok (.str s)) (hs : Denotes g s P) (hP : ∀ v, P v ↔ e.Means g v) :
    e.Makes g (.str s) := by
  obtain ⟨d, hd, hmatches⟩ := hs.exists_ofValue
  exact ⟨hvalue, d, hd, fun v => (hmatches v).trans (hP v)⟩

theorem Makes.typeCheck_iff {e : Expression} {t : Value} (h : e.Makes g t) (v : Value) :
    typeCheck g t v = .ok true ↔ e.Means g v := by
  obtain ⟨-, d, hd, hmatches⟩ := h
  exact (typeCheck_eq_ok_true_iff hd v).trans (hmatches v)

/-- Expressions that make values make a list of values that read as descriptors, and one of these
matches what one of the expressions means. -/
theorem exists_values_eq_ok {es : List Expression} (h : ∀ e ∈ es, ∃ t, e.Makes g t) :
    ∃ ts, values g es = .ok ts ∧ (es ≠ [] → ts ≠ []) ∧ (∀ t ∈ ts, ∃ d, ofValue g t = .ok d) ∧
      ∀ v, (∃ t ∈ ts, typeCheck g t v = .ok true) ↔ ∃ e ∈ es, e.Means g v := by
  induction es with
  | nil => exact ⟨[], rfl, fun h => absurd rfl h, List.forall_mem_nil _, fun v => by simp⟩
  | cons e es ih =>
    rw [List.forall_mem_cons] at h
    obtain ⟨⟨t, ht⟩, hes⟩ := h
    obtain ⟨ts, hvalues, -, hts, hmeans⟩ := ih hes
    have hfirst : ∃ d, ofValue g t = .ok d := ht.2.imp fun d hd => hd.1
    refine ⟨t :: ts, ?_, fun _ => List.cons_ne_nil t ts, List.forall_mem_cons.mpr ⟨hfirst, hts⟩,
      fun v => ?_⟩
    · simp only [values, ht.1, hvalues, Except.bind, Except.map]
    · rw [List.exists_mem_cons_iff, List.exists_mem_cons_iff, ht.typeCheck_iff, hmeans]

/-- **Every expression makes a text that matches what the expression means.** -/
theorem Readable.exists_makes {e : Expression} (h : e.Readable g) : ∃ t, e.Makes g t := by
  induction h with
  | @text t d h =>
    refine ⟨t, rfl, d, h, fun v => ?_⟩
    rw [means_text_iff, typeCheck_eq_ok_true_iff h]
  | oneOf hne hes ih =>
    obtain ⟨ts, hvalues, htsne, hts, hmeans⟩ := exists_values_eq_ok ih
    obtain ⟨s, hs, hdenotes⟩ := exists_oneOf_denotes (htsne hne) hts
    refine ⟨.str s, makes_of_denotes ?_ hdenotes fun v => ?_⟩
    · simp only [value, hvalues, Except.bind, hs, Except.map, Value.ofText_ofString]
    · rw [means_oneOf_iff, hmeans]
  | arrayOf hne hes ih =>
    obtain ⟨ts, hvalues, htsne, hts, hmeans⟩ := exists_values_eq_ok ih
    obtain ⟨s, hs, hdenotes⟩ := exists_arrayOf_denotes (htsne hne) hts
    refine ⟨.str s, makes_of_denotes ?_ hdenotes fun v => ?_⟩
    · simp only [value, hvalues, Except.bind, hs, Except.map, Value.ofText_ofString]
    · simp only [means_arrayOf_iff, hmeans]
  | maybe h ih =>
    obtain ⟨t, ht⟩ := ih
    obtain ⟨s, hs, hdenotes⟩ := exists_maybe_denotes (ht.2.imp fun d hd => hd.1)
    refine ⟨.str s, makes_of_denotes ?_ hdenotes fun v => ?_⟩
    · simp only [value, ht.1, Except.bind, hs, Except.map, Value.ofText_ofString]
    · rw [means_maybe_iff, ht.typeCheck_iff]

end Expression

/-- **The combinators mean what they say, however nested.** Given texts that read as descriptors,
one at least, the text of their choice reads as a descriptor and matches what one of them
matches, and the text of an array of them matches the lists and tuples each of whose items one of
them matches. Given one such text, its optional form matches what is missing and what the text
matches. So every expression made of combinators and such texts reads as a descriptor, and
matches what the expression means. -/
theorem combinators_mean (g : Store) :
    (∀ ts : List Value, ts ≠ [] → (∀ t ∈ ts, ∃ d, ofValue g t = .ok d) →
      (∃ (s : String) (d : Descriptor), oneOf ts = .ok s ∧ ofValue g (.str s) = .ok d ∧
        ∀ v, d.matches g v = true ↔ ∃ t ∈ ts, typeCheck g t v = .ok true) ∧
      ∃ (s : String) (d : Descriptor), arrayOf ts = .ok s ∧ ofValue g (.str s) = .ok d ∧
        ∀ v, d.matches g v = true ↔
          ∃ xs, g.items? v = some xs ∧ ∀ x ∈ xs, ∃ t ∈ ts, typeCheck g t x = .ok true) ∧
    (∀ t : Value, (∃ d, ofValue g t = .ok d) →
      ∃ (s : String) (d : Descriptor), maybe g t = .ok s ∧ ofValue g (.str s) = .ok d ∧
        ∀ v, d.matches g v = true ↔ v = .null ∨ typeCheck g t v = .ok true) ∧
    ∀ e : Expression, e.Readable g →
      ∃ t d, e.value g = .ok t ∧ ofValue g t = .ok d ∧
        ∀ v, d.matches g v = true ↔ e.Means g v := by
  refine ⟨fun ts hne hts => ⟨?_, ?_⟩, fun t ht => ?_, fun e he => ?_⟩
  · obtain ⟨s, hs, hdenotes⟩ := exists_oneOf_denotes hne hts
    obtain ⟨d, hd, hmatches⟩ := hdenotes.exists_ofValue
    exact ⟨s, d, hs, hd, hmatches⟩
  · obtain ⟨s, hs, hdenotes⟩ := exists_arrayOf_denotes hne hts
    obtain ⟨d, hd, hmatches⟩ := hdenotes.exists_ofValue
    exact ⟨s, d, hs, hd, hmatches⟩
  · obtain ⟨s, hs, hdenotes⟩ := exists_maybe_denotes ht
    obtain ⟨d, hd, hmatches⟩ := hdenotes.exists_ofValue
    exact ⟨s, d, hs, hd, hmatches⟩
  · obtain ⟨t, hvalue, d, hd, hmatches⟩ := he.exists_makes
    exact ⟨t, d, hvalue, hd, hmatches⟩

/-- A choice with a union in it, and an option of the choice. -/
theorem combinators_mean_sample :
    (∀ t ∈ [Value.str "A|B", .str " [ * ]"], ∃ d, ofValue {} t = .ok d) ∧
      (∃ (s : String) (d : Descriptor),
        oneOf [.str "A|B", .str " [ * ]"] = .ok s ∧ ofValue {} (.str s) = .ok d ∧
        ∀ v, d.matches {} v = true ↔
          ∃ t ∈ [Value.str "A|B", .str " [ * ]"], typeCheck {} t v = .ok true) ∧
      ∃ t d, Expression.value {}
          (.maybe (.oneOf [.text (.str "A|B"), .text (.str " [ * ]")])) = .ok t ∧
        ofValue {} t = .ok d ∧
        ∀ v, d.matches {} v = true ↔
          Expression.Means {} (.maybe (.oneOf [.text (.str "A|B"), .text (.str " [ * ]")])) v := by
  have hunion : ofValue {} (.str "A|B") = .ok (.union [.named "A", .named "B"]) := by cbv
  have harray : ofValue {} (.str " [ * ]") = .ok (.arrayOf (.named "*")) := by cbv
  have hread : ∀ t ∈ [Value.str "A|B", .str " [ * ]"], ∃ d, ofValue {} t = .ok d :=
    List.forall_mem_cons.mpr ⟨⟨_, hunion⟩, List.forall_mem_singleton.mpr ⟨_, harray⟩⟩
  have hreadable : Expression.Readable {}
      (.maybe (.oneOf [.text (.str "A|B"), .text (.str " [ * ]")])) :=
    .maybe (.oneOf (List.cons_ne_nil _ _) (List.forall_mem_cons.mpr
      ⟨.text hunion, List.forall_mem_singleton.mpr (.text harray)⟩))
  obtain ⟨hlists, -, hexpressions⟩ := combinators_mean {}
  exact ⟨hread, (hlists _ (List.cons_ne_nil _ _) hread).1, hexpressions _ hreadable⟩

end Vocabulary

end Conformance
