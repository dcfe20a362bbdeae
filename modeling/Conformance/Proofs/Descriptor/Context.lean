import Conformance.Proofs.Descriptor.Meaning

/-!
# Descriptors inside descriptors

A descriptor matches more if one of its parts does, wherever the part stands: a union asks that
some option matches, an array that all items do, and nothing asks that a value is not matched. So
parts that match the same values can take each other's places, and whatever is done to a
descriptor with a view to what a part of it matches can be done to the part alone.

For unions this means that their options are alternatives, which may be given in any order and
any number of times, and in unions of their own.

## Main definitions

* `Descriptor.Context` — a descriptor with a hole for one of its parts.
* `Descriptor.Narrows` — a descriptor matches no values but those that another one does.
* `Descriptor.alternatives` — the options of a union, and of the unions among them.

## Main results

* `Descriptor.Narrows.fill` — matching is monotone in each part of a descriptor.
* `Descriptor.matches_iff_exists_alternative` — a descriptor matches what an alternative does.
* `Descriptor.matches_fill` — which parts can take each other's places.
-/

namespace Conformance

namespace Descriptor

variable {g : Store}

/-- A descriptor with a hole in it, in the place of one of its parts. -/
inductive Context
  | hole
  | option (before : List Descriptor) (inner : Context) (after : List Descriptor)
  | item (inner : Context)
  | maybe (inner : Context)

/-- The descriptor with a part put into the hole. -/
def Context.fill : Context → Descriptor → Descriptor
  | hole, d => d
  | option before inner after, d => .union (before ++ inner.fill d :: after)
  | item inner, d => .arrayOf (inner.fill d)
  | maybe inner, d => .maybe (inner.fill d)

/-! ### Narrower parts -/

/-- All values that the first descriptor matches are matched by the second. -/
def Narrows (g : Store) (d e : Descriptor) : Prop :=
  ∀ v, d.matches g v = true → e.matches g v = true

namespace Narrows

variable {d e : Descriptor} {ds es : List Descriptor}

theorem refl (d : Descriptor) : Narrows g d d := fun _ h => h

theorem union (h : ∀ d ∈ ds, ∃ e ∈ es, Narrows g d e) : Narrows g (.union ds) (.union es) := by
  intro v hv
  obtain ⟨d, hd, hdv⟩ := matches_union_iff.mp hv
  obtain ⟨e, he, hde⟩ := h d hd
  exact matches_union_iff.mpr ⟨e, he, hde v hdv⟩

theorem arrayOf (h : Narrows g d e) : Narrows g (.arrayOf d) (.arrayOf e) := by
  intro v hv
  obtain ⟨xs, hxs, hall⟩ := matches_arrayOf_iff.mp hv
  exact matches_arrayOf_iff.mpr ⟨xs, hxs, fun x hx => h x (hall x hx)⟩

theorem maybe (h : Narrows g d e) : Narrows g (.maybe d) (.maybe e) := by
  intro v hv
  exact matches_maybe_iff.mpr ((matches_maybe_iff.mp hv).imp_right (h v))

/-- **Matching is monotone in each part of a descriptor.** -/
theorem fill (h : Narrows g d e) (C : Context) : Narrows g (C.fill d) (C.fill e) := by
  induction C with
  | hole => exact h
  | option before inner after ih =>
    refine union fun x hx => ?_
    rcases List.mem_append.mp hx with hbefore | hx
    · exact ⟨x, List.mem_append_left _ hbefore, refl x⟩
    rcases List.mem_cons.mp hx with rfl | hafter
    · exact ⟨_, List.mem_append_right _ List.mem_cons_self, ih⟩
    · exact ⟨x, List.mem_append_right _ (List.mem_cons_of_mem _ hafter), refl x⟩
  | item inner ih => exact ih.arrayOf
  | maybe inner ih => exact ih.maybe

end Narrows

/-- Parts that match the same values can take each other's places. -/
theorem matches_fill_congr {d e : Descriptor} (h : ∀ v, d.matches g v = e.matches g v)
    (C : Context) (v : Value) : (C.fill d).matches g v = (C.fill e).matches g v := by
  have hde : Narrows g d e := fun v hv => h v ▸ hv
  have hed : Narrows g e d := fun v hv => (h v).symm ▸ hv
  exact Bool.eq_iff_iff.mpr ⟨hde.fill C v, hed.fill C v⟩

/-! ### Alternatives -/

mutual

/-- The options of a union, with the options of a union in its place. What is no union is the
only alternative. -/
def alternatives : Descriptor → List Descriptor
  | .union ds => alternativesOf ds
  | d => [d]

/-- The alternatives of some options. -/
def alternativesOf : List Descriptor → List Descriptor
  | [] => []
  | d :: ds => alternatives d ++ alternativesOf ds

end

mutual

/-- **A descriptor matches what one of its alternatives does.** -/
theorem matches_iff_exists_alternative (v : Value) : ∀ d : Descriptor,
    d.matches g v = true ↔ ∃ a ∈ alternatives d, a.matches g v = true
  | .union ds => by
    rw [matches_union_iff, exists_matches_iff_exists_alternative v ds, alternatives]
  | .named name => by simp [alternatives]
  | .arrayOf d => by simp [alternatives]
  | .maybe d => by simp [alternatives]

theorem exists_matches_iff_exists_alternative (v : Value) : ∀ ds : List Descriptor,
    (∃ d ∈ ds, d.matches g v = true) ↔ ∃ a ∈ alternativesOf ds, a.matches g v = true
  | [] => by simp [alternativesOf]
  | d :: ds => by
    rw [List.exists_mem_cons_iff, matches_iff_exists_alternative v d,
      exists_matches_iff_exists_alternative v ds, alternativesOf]
    simp only [List.mem_append, or_and_right, exists_or]

end

/-- Descriptors with the same alternatives match the same values. -/
theorem matches_eq_of_alternatives {d e : Descriptor}
    (h : ∀ a, a ∈ alternatives d ↔ a ∈ alternatives e) (v : Value) :
    d.matches g v = e.matches g v := by
  rw [Bool.eq_iff_iff, matches_iff_exists_alternative v d, matches_iff_exists_alternative v e]
  simp only [h]

/-- The name of a built-in type matches the values of this type. -/
theorem matches_named_of_ofName? {name : String} {t : BuiltinType}
    (h : BuiltinType.ofName? name = some t) (v : Value) :
    Descriptor.matches g (.named name) v = t.accepts g v := by
  rw [Descriptor.matches, Pattern.eval, Pattern.nameAccepts, h]

/-- What may be missing is nothing at all, or what is there. -/
theorem matches_maybe_eq_union (d : Descriptor) (v : Value) :
    Descriptor.matches g (.maybe d) v =
      Descriptor.matches g (.union [.named BuiltinType.null.name, d]) v := by
  have hnull : Descriptor.matches g (.named BuiltinType.null.name) v = true ↔ v = .null := by
    rw [matches_named_of_ofName? (t := .null) (by decide)]
    exact beq_iff_eq
  rw [Bool.eq_iff_iff, matches_maybe_iff, matches_union_iff]
  simp only [List.exists_mem_cons_iff, List.not_mem_nil, false_and, exists_false, or_false, hnull]

/-- **Parts of descriptors may match more, and may be exchanged where they match the same.** If
a part of a descriptor is replaced by one that matches all values that the part does, then so does
the whole. Parts that match the same values can therefore take each other's places; in particular,
unions with the same alternatives, whatever their order, repetition and grouping, and a part that
may be missing and the union of `Null` with this part. -/
theorem matches_fill (g : Store) :
    (∀ d e : Descriptor, (∀ v, d.matches g v = true → e.matches g v = true) →
      ∀ (C : Context) (v : Value), (C.fill d).matches g v = true → (C.fill e).matches g v = true) ∧
    (∀ d e : Descriptor, (∀ v, d.matches g v = e.matches g v) →
      ∀ (C : Context) (v : Value), (C.fill d).matches g v = (C.fill e).matches g v) ∧
    (∀ d e : Descriptor, (∀ a, a ∈ alternatives d ↔ a ∈ alternatives e) →
      ∀ (C : Context) (v : Value), (C.fill d).matches g v = (C.fill e).matches g v) ∧
    ∀ (d : Descriptor) (C : Context) (v : Value),
      (C.fill (.maybe d)).matches g v =
        (C.fill (.union [.named BuiltinType.null.name, d])).matches g v := by
  refine ⟨fun d e h C => Narrows.fill h C, fun d e h => matches_fill_congr h, fun d e h => ?_,
    fun d => ?_⟩
  · exact matches_fill_congr (matches_eq_of_alternatives h)
  · exact matches_fill_congr (matches_maybe_eq_union d)

/-- An array of texts and integers is one of texts and numbers, and an option that is repeated in a
union of its own adds nothing to what may be missing. -/
theorem matches_fill_array_and_repeated :
    (∀ v, Descriptor.matches {} (.named "Int") v = true →
      Descriptor.matches {} (.named "Number") v = true) ∧
    (∀ v, Descriptor.matches {} (.arrayOf (.union [.named "String", .named "Int"])) v = true →
      Descriptor.matches {} (.arrayOf (.union [.named "String", .named "Number"])) v = true) ∧
    (∀ a, a ∈ alternatives (.union [.named "A", .union [.named "B", .named "A"]]) ↔
      a ∈ alternatives (.union [.named "B", .named "A"])) ∧
    ∀ v, Descriptor.matches {} (.maybe (.union [.named "A", .union [.named "B", .named "A"]])) v =
      Descriptor.matches {} (.maybe (.union [.named "B", .named "A"])) v := by
  have hint (v : Value) (hv : Descriptor.matches {} (.named "Int") v = true) :
      Descriptor.matches {} (.named "Number") v = true := by
    rw [matches_named_of_ofName? (t := .int) (by decide), BuiltinType.accepts] at hv
    rw [matches_named_of_ofName? (t := .number) (by decide), BuiltinType.accepts,
      BuiltinType.isNumber]
    split at hv
    · next hbase => rw [hbase]
    · cases hv
  have hsame (a : Descriptor) :
      a ∈ alternatives (.union [.named "A", .union [.named "B", .named "A"]]) ↔
        a ∈ alternatives (.union [.named "B", .named "A"]) := by
    simp only [alternatives, alternativesOf, List.mem_append, List.mem_singleton, List.not_mem_nil]
    tauto
  obtain ⟨hwider, -, hregrouped, -⟩ := matches_fill {}
  exact ⟨hint, hwider _ _ hint (.item (.option [.named "String"] .hole [])), hsame,
    hregrouped _ _ hsame (.maybe .hole)⟩

end Descriptor

end Conformance
