import Conformance.Proofs.Descriptor.Meaning

/-!
# Instances of derived classes

A class that is derived from one of the classes of plain data, and that adds nothing but its name,
gives instances that are accepted wherever those of the class itself are. What a built-in type asks
of a value can be seen from its content, which is the same, and the classes of the value are still
there, behind the names that were added. So at a name the two instances differ only if the name is
one of those added and no built-in type has it. A descriptor in which none of these names stands
cannot tell the instances apart; the items of an array are the same in both, so that nothing has to
be known about what matches them.

## Main definitions

* `Store.SameContent` — two instances of one class of plain data with the same content.
* `Store.Derives` — a value, and an instance of a derived class with its content.
* `Descriptor.names` — the names that stand in a descriptor.

## Main results

* `Store.Derives.nameAccepts_iff` — what a name makes of the two instances.
* `Descriptor.matches_derived` — what a descriptor makes of them.
-/

namespace Conformance

namespace Store

/-- Two instances of one of the classes of integers, floating-point numbers, texts, lists, tuples,
mappings and dates, with the same content. Containers are the same if they hold the same. -/
inductive SameContent (g : Store) : Value → Value → Prop
  | int (n : Int) : SameContent g (.int n) (.int n)
  | real (x : Binary64) (mark mark' : Nat) : SameContent g (.real x mark) (.real x mark')
  | str (s : String) : SameContent g (.str s) (.str s)
  | illFormed (points : List Nat) : SameContent g (.illFormed points) (.illFormed points)
  | date (d : Date) : SameContent g (.date d) (.date d)
  | list {r r' : Ref} {xs : List Value} (h : g.objects[r]? = some (.list xs))
      (h' : g.objects[r']? = some (.list xs)) : SameContent g (.ref r) (.ref r')
  | tuple {r r' : Ref} {xs : List Value} (h : g.objects[r]? = some (.tuple xs))
      (h' : g.objects[r']? = some (.tuple xs)) : SameContent g (.ref r) (.ref r')
  | mapping {r r' : Ref} {es : Entries} (h : g.objects[r]? = some (.mapping .plain es))
      (h' : g.objects[r']? = some (.mapping .plain es)) : SameContent g (.ref r) (.ref r')

/-- The second value has the content of the first and is an instance of a class that is derived
from the class of the first and defines nothing: its classes are those of the first after some
names, most derived first. -/
inductive Derives (g : Store) (v : Value) : List String → Value → Prop
  | base {w : Value} (h : g.SameContent v w) : Derives g v [] w
  | derived {names : List String} {w : Value} (c : String) (h : Derives g v names w) :
      Derives g v (c :: names) (.derived c w)

variable {g : Store} {v w : Value} {names : List String}

/-! ### What the content decides -/

namespace SameContent

theorem ne_null (h : g.SameContent v w) : v ≠ .null ∧ w ≠ .null := by
  cases h <;> exact ⟨nofun, nofun⟩

theorem classes_eq (h : g.SameContent v w) : g.classes w = g.classes v := by
  cases h with
  | list h h' => simp [classes, h, h']
  | tuple h h' => simp [classes, h, h']
  | mapping h h' => simp [classes, h, h']
  | _ => rfl

theorem items?_eq (h : g.SameContent v w) : g.items? w = g.items? v := by
  cases h with
  | list h h' => simp [items?, object?, Value.ref?, h, h']
  | tuple h h' => simp [items?, object?, Value.ref?, h, h']
  | mapping h h' => simp [items?, object?, Value.ref?, h, h']
  | _ => rfl

theorem isMapping_eq (h : g.SameContent v w) : g.isMapping w = g.isMapping v := by
  cases h with
  | list h h' => simp [isMapping, mapping?, object?, Value.ref?, h, h']
  | tuple h h' => simp [isMapping, mapping?, object?, Value.ref?, h, h']
  | mapping h h' => simp [isMapping, mapping?, object?, Value.ref?, h, h']
  | _ => rfl

theorem isCallable_eq (h : g.SameContent v w) : g.isCallable w = g.isCallable v := by
  cases h with
  | list h h' => simp [isCallable, Value.base, object?, Value.ref?, h, h']
  | tuple h h' => simp [isCallable, Value.base, object?, Value.ref?, h, h']
  | mapping h h' => simp [isCallable, Value.base, object?, Value.ref?, h, h']
  | _ => rfl

/-- A built-in type accepts both or neither. -/
theorem accepts_eq (h : g.SameContent v w) (t : BuiltinType) :
    t.accepts g w = t.accepts g v := by
  obtain ⟨hv, hw⟩ := h.ne_null
  cases t with
  | array => exact congrArg Option.isSome h.items?_eq
  | object => exact h.isMapping_eq
  | function => exact h.isCallable_eq
  | null => exact (beq_eq_false_iff_ne.mpr hw).trans (beq_eq_false_iff_ne.mpr hv).symm
  | none => exact (beq_eq_false_iff_ne.mpr hw).trans (beq_eq_false_iff_ne.mpr hv).symm
  -- All others look at the kind of the value, and at the number if it is one.
  | _ => cases h <;> rfl

end SameContent

namespace Derives

theorem ne_null (h : g.Derives v names w) : v ≠ .null ∧ w ≠ .null := by
  induction h with
  | base h => exact h.ne_null
  | derived c h ih => exact ⟨ih.1, nofun⟩

theorem classes_eq (h : g.Derives v names w) : g.classes w = names ++ g.classes v := by
  induction h with
  | base h => exact h.classes_eq
  | derived c h ih => rw [classes, ih, List.cons_append]

theorem items?_eq (h : g.Derives v names w) : g.items? w = g.items? v := by
  induction h with
  | base h => exact h.items?_eq
  | derived c h ih => exact ih

/-- The name of a class takes nothing from what a built-in type looks at. -/
theorem accepts_eq (h : g.Derives v names w) (t : BuiltinType) :
    t.accepts g w = t.accepts g v := by
  induction h with
  | base h => exact h.accepts_eq t
  | @derived names w c h ih =>
    have hnull : (w == .null) = false := beq_eq_false_iff_ne.mpr h.ne_null.2
    cases t with
    | null => exact hnull.symm.trans ih
    | none => exact hnull.symm.trans ih
    | _ => exact ih

/-- A name accepts the derived instance if it accepts the other one, or if it is the name of one
of the classes that were added and no built-in type has it. -/
theorem nameAccepts_iff (h : g.Derives v names w) (name : String) :
    Pattern.nameAccepts g name w = true ↔ Pattern.nameAccepts g name v = true ∨
      (BuiltinType.ofName? name = none ∧ name ∈ names) := by
  rw [Pattern.nameAccepts, Pattern.nameAccepts]
  cases BuiltinType.ofName? name with
  | some t => simp [h.accepts_eq]
  | none => simp [h.classes_eq, or_comm]

end Derives

end Store

namespace Descriptor

mutual

/-- The names that stand in a descriptor. -/
def names : Descriptor → List String
  | .named name => [name]
  | .union ds => namesOf ds
  | .arrayOf d => names d
  | .maybe d => names d

/-- The names that stand in some descriptors. -/
def namesOf : List Descriptor → List String
  | [] => []
  | d :: ds => names d ++ namesOf ds

end

variable {g : Store} {v w : Value} {added : List String}

theorem matches_named_iff {name : String} :
    Descriptor.matches g (.named name) v = true ↔ Pattern.nameAccepts g name v = true := by
  rw [Descriptor.matches, Pattern.eval]

/-! ### What a descriptor makes of the instances -/

/-- Arrays have the same items. -/
theorem matches_arrayOf_derived (h : g.Derives v added w) (d : Descriptor) :
    Descriptor.matches g (.arrayOf d) w = Descriptor.matches g (.arrayOf d) v := by
  rw [Bool.eq_iff_iff, matches_arrayOf_iff, matches_arrayOf_iff, h.items?_eq]

mutual

/-- What matches the base instance matches the derived one. -/
theorem matches_of_matches_base (h : g.Derives v added w) : ∀ d : Descriptor,
    d.matches g v = true → d.matches g w = true
  | .named name, hv => by
    rw [matches_named_iff] at hv ⊢
    exact (h.nameAccepts_iff name).mpr (.inl hv)
  | .union ds, hv => by
    rw [matches_union_iff] at hv ⊢
    exact exists_matches_of_matches_base h ds hv
  | .arrayOf d, hv => by rwa [matches_arrayOf_derived h]
  | .maybe d, hv => by
    rw [matches_maybe_iff] at hv ⊢
    exact .inr (matches_of_matches_base h d (hv.resolve_left h.ne_null.1))

theorem exists_matches_of_matches_base (h : g.Derives v added w) : ∀ ds : List Descriptor,
    (∃ d ∈ ds, d.matches g v = true) → ∃ d ∈ ds, d.matches g w = true
  | [], ⟨_, hd, _⟩ => nomatch hd
  | d :: ds, hv => by
    rw [List.exists_mem_cons_iff] at hv ⊢
    exact hv.imp (matches_of_matches_base h d) (exists_matches_of_matches_base h ds)

end

mutual

/-- What matches the derived instance, and has none of the added names in it, matches the base
instance. -/
theorem matches_base_of_matches (h : g.Derives v added w) : ∀ d : Descriptor,
    (∀ c ∈ added, c ∉ d.names) → d.matches g w = true → d.matches g v = true
  | .named name, hadded, hw => by
    rw [matches_named_iff] at hw ⊢
    rcases (h.nameAccepts_iff name).mp hw with hv | ⟨-, hname⟩
    · exact hv
    · exact absurd (List.mem_singleton_self name) (hadded name hname)
  | .union ds, hadded, hw => by
    rw [matches_union_iff] at hw ⊢
    exact exists_matches_base_of_matches h ds hadded hw
  | .arrayOf d, _, hw => by rwa [← matches_arrayOf_derived h]
  | .maybe d, hadded, hw => by
    rw [matches_maybe_iff] at hw ⊢
    exact .inr (matches_base_of_matches h d hadded (hw.resolve_left h.ne_null.2))

theorem exists_matches_base_of_matches (h : g.Derives v added w) : ∀ ds : List Descriptor,
    (∀ c ∈ added, c ∉ namesOf ds) →
      (∃ d ∈ ds, d.matches g w = true) → ∃ d ∈ ds, d.matches g v = true
  | [], _, ⟨_, hd, _⟩ => nomatch hd
  | d :: ds, hadded, hw => by
    rw [List.exists_mem_cons_iff] at hw ⊢
    simp only [namesOf, List.mem_append, not_or] at hadded
    exact hw.imp (matches_base_of_matches h d fun c hc => (hadded c hc).1)
      (exists_matches_base_of_matches h ds fun c hc => (hadded c hc).2)

end

/-- **Instances of derived classes are accepted wherever those of their base are.** A descriptor
that matches a value of one of the classes of plain data matches every instance, with the same
content, of a class derived from it that defines nothing; and if none of the names of the classes
that this adds stands in the descriptor, it matches both or neither. -/
theorem matches_derived (h : g.Derives v added w) (d : Descriptor) :
    (d.matches g v = true → d.matches g w = true) ∧
      ((∀ c ∈ added, c ∉ d.names) → d.matches g w = d.matches g v) := by
  refine ⟨matches_of_matches_base h d, fun hadded => ?_⟩
  exact Bool.eq_iff_iff.mpr ⟨matches_base_of_matches h d hadded, matches_of_matches_base h d⟩

/-- A list of a text and an integer, and another list of them. -/
def rowStore : Store where
  objects := #[.list [.str "a", .int 1], .list [.str "a", .int 1]]

/-- A row, which is a list with a name of its own, is matched as the list is by a descriptor that
does not name it. -/
theorem matches_derived_row :
    rowStore.Derives (.ref 0) ["Row"] (.derived "Row" (.ref 1)) ∧
      Descriptor.matches rowStore (.maybe (.arrayOf (.union [.named "String", .named "Int"])))
        (.derived "Row" (.ref 1)) = true ∧
      (∀ c ∈ ["Row"], c ∉ names (.union [.named "Column", .arrayOf (.named "Int")])) ∧
      Descriptor.matches rowStore (.union [.named "Column", .arrayOf (.named "Int")])
        (.derived "Row" (.ref 1)) = false := by
  have hderives : rowStore.Derives (.ref 0) ["Row"] (.derived "Row" (.ref 1)) :=
    .derived "Row" (.base (.list rfl rfl))
  have hadded : ∀ c ∈ ["Row"], c ∉ names (.union [.named "Column", .arrayOf (.named "Int")]) := by
    decide
  refine ⟨hderives, ?_, hadded, ?_⟩
  · exact (matches_derived hderives _).1 (by cbv)
  · exact ((matches_derived hderives _).2 hadded).trans (by cbv)

/-- By its name it is told from the list. -/
example : Descriptor.matches rowStore (.named "Row") (.derived "Row" (.ref 1)) = true ∧
    Descriptor.matches rowStore (.named "Row") (.ref 0) = false := ⟨by cbv, by cbv⟩

end Descriptor

end Conformance
