import Conformance.Proofs.Store.WellFormed

/-!
# Which values can be keys

A value can be a key if it can be hashed. Atoms can, except for signaling not-a-numbers. An object
can if it never changes and all values that its hash is made from can, so a tuple is only as good
as its items, at any depth, and a tuple that led back to itself would never be done. The store
decides this by following objects down to a bounded depth. The bound never makes a difference: what
is found at some depth at all is found within as many steps as there are objects, since an object
that has to be followed further than one of its parts cannot be found below this part again.

## Main definitions

* `Object.hashed?` — the values that the hash of an object is made from.
* `Store.Hashes` — a value that can be hashed, with no bound on what is looked through.

## Main results

* `Store.isKeyWithin_unvisited` — how far objects have to be followed.
* `Store.isKey_iff_hashes` — the values that can be keys are those that can be hashed.
-/

namespace Conformance

/-- The values that the hash of an object is made from; what changes has none. -/
def Object.hashed? : Object → Option (List Value)
  | .tuple xs => some xs
  | .set true _ => some []
  | .marker (.equal vs) => some vs
  | .marker (.unknown kind) => some [kind]
  | .options o => some [o.strict, o.fatal]
  | .violation v => some [v.typeName, v.key]
  | .set false _ | .list _ | .mapping .. | .report .. | .schema (.object ..) |
    .schema (.marker _) => none
  | _ => some []

namespace Store

/-- The value can be hashed if all values that its hash is made from are as the predicate says. -/
inductive HashesBy (g : Store) (P : Value → Prop) (v : Value) : Prop
  | atom (hv : ∀ r, v.base ≠ .ref r) (h : v.isSignaling = false) : HashesBy g P v
  | absent {r : Ref} (hv : v.base = .ref r) (h : g.objects[r]? = none) : HashesBy g P v
  | object {r : Ref} {x : Object} {parts : List Value} (hv : v.base = .ref r)
      (hx : g.objects[r]? = some x) (hparts : x.hashed? = some parts) (h : ∀ w ∈ parts, P w) :
      HashesBy g P v

/-- The value can be hashed. -/
inductive Hashes (g : Store) : Value → Prop
  | atom {v : Value} (hv : ∀ r, v.base ≠ .ref r) (h : v.isSignaling = false) : Hashes g v
  | absent {v : Value} {r : Ref} (hv : v.base = .ref r) (h : g.objects[r]? = none) : Hashes g v
  | object {v : Value} {r : Ref} {x : Object} {parts : List Value} (hv : v.base = .ref r)
      (hx : g.objects[r]? = some x) (hparts : x.hashed? = some parts)
      (h : ∀ w ∈ parts, Hashes g w) : Hashes g v

variable {g : Store} {v : Value}

/-- What can be hashed is what all values that its hash is made from can be. -/
theorem hashes_iff_hashesBy : g.Hashes v ↔ g.HashesBy g.Hashes v := by
  constructor
  · intro h
    cases h with
    | atom hv h => exact .atom hv h
    | absent hv h => exact .absent hv h
    | object hv hx hparts h => exact .object hv hx hparts h
  · intro h
    cases h with
    | atom hv h => exact .atom hv h
    | absent hv h => exact .absent hv h
    | object hv hx hparts h => exact .object hv hx hparts h

namespace HashesBy

variable {P Q : Value → Prop}

theorem mono (hPQ : ∀ w, P w → Q w) (h : g.HashesBy P v) : g.HashesBy Q v := by
  cases h with
  | atom hv h => exact .atom hv h
  | absent hv h => exact .absent hv h
  | object hv hx hparts h => exact .object hv hx hparts fun w hw => hPQ w (h w hw)

theorem iff_of_atom (hv : ∀ r, v.base ≠ .ref r) : g.HashesBy P v ↔ v.isSignaling = false := by
  constructor
  · intro h
    cases h with
    | atom _ h => exact h
    | absent hr => exact absurd hr (hv _)
    | object hr => exact absurd hr (hv _)
  · exact .atom hv

theorem iff_of_object {r : Ref} {x : Object} (hv : v.base = .ref r)
    (hx : g.objects[r]? = some x) :
    g.HashesBy P v ↔ ∃ parts, x.hashed? = some parts ∧ ∀ w ∈ parts, P w := by
  constructor
  · intro h
    cases h with
    | atom hatom => exact absurd hv (hatom r)
    | absent hv' h =>
      cases hv.symm.trans hv'
      cases h.symm.trans hx
    | object hv' hx' hparts h =>
      cases hv.symm.trans hv'
      cases hx.symm.trans hx'
      exact ⟨_, hparts, h⟩
  · rintro ⟨parts, hparts, h⟩
    exact .object hv hx hparts h

end HashesBy

/-! ### Looking down to a depth -/

/-- One more step down looks at the values that the hash is made from. -/
theorem isKeyWithin_succ_iff {depth : Nat} :
    g.isKeyWithin (depth + 1) v = true ↔ g.HashesBy (g.isKeyWithin depth · = true) v := by
  by_cases href : ∃ r, v.base = .ref r
  · obtain ⟨r, hr⟩ := href
    cases hx : g.objects[r]? with
    | none =>
      refine iff_of_true ?_ (.absent hr hx)
      rw [isKeyWithin]
      simp only [hr, hx]
    | some x =>
      rw [HashesBy.iff_of_object hr hx, isKeyWithin]
      simp only [hr, hx]
      rcases x with
        _ | _ | ⟨_ | _, _⟩ | _ | _ | _ | (_ | _ | _) | (_ | _ | _) | _ | _ | _ | _ | _ <;>
        simp [Object.hashed?]
  · rw [HashesBy.iff_of_atom (not_exists.mp href), isKeyWithin, Value.isSignaling]
    cases hbase : v.base with
    | ref r => exact absurd ⟨r, hbase⟩ href
    | decimal d mark =>
      cases d with
      | nan negative signaling payload => cases signaling <;> simp
      | _ => simp
    | _ => simp

/-- What is found at a depth is found one step further down. -/
theorem isKeyWithin_succ {depth : Nat} (h : g.isKeyWithin depth v = true) :
    g.isKeyWithin (depth + 1) v = true := by
  induction depth generalizing v with
  | zero => cases h
  | succ depth ih => exact isKeyWithin_succ_iff.mpr ((isKeyWithin_succ_iff.mp h).mono fun _ => ih)

theorem isKeyWithin_mono {m n : Nat} (hmn : m ≤ n) (h : g.isKeyWithin m v = true) :
    g.isKeyWithin n v = true := by
  induction hmn with
  | refl => exact h
  | step _ ih => exact isKeyWithin_succ ih

/-- Whether an object is found at a depth does not depend on the class that it is seen as. -/
theorem isKeyWithin_eq_of_base {depth : Nat} {w : Value} (h : v.base = w.base) :
    g.isKeyWithin depth v = g.isKeyWithin depth w := by
  cases depth with
  | zero => rfl
  | succ depth => rw [isKeyWithin, isKeyWithin, h]

/-- **How far objects have to be followed.** What is found at some depth is found within as many
steps as there are objects not passed yet, if the passed ones are not found at this depth. -/
theorem isKeyWithin_unvisited {depth : Nat} {passed : List Ref}
    (hpassed : ∀ r ∈ passed, g.isKeyWithin depth (.ref r) = false)
    (h : g.isKeyWithin depth v = true) : g.isKeyWithin (g.unvisited passed + 1) v = true := by
  induction depth generalizing v passed with
  | zero => cases h
  | succ depth ih =>
    have hearlier : ∀ r ∈ passed, g.isKeyWithin depth (.ref r) = false := by
      intro r hr
      rw [← Bool.not_eq_true]
      exact fun hfound => Bool.false_ne_true ((hpassed r hr).symm.trans (isKeyWithin_succ hfound))
    cases hfound : g.isKeyWithin depth v with
    | true => exact ih hearlier hfound
    | false =>
      refine isKeyWithin_succ_iff.mpr ?_
      cases isKeyWithin_succ_iff.mp h with
      | atom hv h => exact .atom hv h
      | absent hv h => exact .absent hv h
      | @object r x parts hv hx hparts hall =>
        -- The object is found at this depth and at none before, so it is not below its parts.
        have hv' : v.base = (Value.ref r).base := hv
        have hnew : r ∉ passed := by
          intro hr
          rw [isKeyWithin_eq_of_base hv', hpassed r hr] at h
          cases h
        have hless : g.unvisited (r :: passed) < g.unvisited passed :=
          unvisited_cons_lt (Array.getElem?_eq_some_iff.mp hx).1 hnew
        have hboth : ∀ r' ∈ r :: passed, g.isKeyWithin depth (.ref r') = false :=
          List.forall_mem_cons.mpr ⟨(isKeyWithin_eq_of_base hv').symm.trans hfound, hearlier⟩
        exact .object hv hx hparts fun w hw =>
          isKeyWithin_mono hless (ih hboth (hall w hw))

theorem hashes_of_isKeyWithin {depth : Nat} (h : g.isKeyWithin depth v = true) : g.Hashes v := by
  induction depth generalizing v with
  | zero => cases h
  | succ depth ih =>
    exact hashes_iff_hashesBy.mpr ((isKeyWithin_succ_iff.mp h).mono fun _ => ih)

/-- What is found at some depth is found within as many steps as there are objects. -/
theorem IsHashable.isKeyWithin (h : g.IsHashable v) :
    g.isKeyWithin (g.unvisited [] + 1) v = true := by
  obtain ⟨depth, hdepth⟩ := h
  exact isKeyWithin_unvisited (List.forall_mem_nil _) hdepth

theorem Hashes.isHashable (h : g.Hashes v) : g.IsHashable v := by
  induction h with
  | atom hv h => exact ⟨1, isKeyWithin_succ_iff.mpr (.atom hv h)⟩
  | absent hv h => exact ⟨1, isKeyWithin_succ_iff.mpr (.absent hv h)⟩
  | object hv hx hparts _ ih =>
    exact ⟨_, isKeyWithin_succ_iff.mpr (.object hv hx hparts fun w hw => (ih w hw).isKeyWithin)⟩

/-- **The values that can be keys are those that can be hashed.** -/
theorem isKey_iff_hashes : g.isKey v = true ↔ g.Hashes v := by
  refine ⟨hashes_of_isKeyWithin, fun h => ?_⟩
  exact isKeyWithin_mono (Nat.succ_le_succ (unvisited_le_size [])) h.isHashable.isKeyWithin

end Store

end Conformance
