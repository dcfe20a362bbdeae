import Conformance.Proofs.Yaml.Making

/-!
# YAML files are safe

The loader of YAML files is safe. Besides refusing a file as malformed it ends in another way in two
cases only: what is read of the file breaks off in the middle of a character, or there is a scalar
that has no value.

## Main results

* `Yaml.loader_isSafe` — the loader makes plain data.
* `Yaml.loader_misuse` — what else it can end with.
-/

namespace Conformance.Yaml

theorem loader_isSafe : loader.IsSafe where
  adds g s v h hload := by
    have hadds := load_adds g (.ofStream s)
    rw [show load g (.ofStream s) = .ok (v, h) from hload] at hadds
    cases hadds with
    | ok hadds => exact hadds
  same g g' s hsize hmarks := by
    have halike := load_alike hsize hmarks (.ofStream s)
    change Loader.SameDocument _ (load g (.ofStream s)) (load g' (.ofStream s))
    generalize load g (.ofStream s) = x, load g' (.ofStream s) = x' at halike
    cases halike with
    | ok _ _ size marks new => exact .ok size marks new
    | error => exact .error _

/-! ### Misuses -/

namespace Source

/-- The source of a text is broken off only at a character that may not stand in it. -/
theorem beyond_ofText (cs : List Char) :
    (ofText cs).beyond = none ∨ (ofText cs).beyond = some .malformed := by
  rw [ofText]
  split
  · exact .inl rfl
  · exact .inr rfl

/-- The source of bytes that are no text is broken off in the middle of a character at the
latest. -/
theorem beyond_ofBroken (cs : List Char) :
    (ofBroken cs).beyond = some (.misuse .undecodable) ∨
      (ofBroken cs).beyond = some .malformed := by
  have htext := beyond_ofText (cs.take (blockStart cs.length))
  rw [ofBroken]
  split
  · exact .inl rfl
  · next h =>
    rcases htext with hnone | hsome
    · exact absurd (by rw [← hnone]) (h (ofText (cs.take (blockStart cs.length))).chars)
    · exact .inr hsome

end Source

/-- A misuse is passed on only for bytes that are no text and for a scalar that has no value. -/
theorem loader_misuse {g : Store} {s : Stream} {m : Misuse}
    (h : loader g s = .error (.misuse m)) :
    s.isBroken = true ∧ m = .undecodable ∨ IsScalarMisuse m := by
  have hloads := load_adds g (.ofStream s)
  rw [show load g (.ofStream s) = .error (.misuse m) from h] at hloads
  cases hloads with
  | error hf =>
    cases hf with
    | making hf =>
      cases hf with
      | misuse hm => exact .inr hm
    | reading hf =>
      cases hf with
      | number hm => exact .inr (by rcases hm with rfl | rfl <;> decide)
      | beyond hbeyond =>
        rw [Source.ofStream] at hbeyond
        split_ifs at hbeyond with hbroken
        · rcases Source.beyond_ofBroken s.chars with hundecodable | hsome
          · cases hundecodable.symm.trans hbeyond
            exact .inl ⟨hbroken, rfl⟩
          · cases hsome.symm.trans hbeyond
        · rcases Source.beyond_ofText s.chars with hnone | hsome
          · cases hnone.symm.trans hbeyond
          · cases hsome.symm.trans hbeyond

end Conformance.Yaml
