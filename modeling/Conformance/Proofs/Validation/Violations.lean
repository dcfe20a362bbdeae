import Conformance.Validation.Walk

/-!
# What a violation says

Each kind of violation is made up in one place, from the node it was found at, the key and the
value. Of what it says, the wording and the expected and actual texts are for a reader; its
kind, the name of the object node, the key and the path are what the theory of checks refers to.

## Main definitions

* `Violation.Says` — a violation is of a kind, about a node, a key and a path.

## Main results

* `Walk.says_of_invalidType?`, `Walk.says_of_lengthMismatch?`, `Walk.says_of_unknownKey?`,
  `Walk.says_of_mistyped?`, `Walk.says_of_rejected?` — what each violation says.
-/

namespace Conformance

/-- The violation is of the given kind, and about a node of the given name, a key and a path. -/
structure Violation.Says (v : Violation) (kind : ViolationKind) (typeName key : Value)
    (path : Option Text) : Prop where
  kind_eq : v.kind = kind
  typeName_eq : v.typeName = typeName
  key_eq : v.key = key
  path_eq : path = some v.path

namespace Walk

variable {g : Store} {v : Violation} {name key value : Value} {place : Text}

theorem says_of_invalidType? (h : invalidType? g name place value = some v) :
    v.Says .type name .null (some place) := by
  simp only [invalidType?, Option.bind_eq_bind, Option.bind_eq_some_iff] at h
  obtain ⟨shownName, -, actual, -, h⟩ := h
  cases h
  exact ⟨rfl, rfl, rfl, rfl⟩

theorem says_of_lengthMismatch? {expectedKeys actualKeys : List Value}
    (h : lengthMismatch? g name place expectedKeys actualKeys = some v) :
    v.Says .lengthMismatch name .null (some place) := by
  simp only [lengthMismatch?, Option.bind_eq_bind, Option.bind_eq_some_iff] at h
  obtain ⟨shownName, -, expected, -, actual, -, h⟩ := h
  cases h
  exact ⟨rfl, rfl, rfl, rfl⟩

theorem says_of_unknownKey? (h : unknownKey? g name place key = some v) :
    v.Says .unknownKey name key (join? g place key) := by
  simp only [unknownKey?, Option.bind_eq_bind, Option.bind_eq_some_iff] at h
  obtain ⟨shownName, -, shownKey, hkey, h⟩ := h
  cases h
  exact ⟨rfl, rfl, rfl, by rw [join?, hkey, Option.map_some]⟩

theorem says_of_invalidValue? {kind : ViolationKind} {place : Option Text} {expected : Value}
    {actual : Text} (h : invalidValue? g kind name key place expected actual = some v) :
    v.Says kind name key place := by
  simp only [invalidValue?, Option.bind_eq_bind, Option.bind_eq_some_iff] at h
  obtain ⟨shownName, -, shownKey, -, shownExpected, -, path, hpath, h⟩ := h
  cases h
  exact ⟨rfl, rfl, rfl, hpath⟩

theorem says_of_mistyped? {source : Value} {place : Option Text}
    (h : mistyped? g source name key place value = some v) : v.Says .type name key place := by
  simp only [mistyped?, Option.bind_eq_bind, Option.bind_eq_some_iff] at h
  obtain ⟨actual, -, h⟩ := h
  exact says_of_invalidValue? h

theorem says_of_rejected? {m : Marker} {place : Option Text}
    (h : rejected? g m name key place value = some v) : v.Says .value name key place := by
  by_cases hm : m = .promise
  · simp only [rejected?, hm, if_true] at h
    exact says_of_invalidValue? h
  · simp only [rejected?, hm, if_false, Option.bind_eq_bind, Option.bind_eq_some_iff] at h
    obtain ⟨actual, -, h⟩ := h
    exact says_of_invalidValue? h

end Walk

end Conformance
