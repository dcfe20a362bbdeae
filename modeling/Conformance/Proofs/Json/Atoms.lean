import Conformance.Proofs.Json.Reading
import Conformance.Proofs.Text.CodePoint
import Conformance.Proofs.Yaml.Making

/-!
# The atoms of a JSON document

The node of a word, a number or a text stands for a value of its own, which depends on nothing but
its tag and its characters. A number that is written without a point has the tag of a text.

## Main definitions

* `Json.IsAtom` — a value with nothing in it.
* `Json.MakesAtom` — what is made for the node of an atom.

## Main results

* `Json.exists_makesAtom` — the node of an atom stands for what is read in its place.
-/

namespace Conformance

open Yaml

namespace Json

/-- A value with nothing in it. -/
def IsAtom : Json → Prop
  | array _ | object _ => False
  | _ => True

end Json

namespace Yaml.Make

variable {m : Maker} {id : NodeId} {n : Node} {points : List ℕ}

theorem run_node (h : m.nodes[id]? = some n) : (node id).run m = .ok (n, m) := by
  have hget : (get : Make Maker).run m = .ok (m, m) := rfl
  rw [node, run_bind_of_ok hget, h]
  rfl

theorem run_scalarPoints {t : Tag} (h : m.nodes[id]? = some ⟨t, .scalar points⟩) (k : ℕ) :
    (scalarPoints id (k + 1)).run m = .ok (points, m) := by
  rw [scalarPoints, run_bind_of_ok (run_node h)]
  rfl

/-- The characters of a scalar. -/
theorem run_scalarText {t : Tag} (h : m.nodes[id]? = some ⟨t, .scalar points⟩) :
    ((do scalarPoints id ((← get).nodes.size + 1) : Make (List ℕ)) >>=
      fun points => pure (points.map Text.shownChar)).run m = .ok (points.map Text.shownChar, m) :=
  run_bind_of_ok (run_scalarPoints h _)

theorem run_lift {α : Type} {w : Except Fault α} {a : α} (h : w = .ok a) :
    (liftM w : Make α).run m = .ok (a, m) := by
  rw [h]
  rfl

theorem run_fresh_null (h : m.nodes[id]? = some ⟨.null, .scalar points⟩) :
    (fresh id).run m = .ok (.null, m) := by
  rw [fresh, run_bind_of_ok (run_node h)]
  exact run_bind_of_ok (run_scalarText h)

theorem run_fresh_bool (h : m.nodes[id]? = some ⟨.bool, .scalar points⟩) {b : Bool}
    (hb : Scalar.bool (points.map Text.shownChar) = .ok b) :
    (fresh id).run m = .ok (.bool b, m) := by
  rw [fresh, run_bind_of_ok (run_node h)]
  exact (run_bind_of_ok (run_scalarText h)).trans (run_bind_of_ok (run_lift hb))

theorem run_fresh_int (h : m.nodes[id]? = some ⟨.int, .scalar points⟩) {k : ℤ}
    (hk : Scalar.int (points.map Text.shownChar) = .ok k) :
    (fresh id).run m = .ok (.int k, m) := by
  rw [fresh, run_bind_of_ok (run_node h)]
  exact (run_bind_of_ok (run_scalarText h)).trans (run_bind_of_ok (run_lift hk))

theorem run_fresh_float (h : m.nodes[id]? = some ⟨.float, .scalar points⟩) {x : Binary64}
    (hx : Scalar.float (points.map Text.shownChar) = .ok x)
    (hnan : Scalar.isSharedNaN (points.map Text.shownChar) = false) :
    (fresh id).run m =
      .ok (.ofBinary64 x m.store.freshMark.1, { m with store := m.store.freshMark.2 }) := by
  rw [fresh, run_bind_of_ok (run_node h)]
  refine (run_bind_of_ok (run_scalarText h)).trans ((run_bind_of_ok (run_lift hx)).trans ?_)
  rw [hnan]
  rfl

theorem run_fresh_str (h : m.nodes[id]? = some ⟨.str, .scalar points⟩) :
    (fresh id).run m = .ok (.ofPoints points, m) := by
  rw [fresh, run_bind_of_ok (run_node h)]
  exact run_bind_of_ok (run_scalarPoints h _)

end Yaml.Make

namespace Json

variable {m : Maker} {id : NodeId}

theorem scalarTag_word (v : Json) :
    Build.scalarTag v.wordPoints true none = Resolve.tag v.written := by
  rw [Build.scalarTag, if_pos rfl, wordPoints, Text.map_shownChar_toNat]

/-- What is made for the node of an atom. -/
structure MakesAtom (id : NodeId) (m : Maker) (v : Json) (x : Value) : Prop where
  run : ∃ g, (Make.fresh id).run m = .ok (x, { m with store := g }) ∧ g.objects = m.store.objects
  isScalar : x.IsScalar
  isAt : ∀ g, v.asRead.IsAt g x

/-- The node of an integer stands for it. -/
theorem makesAtom_int {n : ℤ} (hn : (int n).IsWritten)
    (hnode : IsNode m.nodes 0 (int n) id) : MakesAtom id m (int n) (.int n) where
  run := by
    have hsign : (if decide (n < 0) = true then -(n.natAbs : ℤ) else n.natAbs) = n := by
      split
      · next hneg =>
        rw [Int.ofNat_natAbs_of_nonpos (Int.le_of_lt (of_decide_eq_true hneg)), neg_neg]
      · next hneg => exact Int.natAbs_of_nonneg (Int.not_lt.mp fun h => hneg (decide_eq_true h))
    have hlimit : n.natAbs < 10 ^ Number.digitLimit := by
      simpa [IsWritten, All, Number.intText?] using hn
    have htext := Number.Numeral.toList_toString n
    have htag : Resolve.tag (int n).written = .int := by
      rw [written, htext, Resolve.tag_whole]
    have hvalue : Scalar.int ((int n).wordPoints.map Text.shownChar) = .ok n := by
      rw [wordPoints, Text.map_shownChar_toNat, written, htext, Scalar.int_signedText _ hlimit,
        hsign]
    have hid := hnode.2
    rw [scalarTag_word, htag] at hid
    exact ⟨m.store, Make.run_fresh_int hid hvalue, rfl⟩
  isScalar := trivial
  isAt _ := rfl

/-- The node of a floating-point number stands for it if there is a point in its text, and for the
text otherwise. -/
theorem exists_makesAtom_float {negative : Bool} {c : ℕ} {e : ℤ} (hm : Binary64.IsNormal c e)
    (hnode : IsNode m.nodes 0 (float negative c e hm) id) :
    ∃ x, MakesAtom id m (float negative c e hm) x := by
  obtain ⟨n, htext, hvalue, hform⟩ := exists_float_text hm negative
  have hid := hnode.2
  have hwritten : (float negative c e hm).written = n.signedText negative := by
    rw [written, htext]
  rw [scalarTag_word, hwritten] at hid
  have hpoint := Resolve.mem_signedText_iff n negative
  rw [← htext] at hpoint
  cases hfraction : n.fraction with
  | some ds =>
    have hsome : n.fraction.isSome = true := by rw [hfraction]; rfl
    have hread : Scalar.float ((float negative c e hm).wordPoints.map Text.shownChar) =
        .ok (.finite negative c e) := by
      rw [wordPoints, Text.map_shownChar_toNat, hwritten, Scalar.float_signedText, hvalue]
      cases negative <;> rfl
    have hnan : Scalar.isSharedNaN ((float negative c e hm).wordPoints.map Text.shownChar) =
        false := by
      rw [wordPoints, Text.map_shownChar_toNat, hwritten, Scalar.isSharedNaN_signedText]
    rw [Resolve.tag_pointed n negative hsome] at hid
    refine ⟨_, ⟨_, Make.run_fresh_float hid hread hnan, rfl⟩, trivial, fun g => ?_⟩
    rw [asRead, if_pos (hpoint.mpr hsome)]
    rfl
  | none =>
    have hnone : ¬ n.fraction.isSome = true := by rw [hfraction]; exact Bool.false_ne_true
    rw [Resolve.tag_unpointed n negative hfraction (hform hfraction).2 (hform hfraction).1] at hid
    refine ⟨_, ⟨_, Make.run_fresh_str hid, rfl⟩, Value.isScalar_ofPoints _, fun g => ?_⟩
    rw [asRead, if_neg (mt hpoint.mp hnone), IsAt, List.map_map]
    rfl

/-- The node of an atom stands for what is read in its place. -/
theorem exists_makesAtom {v : Json} (hv : v.IsAtom) (hw : v.IsWritten)
    (hnode : IsNode m.nodes 0 v id) : ∃ x, MakesAtom id m v x := by
  cases v with
  | null =>
    have hid := hnode.2
    rw [scalarTag_word, written, Resolve.tag_null] at hid
    exact ⟨.null, ⟨m.store, Make.run_fresh_null hid, rfl⟩, trivial, fun _ => rfl⟩
  | bool b =>
    have hid := hnode.2
    rw [scalarTag_word, written, Resolve.tag_bool] at hid
    have hvalue : Scalar.bool ((bool b).wordPoints.map Text.shownChar) = .ok b := by
      rw [wordPoints, Text.map_shownChar_toNat, written, Scalar.bool_word]
    exact ⟨.bool b, ⟨m.store, Make.run_fresh_bool hid hvalue, rfl⟩, trivial, fun _ => rfl⟩
  | int n => exact ⟨.int n, makesAtom_int hw hnode⟩
  | float negative c e hm => exact exists_makesAtom_float hm hnode
  | str s =>
    exact ⟨_, ⟨m.store, Make.run_fresh_str hnode.2, rfl⟩, Value.isScalar_ofPoints _, fun _ => rfl⟩
  | array items => exact hv.elim
  | object entries => exact hv.elim

end Json

end Conformance
