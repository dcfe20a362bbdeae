import Conformance.Proofs.Store.Data
import Conformance.Proofs.Store.KeyEquality

/-!
# Texts and their code points

No character is half of a pair of surrogates, and every other code point is a character. So a text
that is made from code points has just these, whether it is kept as characters or as code points,
and texts are the same key exactly if their code points are the same. The characters of a text have
its code points as well, unless one of them is the replacement character.

## Main definitions

* `Text.IsPoint` — the code points there are.
* `Text.IsShownForItself` — characters that stand for no other code point than their own.

## Main results

* `Value.ofPoints_points` — a text is that of its code points.
* `Value.points?_ofPoints` — a text that is made from code points has these.
* `Value.points?_of_str?` — the characters of a text have its code points.
* `Text.ofString_injective` — strings are the same if they are the same text.
* `Value.same_ofPoints` — texts are the same key exactly if their code points are the same.
-/

namespace Conformance

/-! ### Characters -/

namespace Text

/-- The code points there are. -/
def IsPoint (n : Nat) : Prop := n < 0x110000

theorem isSurrogate_toNat (c : Char) : isSurrogate c.toNat = false := by
  have hvalid : c.toNat < 0xd800 ∨ 0xdfff < c.toNat := c.valid.imp id And.left
  simp only [isSurrogate, Bool.and_eq_false_iff, decide_eq_false_iff_not]
  omega

theorem any_isSurrogate_points (s : String) : (points s).any isSurrogate = false := by
  simp [points, isSurrogate_toNat]

/-- Characters stand for their own code points. -/
theorem map_shownChar_toNat (cs : List Char) : (cs.map Char.toNat).map shownChar = cs := by
  simp [Function.comp_def, shownChar, isSurrogate_toNat]

/-- A code point that is no half of a pair of surrogates is that of a character. -/
theorem toNat_ofNat {n : Nat} (hn : IsPoint n) (h : isSurrogate n = false) :
    (Char.ofNat n).toNat = n := by
  have hvalid : n.isValidChar := by
    simp only [isSurrogate, Bool.and_eq_false_iff, decide_eq_false_iff_not] at h
    simp only [IsPoint] at hn
    simp only [Nat.isValidChar]
    omega
  rw [Char.ofNat, dif_pos hvalid]
  rfl

/-! ### Characters that stand for code points -/

/-- The character comes before the replacement character and is not the null character, so that it
stands for its own code point only. -/
def IsShownForItself (c : Char) : Prop := 0 < c.toNat ∧ c.toNat < 0xfffd

theorem toNat_shownChar {n : Nat} (h : IsShownForItself (shownChar n)) :
    (shownChar n).toNat = n := by
  obtain ⟨hnull, hreplaced⟩ := h
  rw [shownChar] at hnull hreplaced ⊢
  split_ifs at hnull hreplaced ⊢ with hn
  · exact absurd hreplaced (by decide)
  · by_cases hpoint : n < 0x110000
    · exact toNat_ofNat hpoint (by simpa using hn)
    · -- Beyond the code points there are, the null character is shown.
      rw [Char.ofNat, dif_neg (by simp only [Nat.isValidChar]; omega)] at hnull
      exact absurd hnull (by decide)

/-- Code points can be told from the characters that stand for them, if these stand for no
others. -/
theorem map_toNat_shown {t : Text} (h : ∀ c ∈ t.shown.toList, IsShownForItself c) :
    t.shown.toList.map Char.toNat = t.codes := by
  rw [shown, String.toList_ofList] at h ⊢
  rw [List.map_map]
  refine (List.map_congr_left fun n hn => ?_).trans (List.map_id t.codes)
  exact toNat_shownChar (h _ (List.mem_map_of_mem hn))

/-- Strings with another one between them, as texts. -/
theorem ofString_intercalate (separator : String) (ss : List String) :
    ofString (separator.intercalate ss) = joined separator (ss.map ofString) := by
  induction ss with
  | nil => rfl
  | cons s ss ih =>
    cases ss with
    | nil => rw [String.intercalate_singleton, List.map_singleton, joined_singleton]
    | cons t ss =>
      rw [String.intercalate_cons_cons, ofString_append, ofString_append, ih]
      exact (joined_cons_cons ..).symm

theorem map_toNat_injective : Function.Injective (List.map Char.toNat) :=
  Function.LeftInverse.injective map_shownChar_toNat

theorem ofString_injective : Function.Injective ofString := fun _ _ h =>
  String.toList_injective (map_toNat_injective (congrArg codes h))

end Text

/-! ### Texts -/

namespace Value

/-- A text is that of its code points. -/
theorem ofPoints_points (s : String) : ofPoints (Text.points s) = .str s := by
  rw [ofPoints, Text.any_isSurrogate_points, if_neg Bool.false_ne_true, Text.points, List.map_map]
  simp [Function.comp_def]

@[simp] theorem ofText_ofString (s : String) : ofText s = .str s := ofPoints_points s

/-- A text that is made from code points has these. -/
theorem points?_ofPoints {ps : List Nat} (hps : ∀ n ∈ ps, Text.IsPoint n) :
    (ofPoints ps).points? = some ps := by
  rw [ofPoints]
  split
  · rfl
  · next h =>
    simp only [Bool.not_eq_true, List.any_eq_false] at h
    have hmap : (ps.map Char.ofNat).map Char.toNat = ps := by
      rw [List.map_map]
      refine (List.map_congr_left fun n hn => ?_).trans (List.map_id ps)
      exact Text.toNat_ofNat (hps n hn) (by simpa using h n hn)
    change some (Text.points _) = _
    rw [Text.points, String.toList_ofList, hmap]

/-- A value with the code points of some characters has these. -/
theorem str?_of_points? {v : Value} {cs : List Char} (h : v.points? = some (cs.map Char.toNat)) :
    v.str? = some (String.ofList cs) := by
  rw [points?] at h
  rw [str?]
  split at h
  · next t =>
    rw [← Text.map_shownChar_toNat cs, ← Option.some.inj h, Text.points,
      Text.map_shownChar_toNat, String.ofList_toList]
  · next ps =>
    rw [Option.some.inj h, Text.shown, Text.map_shownChar_toNat]
  · cases h

/-- The characters of a text have its code points, if they stand for no others. -/
theorem points?_of_str? {v : Value} {s : String} (h : v.str? = some s)
    (hs : ∀ c ∈ s.toList, Text.IsShownForItself c) :
    v.points? = some (s.toList.map Char.toNat) := by
  rw [str?] at h
  rw [points?]
  split at h
  · cases h
    rfl
  · cases h
    rw [Text.map_toNat_shown hs]
  · cases h

/-- The text with a canonical form. -/
def Atom.text? : Atom → Option Value
  | .text t => some (.str t)
  | .points ps => some (.illFormed ps)
  | _ => none

/-- A text can be told from its canonical form. -/
theorem text?_of_atom? {ps : List Nat} {x : Atom} (h : (ofPoints ps).atom? = some x) :
    x.text? = some (ofPoints ps) := by
  rw [ofPoints] at h ⊢
  split at h <;> cases h <;> simp [*] <;> rfl

/-- Texts are the same key exactly if their code points are the same. -/
theorem same_ofPoints (g : Store) {ps qs : List Nat} (hps : ∀ n ∈ ps, Text.IsPoint n)
    (hqs : ∀ n ∈ qs, Text.IsPoint n) : g.same (ofPoints ps) (ofPoints qs) = true ↔ ps = qs := by
  have heq : ofPoints ps = ofPoints qs ↔ ps = qs := by
    refine ⟨fun h => ?_, fun h => h ▸ rfl⟩
    have hpoints := points?_ofPoints hps
    rw [h, points?_ofPoints hqs] at hpoints
    exact (Option.some.inj hpoints).symm
  rw [← heq, Store.same_iff]
  refine or_iff_left_of_imp fun h => ?_
  obtain ⟨x, hq, hp⟩ := (Store.equalWithin_succ_of_atom fun r _ hr =>
    absurd hr ((isScalar_ofPoints ps).base_ne_ref r)).mp h
  exact Option.some.inj ((text?_of_atom? hp).symm.trans (text?_of_atom? hq))

end Value

end Conformance
