import Conformance.Proofs.Store.WellFormed

/-!
# Equality of keys is an equivalence

Whether two values are the same key is found out by going through them to a bounded depth, from
the left, with the possibility of failing on the way, and sets are compared by looking for each
member of one among those of the other. On values that can be keys in a well-formed store this
still is an equivalence. That it is symmetric and that it is transitive have to be proved
together: sets are compared in one direction only, and it takes a counting argument to turn the
direction round, for which the members of a set must be told apart by an equivalence.

Everything is proved for one depth at a time, by induction on the depth: what makes up two keys
is compared to the depth before.

## Main definitions

* `Store.Agree` — two keys that are found to be equal within a depth.
* `Store.SameKeys` — two lists of keys that hold the same keys.

## Main results

* `Store.same_symm`, `Store.same_trans` — being the same key is an equivalence.
* `Store.sameKeys_iff_length_eq` — keys that are apart are the same keys as others exactly if
  they are as many and all known among them.
-/

namespace Conformance

namespace Store

variable {g : Store} {n : Nat}

/-- Being the same key is being one value, or equal at the depth that keys are compared to. -/
theorem same_iff {v w : Value} :
    g.same v w = true ↔ v = w ∨ g.equalWithin true g.equalityDepth v w = .ok true := by
  rw [same, Bool.or_eq_true, beq_iff_eq]
  split <;> simp_all

/-- Two values that can be keys, found to be equal within a depth. -/
structure Agree (g : Store) (n : Nat) (v w : Value) : Prop where
  left : g.IsHashable v
  right : g.IsHashable w
  eq_or : v = w ∨ g.equalWithin true n v w = .ok true

/-- The ways in which two keys are the same, given when what makes them up is. -/
inductive SameBy (g : Store) (R : Value → Value → Prop) : Value → Value → Prop
  | refl {v : Value} : SameBy g R v v
  | atom {v w : Value} {x : Value.Atom} (hv : v.atom? = some x) (hw : w.atom? = some x) :
      SameBy g R v w
  | place {v w : Value} {r : Ref} (hv : v.base = .ref r) (hw : w.base = .ref r) : SameBy g R v w
  | object {v w : Value} {r s : Ref} {x y : Object} (hv : v.base = .ref r) (hw : w.base = .ref s)
      (hx : g.objects[r]? = some x) (hy : g.objects[s]? = some y) (h : x.Alike R y) :
      SameBy g R v w

/-- Two values of which one at most is an object are the same key exactly if their canonical
forms are equal. -/
theorem equalWithin_succ_of_atom {v w : Value}
    (hrefs : ∀ r s, v.base = .ref r → w.base ≠ .ref s) :
    g.equalWithin true (n + 1) v w = .ok true ↔
      ∃ x, w.atom? = some x ∧ v.atom? = some x := by
  rw [equalWithin]
  cases hnum : v.isNumber && w.isNumber with
  | true =>
    rw [Bool.and_eq_true] at hnum
    rw [if_pos rfl, Value.sameNumber_eq_ok_true_iff hnum.1 hnum.2]
  | false =>
    rw [if_neg Bool.false_ne_true, ← Value.sameAtom_base_iff hnum]
    simp only [pure, Except.pure]
    simp

/-- Two objects are the same key exactly if they are one object, or are alike. -/
theorem equalWithin_succ_of_object {v w : Value} {r s : Ref} (hv : v.base = .ref r)
    (hw : w.base = .ref s) (hfrozen : ∀ x, g.objects[r]? = some x → x.isFrozen = true) :
    g.equalWithin true (n + 1) v w = .ok true ↔
      r = s ∨ ∃ x y, g.objects[r]? = some x ∧ g.objects[s]? = some y ∧
        x.Alike (fun a b => a = b ∨ g.equalWithin true n a b = .ok true) y := by
  have hnum : (v.isNumber && w.isNumber) = false := by simp [Value.isNumber, hv]
  rw [equalWithin, if_neg (by simp [hnum])]
  simp only [hv, hw]
  by_cases hrs : r = s
  · simp [hrs, pure, Except.pure]
  rw [if_neg hrs]
  cases hx : g.objects[r]? with
  | none => simp [hrs, pure, Except.pure]
  | some x =>
    cases hy : g.objects[s]? with
    | none => simp [hrs, pure, Except.pure]
    | some y =>
      simp only
      rw [Object.sameBy_eq_ok_true_iff
        (R := fun a b => a = b ∨ g.equalWithin true n a b = .ok true) _ _ (hfrozen x hx)]
      · simp [hrs]
      · intro a b
        by_cases hab : a = b <;> simp [hab, pure, Except.pure]
      · intro a b
        rw [Bool.or_eq_true, beq_iff_eq]
        split <;> simp_all

/-- What a comparison one level deeper finds. -/
theorem agree_succ_iff (hg : g.WellFormed) {v w : Value} :
    g.Agree (n + 1) v w ↔ g.IsHashable v ∧ g.IsHashable w ∧ g.SameBy (g.Agree n) v w := by
  constructor
  · rintro ⟨hv, hw, rfl | h⟩
    · exact ⟨hv, hw, .refl⟩
    refine ⟨hv, hw, ?_⟩
    by_cases hrefs : ∀ r s, v.base = .ref r → w.base ≠ .ref s
    · obtain ⟨x, hwx, hvx⟩ := (equalWithin_succ_of_atom hrefs).mp h
      exact .atom hvx hwx
    · simp only [ne_eq, not_forall, not_not] at hrefs
      obtain ⟨r, s, hvr, hws⟩ := hrefs
      obtain rfl | ⟨x, y, hx, hy, halike⟩ :=
        (equalWithin_succ_of_object hvr hws fun x => hv.isFrozen hvr).mp h
      · exact .place hvr hws
      · refine .object hvr hws hx hy (halike.imp fun a ha b hb hab => ?_)
        exact ⟨hv.of_mem_parts hg hvr hx ha, hw.of_mem_parts hg hws hy hb, hab⟩
  · rintro ⟨hv, hw, h⟩
    refine ⟨hv, hw, ?_⟩
    cases h with
    | refl => exact .inl rfl
    | atom hvx hwx =>
      refine .inr ((equalWithin_succ_of_atom fun r s hvr => ?_).mpr ⟨_, hwx, hvx⟩)
      rw [Value.atom?_of_base_eq_ref hvr] at hvx
      cases hvx
    | place hvr hwr =>
      exact .inr ((equalWithin_succ_of_object hvr hwr fun x => hv.isFrozen hvr).mpr (.inl rfl))
    | object hvr hws hx hy h =>
      refine .inr ((equalWithin_succ_of_object hvr hws fun x => hv.isFrozen hvr).mpr (.inr ?_))
      exact ⟨_, _, hx, hy, h.imp fun a _ b _ hab => hab.eq_or⟩

/-! ### Looking deeper -/

theorem Agree.refl {v : Value} (hv : g.IsHashable v) : g.Agree n v v := ⟨hv, hv, .inl rfl⟩

/-- Within no depth only the very same values are found to be equal. -/
theorem Agree.eq_of_zero {v w : Value} (h : g.Agree 0 v w) : v = w := by
  obtain ⟨-, -, rfl | h⟩ := h
  · rfl
  · cases h

/-- What is found to be equal is found to be equal one level deeper. -/
theorem Agree.succ (hg : g.WellFormed) {v w : Value} (h : g.Agree n v w) :
    g.Agree (n + 1) v w := by
  induction n generalizing v w with
  | zero => exact h.eq_of_zero ▸ .refl h.left
  | succ n ih =>
    rw [agree_succ_iff hg] at h ⊢
    obtain ⟨hv, hw, hsame⟩ := h
    refine ⟨hv, hw, ?_⟩
    cases hsame with
    | refl => exact .refl
    | atom hvx hwx => exact .atom hvx hwx
    | place hvr hwr => exact .place hvr hwr
    | object hvr hws hx hy h => exact .object hvr hws hx hy (h.imp fun a _ b _ hab => ih hab)

theorem Agree.mono (hg : g.WellFormed) {m : Nat} (hnm : n ≤ m) {v w : Value}
    (h : g.Agree n v w) : g.Agree m v w := by
  induction hnm with
  | refl => exact h
  | step _ ih => exact ih.succ hg

/-- The members of a set are told apart at every depth that keys are compared to. -/
theorem KeysApart.pairwise_not_agree (hg : g.WellFormed) (hn : n ≤ g.equalityDepth)
    {ks : List Value} (h : g.KeysApart ks) : ks.Pairwise fun k l => ¬ g.Agree n k l := by
  refine h.apart.imp fun {k l} hsame hagree => ?_
  rw [same_iff.mpr (hagree.mono hg hn).eq_or] at hsame
  cases hsame

/-! ### Symmetry and transitivity -/

private theorem not_atom_of_ref {v : Value} {r : Ref} {x : Value.Atom} (hr : v.base = .ref r)
    (hx : v.atom? = some x) : False := by
  rw [Value.atom?_of_base_eq_ref hr] at hx
  cases hx

theorem SameBy.trans {R : Value → Value → Prop} (ht : ∀ u v w, R u v → R v w → R u w)
    {u v w : Value} (h : g.SameBy R u v) (h' : g.SameBy R v w) : g.SameBy R u w := by
  cases h with
  | refl => exact h'
  | atom hu hv =>
    cases h' with
    | refl => exact .atom hu hv
    | atom hv' hw => exact .atom hu (by rwa [← Option.some.inj (hv.symm.trans hv')] at hw)
    | place hv' _ => exact (not_atom_of_ref hv' hv).elim
    | object hv' => exact (not_atom_of_ref hv' hv).elim
  | place hu hv =>
    cases h' with
    | refl => exact .place hu hv
    | atom hv' _ => exact (not_atom_of_ref hv hv').elim
    | place hv' hw =>
      cases hv.symm.trans hv'
      exact .place hu hw
    | object hv' hw hy hz h' =>
      cases hv.symm.trans hv'
      exact .object hu hw hy hz h'
  | object hu hv hx hy h =>
    cases h' with
    | refl => exact .object hu hv hx hy h
    | atom hv' _ => exact (not_atom_of_ref hv hv').elim
    | place hv' hw =>
      cases hv.symm.trans hv'
      exact .object hu hw hx hy h
    | object hv' hw hy' hz h' =>
      cases hv.symm.trans hv'
      cases hy.symm.trans hy'
      exact .object hu hw hx hz (h.trans ht h')

/-- At every depth, agreement of keys is symmetric and transitive. -/
theorem agree_symm_and_trans (hg : g.WellFormed) (hn : n ≤ g.equalityDepth) :
    (∀ v w, g.Agree n v w → g.Agree n w v) ∧
      ∀ u v w, g.Agree n u v → g.Agree n v w → g.Agree n u w := by
  induction n with
  | zero =>
    refine ⟨fun v w h => ?_, fun u v w h h' => ?_⟩
    · exact h.eq_of_zero ▸ .refl h.left
    · exact h'.eq_of_zero ▸ h
  | succ n ih =>
    obtain ⟨hsymm, htrans⟩ := ih (Nat.le_of_succ_le hn)
    constructor
    · intro v w h
      rw [agree_succ_iff hg] at h ⊢
      obtain ⟨hv, hw, hsame⟩ := h
      refine ⟨hw, hv, ?_⟩
      cases hsame with
      | refl => exact .refl
      | atom hvx hwx => exact .atom hwx hvx
      | place hvr hwr => exact .place hwr hvr
      | object hvr hws hx hy h =>
        refine .object hws hvr hy hx (h.symm hsymm htrans fun frozen xs hset => ?_)
        exact (hg.set (hset ▸ hx)).pairwise_not_agree hg (Nat.le_of_succ_le hn)
    · intro u v w h h'
      rw [agree_succ_iff hg] at h h' ⊢
      obtain ⟨hu, hv, huv⟩ := h
      obtain ⟨-, hw, hvw⟩ := h'
      exact ⟨hu, hw, huv.trans htrans hvw⟩

/-- Being the same key is agreement at the depth that keys are compared to. -/
theorem same_eq_true_iff {v w : Value} (hv : g.isKey v = true) (hw : g.isKey w = true) :
    g.same v w = true ↔ g.Agree g.equalityDepth v w := by
  rw [same_iff]
  exact ⟨fun h => ⟨isHashable_of_isKey hv, isHashable_of_isKey hw, h⟩, fun h => h.eq_or⟩

/-- Whether a key is a text, and which, is the same for all values that are the same key. -/
theorem str?_eq_of_same {v w : Value} (h : g.same v w = true) : v.str? = w.str? := by
  obtain rfl | h := same_iff.mp h
  · rfl
  by_cases hrefs : ∀ r s, v.base = .ref r → w.base ≠ .ref s
  · obtain ⟨x, hw, hv⟩ := (equalWithin_succ_of_atom hrefs).mp h
    rw [Value.str?_of_atom? hv, Value.str?_of_atom? hw]
  · simp only [ne_eq, not_forall, not_not] at hrefs
    obtain ⟨r, s, hv, hw⟩ := hrefs
    rw [Value.str?, Value.str?, hv, hw]

section Text

variable {t : String} {v w : Value}

/-- A text is the same key as the texts with its characters, and as nothing else. -/
theorem same_iff_of_base_left (hv : v.base = .str t) : g.same v w = true ↔ w.base = .str t := by
  have hatom : v.atom? = some (.text t) := Value.atom?_eq_text_iff.mpr hv
  have hequal : g.equalWithin true g.equalityDepth v w = .ok true ↔
      ∃ x, w.atom? = some x ∧ v.atom? = some x :=
    equalWithin_succ_of_atom fun r s hr => (nomatch hv.symm.trans hr)
  rw [same_iff, hequal, hatom, ← Value.atom?_eq_text_iff]
  constructor
  · rintro (rfl | ⟨x, hw, hx⟩)
    · exact hatom
    · rwa [hx]
  · exact fun hw => .inr ⟨_, hw, rfl⟩

theorem same_iff_of_base_right (hw : w.base = .str t) : g.same v w = true ↔ v.base = .str t := by
  have hatom : w.atom? = some (.text t) := Value.atom?_eq_text_iff.mpr hw
  have hequal : g.equalWithin true g.equalityDepth v w = .ok true ↔
      ∃ x, w.atom? = some x ∧ v.atom? = some x :=
    equalWithin_succ_of_atom fun r s _ hs => (nomatch hw.symm.trans hs)
  rw [same_iff, hequal, hatom, ← Value.atom?_eq_text_iff]
  constructor
  · rintro (rfl | ⟨x, hx, hv⟩)
    · exact hatom
    · rwa [hx]
  · exact fun hv => .inr ⟨_, rfl, hv⟩

end Text

/-- Being the same key is symmetric. -/
theorem same_symm (hg : g.WellFormed) {v w : Value} (hv : g.isKey v = true)
    (hw : g.isKey w = true) (h : g.same v w = true) : g.same w v = true := by
  rw [same_eq_true_iff hw hv]
  exact (agree_symm_and_trans hg (Nat.le_refl _)).1 v w ((same_eq_true_iff hv hw).mp h)

/-- Being the same key is transitive. -/
theorem same_trans (hg : g.WellFormed) {u v w : Value} (hu : g.isKey u = true)
    (hv : g.isKey v = true) (hw : g.isKey w = true) (h : g.same u v = true)
    (h' : g.same v w = true) : g.same u w = true := by
  rw [same_eq_true_iff hu hw]
  exact (agree_symm_and_trans hg (Nat.le_refl _)).2 u v w ((same_eq_true_iff hu hv).mp h)
    ((same_eq_true_iff hv hw).mp h')

/-! ### Sets of keys -/

/-- Two lists of keys hold the same keys. -/
structure SameKeys (g : Store) (ks ls : List Value) : Prop where
  left : ∀ k ∈ ks, ∃ l ∈ ls, g.same k l = true
  right : ∀ l ∈ ls, ∃ k ∈ ks, g.same k l = true

/-- Different texts are apart. -/
theorem keysApart_of_nodup {texts : List String} (h : texts.Nodup) :
    g.KeysApart (texts.map Value.str) where
  isKey k hk := by
    obtain ⟨s, -, rfl⟩ := List.mem_map.mp hk
    exact g.isKey_of_str? rfl
  apart := by
    refine List.pairwise_map.mpr (h.imp fun {s t} hne => ?_)
    rw [← Bool.not_eq_true]
    exact fun hsame => hne (Option.some.inj (str?_eq_of_same hsame))

/-- Whether the object is a list, or a mapping whose keys are texts, no two of them the same. -/
def hasTextKeys : Object → Bool
  | .mapping _ es => decide (es.map Prod.fst).Nodup &&
      es.all fun e => e.1 == .str (e.1.str?.getD "")
  | .list _ => true
  | _ => false

/-- A store of lists and of mappings whose keys are different texts is well-formed. -/
theorem wellFormed_of_hasTextKeys (h : g.objects.toList.all hasTextKeys = true) : g.WellFormed where
  mapping {r kind es} hr := by
    have hes := List.all_eq_true.mp h _ (Array.mem_of_getElem? hr).val
    simp only [hasTextKeys, Bool.and_eq_true, decide_eq_true_eq, List.all_eq_true,
      beq_iff_eq] at hes
    have hkeys : es.map Prod.fst = (es.map (·.1.str?.getD "")).map Value.str := by
      rw [List.map_map]
      exact List.map_congr_left hes.2
    have hnodup := hes.1
    rw [hkeys] at hnodup ⊢
    exact keysApart_of_nodup
      (List.Pairwise.of_map Value.str (fun _ _ hne heq => hne (heq ▸ rfl)) hnodup)
  set hr := nomatch List.all_eq_true.mp h _ (Array.mem_of_getElem? hr).val
  schema hr := nomatch List.all_eq_true.mp h _ (Array.mem_of_getElem? hr).val
  violation hr := nomatch List.all_eq_true.mp h _ (Array.mem_of_getElem? hr).val

theorem lookup?_cons {α : Type} {key k : Value} {v : α} {es : List (Value × α)} :
    g.lookup? ((k, v) :: es) key = if g.same key k then some v else g.lookup? es key := by
  rw [lookup?, lookup?, List.find?_cons]
  cases g.same key k <;> rfl

theorem lookup?_eq_none_iff {key : Value} {es : Entries} :
    g.lookup? es key = none ↔ ∀ e ∈ es, g.same key e.1 = false := by
  simp [lookup?]

/-- What was put under a key is found there. -/
theorem lookup?_insert_self (key value : Value) (es : Entries) :
    g.lookup? (g.insert key value es) key = some value := by
  have hsame : g.same key key = true := by simp [same]
  induction es with
  | nil => rw [insert, lookup?_cons, if_pos hsame]
  | cons e es ih =>
    obtain ⟨k, v⟩ := e
    rw [insert]
    split_ifs with h
    · rw [lookup?_cons, if_pos h]
    · rw [lookup?_cons, if_neg h, ih]

/-- An entry whose key is not there yet comes last. -/
theorem insert_eq_append {key : Value} {es : Entries} (h : ∀ e ∈ es, g.same key e.1 = false)
    (value : Value) : g.insert key value es = es ++ [(key, value)] := by
  induction es with
  | nil => rfl
  | cons e es ih =>
    obtain ⟨k, v⟩ := e
    rw [List.forall_mem_cons] at h
    rw [insert, if_neg (by simp [h.1]), ih h.2, List.cons_append]

/-- The keys of a mapping after an entry was put into it: those it had, and the new one at the
end if it had none that is the same. -/
theorem map_fst_insert (key value : Value) (es : Entries) :
    (g.insert key value es).map Prod.fst =
      if (es.map Prod.fst).any (g.same key) then es.map Prod.fst else es.map Prod.fst ++ [key] := by
  induction es with
  | nil => rfl
  | cons e es ih =>
    obtain ⟨k, v⟩ := e
    rw [insert]
    cases hsame : g.same key k with
    | true => simp [hsame]
    | false =>
      rw [if_neg Bool.false_ne_true, List.map_cons, ih, List.map_cons, List.any_cons, hsame,
        Bool.false_or, apply_ite (List.cons k), List.cons_append]

/-- **Mappings keep their keys apart** when an entry is put into them. -/
theorem KeysApart.insert (hg : g.WellFormed) {es : Entries} (hes : g.KeysApart (es.map Prod.fst))
    {key : Value} (hkey : g.isKey key = true) (value : Value) :
    g.KeysApart ((g.insert key value es).map Prod.fst) := by
  rw [map_fst_insert]
  split_ifs with hknown
  · exact hes
  · rw [Bool.not_eq_true, List.any_eq_false] at hknown
    refine ⟨fun k hk => ?_, List.pairwise_append.mpr ⟨hes.apart, List.pairwise_singleton _ _, ?_⟩⟩
    · rcases List.mem_append.mp hk with hk | hk
      · exact hes.isKey k hk
      · exact List.mem_singleton.mp hk ▸ hkey
    · intro k hk l hl
      rw [List.mem_singleton.mp hl, ← Bool.not_eq_true]
      exact fun hsame => hknown k hk (same_symm hg (hes.isKey k hk) hkey hsame)

/-- Taking the entries of a key out of a mapping leaves its keys apart. -/
theorem KeysApart.erase {es : Entries} (hes : g.KeysApart (es.map Prod.fst)) (key : Value) :
    g.KeysApart ((g.erase key es).map Prod.fst) :=
  hes.sublist (List.filter_sublist.map Prod.fst)

/-- Of keys that are apart, no two are the same key as a third. -/
theorem KeysApart.pairwise_not_same (hg : g.WellFormed) {ks : List Value} (hks : g.KeysApart ks) :
    ks.Pairwise fun k k' => ∀ l, g.isKey l = true → g.same k l = true → ¬ g.same k' l = true := by
  refine hks.apart.imp_of_mem fun {k k'} hk hk' hkk' l hl hkl hk'l => ?_
  have hlk' := same_symm hg (hks.isKey k' hk') hl hk'l
  have h := same_trans hg (hks.isKey k hk) hl (hks.isKey k' hk') hkl hlk'
  rw [hkk'] at h
  cases h

/-- **Counting finds missing keys.** Keys that are apart hold the same keys as others exactly if
they are as many as these and each of them is known among them. -/
theorem sameKeys_iff_length_eq (hg : g.WellFormed) {ks ls : List Value} (hks : g.KeysApart ks)
    (hls : g.KeysApart ls) :
    g.SameKeys ks ls ↔ ls.length = ks.length ∧ ∀ k ∈ ks, ∃ l ∈ ls, g.same k l = true := by
  constructor
  · rintro ⟨hknown, hfound⟩
    refine ⟨Nat.le_antisymm ?_ ?_, hknown⟩
    · refine length_le_of_match (R := fun l k => g.same l k = true) (fun l hl => ?_)
        ((hls.pairwise_not_same hg).imp fun h k hk => h k (hks.isKey k hk))
      obtain ⟨k, hk, hkl⟩ := hfound l hl
      exact ⟨k, hk, same_symm hg (hks.isKey k hk) (hls.isKey l hl) hkl⟩
    · exact length_le_of_match hknown
        ((hks.pairwise_not_same hg).imp fun h l hl => h l (hls.isKey l hl))
  · rintro ⟨hlen, hknown⟩
    exact ⟨hknown, exists_match_of_length_le (Nat.le_of_eq hlen) hknown
      ((hks.pairwise_not_same hg).imp fun h l hl => h l (hls.isKey l hl))⟩

end Store

end Conformance
