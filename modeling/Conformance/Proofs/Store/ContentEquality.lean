import Conformance.Marker.Acceptance
import Conformance.Proofs.Store.Content
import Conformance.Proofs.Store.KeyEquality

/-!
# Equality and content

Values of the same content are equal, and each of them compares in the same way with any other
value: with the same answer, and with the same failure where there is none. So no marker tells them
apart, and as keys they are the same.

A comparison goes through containers to a bounded depth. No content is deeper than there are
objects, since each of them is passed once at most, and a comparison goes deeper than that. Where one
of two items is the very object that the other is compared with, the comparison of this pair is cut
short; that of the other pair has to be gone through, and its answer is the same, because an item
equals whatever has the same content. The two facts are therefore proved together, by induction on
the depth.

A mapping is compared with another one by looking each of its keys up among those of the other. That
the entry at the same place is found, and none before it, rests on the keys of a mapping being
apart.

## Main results

* `Store.indistinct_of_content_eq` — values of the same content are equal and compare alike.
* `Store.same_of_content_eq` — they are the same key.
* `Marker.accepts_eq_of_content_eq` — no marker tells them apart.
-/

namespace Conformance

/-! ### Comparing containers -/

section Comparing

variable {R : Value → Value → Prop} {same : Value → Value → Comparison}
  {sameKey : Value → Value → Bool} {x y z : Object} {xs ys zs : List Value} {es fs : Entries}

theorem allM_zip_eq_of_forall₂ (hsame : ∀ a b c, R b c → same a b = same a c)
    (h : List.Forall₂ R ys zs) (xs : List Value) :
    ((xs.zip ys).allM fun (x, y) => same x y) = (xs.zip zs).allM fun (x, y) => same x y := by
  induction h generalizing xs with
  | nil => rfl
  | cons hyz _ ih =>
    cases xs with
    | nil => rfl
    | cons x xs => simp only [List.zip_cons_cons, List.allM, hsame x _ _ hyz, ih]

theorem allM_zip_eq_ok_true (hsame : ∀ a b, R a b → same a b = .ok true)
    (h : List.Forall₂ R xs ys) :
    ((xs.zip ys).allM fun (x, y) => same x y) = (.ok true : Comparison) :=
  Comparison.allM_eq_ok_true_iff.mpr fun _ hxy => hsame _ _ (List.forall₂_zip h hxy)

/-- Among entries that correspond, a key that is looked up is found at the same place. -/
theorem find?_of_forall₂ {P : Value → Bool} (hP : ∀ a b, R a b → P a = P b)
    (h : List.Forall₂ (fun e f => R e.1 f.1 ∧ R e.2 f.2) es fs) :
    (es.find? (P ·.1) = none ∧ fs.find? (P ·.1) = none) ∨
      ∃ e f, es.find? (P ·.1) = some e ∧ fs.find? (P ·.1) = some f ∧ R e.2 f.2 := by
  induction h with
  | nil => exact .inl ⟨rfl, rfl⟩
  | @cons e f es fs hef _ ih =>
    have hhead := hP e.1 f.1 hef.1
    cases he : P e.1 with
    | true =>
      exact .inr ⟨e, f, List.find?_cons_of_pos he, List.find?_cons_of_pos (hhead ▸ he), hef.2⟩
    | false =>
      rwa [List.find?_cons_of_neg (by simp [he]), List.find?_cons_of_neg (by simp [← hhead, he])]

/-- Among entries that correspond to others, whose keys are apart, the key of one of those is found
at its own place. -/
theorem find?_self_of_forall₂ (hkey : ∀ a b, R a b → sameKey a b = true)
    (hcongr : ∀ a b c, R b c → sameKey a b = sameKey a c)
    (hapart : (es.map Prod.fst).Pairwise fun k l => sameKey l k = false)
    (h : List.Forall₂ (fun e f => R e.1 f.1 ∧ R e.2 f.2) es fs) :
    ∀ e ∈ es, ∃ f, fs.find? (sameKey e.1 ·.1) = some f ∧ R e.2 f.2 := by
  induction h with
  | nil => exact List.forall_mem_nil _
  | @cons e f es fs hef _ ih =>
    rw [List.map_cons, List.pairwise_cons] at hapart
    refine List.forall_mem_cons.mpr ⟨⟨f, List.find?_cons_of_pos (hkey _ _ hef.1), hef.2⟩, ?_⟩
    intro e' he'
    obtain ⟨f', hf', hvalue⟩ := ih hapart.2 e' he'
    refine ⟨f', ?_, hvalue⟩
    have hother : sameKey e'.1 f.1 = false := by
      rw [← hcongr e'.1 e.1 f.1 hef.1]
      exact hapart.1 e'.1 (List.mem_map_of_mem he')
    rw [List.find?_cons_of_neg (by simp [hother]), hf']

theorem entriesAgree_eq_of_forall₂ (hsame : ∀ a b c, R b c → same a b = same a c)
    (hkey : ∀ a b c, R b c → sameKey a b = sameKey a c)
    (h : List.Forall₂ (fun e f => R e.1 f.1 ∧ R e.2 f.2) es fs) (ds : Entries) :
    entriesAgree sameKey same ds es = entriesAgree sameKey same ds fs := by
  rw [entriesAgree, entriesAgree, h.length_eq]
  congr 2
  funext ⟨k, v⟩
  obtain ⟨he, hf⟩ | ⟨e, f, he, hf, hvalue⟩ := find?_of_forall₂ (hkey k) h
  · simp only [he, hf]
  · simp only [he, hf, hsame v _ _ hvalue]

theorem entriesAgree_eq_ok_true (hsame : ∀ a b, R a b → same a b = .ok true)
    (hkey : ∀ a b, R a b → sameKey a b = true)
    (hcongr : ∀ a b c, R b c → sameKey a b = sameKey a c)
    (hapart : (es.map Prod.fst).Pairwise fun k l => sameKey l k = false)
    (h : List.Forall₂ (fun e f => R e.1 f.1 ∧ R e.2 f.2) es fs) :
    entriesAgree sameKey same es fs = .ok true := by
  rw [entriesAgree, if_pos h.length_eq, Comparison.allM_eq_ok_true_iff]
  intro e he
  obtain ⟨f, hf, hvalue⟩ := find?_self_of_forall₂ hkey hcongr hapart h e he
  simp only [hf, hsame _ _ hvalue]

/-- A key that is looked for is found among values or not, whichever of those that correspond. -/
theorem any_eq_of_forall₂ {P : Value → Bool} (hP : ∀ a b, R a b → P a = P b)
    (h : List.Forall₂ R ys zs) : ys.any P = zs.any P := by
  induction h with
  | nil => rfl
  | cons hyz _ ih => rw [List.any_cons, List.any_cons, hP _ _ hyz, ih]

/-- Each of some values has its counterpart among those that correspond. -/
theorem all_any_of_forall₂ (hkey : ∀ a b, R a b → sameKey a b = true)
    (h : List.Forall₂ R xs ys) : (xs.all fun x => ys.any (sameKey x)) = true := by
  rw [List.all_eq_true]
  induction h with
  | nil => exact List.forall_mem_nil _
  | cons hxy _ ih =>
    refine List.forall_mem_cons.mpr ⟨?_, fun x hx => ?_⟩
    · rw [List.any_cons, hkey _ _ hxy, Bool.true_or]
    · rw [List.any_cons, ih x hx, Bool.or_true]

theorem forall₂_map_fst (h : List.Forall₂ (fun e f => R e.1 f.1 ∧ R e.2 f.2) es fs) :
    List.Forall₂ R (es.map Prod.fst) (fs.map Prod.fst) := by
  rw [List.forall₂_map_left_iff, List.forall₂_map_right_iff]
  exact h.imp fun _ _ => And.left

namespace Object

theorem Corresponds.symm (h : x.Corresponds R y) : y.Corresponds (fun a b => R b a) x := by
  cases h with
  | list h => exact .list h.flip
  | tuple h => exact .tuple h.flip
  | set frozen h => exact .set frozen h.flip
  | mapping kind h => exact .mapping kind h.flip

/-- An object compares alike with containers that correspond. -/
theorem sameBy_eq_of_corresponds (h : y.Corresponds R z)
    (hsame : ∀ a b c, R b c → same a b = same a c)
    (hkey : ∀ a b c, R b c → sameKey a b = sameKey a c) :
    x.sameBy same sameKey y = x.sameBy same sameKey z := by
  cases h with
  | list h =>
    cases x with
    | list xs =>
      rw [sameBy, sameBy, listsAgree, listsAgree, h.length_eq, allM_zip_eq_of_forall₂ hsame h]
    | mapping kind => cases kind <;> rfl
    | _ => rfl
  | tuple h =>
    cases x with
    | tuple xs =>
      rw [sameBy, sameBy, tuplesAgree, tuplesAgree, h.length_eq, allM_zip_eq_of_forall₂ hsame h]
    | mapping kind => cases kind <;> rfl
    | _ => rfl
  | set frozen h =>
    cases x with
    | set frozen xs =>
      rw [sameBy, sameBy, h.length_eq]
      simp only [any_eq_of_forall₂ (hkey _) h]
    | mapping kind => cases kind <;> rfl
    | _ => rfl
  | @mapping kind fs fs' h =>
    cases x with
    | mapping kind' es =>
      have hkeys := forall₂_map_fst h
      have hentries := entriesAgree_eq_of_forall₂ hsame hkey h es
      have hlists : listsAgree same (es.map Prod.fst) (fs.map Prod.fst) =
          listsAgree same (es.map Prod.fst) (fs'.map Prod.fst) := by
        rw [listsAgree, listsAgree, hkeys.length_eq, allM_zip_eq_of_forall₂ hsame hkeys]
      cases kind' <;> cases kind <;> simp only [sameBy, hentries, hlists]
    | _ => cases kind <;> rfl

/-- Containers that correspond are equal. -/
theorem sameBy_eq_ok_true_of_corresponds (h : x.Corresponds R y)
    (hsame : ∀ a b, R a b → same a b = .ok true) (hkey : ∀ a b, R a b → sameKey a b = true)
    (hcongr : ∀ a b c, R b c → sameKey a b = sameKey a c)
    (hapart : ∀ kind es, x = .mapping kind es →
      (es.map Prod.fst).Pairwise fun k l => sameKey l k = false) :
    x.sameBy same sameKey y = .ok true := by
  cases h with
  | list h => rw [sameBy, listsAgree, if_pos h.length_eq, allM_zip_eq_ok_true hsame h]
  | tuple h =>
    rw [sameBy, tuplesAgree, allM_zip_eq_ok_true hsame h, h.length_eq]
    simp [bind, Except.bind, pure, Except.pure]
  | set frozen h =>
    rw [sameBy, h.length_eq, all_any_of_forall₂ hkey h]
    simp [pure, Except.pure]
  | @mapping kind es fs h =>
    have hkeys := forall₂_map_fst h
    have hentries : entriesAgree sameKey same es fs = .ok true :=
      entriesAgree_eq_ok_true hsame hkey hcongr (hapart kind es rfl) h
    have hlists : listsAgree same (es.map Prod.fst) (fs.map Prod.fst) = .ok true := by
      rw [listsAgree, if_pos hkeys.length_eq, allM_zip_eq_ok_true hsame hkeys]
    cases kind with
    | ordered => simp only [sameBy, hentries, hlists, bind, Except.bind, if_pos]
    | _ => simp only [sameBy, hentries]

end Object

end Comparing

namespace Store

variable {g : Store} {p q : List Ref} {v w : Value} {keys : Bool} {n : Nat}

/-! ### Values -/

/-- What holds of a comparison to some depth for two values of the same content: they are one value
or equal, and no value tells them apart. -/
structure Indistinct (g : Store) (keys : Bool) (n : Nat) (v w : Value) : Prop where
  eq_or : v = w ∨ g.equalWithin keys n v w = .ok true
  eq_or' : w = v ∨ g.equalWithin keys n w v = .ok true
  congr : ∀ a, g.equalWithin keys n a v = g.equalWithin keys n a w

namespace Indistinct

theorem refl (v : Value) : g.Indistinct keys n v v := ⟨.inl rfl, .inl rfl, fun _ => rfl⟩

theorem symm (h : g.Indistinct keys n v w) : g.Indistinct keys n w v :=
  ⟨h.eq_or', h.eq_or, fun a => (h.congr a).symm⟩

/-- Inside a container they are equal. -/
theorem item_eq_ok_true (h : g.Indistinct keys n v w) :
    (if v = w then pure true else g.equalWithin keys n v w : Comparison) = .ok true := by
  split_ifs with hvw
  · rfl
  · exact h.eq_or.resolve_left hvw

/-- Inside a container no value tells them apart. -/
theorem item_congr (h : g.Indistinct keys n v w) (a : Value) :
    (if a = v then pure true else g.equalWithin keys n a v : Comparison) =
      if a = w then pure true else g.equalWithin keys n a w := by
  by_cases hv : a = v
  · subst hv
    rw [if_pos rfl, h.item_eq_ok_true]
    rfl
  by_cases hw : a = w
  · subst hw
    rw [if_pos rfl, h.symm.item_eq_ok_true]
    rfl
  · rw [if_neg hv, if_neg hw, h.congr]

end Indistinct

/-- Being the same key to some depth. -/
def sameWithin (g : Store) (n : Nat) (v w : Value) : Bool :=
  v == w || g.equalWithin true n v w matches .ok true

theorem sameWithin_iff :
    g.sameWithin n v w = true ↔ v = w ∨ g.equalWithin true n v w = .ok true := by
  rw [sameWithin, Bool.or_eq_true, beq_iff_eq]
  split <;> simp_all

theorem Indistinct.sameWithin_congr (h : g.Indistinct true n v w) (a : Value) :
    g.sameWithin n a v = g.sameWithin n a w := by
  have hiff (u : Value) : g.sameWithin n a u = true ↔
      (if a = u then pure true else g.equalWithin true n a u : Comparison) = .ok true := by
    rw [sameWithin_iff]
    by_cases hu : a = u <;> simp [hu, pure, Except.pure]
  rw [Bool.eq_iff_iff, hiff, hiff, h.item_congr]

section Step

variable {r s : Ref} {x y : Object}

/-- Two objects that are compared to some depth are one, or what they hold is compared to the depth
before. -/
theorem equalWithin_succ_of_objects (hv : v.base = .ref r) (hw : w.base = .ref s)
    (hx : g.objects[r]? = some x) (hy : g.objects[s]? = some y) :
    g.equalWithin keys (n + 1) v w =
      if r = s then pure true
      else x.sameBy (fun a b => if a = b then pure true else g.equalWithin keys n a b)
        (g.sameWithin n) y := by
  have hnumber : v.isNumber = false := by simp [Value.isNumber, hv]
  rw [equalWithin, hnumber]
  simp only [Bool.false_and, Bool.false_eq_true, if_false, hv, hw, hx, hy]
  rfl

/-- A value that is no object equals none. -/
theorem equalWithin_succ_of_not_object (hv : ∀ r x, v.base = .ref r → g.objects[r]? ≠ some x)
    (hw : w.base = .ref s) (hy : g.objects[s]? = some y) :
    g.equalWithin keys (n + 1) v w = .ok false := by
  have hnumber : w.isNumber = false := by simp [Value.isNumber, hw]
  have hday : v.isDayOf w = false := by
    unfold Value.isDayOf
    split
    · next hmoment _ => cases hw.symm.trans hmoment
    · rfl
  rw [equalWithin, hnumber, Bool.and_false, if_neg Bool.false_ne_true, hday]
  simp only [hw, Bool.and_false, Bool.or_false]
  split
  · next r s' hr hs =>
    cases hs
    rw [if_neg]
    · split
      · next hx _ => exact absurd hx (hv r _ hr)
      · rfl
    · rintro rfl
      exact hv r y hr hy
  · have hatom : v.base.sameAtom (.ref s) = false := by cases v.base <;> rfl
    rw [hatom]
    rfl

/-- To a depth at which equality is settled, the keys of a mapping are apart. -/
theorem pairwise_not_sameWithin {kind : MappingKind} {es : Entries} (hg : g.WellFormed)
    (hn : n ≤ g.equalityDepth) (hr : g.objects[r]? = some (.mapping kind es)) :
    (es.map Prod.fst).Pairwise fun k l => g.sameWithin n l k = false := by
  have hkeys := hg.mapping hr
  refine (hkeys.pairwise_not_agree hg hn).imp_of_mem fun {k l} hk hl hne => ?_
  rw [← Bool.not_eq_true, sameWithin_iff]
  intro hsame
  have hagree : g.Agree n l k :=
    ⟨isHashable_of_isKey (hkeys.isKey l hl), isHashable_of_isKey (hkeys.isKey k hk), hsame⟩
  exact hne ((agree_symm_and_trans hg hn).1 l k hagree)

section Corresponding

variable {R : Value → Value → Prop} (hg : g.WellFormed) (hn : n ≤ g.equalityDepth)
include hg hn

/-- Two containers are equal if what is in them cannot be told apart to the depth before. -/
theorem equalWithin_succ_of_corresponds (hv : v.base = .ref r) (hw : w.base = .ref s)
    (hx : g.objects[r]? = some x) (hy : g.objects[s]? = some y) (h : x.Corresponds R y)
    (hR : ∀ keys a b, R a b → g.Indistinct keys n a b) :
    g.equalWithin keys (n + 1) v w = .ok true := by
  have hkey (a b : Value) (hab : R a b) : g.sameWithin n a b = true :=
    sameWithin_iff.mpr (hR true a b hab).eq_or
  have hcongr (a b c : Value) (hbc : R b c) : g.sameWithin n a b = g.sameWithin n a c :=
    (hR true b c hbc).sameWithin_congr a
  rw [equalWithin_succ_of_objects hv hw hx hy, Object.sameBy_eq_ok_true_of_corresponds h
    (fun a b hab => (hR keys a b hab).item_eq_ok_true) hkey hcongr]
  · exact ite_self _
  · rintro kind es rfl
    exact pairwise_not_sameWithin hg hn hx

/-- What is in two containers of the same content cannot be told apart to the depth before, so
neither can they. -/
theorem indistinct_succ_of_corresponds (hv : v.base = .ref r) (hw : w.base = .ref s)
    (hx : g.objects[r]? = some x) (hy : g.objects[s]? = some y) (h : x.Corresponds R y)
    (hR : ∀ keys a b, R a b → g.Indistinct keys n a b) : g.Indistinct keys (n + 1) v w := by
  have hequal : g.equalWithin keys (n + 1) v w = .ok true :=
    equalWithin_succ_of_corresponds hg hn hv hw hx hy h hR
  have hequal' : g.equalWithin keys (n + 1) w v = .ok true :=
    equalWithin_succ_of_corresponds hg hn hw hv hy hx h.symm fun keys a b hab =>
      (hR keys b a hab).symm
  refine ⟨.inr hequal, .inr hequal', fun a => ?_⟩
  by_cases hobject : ∃ t z, a.base = .ref t ∧ g.objects[t]? = some z
  · obtain ⟨t, z, ha, hz⟩ := hobject
    have hself : g.equalWithin keys (n + 1) a w = if t = s then .ok true else
        z.sameBy (fun a b => if a = b then pure true else g.equalWithin keys n a b)
          (g.sameWithin n) y := equalWithin_succ_of_objects ha hw hz hy
    have hself' : g.equalWithin keys (n + 1) a v = if t = r then .ok true else
        z.sameBy (fun a b => if a = b then pure true else g.equalWithin keys n a b)
          (g.sameWithin n) x := equalWithin_succ_of_objects ha hv hz hx
    by_cases hr : t = r
    · -- The comparison with `v` is cut short. That with `w` goes like the one of `v` with `w`.
      subst hr
      cases hx.symm.trans hz
      rw [equalWithin_succ_of_objects hv hw hx hy] at hequal
      rw [hself', if_pos rfl, hself]
      exact hequal.symm
    by_cases hs : t = s
    · subst hs
      cases hy.symm.trans hz
      rw [equalWithin_succ_of_objects hw hv hy hx] at hequal'
      rw [hself, if_pos rfl, hself']
      exact hequal'
    · rw [hself, hself', if_neg hr, if_neg hs]
      exact Object.sameBy_eq_of_corresponds h
        (fun a b c hbc => (hR keys b c hbc).item_congr a)
        fun a b c hbc => (hR true b c hbc).sameWithin_congr a
  · push Not at hobject
    rw [equalWithin_succ_of_not_object hobject hv hx, equalWithin_succ_of_not_object hobject hw hy]

end Corresponding

end Step

/-- **Values of the same content are equal and compare alike**, to every depth that is not less than
the number of objects. -/
theorem indistinct_of_content_eq (hg : g.WellFormed) (hn : n ≤ g.equalityDepth)
    (hp : g.unvisited p < n) (hq : g.unvisited q < n) (h : g.content p v = g.content q w) :
    g.Indistinct keys n v w := by
  induction n generalizing p q v w keys with
  | zero => exact absurd hp (Nat.not_lt_zero _)
  | succ n ih =>
    cases content_eq_cases h with
    | plain => exact .refl v
    | single => exact .refl v
    | container hr hs hx hy hrp hsq _ hheld =>
      have hr' := unvisited_cons_lt (Array.getElem?_eq_some_iff.mp hx).1 hrp
      have hs' := unvisited_cons_lt (Array.getElem?_eq_some_iff.mp hy).1 hsq
      exact indistinct_succ_of_corresponds hg (Nat.le_of_succ_le hn) hr hs hx hy hheld
        fun keys a b hab => ih (Nat.le_of_succ_le hn) (by omega) (by omega) hab

/-- Comparisons go deeper than there are objects. -/
theorem unvisited_nil_lt_equalityDepth (g : Store) : g.unvisited [] < g.equalityDepth := by
  have hsize : g.objects.size ≤ g.objects.size * g.objects.size := Nat.le_mul_self _
  have hle : g.unvisited [] ≤ g.objects.size := unvisited_le_size []
  rw [equalityDepth, Nat.mul_assoc]
  omega

theorem indistinct_of_content_eq_nil (hg : g.WellFormed) (keys : Bool)
    (h : g.content [] v = g.content [] w) : g.Indistinct keys g.equalityDepth v w :=
  indistinct_of_content_eq hg (Nat.le_refl _) g.unvisited_nil_lt_equalityDepth
    g.unvisited_nil_lt_equalityDepth h

/-! ### Keys -/

/-- Keys of the same content are the same key. -/
theorem same_of_content_eq (hg : g.WellFormed) (h : g.content [] v = g.content [] w) :
    g.same v w = true :=
  same_iff.mpr (indistinct_of_content_eq_nil hg true h).eq_or

/-- A key is looked up in the same way, whichever of those of its content it is. -/
theorem same_eq_of_content_eq (hg : g.WellFormed) {key : Value} (hv : g.isKey v = true)
    (hw : g.isKey w = true) (hkey : g.isKey key = true) (h : g.content [] v = g.content [] w) :
    g.same v key = g.same w key := by
  rw [Bool.eq_iff_iff]
  exact ⟨same_trans hg hw hv hkey (same_of_content_eq hg h.symm),
    same_trans hg hv hw hkey (same_of_content_eq hg h)⟩

end Store

/-! ### Markers -/

namespace Marker

variable {g : Store} {p q : List Ref} {v w : Value}

theorem sameValue_eq_of_content_eq (hg : g.WellFormed) (h : g.content [] v = g.content [] w)
    (allowed : Value) : sameValue g allowed v = sameValue g allowed w := by
  have hequal : g.equal allowed v = g.equal allowed w :=
    (Store.indistinct_of_content_eq_nil hg false h).congr allowed
  cases Store.content_eq_cases h with
  | plain => rfl
  | single => rfl
  | container hr hs =>
    have hbool : v.bool? = w.bool? := by rw [Value.bool?, Value.bool?, hr, hs]
    have hreal : v.real? = w.real? := by rw [Value.real?, Value.real?, hr, hs]
    rw [sameValue, sameValue, hbool, hreal, hequal]

/-- **No marker tells apart two values of the same content**: each accepts both, or neither, or it
fails on both in the same way. -/
theorem accepts_eq_of_content_eq (hg : g.WellFormed) (h : g.content [] v = g.content [] w)
    (m : Marker) : m.accepts g v = m.accepts g w := by
  cases m with
  | equal values =>
    rw [accepts, accepts]
    simp only [sameValue_eq_of_content_eq hg h]
  | promise =>
    rw [accepts, accepts]
    cases Store.content_eq_cases h with
    | plain => rfl
    | single => rfl
    | container hr hs hx hy _ _ _ hheld =>
      rw [Store.isAwaitable, Store.isAwaitable, Store.object?_of_base hr hx,
        Store.object?_of_base hs hy]
      cases hheld <;> rfl
  | unknown kind => rfl

end Marker

end Conformance
