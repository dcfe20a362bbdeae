import Mathlib
import Conformance.Proofs.Store.KeyEquality

/-!
# Chains of keys

A chain of keys leads from a mapping into the values inside it, one key for each mapping on the
way. It has a path, the texts of its keys joined one after the other, unless one of the keys has
no text. Going through a mapping in the order of its entries, and through the value of each
entry before the next one, comes to some chains before others. In a well-formed store, where no
mapping holds a key twice, this is an order; nothing is asked of cycles, since a chain is finite.

## Main definitions

* `Store.path?` — the path of a chain of keys below a path.
* `Store.KeyBefore` — one key of a mapping stands before another.
* `Store.Precedes` — going through a value comes to one chain before another.

## Main results

* `Store.Precedes.asymm` — of two chains at most one comes before the other.
-/

namespace Conformance

namespace Store

variable {g : Store}

/-! ### Paths -/

/-- The path of a chain of keys below a path. -/
def path? (g : Store) (above : Text) (keys : List Value) : Option Text :=
  keys.foldlM (fun path key => (g.str? key).map (Schema.joinPath path)) above

@[simp] theorem path?_nil (above : Text) : g.path? above [] = some above := rfl

theorem path?_cons (above : Text) (key : Value) (keys : List Value) :
    g.path? above (key :: keys) =
      ((g.str? key).map (Schema.joinPath above)).bind (g.path? · keys) := rfl

theorem path?_singleton (above : Text) (key : Value) :
    g.path? above [key] = (g.str? key).map (Schema.joinPath above) := by
  rw [path?_cons, funext path?_nil, Option.bind_fun_some]

theorem path?_append (above : Text) (keys keys' : List Value) :
    g.path? above (keys ++ keys') = (g.path? above keys).bind (g.path? · keys') := by
  rw [path?, List.foldlM_append]
  rfl

/-- A chain of keys has a path exactly if all of its keys have texts. -/
theorem exists_path?_eq_some_iff (above : Text) (keys : List Value) :
    (∃ path, g.path? above keys = some path) ↔ ∀ key ∈ keys, (g.str? key).isSome = true := by
  induction keys generalizing above with
  | nil => simp
  | cons key keys ih =>
    rw [path?_cons, List.forall_mem_cons]
    cases g.str? key with
    | none => simp
    | some text => simpa using ih (Schema.joinPath above text)

/-! ### The order of keys -/

/-- The first key stands before the second in a mapping with the given entries. -/
def KeyBefore (es : Entries) (k l : Value) : Prop := [k, l].Sublist (es.map Prod.fst)

/-- The entries of a mapping stand in the order of their keys. -/
theorem pairwise_keyBefore (es : Entries) : es.Pairwise fun e f => KeyBefore es e.1 f.1 := by
  rw [List.pairwise_iff_forall_sublist]
  intro e f hef
  exact hef.map Prod.fst

/-- The key of an entry stands before those of the entries after it. -/
theorem keyBefore_of_cons_sublist {es fs : Entries} {e f : Value × Value}
    (hsub : (e :: fs).Sublist es) (hf : f ∈ fs) : KeyBefore es e.1 f.1 := by
  have hpair : [e, f].Sublist (e :: fs) := (List.singleton_sublist.mpr hf).cons_cons e
  exact (hpair.trans hsub).map Prod.fst

/-- No key is held twice. -/
theorem KeysApart.nodup {ks : List Value} (h : g.KeysApart ks) : ks.Nodup := by
  refine h.apart.imp fun {k l} hkl => ?_
  rintro rfl
  simp [same] at hkl

/-- A key holds one value. -/
theorem KeysApart.value_unique {α : Type} {es : List (Value × α)}
    (h : g.KeysApart (es.map Prod.fst)) {k : Value} {v w : α} (hv : (k, v) ∈ es)
    (hw : (k, w) ∈ es) : v = w := by
  have hinj := List.inj_on_of_nodup_map h.nodup hv hw rfl
  exact congrArg Prod.snd hinj

/-- A key is the same as that of one value at most. -/
theorem KeysApart.value_unique_of_same (hg : g.WellFormed) {α : Type} {es : List (Value × α)}
    (h : g.KeysApart (es.map Prod.fst)) {key k l : Value} (hkey : g.isKey key = true) {v w : α}
    (hv : (k, v) ∈ es) (hw : (l, w) ∈ es) (hk : g.same key k = true) (hl : g.same key l = true) :
    v = w := by
  have hks : k ∈ es.map Prod.fst := List.mem_map_of_mem hv
  have hls : l ∈ es.map Prod.fst := List.mem_map_of_mem hw
  have hsymm : Std.Symm fun k l => ∀ x, g.isKey x = true → g.same k x = true →
      ¬ g.same l x = true := ⟨fun k l hkl x hx hlx hkx => hkl x hx hkx hlx⟩
  obtain rfl : k = l := by
    by_contra hne
    exact (h.pairwise_not_same hg).forall hks hls hne key hkey
      (same_symm hg hkey (h.isKey k hks) hk) (same_symm hg hkey (h.isKey l hls) hl)
  exact h.value_unique hv hw

theorem KeyBefore.asymm {es : Entries} (hes : g.KeysApart (es.map Prod.fst)) {k l : Value}
    (h : KeyBefore es k l) : ¬ KeyBefore es l k := by
  have hnodup := hes.nodup
  rw [KeyBefore] at h ⊢
  generalize es.map Prod.fst = ks at h hnodup
  induction ks with
  | nil => cases h
  | cons x ks ih =>
    obtain ⟨hx, hks⟩ := List.nodup_cons.mp hnodup
    intro h'
    cases h with
    | cons _ h =>
      cases h' with
      | cons _ h' => exact ih h hks h'
      | cons_cons _ h' => exact hx (h.subset (by simp))
    | cons_cons _ h =>
      cases h' with
      | cons _ h' => exact hx (h'.subset (by simp))
      | cons_cons _ h' => exact hx (h'.subset (by simp))

/-! ### The order of chains -/

/-- Going through a value comes to the first chain of keys before the second: the second goes
on from the first, or the two part in some mapping, at a key that stands before the other. -/
inductive Precedes (g : Store) : Value → List Value → List Value → Prop
  | above {v k : Value} {ks : List Value} : Precedes g v [] (k :: ks)
  | beside {v k l : Value} {es : Entries} {ks ls : List Value} (hes : g.entries? v = some es)
      (h : KeyBefore es k l) : Precedes g v (k :: ks) (l :: ls)
  | inside {v w k : Value} {es : Entries} {ks ls : List Value} (hes : g.entries? v = some es)
      (hmem : (k, w) ∈ es) (h : Precedes g w ks ls) : Precedes g v (k :: ks) (k :: ls)

theorem Precedes.asymm (hg : g.WellFormed) {v : Value} {ks ls : List Value}
    (h : g.Precedes v ks ls) : ¬ g.Precedes v ls ks := by
  induction h with
  | above =>
    intro h'
    cases h'
  | beside hes h =>
    intro h'
    have hapart := hg.keysApart_of_entries? hes
    cases h' with
    | beside hes' h' =>
      obtain rfl := Option.some.inj (hes.symm.trans hes')
      exact h.asymm hapart h'
    | inside => exact h.asymm hapart h
  | inside hes hmem h ih =>
    intro h'
    have hapart := hg.keysApart_of_entries? hes
    cases h' with
    | beside hes' h' =>
      obtain rfl := Option.some.inj (hes.symm.trans hes')
      exact h'.asymm hapart h'
    | inside hes' hmem' h' =>
      obtain rfl := Option.some.inj (hes.symm.trans hes')
      obtain rfl := hapart.value_unique hmem hmem'
      exact ih h'

end Store

end Conformance
