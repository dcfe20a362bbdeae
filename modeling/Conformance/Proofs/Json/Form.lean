import Conformance.Proofs.Json.Quoted
import Conformance.Proofs.Text.CodePoint

/-!
# Values that are read as they are

What is read in the place of a JSON value is the value itself exactly if it keeps its form: if its
floating-point numbers are written with a point, and if its texts and keys have no characters that
are written as two halves of a pair of surrogates. No other value would do in its place: what a
store holds at a reference is one JSON value only.

## Main results

* `Json.same_texts` — texts are the same key exactly if they have the same code points.
* `Json.units_eq_self_iff` — a text is read as it is exactly if no character of it is a pair.
* `Json.foldl_insertEntry` — entries with distinct keys stay as they are when they are merged.
* `Json.isAt_iff` — a value is what has been read in its place exactly if it keeps its form.
-/

namespace Conformance

namespace Json

/-! ### Texts -/

theorem isPoint_of_mem_map_val {s : List CodePoint} : ∀ n ∈ s.map Fin.val, Text.IsPoint n := by
  intro n hn
  obtain ⟨p, -, rfl⟩ := List.mem_map.mp hn
  exact p.isLt

theorem map_val_inj {s t : List CodePoint} : s.map Fin.val = t.map Fin.val ↔ s = t :=
  (List.map_injective_iff.mpr Fin.val_injective).eq_iff

/-- Texts are the same key exactly if they have the same code points. -/
theorem same_texts (g : Store) {s t : List CodePoint} :
    g.same (.ofPoints (s.map Fin.val)) (.ofPoints (t.map Fin.val)) = true ↔ s = t :=
  (Value.same_ofPoints g isPoint_of_mem_map_val isPoint_of_mem_map_val).trans map_val_inj

theorem ofPoints_inj {s t : List CodePoint} :
    Value.ofPoints (s.map Fin.val) = Value.ofPoints (t.map Fin.val) ↔ s = t := by
  refine ⟨fun h => (same_texts {}).mp ?_, fun h => h ▸ rfl⟩
  rw [h, Store.same_iff]
  exact .inl rfl

theorem ofPoints_ne_real {points : List ℕ} {y : Binary64} {mark : ℕ} :
    Value.ofPoints points ≠ .real y mark := by
  rw [Value.ofPoints]
  split <;> simp

theorem units_cons (p : CodePoint) (s : List CodePoint) :
    units (p :: s) = p.units ++ units s := List.flatMap_cons

/-- A text is that of its units exactly if none of its characters is a pair of surrogates. -/
theorem units_eq_self_iff {s : List CodePoint} : units s = s ↔ ∀ p ∈ s, p.val < 0x10000 := by
  refine ⟨fun h p hp => mem_units_lt p (h.symm ▸ hp), fun h => ?_⟩
  induction s with
  | nil => rfl
  | cons p s ih =>
    obtain ⟨hp, hs⟩ := List.forall_mem_cons.mp h
    rw [units_cons, ih hs, CodePoint.units, if_pos hp]
    rfl

/-! ### Entries -/

section Entries

variable {entries acc : List (List CodePoint × Json)} {e : List CodePoint × Json}

theorem insertEntry_of_notMem (h : e.1 ∉ entries.map Prod.fst) :
    insertEntry entries e = entries ++ [e] := by
  induction entries with
  | nil => rfl
  | cons x es ih =>
    rw [List.map_cons, List.mem_cons, not_or] at h
    rw [insertEntry, if_neg h.1, ih h.2]
    rfl

/-- Entries with distinct keys stay as they are when they are put together one by one. -/
theorem foldl_insertEntry (h : ((acc ++ entries).map Prod.fst).Nodup) :
    entries.foldl insertEntry acc = acc ++ entries := by
  induction entries generalizing acc with
  | nil => exact (List.append_nil acc).symm
  | cons e es ih =>
    have hacc : e.1 ∉ acc.map Prod.fst := by
      intro hmem
      rw [List.map_append, List.nodup_append] at h
      exact h.2.2 e.1 hmem e.1 List.mem_cons_self rfl
    rw [List.append_cons] at h ⊢
    rw [List.foldl_cons, insertEntry_of_notMem hacc, ih h]

theorem mem_keys_insertEntry {k : List CodePoint} (hk : k ∈ (insertEntry entries e).map Prod.fst) :
    k = e.1 ∨ k ∈ entries.map Prod.fst := by
  induction entries with
  | nil => exact .inl (List.mem_singleton.mp hk)
  | cons x es ih =>
    rw [insertEntry] at hk
    split at hk
    · exact .inr hk
    · rcases List.mem_cons.mp hk with rfl | hk
      · exact .inr List.mem_cons_self
      · exact (ih hk).imp_right (List.mem_cons_of_mem _)

theorem mem_keys_foldl {k : List CodePoint}
    (hk : k ∈ (entries.foldl insertEntry acc).map Prod.fst) :
    k ∈ acc.map Prod.fst ∨ k ∈ entries.map Prod.fst := by
  induction entries generalizing acc with
  | nil => exact .inl hk
  | cons e es ih =>
    rcases ih hk with h | h
    · exact (mem_keys_insertEntry h).symm.imp_right fun h => List.mem_cons.mpr (.inl h)
    · exact .inr (List.mem_cons_of_mem _ h)

/-- Entries whose keys have no pairs of surrogates are read as entries with the same keys. -/
theorem foldl_entriesAsRead (hdistinct : (entries.map Prod.fst).Nodup)
    (h : ∀ e ∈ entries, ∀ p ∈ e.1, p.val < 0x10000) :
    (entriesAsRead entries).foldl insertEntry [] = entries.map fun e => (e.1, e.2.asRead) := by
  have hmap : entriesAsRead entries = entries.map fun e => (e.1, e.2.asRead) := by
    rw [entriesAsRead_eq_map]
    exact List.map_congr_left fun e he => by rw [units_eq_self_iff.mpr (h e he)]
  rw [hmap, foldl_insertEntry, List.nil_append]
  simpa [Function.comp_def] using hdistinct

/-- No key that is read has a character that is a pair of surrogates. -/
theorem lt_of_mem_keys_asRead {k : List CodePoint}
    (hk : k ∈ ((entriesAsRead entries).foldl insertEntry []).map Prod.fst) :
    ∀ p ∈ k, p.val < 0x10000 := by
  have hmem := (mem_keys_foldl hk).resolve_left List.not_mem_nil
  rw [entriesAsRead_eq_map, List.map_map] at hmem
  obtain ⟨e, -, rfl⟩ := List.mem_map.mp hmem
  exact mem_units_lt

end Entries

/-! ### Values -/

/-- A value that keeps its form is read as it is. -/
theorem asRead_eq_self {v : Json} (hdistinct : v.HasDistinctKeys) (h : v.KeepsForm) :
    v.asRead = v := by
  induction v using Json.induction with
  | float negative m e hm => exact if_pos h
  | str s => rw [asRead, units_eq_self_iff.mpr h]
  | array items ih =>
    rw [asRead, itemsAsRead_eq_map]
    refine congrArg array ((List.map_congr_left fun v hv => ?_).trans (List.map_id items))
    exact ih v hv ((all_array.mp hdistinct).2 v hv) ((all_array.mp h).2 v hv)
  | object entries ih =>
    obtain ⟨hkeys, hdistinct⟩ := all_object.mp hdistinct
    obtain ⟨hplane, h⟩ := all_object.mp h
    rw [asRead, foldl_entriesAsRead hkeys hplane]
    refine congrArg object ((List.map_congr_left fun e he => ?_).trans (List.map_id entries))
    rw [ih e he (hdistinct e he) (h e he)]
    rfl
  | _ => rfl

/-- What holds of each item of a list that is related in two ways to another list one by one. -/
theorem forall_mem_of_forall₂ {α β : Type} {R S : α → β → Prop} {P : α → Prop} {as : List α}
    {bs : List β} (h : ∀ a ∈ as, ∀ b, R a b → S a b → P a) (hR : List.Forall₂ R as bs)
    (hS : List.Forall₂ S as bs) : ∀ a ∈ as, P a := by
  induction hR with
  | nil => exact fun _ ha => nomatch ha
  | cons hab _ ih =>
    cases hS with
    | cons hab' hS =>
      obtain ⟨ha, has⟩ := List.forall_mem_cons.mp h
      exact List.forall_mem_cons.mpr ⟨ha _ hab hab', ih has hS⟩

/-- Entries that are in one place have the same keys. -/
theorem keys_eq_of_entryAt {g : Store} {es es' : List (List CodePoint × Json)} {xs : Entries}
    (h : List.Forall₂ (EntryAt g) es xs) (h' : List.Forall₂ (EntryAt g) es' xs) :
    es.map Prod.fst = es'.map Prod.fst := by
  induction h generalizing es' with
  | nil =>
    cases h'
    rfl
  | cons he _ ih =>
    cases h' with
    | cons he' h' =>
      rw [List.map_cons, List.map_cons, ih h', ofPoints_inj.mp (he.1.symm.trans he'.1)]

/-- A value that is what has been read in its place keeps its form. -/
theorem keepsForm_of_isAt {g : Store} {v : Json} {x : Value} (hdistinct : v.HasDistinctKeys)
    (hread : v.asRead.IsAt g x) (h : v.IsAt g x) : v.KeepsForm := by
  induction v using Json.induction generalizing x with
  | float negative m e hm =>
    by_contra hpoint
    have hpoint' : '.' ∉ (Binary64.finite negative m e).text.toList := hpoint
    rw [asRead, if_neg hpoint', IsAt] at hread
    exact ofPoints_ne_real (hread.symm.trans h)
  | str s =>
    rw [asRead, IsAt] at hread
    exact units_eq_self_iff.mp (ofPoints_inj.mp (hread.symm.trans h))
  | array items ih =>
    obtain ⟨r, xs, rfl, ho, hxs⟩ := hread
    obtain ⟨s, ys, hs, ho', hys⟩ := h
    cases hs
    cases ho.symm.trans ho'
    rw [areAt_iff, itemsAsRead_eq_map, List.forall₂_map_left_iff] at hxs
    refine all_array.mpr ⟨trivial, forall_mem_of_forall₂ (fun v hv x => ?_) hxs (areAt_iff.mp hys)⟩
    exact ih v hv ((all_array.mp hdistinct).2 v hv)
  | object entries ih =>
    obtain ⟨r, xs, rfl, ho, hxs⟩ := hread
    obtain ⟨s, ys, hs, ho', hys⟩ := h
    cases hs
    cases ho.symm.trans ho'
    rw [entriesAt_iff] at hxs hys
    obtain ⟨hkeys, hdistinct⟩ := all_object.mp hdistinct
    have hplane : ∀ e ∈ entries, ∀ p ∈ e.1, p.val < 0x10000 := by
      intro e he
      have hkey : e.1 ∈ ((entriesAsRead entries).foldl insertEntry []).map Prod.fst := by
        rw [keys_eq_of_entryAt hxs hys]
        exact List.mem_map_of_mem he
      exact lt_of_mem_keys_asRead hkey
    rw [foldl_entriesAsRead hkeys hplane, List.forall₂_map_left_iff] at hxs
    refine all_object.mpr ⟨hplane, forall_mem_of_forall₂ (fun e he x hx hy => ?_) hxs hys⟩
    exact ih e he (hdistinct e he) hx.2 hy.2
  | _ => trivial

/-- **A value is what has been read in its place exactly if it keeps its form.** -/
theorem isAt_iff {g : Store} {v : Json} {x : Value} (hdistinct : v.HasDistinctKeys)
    (hread : v.asRead.IsAt g x) : v.IsAt g x ↔ v.KeepsForm := by
  refine ⟨keepsForm_of_isAt hdistinct hread, fun h => ?_⟩
  rwa [asRead_eq_self hdistinct h] at hread

end Json

end Conformance
