import Mathlib.Data.List.Perm.Basic
import Conformance.Proofs.Validation.Conformity
import Conformance.Proofs.Validation.Relating

/-!
# The order of keys

An element is gone through in the order of its own keys, so the order of what is reported is
theirs. Which violations are reported depends neither on it nor on the order of the children of the
schema: whether a key is known, which child it leads to and how many keys there are do not change
when keys change places. Only a length mismatch, which lists the keys on both sides, lists them in
another order. The children of the schema are never gone through, except for this listing, so their
order does not even change the order of a report.

Two checks are compared step by step. Either both have findings, and these are related, or neither
has; which of several failures ends a check may depend on the order.

## Main definitions

* `Schema.Rearranged` — two schemas that differ in the order of children.
* `Schema.Shuffles` — two values that differ in the order of keys at object nodes.
* `Violation.ListsAlike` — two violations that list the same keys.
* `Violation.Reordered` — the same violations in another order.

## Main results

* `Walk.found_rearranged` — another order of children changes listings only.
* `Walk.found_shuffled` — another order of keys changes the order of what is found.
* `Validator.check_rearranged` — what stays the same in a report.
-/

namespace Conformance

namespace Schema

/-- The two schemas differ in the order of the children of object nodes only. -/
inductive Rearranged : Schema → Schema → Prop
  | same {s : Schema} : Rearranged s s
  | object {name : Value} {cs ds : List (Value × Schema)}
      (hkeys : (cs.map Prod.fst).Perm (ds.map Prod.fst))
      (hchildren : ∀ k c d, (k, c) ∈ cs → (k, d) ∈ ds → Rearranged c d) :
      Rearranged (.object name cs) (.object name ds)

/-- The second value is the first one with the keys of some mappings at object nodes in another
order. What stands under keys that a node does not list does not matter. -/
inductive Shuffles (g : Store) : Schema → Value → Value → Prop
  | same {s : Schema} {v : Value} : Shuffles g s v v
  | object {name v w : Value} {children : List (Value × Schema)} {es fs : Entries}
      (hv : g.entries? v = some es) (hw : g.entries? w = some fs)
      (hkeys : (es.map Prod.fst).Perm (fs.map Prod.fst))
      (hvalues : ∀ k child, (k, child) ∈ children → ∀ key x y, (key, x) ∈ es → (key, y) ∈ fs →
        g.same key k = true → child.Shuffles g x y) :
      Shuffles g (.object name children) v w

variable {g : Store} {name : Value} {cs ds : List (Value × Schema)}

/-- Children that change places, and no more. -/
theorem Rearranged.of_perm (hcs : g.KeysApart (cs.map Prod.fst)) (h : cs.Perm ds) :
    (Schema.object name cs).Rearranged (.object name ds) :=
  .object (h.map Prod.fst) fun _ _ _ hc hd =>
    hcs.value_unique hc (h.mem_iff.mpr hd) ▸ .same

/-- What an object node is rearranged to. -/
theorem Rearranged.exists_children (hcs : g.KeysApart (cs.map Prod.fst)) {other : Schema}
    (h : (Schema.object name cs).Rearranged other) :
    ∃ ds, other = .object name ds ∧ (cs.map Prod.fst).Perm (ds.map Prod.fst) ∧
      ∀ k c d, (k, c) ∈ cs → (k, d) ∈ ds → c.Rearranged d := by
  cases h with
  | same => exact ⟨cs, rfl, .refl _, fun _ _ _ hc hd => hcs.value_unique hc hd ▸ .same⟩
  | object hkeys hchildren => exact ⟨_, rfl, hkeys, hchildren⟩

/-- Entries of a mapping that change places, and no more. -/
theorem Shuffles.of_perm (hg : g.WellFormed) {v w : Value} {es fs : Entries}
    (hv : g.entries? v = some es) (hw : g.entries? w = some fs) (h : es.Perm fs) :
    (Schema.object name cs).Shuffles g v w :=
  .object hv hw (h.map Prod.fst) fun _ _ _ _ _ _ hx hy _ =>
    (hg.keysApart_of_entries? hv).value_unique hx (h.mem_iff.mpr hy) ▸ .same

end Schema

namespace Violation

/-- The length mismatch of a node and a mapping, given the texts of their keys. -/
def ofKeyTexts (typeName : Value) (shownName path : Text) (expected actual : List Text) :
    Violation :=
  let expected := Text.joined " | " expected
  let actual := Text.joined " | " actual
  { kind := .lengthMismatch
    typeName := typeName
    message := .concat ["[", shownName, " - Strict mode] Invalid type length\n",
      "  Element has '", actual, "' keys but schema has '", expected, "' keys."]
    expected := .ofText expected
    actual := some actual
    path := path }

/-- The two violations are the same, or length mismatches that differ in the order in which the
keys are listed. -/
inductive ListsAlike : Violation → Violation → Prop
  | same {v : Violation} : ListsAlike v v
  | keys {typeName : Value} {shownName path : Text} {expected expected' actual actual' : List Text}
      (hexpected : expected.Perm expected') (hactual : actual.Perm actual') :
      ListsAlike (ofKeyTexts typeName shownName path expected actual)
        (ofKeyTexts typeName shownName path expected' actual')

/-- The second violations are the first ones in another order, up to listings. -/
def Reordered (vs ws : List Violation) : Prop :=
  ∃ us, vs.Perm us ∧ List.Forall₂ ListsAlike us ws

namespace Reordered

variable {vs vs' ws ws' : List Violation}

theorem of_forall₂ (h : List.Forall₂ ListsAlike vs ws) : Reordered vs ws := ⟨vs, .refl vs, h⟩

theorem nil : Reordered [] [] := of_forall₂ .nil

theorem append (h : Reordered vs ws) (h' : Reordered vs' ws') :
    Reordered (vs ++ vs') (ws ++ ws') := by
  obtain ⟨us, hperm, hlist⟩ := h
  obtain ⟨us', hperm', hlist'⟩ := h'
  exact ⟨us ++ us', hperm.append hperm', List.rel_append hlist hlist'⟩

/-- Violations that are reordered once more are reordered. -/
theorem perm (h : Reordered vs ws) (hws : ws.Perm ws') : Reordered vs ws' := by
  obtain ⟨us, hperm, hlist⟩ := h
  have hcomp : Relation.Comp (List.Forall₂ ListsAlike) List.Perm us ws' := ⟨ws, hlist, hws⟩
  rw [List.forall₂_comp_perm_eq_perm_comp_forall₂] at hcomp
  obtain ⟨us', hperm', hlist'⟩ := hcomp
  exact ⟨us', hperm.trans hperm', hlist'⟩

theorem isEmpty_eq (h : Reordered vs ws) : ws.isEmpty = vs.isEmpty := by
  obtain ⟨us, hperm, hlist⟩ := h
  rw [Bool.eq_iff_iff, List.isEmpty_iff_length_eq_zero, List.isEmpty_iff_length_eq_zero,
    ← hlist.length_eq, hperm.length_eq]

end Reordered

end Violation

theorem Store.KeysApart.perm {g : Store} (hg : g.WellFormed) {ks ls : List Value}
    (h : g.KeysApart ks) (hperm : ks.Perm ls) : g.KeysApart ls where
  isKey k hk := h.isKey k (hperm.mem_iff.mpr hk)
  apart := by
    -- Being apart is symmetric for keys only.
    have hkeys : ks.Pairwise fun k l => g.isKey k = true → g.isKey l = true →
        g.same k l = false := h.apart.imp fun hkl _ _ => hkl
    have hperm' := hkeys.perm hperm fun {k l} hkl hl hk => by
      rw [Bool.eq_false_iff]
      intro hsame
      have hsame' := Store.same_symm hg hl hk hsame
      rw [hkl hk hl] at hsame'
      cases hsame'
    refine hperm'.imp_of_mem fun {k l} hk hl hkl => hkl ?_ ?_
    · exact h.isKey k (hperm.mem_iff.mpr hk)
    · exact h.isKey l (hperm.mem_iff.mpr hl)

namespace Walk

namespace Findings

/-- Going through some things in another order finds the same in another order. -/
theorem Related.gather_perm {α : Type} (f : α → Findings) {xs ys : List α} (h : xs.Perm ys) :
    Related .any List.Perm (Findings.gather f xs) (Findings.gather f ys) := by
  have hself (r : Findings) : Related .any List.Perm r r := .refl .refl (fun _ => trivial) r
  induction h with
  | nil => exact hself _
  | cons x _ ih => exact (hself (f x)).append isAdditive_perm ih
  | swap x y zs =>
    simp only [Findings.gather]
    cases f x with
    | error e => cases f y <;> exact .error trivial
    | ok vs =>
      cases f y with
      | error e => exact .error trivial
      | ok ws =>
        cases Findings.gather f zs with
        | error e => exact .error trivial
        | ok us =>
          refine .ok (?_ : (ws ++ (vs ++ us)).Perm (vs ++ (ws ++ us)))
          rw [← List.append_assoc, ← List.append_assoc]
          exact List.perm_append_comm.append_right us
  | trans _ _ ih ih' => exact ih.trans ih' fun _ _ _ => .trans

end Findings

open Schema Findings Violation

variable {g : Store} {strict : Bool}

/-! ### Listings of keys -/

/-- Keys in another order have the same texts in another order, if they all have texts. -/
theorem mapM_str?_perm {ks ls : List Value} (h : ks.Perm ls) :
    (ks.mapM g.str? = none ∧ ls.mapM g.str? = none) ∨
      ∃ ts us, ks.mapM g.str? = some ts ∧ ls.mapM g.str? = some us ∧ ts.Perm us := by
  induction h with
  | nil => exact .inr ⟨[], [], rfl, rfl, .nil⟩
  | cons k _ ih =>
    rcases ih with ⟨hks, hls⟩ | ⟨ts, us, hks, hls, hperm⟩
    · left
      cases hk : g.str? k <;> simp [List.mapM_cons, hk, hks, hls]
    · cases hk : g.str? k with
      | none => exact .inl (by simp [List.mapM_cons, hk])
      | some t =>
        exact .inr ⟨t :: ts, t :: us, by simp [List.mapM_cons, hk, hks],
          by simp [List.mapM_cons, hk, hls], hperm.cons t⟩
  | swap k l ms =>
    cases hk : g.str? k with
    | none => left; cases hl : g.str? l <;> simp [List.mapM_cons, hk, hl]
    | some t =>
      cases hl : g.str? l with
      | none => exact .inl (by simp [List.mapM_cons, hk, hl])
      | some u =>
        cases hms : ms.mapM g.str? with
        | none => exact .inl (by simp [List.mapM_cons, hk, hl, hms])
        | some ts =>
          exact .inr ⟨u :: t :: ts, t :: u :: ts, by simp [List.mapM_cons, hk, hl, hms],
            by simp [List.mapM_cons, hk, hl, hms], .swap t u ts⟩
  | trans _ _ ih ih' =>
    rcases ih with ⟨hks, hls⟩ | ⟨ts, us, hks, hls, hperm⟩
    · rcases ih' with ⟨-, hms⟩ | ⟨_, _, hls', -, -⟩
      · exact .inl ⟨hks, hms⟩
      · cases hls.symm.trans hls'
    · rcases ih' with ⟨hls', -⟩ | ⟨us', xs, hls', hms, hperm'⟩
      · cases hls.symm.trans hls'
      · cases hls.symm.trans hls'
        exact .inr ⟨ts, xs, hks, hms, hperm.trans hperm'⟩

/-- The texts of the keys that are listed. -/
def keyTexts? (g : Store) (keys : List Value) : Option (List Text) :=
  (keys.filter (!isTypeNameKey ·)).mapM g.str?

theorem lengthMismatch?_eq (name : Value) (place : Text) (ks ls : List Value) :
    lengthMismatch? g name place ks ls =
      (g.str? name).bind fun shownName => (keyTexts? g ks).bind fun expected =>
        (keyTexts? g ls).map (ofKeyTexts name shownName place expected) := by
  rw [lengthMismatch?, keysText?, keysText?, ← keyTexts?, ← keyTexts?]
  cases g.str? name <;> cases keyTexts? g ks <;> cases keyTexts? g ls <;> rfl

/-- A length mismatch of keys in another order lists them in another order. -/
theorem single_lengthMismatch?_related {name : Value} {place : Text} {ks ks' ls ls' : List Value}
    (hks : ks.Perm ks') (hls : ls.Perm ls') :
    Related .any (List.Forall₂ ListsAlike) (single (lengthMismatch? g name place ks ls))
      (single (lengthMismatch? g name place ks' ls')) := by
  have hexpected : _ ∨ _ := mapM_str?_perm (g := g) (hks.filter (!isTypeNameKey ·))
  have hactual : _ ∨ _ := mapM_str?_perm (g := g) (hls.filter (!isTypeNameKey ·))
  rw [← keyTexts?, ← keyTexts?] at hexpected hactual
  rw [lengthMismatch?_eq, lengthMismatch?_eq]
  cases g.str? name with
  | none => exact .error trivial
  | some shownName =>
    rcases hexpected with ⟨hks, hks'⟩ | ⟨ts, us, hks, hks', hexpected⟩
    · rw [hks, hks']
      exact .error trivial
    · rcases hactual with ⟨hls, hls'⟩ | ⟨xs, ys, hls, hls', hactual⟩
      · rw [hks, hks', hls, hls']
        exact .error trivial
      · rw [hks, hks', hls, hls']
        exact .ok (.cons (.keys hexpected hactual) .nil)

/-- What is found about a key does not depend on the order of those of the node. -/
theorem keyFound_eq_of_perm {name key : Value} {place : Text} {ks ls : List Value}
    (h : ks.Perm ls) : keyFound g name place ks key = keyFound g name place ls key := by
  have hany : ks.any (g.same key) = ls.any (g.same key) := by
    rw [Bool.eq_iff_iff, List.any_eq_true, List.any_eq_true]
    exact exists_congr fun k => and_congr_left' h.mem_iff
  rw [keyFound, keyFound, hany]

/-- Comparing the lengths of keys in another order. -/
theorem lengthFound_related {name : Value} {place : Text} {ks ks' : List Value} {es fs : Entries}
    (hks : ks.Perm ks') (hes : (es.map Prod.fst).Perm (fs.map Prod.fst)) :
    Related .any (List.Forall₂ ListsAlike)
      (singleUnless (ks.length == es.length) (lengthMismatch? g name place ks (es.map Prod.fst)))
      (singleUnless (ks'.length == fs.length)
        (lengthMismatch? g name place ks' (fs.map Prod.fst))) := by
  have hlength : es.length = fs.length := by simpa using hes.length_eq
  rw [hks.length_eq, hlength]
  cases ks'.length == fs.length with
  | true => exact .ok .nil
  | false => exact single_lengthMismatch?_related hks hes

theorem isAdditive_reordered : IsAdditive Reordered := ⟨.nil, fun _ _ _ _ => .append⟩

theorem forall₂_listsAlike_self (vs : List Violation) : List.Forall₂ ListsAlike vs vs :=
  List.forall₂_same.mpr fun _ _ => .same

/-- Another order of the children changes what is found about keys in listings only. -/
theorem parityFound_rearranged {name : Value} {place : Text} {ks ks' : List Value} (es : Entries)
    (hks : ks.Perm ks') :
    Related .any (List.Forall₂ ListsAlike) (parityFound g name place ks es)
      (parityFound g name place ks' es) := by
  have hunknown : gather (fun e => keyFound g name place ks e.1) es =
      gather (fun e => keyFound g name place ks' e.1) es :=
    congrArg (gather · es) (funext fun e => keyFound_eq_of_perm hks)
  exact (lengthFound_related hks (.refl _)).append (isAdditive_forall₂ _)
    (hunknown ▸ .refl forall₂_listsAlike_self (fun _ => trivial) _)

/-- Another order of keys on both sides changes the order of what is found about them. -/
theorem parityFound_shuffled {name : Value} {place : Text} {ks ks' : List Value} {es fs : Entries}
    (hks : ks.Perm ks') (hes : (es.map Prod.fst).Perm (fs.map Prod.fst)) :
    Related .any Reordered (parityFound g name place ks es) (parityFound g name place ks' fs) := by
  have hunknown : Related .any List.Perm (gather (fun e => keyFound g name place ks e.1) es)
      (gather (fun e => keyFound g name place ks' e.1) fs) := by
    have hkeyFound : (keyFound g name place ks') = keyFound g name place ks :=
      funext fun key => (keyFound_eq_of_perm hks).symm
    rw [hkeyFound, ← gather_map (keyFound g name place ks) Prod.fst,
      ← gather_map (keyFound g name place ks) Prod.fst]
    exact .gather_perm _ hes
  exact ((lengthFound_related hks hes).mono fun _ _ => .of_forall₂).append
    isAdditive_reordered (hunknown.mono fun vs ws h => ⟨ws, h, forall₂_listsAlike_self ws⟩)

/-! ### Walks along both -/

/-- The child that a key leads to does not depend on the order of the children: what is found at the
children of a key on both sides is related as what is found at the key. -/
theorem foundChild_related (hg : g.WellFormed) {P : Findings → Findings → Prop}
    (hnil : P (.ok []) (.ok [])) {cs ds : List (Value × Schema)}
    (hcs : g.KeysApart (cs.map Prod.fst)) (hkeys : (cs.map Prod.fst).Perm (ds.map Prod.fst))
    {name key x y : Value} {path : Option Text} (hkey : g.isKey key = true)
    (h : ∀ k c d, (k, c) ∈ cs → (k, d) ∈ ds → g.same key k = true →
      P (found g strict name key path x c) (found g strict name key path y d)) :
    P (foundChild g strict name key path x cs) (foundChild g strict name key path y ds) := by
  rcases exists_unique_child_or hg hcs hkey with ⟨k, c, hc, hsame, -⟩ | hunknown
  · have hk : k ∈ ds.map Prod.fst := hkeys.mem_iff.mp (List.mem_map_of_mem hc)
    obtain ⟨⟨_, d⟩, hd, rfl⟩ := List.mem_map.mp hk
    rw [foundChild_eq_of_mem hg hcs hkey hc hsame,
      foundChild_eq_of_mem hg (hcs.perm hg hkeys) hkey hd hsame]
    exact h _ c d hc hd hsame
  · have hunknown' : ∀ k d, (k, d) ∈ ds → ¬ g.same key k = true := by
      intro k d hd
      have hk : k ∈ cs.map Prod.fst := hkeys.mem_iff.mpr (List.mem_map_of_mem hd)
      obtain ⟨⟨_, c⟩, hc, rfl⟩ := List.mem_map.mp hk
      exact hunknown _ c hc
    rw [foundChild_eq_ok_nil hunknown, foundChild_eq_ok_nil hunknown']
    exact hnil

/-- **Another order of the children of a schema changes listings only.** -/
theorem found_rearranged (hg : g.WellFormed) {schema other : Schema} (hschema : schema.WellFormed g)
    (h : schema.Rearranged other) (name key : Value) (place : Option Text) (value : Value) :
    Related .any (List.Forall₂ ListsAlike) (found g strict name key place value schema)
      (found g strict name key place value other) := by
  induction h generalizing name key place value with
  | same => exact .refl forall₂_listsAlike_self (fun _ => trivial) _
  | @object nodeName cs ds hkeys hchildren ih =>
    cases hschema with
    | object hcs hname hwellFormed =>
    cases place with
    | none => simp only [found]; exact .error trivial
    | some place =>
      cases hes : g.entries? value with
      | none => simp only [found, hes]; exact .refl forall₂_listsAlike_self (fun _ => trivial) _
      | some es =>
        have hown : Related .any (List.Forall₂ ListsAlike)
            (if strict then parityFound g nodeName place (cs.map Prod.fst) es else .ok [])
            (if strict then parityFound g nodeName place (ds.map Prod.fst) es else .ok []) := by
          cases strict with
          | true => exact parityFound_rearranged es hkeys
          | false => exact .ok .nil
        have hentry : ∀ e ∈ es, Related .any (List.Forall₂ ListsAlike)
            (foundChild g strict nodeName e.1 (join? g place e.1) e.2 cs)
            (foundChild g strict nodeName e.1 (join? g place e.1) e.2 ds) := by
          intro e he
          have hkey := (hg.keysApart_of_entries? hes).isKey e.1 (List.mem_map_of_mem he)
          exact foundChild_related hg (.ok .nil) hcs hkeys hkey fun k c d hc hd _ =>
            ih k c d hc hd (hwellFormed k c hc) nodeName e.1 (join? g place e.1) e.2
        simp only [found, hes]
        exact hown.append (isAdditive_forall₂ _)
          (.gather_same (isAdditive_forall₂ _) hentry)

/-- **Another order of keys changes the order of what is found**, whatever the order of the
children. -/
theorem found_shuffled (hg : g.WellFormed) {schema : Schema} (hschema : schema.WellFormed g)
    {v w : Value} (h : schema.Shuffles g v w) {other : Schema} (hother : schema.Rearranged other)
    (name key : Value) (place : Option Text) :
    Related .any Reordered (found g strict name key place v schema)
      (found g strict name key place w other) := by
  induction h generalizing other name key place with
  | same => exact (found_rearranged hg hschema hother name key place _).mono fun _ _ => .of_forall₂
  | @object nodeName v w cs es fs hv hw hkeys hvalues ih =>
    cases hschema with
    | object hcs hname hwellFormed =>
    obtain ⟨ds, rfl, hcsds, hchildren⟩ := hother.exists_children hcs
    cases place with
    | none => simp only [found]; exact .error trivial
    | some place =>
      have hown : Related .any Reordered
          (if strict then parityFound g nodeName place (cs.map Prod.fst) es else .ok [])
          (if strict then parityFound g nodeName place (ds.map Prod.fst) fs else .ok []) := by
        cases strict with
        | true => exact parityFound_shuffled hcsds hkeys
        | false => exact .ok .nil
      -- The entries of the second mapping in the order of the first.
      have hfs : List.Forall₂ (fun k (f : Value × Value) => k = f.1) (fs.map Prod.fst) fs :=
        List.forall₂_map_left_iff.mpr (List.forall₂_same.mpr fun _ _ => rfl)
      obtain ⟨mid, hmid, hperm⟩ := List.perm_comp_forall₂ hkeys hfs
      rw [List.forall₂_map_left_iff, List.forall₂_iff_zip] at hmid
      have hentry : List.Forall₂ (fun e f => Related .any Reordered
          (foundChild g strict nodeName e.1 (join? g place e.1) e.2 cs)
          (foundChild g strict nodeName f.1 (join? g place f.1) f.2 ds)) es mid := by
        refine List.forall₂_iff_zip.mpr ⟨hmid.1, fun {e f} hef => ?_⟩
        obtain ⟨k, x⟩ := e
        obtain ⟨l, y⟩ := f
        obtain rfl : k = l := hmid.2 hef
        have hx := (List.of_mem_zip hef).1
        have hy := hperm.mem_iff.mp (List.of_mem_zip hef).2
        have hkey := (hg.keysApart_of_entries? hv).isKey k (List.mem_map_of_mem hx)
        exact foundChild_related hg (.ok .nil) hcs hcsds hkey fun k' c d hc hd hsame =>
          ih k' c hc k x y hx hy hsame (hwellFormed k' c hc) (hchildren k' c d hc hd) nodeName k
            (join? g place k)
      have hinner := (Related.gather isAdditive_reordered hentry).trans
        (.gather_perm _ hperm) fun _ _ _ => Reordered.perm
      simp only [found, hv, hw]
      exact hown.append isAdditive_reordered hinner

end Walk

namespace Validator

open Schema Violation Walk

variable {g : Store}

/-- **The order of keys does not matter to what is found.** If the children of object nodes of a
compiled schema and the keys of mappings at object nodes of an element change places, then a check
without stopping at the first violation gives a report before exactly if it gives one after, and
the reports have the same violations in some order, up to the order in which a length mismatch
lists the keys; so one passes exactly if the other does. If only children change places, the
violations keep their order. -/
theorem check_rearranged (hg : g.WellFormed) {schema : Value} {c c' : Cursors} {v : Validator}
    (hv : ofSchema g c schema = (.ok v, c')) {other : ObjectSchema}
    (hother : v.schema.toSchema.Rearranged other.toSchema) {element shuffled : Value}
    (helement : v.schema.toSchema.Shuffles g element shuffled) {o : Options}
    (ho : g.truth o.fatal = false) (d : Cursors) :
    (∀ r d', v.check g d element o = (.ok r, d') →
      ∃ r', check g d ⟨.object, other⟩ shuffled o = (.ok r', d') ∧ r'.typeName = r.typeName ∧
        r'.passed = r.passed ∧ Reordered r.violations r'.violations) ∧
    (∀ r' d', check g d ⟨.object, other⟩ shuffled o = (.ok r', d') →
      ∃ r, v.check g d element o = (.ok r, d')) ∧
    (∀ r d', v.check g d element o = (.ok r, d') →
      ∃ r', check g d ⟨.object, other⟩ element o = (.ok r', d') ∧ r'.typeName = r.typeName ∧
        List.Forall₂ ListsAlike r.violations r'.violations) := by
  obtain ⟨hkind, hcompile⟩ := kind_and_schema_of_ofSchema hv
  have hschema := wellFormed_of_compile hg hcompile
  obtain ⟨kind, nodeName, cs⟩ := v
  obtain ⟨otherName, ds⟩ := other
  obtain rfl : kind = .object := hkind
  obtain rfl : nodeName = otherName := by cases hother <;> rfl
  have hshuffled : Findings.Related .any Reordered
      (found g (g.truth o.strict) nodeName .null (some "") element _)
      (found g (g.truth o.strict) nodeName .null (some "") shuffled _) :=
    found_shuffled hg hschema helement hother nodeName .null (some "")
  have hchildren : Findings.Related .any (List.Forall₂ ListsAlike)
      (found g (g.truth o.strict) nodeName .null (some "") element _)
      (found g (g.truth o.strict) nodeName .null (some "") element _) :=
    found_rearranged hg hschema hother nodeName .null (some "") element
  rw [check_eq_found rfl ho, check_eq_found rfl ho, check_eq_found rfl ho]
  simp only [name] at hshuffled hchildren ⊢
  revert hshuffled hchildren
  generalize found g (g.truth o.strict) nodeName .null (some "") element _ = before
  generalize found g (g.truth o.strict) nodeName .null (some "") shuffled _ = after
  generalize found g (g.truth o.strict) nodeName .null (some "") element _ = aside
  intro hshuffled hchildren
  refine ⟨fun r d' hr => ?_, fun r' d' hr' => ?_, fun r d' hr => ?_⟩
  · cases before with
    | error e => cases hr
    | ok vs =>
      cases hr
      obtain ⟨ws, rfl, h⟩ := hshuffled.exists_of_any_left
      refine ⟨_, rfl, rfl, ?_, h⟩
      rw [Report.passed, Report.passed, h.isEmpty_eq]
  · cases after with
    | error e => cases hr'
    | ok ws =>
      cases hr'
      obtain ⟨vs, rfl, -⟩ := hshuffled.exists_of_any_right
      exact ⟨_, rfl⟩
  · cases before with
    | error e => cases hr
    | ok vs =>
      cases hr
      obtain ⟨ws, rfl, h⟩ := hchildren.exists_of_any_left
      exact ⟨_, rfl, rfl, h⟩

/-- The schema of the sample, an element with keys that it does not list on both levels, and the
same element with the keys of both levels in another order. -/
def shuffledStore : Store where
  objects := #[
    .mapping .plain [(.str "__typeName", .str "T"), (.str "a", .str "Number"), (.str "b", .ref 1)],
    .mapping .plain [(.str "c", .str "String")],
    .mapping .plain [(.str "a", .str "one"), (.str "b", .ref 3), (.str "z", .null)],
    .mapping .plain [(.str "c", .str "x"), (.str "d", .null)],
    .mapping .plain [(.str "z", .null), (.str "b", .ref 5), (.str "a", .str "one")],
    .mapping .plain [(.str "d", .null), (.str "c", .str "x")]]

/-- What the schema of the sample compiles to, with the children of the root exchanged. -/
def exchangedSchema : ObjectSchema where
  name := .str "T"
  children := [
    (.str "b", .object (.str unknownTypeName) [(.str "c", .leaf (.str "String") (.named "String"))]),
    (.str "a", .leaf (.str "Number") (.named "Number"))]

theorem shuffles_shuffledStore :
    sampleSchema.toSchema.Shuffles shuffledStore (.ref 2) (.ref 4) := by
  have hg : shuffledStore.WellFormed := Store.wellFormed_of_hasTextKeys (by decide)
  refine .object rfl rfl (by decide) fun k child hchild key x y hx hy hsame => ?_
  have hcases : x = y ∨ key = .str "b" ∧ x = .ref 3 ∧ y = .ref 5 := by
    simp only [List.mem_cons, Prod.mk.injEq, List.not_mem_nil, or_false] at hx hy
    rcases hx with ⟨rfl, rfl⟩ | ⟨rfl, rfl⟩ | ⟨rfl, rfl⟩ <;> simp_all
  rcases hcases with rfl | ⟨rfl, rfl, rfl⟩
  · exact .same
  · rcases List.mem_cons.mp hchild with heq | hchild
    · cases heq
      exact absurd hsame (by decide)
    · cases List.mem_singleton.mp hchild
      exact .of_perm hg rfl rfl (.swap _ _ _)

/-- The elements have the same faults, listed from the other end after the mismatch of lengths. -/
theorem check_rearranged_shuffled :
    shuffledStore.WellFormed ∧ sampleSchema.toSchema.Rearranged exchangedSchema.toSchema ∧
      sampleSchema.toSchema.Shuffles shuffledStore (.ref 2) (.ref 4) ∧
      ∃ r r', check shuffledStore [] ⟨.object, sampleSchema⟩ (.ref 2) {} = (.ok r, []) ∧
        check shuffledStore [] ⟨.object, exchangedSchema⟩ (.ref 4) {} = (.ok r', []) ∧
        r.violations.map (·.path) = (["", "z", "a", "b", "b.d"] : List Text) ∧
        r'.violations.map (·.path) = (["", "z", "b", "b.d", "a"] : List Text) ∧
        Reordered r.violations r'.violations := by
  have hg : shuffledStore.WellFormed := Store.wellFormed_of_hasTextKeys (by decide)
  have hv : ofSchema shuffledStore [] (.ref 0) = (.ok ⟨.object, sampleSchema⟩, []) := by cbv
  have hapart : shuffledStore.KeysApart (sampleSchema.children.map Prod.fst) :=
    Store.keysApart_of_nodup (show ["a", "b"].Nodup by decide)
  have hother : sampleSchema.toSchema.Rearranged exchangedSchema.toSchema :=
    .of_perm hapart (.swap _ _ _)
  obtain ⟨r, hr⟩ : ∃ r, check shuffledStore [] ⟨.object, sampleSchema⟩ (.ref 2) {} =
      (.ok r, []) := ⟨_, rfl⟩
  have hsame := check_rearranged hg hv hother shuffles_shuffledStore (o := {}) rfl []
  obtain ⟨r', hr', -, -, hreordered⟩ := hsame.1 r [] hr
  refine ⟨hg, hother, shuffles_shuffledStore, r, r', hr, hr', ?_, ?_, hreordered⟩
  · cases hr
    rfl
  · cases hr'
    rfl

end Validator

end Conformance
