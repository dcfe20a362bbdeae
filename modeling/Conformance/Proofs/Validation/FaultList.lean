import Conformance.Proofs.Validation.Conformity
import Conformance.Proofs.Validation.Faults

/-!
# A report lists the faults

A check that does not stop reports exactly the faults of the element, one violation for each, in
the order in which going through the element comes to them. For each way in which findings are
put together there is one lemma that says which faults the whole lists if its parts list theirs;
the faults of a node are put together in the same way.

There is a report unless the walk meets something that it cannot get past: an object node whose
place has no path, a value that a marker cannot compare, or a fault with something to show that
has no text.

## Main definitions

* `Walk.Findings.Lists` — findings that show the faults with a property, each once and in order.
* `Location.Passable` — a location that does not end a walk.

## Main results

* `Walk.found_lists` — what is found in a value are its faults.
* `Walk.exists_found_eq_ok_iff` — when there are findings.
* `Validator.check_lists_faults` — a report lists the faults of the element.
-/

namespace Conformance

/-- A walk gets past the location: an object node needs a path, and a marker has to be able to
compare the value. -/
def Location.Passable (g : Store) (above : Option Text) (l : Location) : Prop :=
  match l.node with
  | .object _ _ => (above.bind (g.path? · l.keys)).isSome = true
  | .marker m => ∃ b, m.accepts g l.value = .ok b
  | .leaf _ _ => True

theorem Location.passable_under {g : Store} {l : Location} {path : Text} {key : Value} :
    (l.under key).Passable g (some path) ↔ l.Passable g (Walk.join? g path key) := by
  obtain ⟨keys, owner, node, value⟩ := l
  cases node <;> rfl

namespace Walk

namespace Findings

/-! ### Findings that list faults -/

/-- The findings, if there are any, show the faults with a property, each of them once and in
order. -/
def Lists (shows : Fault → Violation → Prop) (before : Fault → Fault → Prop) (P : Fault → Prop)
    (r : Findings) : Prop :=
  ∀ vs, r = .ok vs →
    ∃ fs, List.Forall₂ shows fs vs ∧ (∀ f, f ∈ fs ↔ P f) ∧ fs.Pairwise before

namespace Lists

variable {shows : Fault → Violation → Prop} {before : Fault → Fault → Prop}
  {P Q : Fault → Prop} {r r' : Findings}

theorem failing (e : Failure) : Lists shows before P (.error e) := fun _ h => nomatch h

theorem nothing (h : ∀ f, ¬ P f) : Lists shows before P (.ok []) := by
  intro vs hvs
  cases hvs
  exact ⟨[], .nil, fun f => by simp [h f], .nil⟩

theorem congr (h : Lists shows before P r) (hPQ : ∀ f, P f ↔ Q f) : Lists shows before Q r := by
  intro vs hvs
  obtain ⟨fs, hshows, hmem, hbefore⟩ := h vs hvs
  exact ⟨fs, hshows, fun f => (hmem f).trans (hPQ f), hbefore⟩

theorem single {f : Fault} {v? : Option Violation} (hshows : ∀ v, v? = some v → shows f v) :
    Lists shows before (· = f) (Findings.single v?) := by
  cases v? with
  | none => exact failing _
  | some v =>
    intro vs hvs
    cases hvs
    exact ⟨[f], .cons (hshows v rfl) .nil, fun f' => List.mem_singleton, List.pairwise_singleton ..⟩

theorem singleUnless {f : Fault} {b : Bool} {v? : Option Violation}
    (hshows : ∀ v, v? = some v → shows f v) :
    Lists shows before (fun f' => b = false ∧ f' = f) (Findings.singleUnless b v?) := by
  cases b with
  | true => exact nothing fun f' h => nomatch h.1
  | false => exact (single hshows).congr fun f' => by simp

/-- Faults listed one after the other, the first all before the others. -/
theorem append (h : Lists shows before P r) (h' : Lists shows before Q r')
    (hbefore : ∀ f f', P f → Q f' → before f f') :
    Lists shows before (fun f => P f ∨ Q f) (r.append r') := by
  intro ws hws
  obtain ⟨us, vs, hus, hvs, rfl⟩ := append_eq_ok_iff.mp hws
  obtain ⟨fs, hshows, hmem, hfs⟩ := h us hus
  obtain ⟨fs', hshows', hmem', hfs'⟩ := h' vs hvs
  refine ⟨fs ++ fs', List.rel_append hshows hshows', fun f => ?_, ?_⟩
  · rw [List.mem_append, hmem, hmem']
  · refine List.pairwise_append.mpr ⟨hfs, hfs', fun f hf f' hf' => ?_⟩
    exact hbefore f f' ((hmem f).mp hf) ((hmem' f').mp hf')

/-- Faults listed at each of some things. -/
theorem gather {α : Type} {P : α → Fault → Prop} {r : α → Findings} {xs : List α}
    (h : ∀ x ∈ xs, Lists shows before (P x) (r x))
    (hbefore : xs.Pairwise fun x y => ∀ f f', P x f → P y f' → before f f') :
    Lists shows before (fun f => ∃ x ∈ xs, P x f) (Findings.gather r xs) := by
  induction xs with
  | nil => exact nothing fun f hf => by simp at hf
  | cons x xs ih =>
    rw [List.forall_mem_cons] at h
    obtain ⟨hfirst, hrest⟩ := List.pairwise_cons.mp hbefore
    have hall := h.1.append (ih h.2 hrest) fun f f' hf ⟨y, hy, hf'⟩ => hfirst y hy f f' hf hf'
    exact hall.congr fun f => by simp

/-- Faults seen from elsewhere. -/
theorem map (h : Lists shows before P r) {shows' : Fault → Violation → Prop}
    {before' : Fault → Fault → Prop} (move : Fault → Fault)
    (hshows : ∀ f v, shows f v → shows' (move f) v)
    (hbefore : ∀ f f', before f f' → before' (move f) (move f')) :
    Lists shows' before' (fun f => ∃ f', P f' ∧ move f' = f) r := by
  intro vs hvs
  obtain ⟨fs, hfs, hmem, hpairwise⟩ := h vs hvs
  refine ⟨fs.map move, ?_, fun f => ?_, ?_⟩
  · exact List.forall₂_map_left_iff.mpr (hfs.imp hshows)
  · simp [hmem]
  · exact hpairwise.map move hbefore

end Lists

end Findings

open Findings

variable {g : Store} {strict : Bool}

/-! ### What is found lists the faults -/

section Object

variable {owner name key v : Value} {place : Text} {children : List (Value × Schema)}
  {es : Entries}

/-- Comparing keys lists the faults of the node itself. -/
theorem parityFound_lists (hes : g.entries? v = some es) :
    Lists (fun f w => f.violation? g key (some place) = some w) (Fault.Before g v)
      (Fault.OccursAmongKeys g (.start owner (.object name children) v) (children.map Prod.fst) es)
      (parityFound g name place (children.map Prod.fst) es) := by
  let l := Location.start owner (.object name children) v
  have hlength : Lists (fun f w => f.violation? g key (some place) = some w) (Fault.Before g v)
      (fun f => (children.map Prod.fst).length ≠ es.length ∧ f = ⟨l, .length⟩)
      (singleUnless ((children.map Prod.fst).length == es.length)
        (lengthMismatch? g name place (children.map Prod.fst) (es.map Prod.fst))) := by
    refine (Lists.singleUnless (f := ⟨l, .length⟩) fun w hw => ?_).congr fun f => by simp
    simpa [Fault.violation?, l, Location.start, hes] using hw
  have hunknown : Lists (fun f w => f.violation? g key (some place) = some w) (Fault.Before g v)
      (fun f => ∃ e ∈ es, (∀ k ∈ children.map Prod.fst, ¬ g.same e.1 k = true) ∧
        f = ⟨l, .unknownKey e.1⟩)
      (gather (fun e => keyFound g name place (children.map Prod.fst) e.1) es) := by
    refine Lists.gather (fun e he => ?_) ?_
    · refine (Lists.singleUnless (f := ⟨l, .unknownKey e.1⟩) fun w hw => ?_).congr fun f => by simp
      simpa [Fault.violation?, l, Location.start] using hw
    · refine (Store.pairwise_keyBefore es).imp fun {e e'} hkeys f f' hf hf' => ?_
      rw [hf.2, hf'.2]
      exact .unknownKey hes hkeys
  refine hlength.append hunknown fun f f' hf hf' => ?_
  obtain ⟨e, -, -, rfl⟩ := hf'
  rw [hf.2]
  exact .length

/-- Visiting the value of an entry lists the faults inside it, if visiting it along any child
lists the faults there. -/
theorem foundChild_lists (hg : g.WellFormed) (hchildren : g.KeysApart (children.map Prod.fst))
    (hes : g.entries? v = some es) {e : Value × Value} (he : e ∈ es)
    (h : ∀ k child, (k, child) ∈ children →
      Lists (fun f w => f.violation? g e.1 (join? g place e.1) = some w) (Fault.Before g e.2)
        (Fault.Occurs g strict name child e.2)
        (found g strict name e.1 (join? g place e.1) e.2 child)) :
    Lists (fun f w => f.violation? g key (some place) = some w) (Fault.Before g v)
      (Fault.OccursInside g strict name children e)
      (foundChild g strict name e.1 (join? g place e.1) e.2 children) := by
  have hkey := (hg.keysApart_of_entries? hes).isKey e.1 (List.mem_map_of_mem he)
  rcases exists_unique_child_or hg hchildren hkey with
    ⟨k, child, hmem, hsame, hunique⟩ | hunknown
  · rw [foundChild_eq_of_mem hg hchildren hkey hmem hsame]
    refine ((h k child hmem).map (Fault.under e.1) (fun f w hw => ?_) fun f f' hff' =>
      hff'.under hes he).congr fun f => ?_
    · rw [Fault.violation?_under]
      exact hw
    · constructor
      · rintro ⟨f', hf', heq⟩
        exact ⟨k, child, hmem, hsame, f', hf', heq⟩
      · rintro ⟨k', child', hmem', hsame', f', hf', heq⟩
        exact ⟨f', hunique k' child' hmem' hsame' ▸ hf', heq⟩
  · rw [foundChild_eq_ok_nil hunknown]
    refine .nothing fun f hf => ?_
    obtain ⟨k, child, hmem, hsame, -⟩ := hf
    exact hunknown k child hmem hsame

/-- Visiting the entries of a mapping lists the faults of the mapping, if visiting their values
lists the faults there. -/
theorem entriesFound_lists (hg : g.WellFormed) (hchildren : g.KeysApart (children.map Prod.fst))
    (hes : g.entries? v = some es)
    (h : ∀ (e : Value × Value) (k : Value) (child : Schema), (k, child) ∈ children →
      Lists (fun f w => f.violation? g e.1 (join? g place e.1) = some w) (Fault.Before g e.2)
        (Fault.Occurs g strict name child e.2)
        (found g strict name e.1 (join? g place e.1) e.2 child)) :
    Lists (fun f w => f.violation? g key (some place) = some w) (Fault.Before g v)
      (Fault.Occurs g strict owner (.object name children) v)
      (entriesFound g strict name place children es) := by
  have hown : Lists (fun f w => f.violation? g key (some place) = some w) (Fault.Before g v)
      (fun f => strict = true ∧ f.OccursAmongKeys g (.start owner (.object name children) v)
        (children.map Prod.fst) es)
      (if strict then parityFound g name place (children.map Prod.fst) es else .ok []) := by
    by_cases hstrict : strict = true
    · rw [if_pos hstrict]
      exact (parityFound_lists hes).congr fun f => (and_iff_right hstrict).symm
    · rw [if_neg hstrict]
      exact .nothing fun f hf => hstrict hf.1
  have hinside : Lists (fun f w => f.violation? g key (some place) = some w) (Fault.Before g v)
      (fun f => ∃ e ∈ es, f.OccursInside g strict name children e)
      (gather (fun e => foundChild g strict name e.1 (join? g place e.1) e.2 children) es) := by
    refine .gather (fun e he => foundChild_lists hg hchildren hes he (h e)) ?_
    refine (Store.pairwise_keyBefore es).imp fun {e e'} hkeys f f' hf hf' => ?_
    obtain ⟨-, -, -, -, u, -, rfl⟩ := hf
    obtain ⟨-, -, -, -, u', -, rfl⟩ := hf'
    exact .elsewhere (.beside hes hkeys)
  refine (hown.append hinside fun f f' hf hf' => ?_).congr fun f =>
    (Fault.occurs_object_iff hes).symm
  obtain ⟨-, ⟨-, rfl⟩ | ⟨-, -, -, rfl⟩⟩ := hf
  all_goals
    obtain ⟨-, -, -, -, -, -, u, -, rfl⟩ := hf'
    exact Fault.before_under rfl

end Object

/-- **What is found in a value are its faults**, each of them once and in order. -/
theorem found_lists (hg : g.WellFormed) {s : Schema} (hs : s.WellFormed g)
    {owner key v : Value} {place : Option Text} :
    Lists (fun f w => f.violation? g key place = some w) (Fault.Before g v)
      (Fault.Occurs g strict owner s v) (found g strict owner key place v s) := by
  induction hs generalizing owner key place v with
  | leaf =>
    rw [found]
    refine (Lists.singleUnless fun w hw => ?_).congr fun f => Fault.occurs_leaf_iff.symm
    simpa [Fault.violation?, Location.start] using hw
  | @marker m =>
    rw [found]
    cases haccepts : m.accepts g v with
    | error e => exact .failing _
    | ok b =>
      have hlists : Lists (fun f w => f.violation? g key place = some w) (Fault.Before g v)
          (fun f => b = false ∧ f = ⟨.start owner (.marker m) v, .value⟩)
          (singleUnless b (rejected? g m owner key place v)) := by
        refine .singleUnless fun w hw => ?_
        simpa [Fault.violation?, Location.start] using hw
      exact hlists.congr fun f => by simp [Fault.occurs_marker_iff, haccepts]
  | @object name children hkeys hname hchildren ih =>
    cases place with
    | none =>
      rw [found]
      exact .failing _
    | some place =>
      cases hes : g.entries? v with
      | none =>
        simp only [found, hes]
        refine (Lists.single fun w hw => ?_).congr fun f =>
          (Fault.occurs_object_iff_of_entries?_eq_none hes).symm
        simpa [Fault.violation?, Location.start] using hw
      | some es =>
        simp only [found, hes]
        exact entriesFound_lists hg hkeys hes fun e k child hmem => ih k child hmem

/-! ### When there are findings -/

/-- Nothing in a value ends a walk: it gets past each location, and each fault can be shown. -/
structure Completes (g : Store) (strict : Bool) (owner key : Value) (place : Option Text)
    (s : Schema) (v : Value) : Prop where
  passable : ∀ l : Location, l.Within g owner s v → l.Passable g place
  shown : ∀ f : Fault, f.Occurs g strict owner s v → (f.violation? g key place).isSome = true

section Object

variable {owner name key v : Value} {place : Text} {children : List (Value × Schema)}
  {es : Entries}

theorem completes_object_iff_of_entries?_eq_none (hv : g.entries? v = none) :
    Completes g strict owner key (some place) (.object name children) v ↔
      (invalidType? g name place v).isSome = true := by
  have hfault : Fault.violation? g key (some place)
      ⟨.start owner (.object name children) v, .value⟩ = invalidType? g name place v := rfl
  constructor
  · intro h
    rw [← hfault]
    exact h.shown _ ((Fault.occurs_object_iff_of_entries?_eq_none hv).mpr rfl)
  · intro h
    refine ⟨fun l hl => ?_, fun f hf => ?_⟩
    · rw [(Location.within_object_iff_of_entries?_eq_none hv).mp hl]
      rfl
    · rw [(Fault.occurs_object_iff_of_entries?_eq_none hv).mp hf, hfault]
      exact h

/-- Nothing in a mapping ends a walk exactly if the faults of its keys can be shown, in strict
mode, and nothing in its values ends it. -/
theorem completes_object_iff (hes : g.entries? v = some es) :
    Completes g strict owner key (some place) (.object name children) v ↔
      (strict = true → ∀ f : Fault, f.OccursAmongKeys g (.start owner (.object name children) v)
        (children.map Prod.fst) es → (f.violation? g key (some place)).isSome = true) ∧
      ∀ e ∈ es, ∀ k child, (k, child) ∈ children → g.same e.1 k = true →
        Completes g strict name e.1 (join? g place e.1) child e.2 := by
  constructor
  · intro h
    refine ⟨fun hstrict f hf => h.shown f ((Fault.occurs_object_iff hes).mpr (.inl ⟨hstrict, hf⟩)),
      fun e he k child hmem hsame => ⟨fun l hl => ?_, fun f hf => ?_⟩⟩
    · rw [← Location.passable_under]
      refine h.passable _ ((Location.within_object_iff hes).mpr (.inr ?_))
      exact ⟨e, he, k, child, hmem, hsame, l, hl, rfl⟩
    · rw [← Fault.violation?_under]
      refine h.shown _ ((Fault.occurs_object_iff hes).mpr (.inr ?_))
      exact ⟨e, he, k, child, hmem, hsame, f, hf, rfl⟩
  · rintro ⟨hkeys, hvalues⟩
    refine ⟨fun l hl => ?_, fun f hf => ?_⟩
    · rcases (Location.within_object_iff hes).mp hl with
        rfl | ⟨e, he, k, child, hmem, hsame, l', hl', rfl⟩
      · rfl
      · rw [Location.passable_under]
        exact (hvalues e he k child hmem hsame).passable l' hl'
    · rcases (Fault.occurs_object_iff hes).mp hf with
        ⟨hstrict, hf⟩ | ⟨e, he, k, child, hmem, hsame, f', hf', rfl⟩
      · exact hkeys hstrict f hf
      · rw [Fault.violation?_under]
        exact (hvalues e he k child hmem hsame).shown f' hf'

/-- Comparing keys has a result exactly if the faults of the keys can be shown. -/
theorem exists_parityFound_eq_ok_iff (hes : g.entries? v = some es) :
    (∃ vs, parityFound g name place (children.map Prod.fst) es = .ok vs) ↔
      ∀ f : Fault, f.OccursAmongKeys g (.start owner (.object name children) v)
        (children.map Prod.fst) es → (f.violation? g key (some place)).isSome = true := by
  have hlength : Fault.violation? g key (some place)
      ⟨.start owner (.object name children) v, .length⟩ =
        lengthMismatch? g name place (children.map Prod.fst) (es.map Prod.fst) := by
    simp [Fault.violation?, Location.start, hes]
  have hunknown (k : Value) : Fault.violation? g key (some place)
      ⟨.start owner (.object name children) v, .unknownKey k⟩ = unknownKey? g name place k := rfl
  rw [parityFound, exists_append_eq_ok_iff, exists_singleUnless_eq_ok_iff, exists_gather_eq_ok_iff]
  simp only [keyFound, exists_singleUnless_eq_ok_iff, beq_eq_false_iff_ne, List.any_eq_false]
  constructor
  · rintro ⟨hlen, hkeys⟩ f (⟨hne, rfl⟩ | ⟨e, he, hnone, rfl⟩)
    · rw [hlength]
      exact hlen hne
    · rw [hunknown]
      exact hkeys e he hnone
  · intro h
    refine ⟨fun hne => ?_, fun e he hnone => ?_⟩
    · rw [← hlength]
      exact h _ (.inl ⟨hne, rfl⟩)
    · rw [← hunknown]
      exact h _ (.inr ⟨e, he, hnone, rfl⟩)

/-- Visiting the value of an entry has a result exactly if visiting it along the child that has
its key does. -/
theorem exists_foundChild_eq_ok_iff (hg : g.WellFormed)
    (hchildren : g.KeysApart (children.map Prod.fst)) (hkey : g.isKey key = true)
    {place : Option Text} :
    (∃ vs, foundChild g strict name key place v children = .ok vs) ↔
      ∀ k child, (k, child) ∈ children → g.same key k = true →
        ∃ vs, found g strict name key place v child = .ok vs := by
  constructor
  · intro h k child hmem hsame
    rwa [foundChild_eq_of_mem hg hchildren hkey hmem hsame] at h
  · intro h
    rcases exists_unique_child_or hg hchildren hkey with ⟨k, child, hmem, hsame, -⟩ | hunknown
    · rw [foundChild_eq_of_mem hg hchildren hkey hmem hsame]
      exact h k child hmem hsame
    · exact ⟨[], foundChild_eq_ok_nil hunknown⟩

end Object

theorem exists_found_leaf_eq_ok_iff {owner key v source : Value} {place : Option Text}
    {d : Descriptor} : (∃ vs, found g strict owner key place v (.leaf source d) = .ok vs) ↔
      Completes g strict owner key place (.leaf source d) v := by
  rw [found, exists_singleUnless_eq_ok_iff]
  constructor
  · intro h
    refine ⟨fun l hl => ?_, fun f hf => ?_⟩
    · cases hl
      trivial
    · obtain ⟨hd, rfl⟩ := Fault.occurs_leaf_iff.mp hf
      simpa [Fault.violation?, Location.start] using h hd
  · intro h hd
    simpa [Fault.violation?, Location.start] using h.shown _ (Fault.occurs_leaf_iff.mpr ⟨hd, rfl⟩)

theorem exists_found_marker_eq_ok_iff {owner key v : Value} {place : Option Text} {m : Marker} :
    (∃ vs, found g strict owner key place v (.marker m) = .ok vs) ↔
      Completes g strict owner key place (.marker m) v := by
  rw [found]
  constructor
  · intro h
    cases haccepts : m.accepts g v with
    | error e => simp [haccepts] at h
    | ok b =>
      simp only [haccepts, exists_singleUnless_eq_ok_iff] at h
      refine ⟨fun l hl => ?_, fun f hf => ?_⟩
      · cases hl
        exact ⟨b, haccepts⟩
      · obtain ⟨hm, rfl⟩ := Fault.occurs_marker_iff.mp hf
        have hb : b = false := Except.ok.inj (haccepts.symm.trans hm)
        simpa [Fault.violation?, Location.start] using h hb
  · intro h
    obtain ⟨b, haccepts⟩ : ∃ b, m.accepts g v = .ok b := h.passable _ .here
    simp only [haccepts, exists_singleUnless_eq_ok_iff]
    rintro rfl
    simpa [Fault.violation?, Location.start] using
      h.shown _ (Fault.occurs_marker_iff.mpr ⟨haccepts, rfl⟩)

/-- **There are findings exactly if nothing ends the walk.** -/
theorem exists_found_eq_ok_iff (hg : g.WellFormed) {s : Schema} (hs : s.WellFormed g)
    {owner key v : Value} {place : Option Text} :
    (∃ vs, found g strict owner key place v s = .ok vs) ↔
      Completes g strict owner key place s v := by
  induction hs generalizing owner key place v with
  | leaf => exact exists_found_leaf_eq_ok_iff
  | marker => exact exists_found_marker_eq_ok_iff
  | @object name children hkeys hname hchildren ih =>
    cases place with
    | none =>
      rw [found]
      constructor
      · rintro ⟨vs, hvs⟩
        cases hvs
      · intro h
        cases h.passable _ .here
    | some place =>
      cases hes : g.entries? v with
      | none =>
        simp only [found, hes, exists_single_eq_ok_iff]
        exact (completes_object_iff_of_entries?_eq_none hes).symm
      | some es =>
        simp only [found, hes]
        rw [exists_append_eq_ok_iff, exists_gather_eq_ok_iff, completes_object_iff hes]
        refine and_congr ?_ (forall₂_congr fun e he => ?_)
        · by_cases hstrict : strict = true
          · simp only [hstrict, if_true, true_imp_iff]
            exact exists_parityFound_eq_ok_iff hes
          · simp [hstrict]
        · have hkey := (hg.keysApart_of_entries? hes).isKey e.1 (List.mem_map_of_mem he)
          rw [exists_foundChild_eq_ok_iff hg hkeys hkey]
          exact forall_congr' fun k => forall_congr' fun child =>
            forall_congr' fun hmem => forall_congr' fun _ => ih k child hmem

end Walk

namespace Validator

open Walk

variable {g : Store}

/-- **A report lists the faults of the element.** A check that does not stop reports one
violation for each fault of the element and nothing else, in the order in which going through
the element comes to the faults. Each violation is of the kind of its fault, and carries the
name of the object node and the path of the keys of its fault. There is a report exactly if
nothing ends the walk: each object node that is reached has a path, each marker that is reached
can compare its value, and what the violations show has a text. -/
theorem check_lists_faults (hg : g.WellFormed) {schema : Value} {c c' : Cursors} {v : Validator}
    (hv : ofSchema g c schema = (.ok v, c')) (element : Value) {o : Options}
    (ho : g.truth o.fatal = false) (d : Cursors) :
    (∀ r d', v.check g d element o = (.ok r, d') →
      ∃ fs : List Fault, fs.Nodup ∧
        (∀ f, f ∈ fs ↔ f.Occurs g (g.truth o.strict) v.name v.schema.toSchema element) ∧
        fs.Pairwise (Fault.Before g element) ∧
        List.Forall₂ (Fault.Reports g) fs r.violations) ∧
    ((∃ r, v.check g d element o = (.ok r, d)) ↔
      Completes g (g.truth o.strict) v.name .null (some "") v.schema.toSchema element) := by
  obtain ⟨hkind, hcompile⟩ := kind_and_schema_of_ofSchema hv
  have hschema := Schema.wellFormed_of_compile hg hcompile
  have hlists : Findings.Lists (fun f w => f.violation? g .null (some "") = some w)
      (Fault.Before g element)
      (Fault.Occurs g (g.truth o.strict) v.name v.schema.toSchema element)
      (found g (g.truth o.strict) v.schema.name .null (some "") element v.schema.toSchema) :=
    found_lists hg hschema
  have hexists : (∃ vs, found g (g.truth o.strict) v.schema.name .null (some "") element
      v.schema.toSchema = .ok vs) ↔
        Completes g (g.truth o.strict) v.name .null (some "") v.schema.toSchema element :=
    exists_found_eq_ok_iff hg hschema
  rw [← hexists, check_eq_found hkind ho]
  cases hfound : found g (g.truth o.strict) v.schema.name .null (some "") element
      v.schema.toSchema with
  | error e =>
    refine ⟨fun r d' hr => ?_, ?_⟩
    · cases hr
    · simp [Except.map]
  | ok vs =>
    refine ⟨fun r d' hr => ?_, ?_⟩
    · cases hr
      obtain ⟨fs, hshows, hmem, hbefore⟩ := hlists vs hfound
      have hreports := hshows.imp fun f w hw => Fault.reports_of_violation? hw
      exact ⟨fs, Fault.nodup_of_pairwise_before hg hbefore, hmem, hbefore, hreports⟩
    · simp [Except.map]

/-- The two violations of the sample report are its faults. -/
theorem check_lists_faults_sample :
    sampleStore.WellFormed ∧ ofSchema sampleStore [] (.ref 0) = (.ok ⟨.object, sampleSchema⟩, []) ∧
      ∃ fs : List Fault, List.Forall₂ (Fault.Reports sampleStore) fs sampleReport.violations ∧
        ∀ f, f ∈ fs ↔ f.Occurs sampleStore true (.str "T") sampleSchema.toSchema (.ref 6) := by
  have hlists := check_lists_faults sampleStore_wellFormed ofSchema_sample (.ref 6) (o := {}) rfl []
  obtain ⟨fs, -, hmem, -, hreports⟩ := hlists.1 sampleReport [] rfl
  exact ⟨sampleStore_wellFormed, ofSchema_sample, fs, hreports, hmem⟩

end Validator

end Conformance
