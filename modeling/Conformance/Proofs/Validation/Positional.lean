import Conformance.Proofs.Schema.PlainMarkers
import Conformance.Proofs.Validation.Locality

/-!
# Checks position by position

A validator of a sequence knows nothing of positions: it compiles a mapping with integers as keys
and checks mappings with integers as keys. That items are compared with the nodes at their own
positions, none of them twice and none passed over, is a fact about these mappings. Integers are
the same key only if they are equal, since numbers are compared by an exact value that determines
an integer. So a position is looked up where it stands, and what is found in an element is found in
its items one by one; positions beyond the last node are keys that the node lacks.

Each node at a position compiles to what it compiles to in a mapping of its own. Compiling takes
items from one-shot iterators, so it starts there where the node before it has left off.

## Main definitions

* `Validator.indexed` — things under their positions.
* `Validator.itemsOf` — the items of an element, of which there are none if it gives none.
* `Validator.countFound` — what comparing the numbers of nodes and items finds.

## Main results

* `Store.same_int_iff` — integers are the same key if they are equal.
* `Validator.entriesFound_positions` — what is found in the items of an element.
* `Validator.ofSequence_checks_positions` — a sequence is checked position by position.
-/

namespace Conformance

/-! ### Integers as keys -/

namespace Exact

/-- A number is what is left without the zeros at its end, with these zeros. -/
theorem stripZeros_eq (n : Nat) : (stripZeros n).1 * 10 ^ (stripZeros n).2 = n := by
  fun_induction stripZeros n with
  | case1 n h m k hstrip ih =>
    rw [hstrip] at ih
    change m * 10 ^ (k + 1) = n
    rw [Nat.pow_succ, ← Nat.mul_assoc, ih]
    omega
  | case2 n h => simp

theorem ofInt_natCast (n : Nat) :
    ofInt n = finite false (stripZeros n).1 (stripZeros n).2 := by
  rw [ofInt, scientific, Int.natAbs_natCast]
  by_cases hn : n = 0
  · rw [if_pos hn, hn, stripZeros]
    rfl
  · simp [hn]

/-- An exact value determines a natural number. -/
theorem ofInt_natCast_injective {i j : Nat} (h : ofInt i = ofInt j) : i = j := by
  rw [ofInt_natCast, ofInt_natCast] at h
  injection h with _ hcoefficient hexponent
  calc i = (stripZeros i).1 * 10 ^ (stripZeros i).2 := (stripZeros_eq i).symm
    _ = (stripZeros j).1 * 10 ^ (stripZeros j).2 := by
      rw [hcoefficient, Int.ofNat_inj.mp hexponent]
    _ = j := stripZeros_eq j

end Exact

variable {g : Store}

/-- Integers are the same key if they are equal. -/
theorem Store.same_int_iff {i j : Nat} : g.same (.int i) (.int j) = true ↔ i = j := by
  have hequal : g.equalWithin true g.equalityDepth (.int i) (.int j) =
      .ok (Exact.ofInt i == Exact.ofInt j) := rfl
  rw [same, hequal]
  constructor
  · intro h
    rcases Bool.or_eq_true_iff.mp h with h | h
    · exact Int.ofNat_inj.mp (Value.int.inj (beq_iff_eq.mp h))
    · refine Exact.ofInt_natCast_injective (beq_iff_eq.mp ?_)
      cases hexact : (Exact.ofInt i == Exact.ofInt j) with
      | true => rfl
      | false =>
        rw [hexact] at h
        cases h
  · rintro rfl
    simp

namespace Validator

open Walk Findings

/-! ### Things under their positions -/

section Indexed

variable {α : Type}

/-- Things under their positions, which are counted from a given one. -/
def indexed (start : Nat) (xs : List α) : List (Value × α) :=
  (xs.zipIdx start).map fun p => (.int p.2, p.1)

theorem positions_eq_indexed (xs : List Value) : positions xs = indexed 0 xs := rfl

theorem indexed_cons (start : Nat) (x : α) (xs : List α) :
    indexed start (x :: xs) = (.int start, x) :: indexed (start + 1) xs := rfl

theorem length_indexed (start : Nat) (xs : List α) : (indexed start xs).length = xs.length := by
  rw [indexed, List.length_map, List.length_zipIdx]

theorem map_fst_indexed (start : Nat) (xs : List α) :
    (indexed start xs).map Prod.fst = (List.range' start xs.length).map fun i : Nat => .int i := by
  rw [indexed, List.map_map, ← List.zipIdx_map_snd start xs, List.map_map]
  rfl

theorem map_snd_indexed (start : Nat) (xs : List α) : (indexed start xs).map Prod.snd = xs := by
  rw [indexed, List.map_map]
  exact List.zipIdx_map_fst start xs

/-- Under a position stands what stands there. -/
theorem lookup?_indexed (start : Nat) (xs : List α) (i : Nat) :
    g.lookup? (indexed start xs) (.int (start + i : Nat)) = xs[i]? := by
  induction xs generalizing start i with
  | nil => rfl
  | cons x xs ih =>
    rw [indexed_cons, Store.lookup?_cons]
    cases i with
    | zero =>
      rw [if_pos (Store.same_int_iff.mpr (Nat.add_zero start))]
      rfl
    | succ i =>
      rw [if_neg (mt Store.same_int_iff.mp (by omega)),
        show start + (i + 1) = start + 1 + i by omega]
      exact ih (start + 1) i

/-- Things next to others that are looked up by position are paired, as long as there are some. -/
theorem filterMap_zipIdx {β : Type} (at? : Nat → Option β) (ys : List β) (start : Nat)
    (h : ∀ i, at? (start + i) = ys[i]?) (xs : List α) :
    (xs.zipIdx start).filterMap (fun p => (at? p.2).map fun y => ((y, p.1), p.2)) =
      (ys.zip xs).zipIdx start := by
  induction xs generalizing ys start with
  | nil => rw [List.zip_nil_right]; rfl
  | cons x xs ih =>
    have hnext (i : Nat) : at? (start + 1 + i) = ys[i + 1]? := by
      rw [← h, Nat.add_comm i 1, Nat.add_assoc]
    cases ys with
    | nil =>
      rw [List.zipIdx_cons, List.filterMap_cons_none (by rw [show at? start = none from h 0]; rfl)]
      exact ih [] (start + 1) hnext
    | cons y ys =>
      rw [List.zipIdx_cons, List.filterMap_cons_some
        (by rw [show at? start = some y from h 0]; rfl), ih ys (start + 1) hnext]
      rfl

/-- The numbers below one that are not below another. -/
theorem filter_range_le (n m : Nat) :
    (List.range m).filter (fun i => decide (n ≤ i)) = List.range' n (m - n) := by
  induction m with
  | zero => rw [Nat.zero_sub]; rfl
  | succ m ih =>
    rw [List.range_succ, List.filter_append, ih]
    by_cases h : n ≤ m
    · rw [List.filter_cons_of_pos (by simpa using h), Nat.succ_sub h, List.range'_concat,
        Nat.one_mul, Nat.add_sub_cancel' h]
      rfl
    · rw [List.filter_cons_of_neg (by simpa using h), Nat.sub_eq_zero_of_le (by omega),
        Nat.sub_eq_zero_of_le (by omega)]
      rfl

end Indexed

/-! ### What is found in the items of an element -/

/-- What comparing the numbers of nodes and items finds: a mismatch if they are different, and each
position of an item beyond the last node. -/
def countFound (g : Store) (name : Value) (n : Nat) (xs : List Value) : Findings :=
  (singleUnless (n == xs.length) (lengthMismatch? g name ""
    ((List.range n).map fun i : Nat => .int i)
    ((List.range xs.length).map fun i : Nat => .int i))).append
    (gather (fun i : Nat => single (unknownKey? g name "" (.int i)))
      (List.range' n (xs.length - n)))

/-- Comparing positions as keys compares the numbers of nodes and items. -/
theorem parityFound_positions {name : Value} (schemas : List Schema) (xs : List Value) :
    parityFound g name "" ((indexed 0 schemas).map Prod.fst) (positions xs) =
      countFound g name schemas.length xs := by
  have hkeys (ys : List Schema) : (indexed 0 ys).map Prod.fst =
      (List.range ys.length).map fun i : Nat => .int i := by
    rw [map_fst_indexed, List.range_eq_range']
  have hkeys' : (positions xs).map Prod.fst =
      (List.range xs.length).map fun i : Nat => .int i := by
    rw [positions_eq_indexed, map_fst_indexed, List.range_eq_range']
  have hknown (i : Nat) : ((List.range schemas.length).map fun i : Nat => Value.int i).any
      (g.same (.int i)) = decide (i < schemas.length) := by
    rw [List.any_map, Bool.eq_iff_iff, List.any_eq_true, decide_eq_true_iff]
    simp [Store.same_int_iff]
  have hgather : gather (fun e => keyFound g name "" ((indexed 0 schemas).map Prod.fst) e.1)
        (positions xs) =
      gather (fun i : Nat => single (unknownKey? g name "" (.int i)))
        (List.range' schemas.length (xs.length - schemas.length)) := by
    rw [← gather_map (keyFound g name "" ((indexed 0 schemas).map Prod.fst)) Prod.fst, hkeys',
      gather_map, hkeys, ← filter_range_le]
    rw [← gather_filter (p := fun i => decide (schemas.length ≤ i))]
    · refine gather_congr fun i hi => ?_
      have hle : schemas.length ≤ i := by simpa using List.of_mem_filter hi
      rw [keyFound, hknown, decide_eq_false (by omega)]
      rfl
    · intro i hi
      rw [keyFound, hknown, singleUnless_eq_ok_nil_iff]
      simpa using hi
  rw [parityFound, hgather, hkeys, hkeys', List.length_map, List.length_range,
    positions_eq_indexed, length_indexed, countFound]

/-- **What is found in the items of an element** is what comparing their number with that of the
nodes finds, in strict mode, and then what is found in each item that has a node, next to the node
at the same position. -/
theorem entriesFound_positions (strict : Bool) (name : Value) (schemas : List Schema)
    (xs : List Value) :
    entriesFound g strict name "" (indexed 0 schemas) (positions xs) =
      (if strict then countFound g name schemas.length xs else .ok []).append
        (gather (fun p => found g strict name (.int p.2) (join? g "" (.int p.2)) p.1.2 p.1.1)
          (schemas.zip xs).zipIdx) := by
  rw [entriesFound, parityFound_positions, positions_eq_indexed]
  congr 1
  rw [indexed.eq_def 0 xs, gather_map]
  have hlookup (i : Nat) : g.lookup? (indexed 0 schemas) (.int (0 + i : Nat)) = schemas[i]? :=
    lookup?_indexed 0 schemas i
  rw [← filterMap_zipIdx (fun i : Nat => g.lookup? (indexed 0 schemas) (.int i)) schemas 0 hlookup
    xs]
  refine gather_filterMap (fun p => ?_) xs.zipIdx
  rw [foundChild_eq_lookup?]
  cases g.lookup? (indexed 0 schemas) (.int p.2) <;> rfl

/-! ### Nodes compiled in turn -/

section Compile

open Schema

/-- The entry of the name of a type, unless the name counts as false. -/
def nameEntry (g : Store) (name : Value) : Entries :=
  if g.truth name then [(.str typeNameKey, name)] else []

theorem namedPositions_eq (xs : List Value) (name : Value) :
    namedPositions g xs name = indexed 0 xs ++ nameEntry g name := rfl

/-- Positions are no keys of a type name. -/
theorem filter_indexed (start : Nat) (xs : List Value) (name : Value) :
    (indexed start xs ++ nameEntry g name).filter (!isTypeNameKey ·.1) = indexed start xs := by
  have hindexed : (indexed start xs).filter (!isTypeNameKey ·.1) = indexed start xs := by
    rw [List.filter_eq_self]
    intro e he
    obtain ⟨p, -, rfl⟩ := List.mem_map.mp he
    rfl
  have hname : isTypeNameKey (.str typeNameKey) = true := by decide
  rw [nameEntry, List.filter_append, hindexed]
  split_ifs
  · rw [List.filter_cons_of_neg (by simp [hname]), List.filter_nil, List.append_nil]
  · rw [List.filter_nil, List.append_nil]

theorem filter_namedPositions (g : Store) (xs : List Value) (name : Value) :
    (namedPositions g xs name).filter (!isTypeNameKey ·.1) = positions xs :=
  filter_indexed 0 xs name

/-- Entries under positions are named by the name given beside them. -/
theorem nameOf_indexed (start : Nat) (xs : List Value) (name : Value) :
    nameOf g (indexed start xs ++ nameEntry g name) =
      if g.truth name then name else .str unknownTypeName := by
  have hindexed : (indexed start xs).find? (isTypeNameKey ·.1) = none := by
    rw [List.find?_eq_none]
    intro e he
    obtain ⟨p, -, rfl⟩ := List.mem_map.mp he
    exact Bool.false_ne_true
  have hname : isTypeNameKey (.str typeNameKey) = true := by decide
  rw [nameOf, List.find?_append, hindexed, Option.none_or, nameEntry]
  by_cases htruth : g.truth name = true
  · simp [htruth, hname]
  · simp [htruth]

/-- Entries that compile do so one after the other. -/
theorem compileEntries_cons_eq_ok {around : List Ref} {path : Text} {e : Value × Value}
    {es : Entries} (hkey : isTypeNameKey e.1 = false) {c c' : Cursors}
    {children : List (Value × Schema)}
    (h : compileEntries g around path (e :: es) c = (.ok children, c')) :
    ∃ s d rest, children = (e.1, s) :: rest ∧
      compileEntries g around path [e] c = (.ok [(e.1, s)], d) ∧
      compileEntries g around path es d = (.ok rest, c') := by
  obtain ⟨key, node⟩ := e
  have hnil (d : Cursors) : compileEntries g around path [] d = (.ok [], d) := by
    rw [compileEntries]
  rw [compileEntries, if_neg (by simp [hkey])] at h
  split at h
  · cases h
  · next text htext =>
    split at h
    · cases h
    · next s d hnode =>
      split at h
      · cases h
      · next rest c'' hrest =>
        cases h
        refine ⟨s, d, rest, rfl, ?_, hrest⟩
        rw [compileEntries, if_neg (by simp [hkey])]
        simp only [htext, hnode, hnil]

/-- Nodes under their positions compile in turn, each where the one before it has left off. -/
theorem exists_compileEntries_of_indexed {around : List Ref} (xs : List Value) :
    ∀ (start : Nat) {c c' : Cursors} {children : List (Value × Schema)},
      compileEntries g around "" (indexed start xs) c = (.ok children, c') →
      ∃ (schemas : List Schema) (d : Nat → Cursors), children = indexed start schemas ∧
        schemas.length = xs.length ∧ d 0 = c ∧ d xs.length = c' ∧
        ∀ i x s, xs[i]? = some x → schemas[i]? = some s →
          compileEntries g around "" [(.int (start + i : Nat), x)] (d i) =
            (.ok [(.int (start + i : Nat), s)], d (i + 1)) := by
  induction xs with
  | nil =>
    intro start c c' children h
    rw [indexed, List.zipIdx_nil, List.map_nil, compileEntries] at h
    cases h
    exact ⟨[], fun _ => c, rfl, rfl, rfl, rfl, fun i x s hx => nomatch hx⟩
  | cons x xs ih =>
    intro start c c' children h
    rw [indexed_cons] at h
    obtain ⟨s, d, rest, rfl, hfirst, hrest⟩ := compileEntries_cons_eq_ok rfl h
    obtain ⟨schemas, d', rfl, hlength, rfl, rfl, hturn⟩ := ih (start + 1) hrest
    refine ⟨s :: schemas, fun i => i.casesOn c d', rfl, congrArg (· + 1) hlength, rfl, rfl, ?_⟩
    intro i y t hy ht
    cases i with
    | zero =>
      obtain rfl := Option.some.inj hy
      obtain rfl := Option.some.inj ht
      exact hfirst
    | succ i =>
      rw [show start + (i + 1) = start + 1 + i by omega]
      exact hturn i y t hy ht

/-- Entries under positions compile at the root of a mapping as they do outside of any. -/
theorem ofSchema_of_indexed {schema name : Value} {r : Ref} {start : Nat} {xs : List Value}
    (hschema : g.mapping? schema = some (r, indexed start xs ++ nameEntry g name))
    (hr : ∀ fs, ¬ Reaches g (indexed start xs) r fs) {c c' : Cursors}
    {children : List (Value × Schema)}
    (h : compileEntries g [] "" (indexed start xs) c = (.ok children, c')) :
    ofSchema g c schema =
      (.ok ⟨.object, if g.truth name then name else .str unknownTypeName, children⟩, c') := by
  have haround : ∀ q fs, Reaches g (indexed start xs) q fs → (q ∈ [r] ↔ q ∈ []) := by
    intro q fs hq
    refine iff_of_false ?_ List.not_mem_nil
    rw [List.mem_singleton]
    rintro rfl
    exact hr fs hq
  have hentries : compileEntries g [r] "" (indexed start xs ++ nameEntry g name) c =
      (.ok children, c') := by
    rw [← compileEntries_filter, filter_indexed, compileEntries_eq_of_around haround, h]
  rw [ofSchema, compile_eq_of_mapping? hschema, compileRoot, hentries, nameOf_indexed]
  rfl

end Compile

/-! ### Sequences -/

/-- The items of an element, of which there are none if it gives none. -/
def itemsOf (g : Store) (c : Cursors) (element : Value) : List Value :=
  ((g.drain? c element).map Prod.fst).getD []

theorem fst_getD_drain? (c : Cursors) (element : Value) :
    ((g.drain? c element).getD ([], c)).1 = itemsOf g c element := by
  rw [itemsOf]
  cases g.drain? c element <;> rfl

/-- A check of a sequence reports what there is to find in the items of the element. -/
theorem findings_sequence (s : ObjectSchema) (element : Value) {o : Options}
    (ho : g.truth o.fatal = false) (c : Cursors) :
    findings g c ⟨.sequence, s⟩ element o =
      entriesFound g (g.truth o.strict) s.name "" s.children (positions (itemsOf g c element)) := by
  rw [findings, check, Options.settings, ho, walk]
  simp only [ObjectSchema.checkEntries, fst_getD_drain?,
    (visitEntries_reports g _ _ _ _).run_collecting]
  cases entriesFound g (g.truth o.strict) s.name "" s.children (positions (itemsOf g c element)) <;>
    rfl

theorem countFound_eq_ok_nil_iff {name : Value} {n : Nat} {xs : List Value} :
    countFound g name n xs = .ok [] ↔ n = xs.length := by
  rw [countFound, append_eq_ok_nil_iff, singleUnless_eq_ok_nil_iff, beq_iff_eq,
    and_iff_left_iff_imp]
  rintro rfl
  rw [Nat.sub_self]
  rfl

/-- There is nothing to find in the items of an element, in strict mode, exactly if there are as
many as nodes and each conforms to its node, and if all places that are visited have paths. -/
theorem entriesFound_positions_eq_ok_nil_iff (hg : g.WellFormed) (name : Value)
    {schemas : List Schema} (hschemas : ∀ s ∈ schemas, s.WellFormed g) (xs : List Value) :
    entriesFound g true name "" (indexed 0 schemas) (positions xs) = .ok [] ↔
      (schemas.length = xs.length ∧ ∀ p ∈ schemas.zip xs, p.1.Conforms g true p.2) ∧
        ∀ p ∈ (schemas.zip xs).zipIdx, p.1.1.HasPlaces g (g.str? (.int p.2)).isSome p.1.2 := by
  have hpair : ∀ p ∈ (schemas.zip xs).zipIdx,
      (found g true name (.int p.2) (join? g "" (.int p.2)) p.1.2 p.1.1 = .ok [] ↔
        p.1.1.Conforms g true p.1.2 ∧ p.1.1.HasPlaces g (g.str? (.int p.2)).isSome p.1.2) := by
    intro p hp
    have hmem := List.of_mem_zip (List.fst_mem_of_mem_zipIdx hp)
    rw [found_eq_ok_nil_iff hg (hschemas p.1.1 hmem.1), isSome_join?]
  have hconforms : (∀ p ∈ schemas.zip xs, p.1.Conforms g true p.2) ↔
      ∀ p ∈ (schemas.zip xs).zipIdx, p.1.1.Conforms g true p.1.2 := by
    conv_lhs => rw [← List.zipIdx_map_fst 0 (schemas.zip xs)]
    exact List.forall_mem_map
  rw [entriesFound_positions, if_pos rfl, append_eq_ok_nil_iff, countFound_eq_ok_nil_iff,
    gather_eq_ok_nil_iff, forall₂_congr hpair, forall₂_and, hconforms, and_assoc]

/-- Where anything comes of an element, there is nothing to find in its items, in strict mode,
exactly if there are as many as nodes and each conforms to its node. -/
theorem eq_nil_iff_of_entriesFound_positions (hg : g.WellFormed) {name : Value}
    {schemas : List Schema} (hschemas : ∀ s ∈ schemas, s.WellFormed g) {xs : List Value}
    {vs : List Violation}
    (h : entriesFound g true name "" (indexed 0 schemas) (positions xs) = .ok vs) :
    vs = [] ↔ schemas.length = xs.length ∧ ∀ p ∈ schemas.zip xs, p.1.Conforms g true p.2 := by
  have hnil := entriesFound_positions_eq_ok_nil_iff hg name hschemas xs
  have hplaces : ∀ p ∈ (schemas.zip xs).zipIdx,
      p.1.1.HasPlaces g (g.str? (.int p.2)).isSome p.1.2 := by
    intro p hp
    rw [entriesFound_positions] at h
    obtain ⟨-, us, -, hus, -⟩ := append_eq_ok_iff.mp h
    obtain ⟨ws, hws⟩ := exists_gather_eq_ok_iff.mp ⟨us, hus⟩ p hp
    have hmem := List.of_mem_zip (List.fst_mem_of_mem_zipIdx hp)
    have hitem := hasPlaces_of_found_eq_ok hg (hschemas p.1.1 hmem.1) hws
    rwa [isSome_join?] at hitem
  rwa [h, Except.ok.injEq, and_iff_left hplaces] at hnil

/-- What a validator of a sequence is made from: the items of the sequence, compiled under their
positions. -/
theorem exists_of_ofSequence {nodes name : Value} {c c' : Cursors} {v : Validator}
    (hv : ofSequence g c nodes name = (.ok v, c')) :
    ∃ ss c₀ children, g.drain? c nodes = some (ss, c₀) ∧
      v = ⟨.sequence, if g.truth name then name else .str Schema.unknownTypeName, children⟩ ∧
      Schema.compileEntries g [] "" (indexed 0 ss) c₀ = (.ok children, c') := by
  rw [ofSequence] at hv
  cases hdrain : g.drain? c nodes with
  | none =>
    rw [hdrain] at hv
    cases hv
  | some drained =>
    obtain ⟨ss, c₀⟩ := drained
    simp only [hdrain, namedPositions_eq] at hv
    rw [Schema.compileRoot, ← Schema.compileEntries_filter, filter_indexed, nameOf_indexed] at hv
    cases hentries : Schema.compileEntries g [] "" (indexed 0 ss) c₀ with
    | mk result d =>
      rw [hentries] at hv
      cases result with
      | error e => cases hv
      | ok children =>
        cases hv
        exact ⟨ss, c₀, children, rfl, rfl, hentries⟩

/-- **A sequence is checked position by position.** What a validator of a sequence of nodes reports
of an element is, in strict mode, a mismatch if the numbers of nodes and items are different and an
unknown key for each position of an item beyond the last node, in ascending order; and then, for
each item that has a node at its position and in order, what the mapping with this node only, at
its position and with the same name, reports of the mapping with this item only, at its position.
So a report in strict mode has no violations exactly if there are as many items as nodes and each
item conforms to the node at its position; and there is such a report exactly if, besides, each key
that leads to a nested object has a text. -/
theorem ofSequence_checks_positions (hg : g.WellFormed) {nodes name : Value} {c c' : Cursors}
    {v : Validator} (hv : ofSequence g c nodes name = (.ok v, c')) :
    ∃ (ss : List Value) (schemas : List Schema) (d : Nat → Cursors),
      g.drain? c nodes = some (ss, d 0) ∧ v.schema.children = indexed 0 schemas ∧
      schemas.length = ss.length ∧ d ss.length = c' ∧
      (∀ (i : Nat) (x : Value) (s : Schema) (schema : Value) (r : Ref), ss[i]? = some x →
        schemas[i]? = some s → g.mapping? schema = some (r, (.int i, x) :: nameEntry g name) →
        (∀ fs, ¬ Schema.Reaches g [(.int i, x)] r fs) →
        ofSchema g (d i) schema = (.ok ⟨.object, v.name, [(.int i, s)]⟩, d (i + 1))) ∧
      ∀ (o : Options) (element : Value) (e : Cursors), g.truth o.fatal = false →
        (∀ alone : Nat → Value,
          (∀ p ∈ (schemas.zip (itemsOf g e element)).zipIdx,
            g.entries? (alone p.2) = some [(.int p.2, p.1.2)]) →
          findings g e v element o =
            (if g.truth o.strict then countFound g v.name ss.length (itemsOf g e element)
              else .ok []).append
              (gather (fun p => findings g e ⟨.object, v.name, [(.int p.2, p.1.1)]⟩ (alone p.2) o)
                (schemas.zip (itemsOf g e element)).zipIdx)) ∧
        (g.truth o.strict = true →
          (∀ vs, findings g e v element o = .ok vs →
            (vs = [] ↔ ss.length = (itemsOf g e element).length ∧
              ∀ p ∈ schemas.zip (itemsOf g e element), p.1.Conforms g true p.2)) ∧
          (findings g e v element o = .ok [] ↔
            (ss.length = (itemsOf g e element).length ∧
              ∀ p ∈ schemas.zip (itemsOf g e element), p.1.Conforms g true p.2) ∧
            ∀ p ∈ (schemas.zip (itemsOf g e element)).zipIdx,
              p.1.1.HasPlaces g (g.str? (.int p.2)).isSome p.1.2)) := by
  obtain ⟨ss, c₀, children, hdrain, rfl, hchildren⟩ := exists_of_ofSequence hv
  obtain ⟨schemas, d, rfl, hlength, rfl, rfl, hturn⟩ :=
    exists_compileEntries_of_indexed ss 0 hchildren
  simp only [Nat.zero_add] at hturn
  refine ⟨ss, schemas, d, hdrain, rfl, hlength, rfl, ?_, ?_⟩
  · intro i x s schema r hx hs hschema hr
    have halone : g.mapping? schema = some (r, indexed i [x] ++ nameEntry g name) := hschema
    exact ofSchema_of_indexed halone hr (hturn i x s hx hs)
  · intro o element e ho
    rw [findings_sequence _ _ ho]
    constructor
    · intro alone halone
      rw [entriesFound_positions, hlength]
      congr 1
      refine gather_congr fun p hp => ?_
      rw [findings_mapping (halone p hp) ho, entriesFound_singleton]
      rfl
    · intro hstrict
      have hschemas : ∀ s ∈ schemas, s.WellFormed g := by
        intro s hs
        obtain ⟨i, hi⟩ := List.mem_iff_getElem?.mp hs
        have hmem : (.int i, s) ∈ indexed 0 schemas :=
          List.mem_map_of_mem (List.mk_mem_zipIdx_iff_getElem?.mpr hi)
        exact (Schema.childrenOf_of_compileEntries hg hchildren).wellFormed _ s hmem
      rw [hstrict, ← hlength]
      exact ⟨fun vs => eq_nil_iff_of_entriesFound_positions hg hschemas,
        entriesFound_positions_eq_ok_nil_iff hg _ hschemas _⟩

/-- A sequence of two nodes, an element with three items, and mappings with the first node and with
the first two items alone. -/
def pairStore : Store where
  objects := #[
    .list [.str "Number", .str "String"],
    .list [.str "x", .str "y", .null],
    .mapping .plain [(.int 0, .str "Number"), (.str "__typeName", .str "Pair")],
    .mapping .plain [(.int 0, .str "x")],
    .mapping .plain [(.int 1, .str "y")]]

theorem pairStore_wellFormed : pairStore.WellFormed where
  mapping {r kind es} hr := by
    have hes : kind = .plain ∧ (es = [(.int 0, .str "Number"), (.str "__typeName", .str "Pair")] ∨
        es = [(.int 0, .str "x")] ∨ es = [(.int 1, .str "y")]) := by
      simpa [pairStore, and_or_left] using Array.mem_of_getElem? hr
    rcases hes.2 with rfl | rfl | rfl <;> exact ⟨by decide, by decide⟩
  set hr := by simpa [pairStore] using Array.mem_of_getElem? hr
  schema hr := by simpa [pairStore] using Array.mem_of_getElem? hr
  violation hr := by simpa [pairStore] using Array.mem_of_getElem? hr

/-- What the sequence of the sample compiles to. -/
def pairSchemas : List Schema :=
  [.leaf (.str "Number") (.named "Number"), .leaf (.str "String") (.named "String")]

theorem str?_position {i : Nat} (hi : i < 2) :
    pairStore.str? (.int i) = some (toString i : Text) := by
  -- The bound on numerals is too large to be computed.
  have hlimit : Number.digitLimit ≠ 0 := by decide
  rw [Store.str?_int, Number.intText?, Int.natAbs_natCast]
  generalize Number.digitLimit = n at hlimit
  have hpow := Nat.one_lt_pow hlimit (show 1 < 10 by decide)
  rw [if_neg (by omega)]
  rfl

theorem ofSequence_pairStore : ofSequence pairStore [] (.ref 0) (.str "Pair") =
    (.ok ⟨.sequence, .str "Pair", indexed 0 pairSchemas⟩, []) := by
  have hcons {i : Nat} (hi : i < 2) {text : String} {es : Entries}
      {children : List (Value × Schema)} (hparse : Descriptor.parse text = .ok (.named text))
      (hes : Schema.compileEntries pairStore [] "" es [] = (.ok children, [])) :
      Schema.compileEntries pairStore [] "" ((.int i, .str text) :: es) [] =
        (.ok ((.int i, .leaf (.str text) (.named text)) :: children), []) := by
    have hnode (path : Text) : Schema.compileNode pairStore [] path (.str text) [] =
        (.ok (.leaf (.str text) (.named text)), []) := by
      rw [Schema.compileNode, Schema.leafNode?]
      simp only [Value.str?, Value.base, hparse]
      rfl
    rw [Schema.compileEntries, if_neg (show ¬ Schema.isTypeNameKey (.int i) = true from
      Bool.false_ne_true)]
    simp only [str?_position hi, hnode, hes]
  have hnil : Schema.compileEntries pairStore [] "" [] [] = (.ok [], []) := by
    rw [Schema.compileEntries]
  have hchildren : Schema.compileEntries pairStore [] ""
      (indexed 0 [.str "Number", .str "String"]) [] = (.ok (indexed 0 pairSchemas), []) :=
    hcons (i := 0) (by decide) (by cbv) (hcons (i := 1) (by decide) (by cbv) hnil)
  have hdrain : pairStore.drain? [] (.ref 0) = some ([.str "Number", .str "String"], []) := rfl
  rw [ofSequence, hdrain]
  simp only [namedPositions_eq]
  rw [Schema.compileRoot, ← Schema.compileEntries_filter, filter_indexed, nameOf_indexed, hchildren]
  rfl

/-- The third item is one too many, and each of the first two is compared with its own node. -/
theorem ofSequence_checks_positions_sample :
    pairStore.WellFormed ∧
      ofSequence pairStore [] (.ref 0) (.str "Pair") =
        (.ok ⟨.sequence, .str "Pair", indexed 0 pairSchemas⟩, []) ∧
      (∃ c, ofSchema pairStore [] (.ref 2) =
        (.ok ⟨.object, .str "Pair", [(.int 0, .leaf (.str "Number") (.named "Number"))]⟩, c)) ∧
      findings pairStore [] ⟨.sequence, .str "Pair", indexed 0 pairSchemas⟩ (.ref 1) {} =
        (countFound pairStore (.str "Pair") 2 [.str "x", .str "y", .null]).append
          (gather (fun p => findings pairStore [] ⟨.object, .str "Pair", [(.int p.2, p.1.1)]⟩
            (if p.2 = 0 then .ref 3 else .ref 4) {})
            (pairSchemas.zip [Value.str "x", .str "y", .null]).zipIdx) := by
  obtain ⟨ss, schemas, d, hdrain, hchildren, hlength, -, hcompile, hcheck⟩ :=
    ofSequence_checks_positions pairStore_wellFormed ofSequence_pairStore
  obtain rfl : schemas = pairSchemas := by
    have hsnd := congrArg (List.map Prod.snd) hchildren
    rw [map_snd_indexed, map_snd_indexed] at hsnd
    exact hsnd.symm
  obtain ⟨rfl, hd⟩ : [.str "Number", .str "String"] = ss ∧ [] = d 0 :=
    Prod.mk.inj (Option.some.inj hdrain)
  refine ⟨pairStore_wellFormed, ofSequence_pairStore, ⟨d 1, ?_⟩, ?_⟩
  · rw [hd]
    refine hcompile 0 _ _ (.ref 2) 2 rfl rfl rfl fun fs h => ?_
    cases h with
    | here he h =>
      rw [List.mem_singleton.mp he] at h
      cases h.mapping
    | inside he h =>
      rw [List.mem_singleton.mp he] at h
      cases h.mapping
  · have hparts := (hcheck {} (.ref 1) [] rfl).1 fun i => if i = 0 then .ref 3 else .ref 4
    rw [if_pos (show pairStore.truth ({} : Options).strict = true from rfl)] at hparts
    refine hparts fun p hp => ?_
    have hpairs : (pairSchemas.zip (itemsOf pairStore [] (.ref 1))).zipIdx =
        [((.leaf (.str "Number") (.named "Number"), .str "x"), 0),
          ((.leaf (.str "String") (.named "String"), .str "y"), 1)] := rfl
    rw [hpairs, List.mem_cons, List.mem_singleton] at hp
    rcases hp with rfl | rfl <;> rfl

end Validator

end Conformance
