import Conformance.Proofs.Schema.Positions
import Conformance.Schema.Compile

/-!
# Where compiling a schema stops

Compiling goes through the positions of a schema in order and stops at the first that it cannot
use. Besides the positions that are not good this is one that announces a marker of given values
and holds a class in their place whose instances can be gone through: such a class claims the same
of itself, and cannot be gone through. It is not good for nothing else, and what stops there is no
fault of the schema's own kind.

What a compilation says about the positions that it is to look at is one notion for nodes, mappings
and entries alike: it has a result if all of them can be used, and else the failure of the first
one that cannot. The recursion is that of compiling, and each step puts together what is said about
the first entry and about the rest.

## Main definitions

* `Marker.IsUnreadable` — entries that announce a marker of given values and hold a class there
  that cannot be gone through.
* `Position.IsUsable`, `Position.Stops` — positions that do not stop a compilation, and the failure
  of one that does.
* `Schema.Settles` — a result says whether some positions can be used, or which is the first that
  cannot.

## Main results

* `Marker.exists_ofEntries_eq_ok_some`, `Marker.ofEntries_eq_ok_none`,
  `Marker.IsUnreadable.ofEntries_eq` — when entries are a marker.
* `Position.exists_stops_iff`, `Position.Stops.unique` — a position stops a compilation exactly if
  it cannot be used, and with one failure only.
* `Schema.compileEntries_settles` — compiling entries settles the positions below them.
-/

namespace Conformance

/-- The value is a class whose instances can be gone through. -/
def Value.IsElementsClass (v : Value) : Prop := ∃ name, v.base = .builtin (.cls name true)

/-- Where the allowed values of a marker of given values stand, there is a class whose instances
can be gone through. -/
def Marker.IsUnreadable (es : Entries) : Prop :=
  ∃ key payload rest, es = (key, payload) :: rest ∧
    kindOfKey? key = some (.str equalKind) ∧ payload.IsElementsClass

/-! ### Entries that announce a marker -/

section Store

variable {g : Store} {v : Value}

theorem Value.IsElementsClass.claimsElements (h : v.IsElementsClass) :
    g.claimsElements v = true := by
  obtain ⟨name, hbase⟩ := h
  rw [Store.claimsElements, hbase]

theorem Value.IsElementsClass.elements?_eq (h : v.IsElementsClass) : g.elements? v = none := by
  obtain ⟨name, hbase⟩ := h
  rw [Store.elements?, hbase]

/-- What cannot be gone through does not claim that it can be, unless it is a class. -/
theorem Store.elements?_eq_none_iff_of_claimsElements (h : g.claimsElements v = true) :
    g.elements? v = none ↔ v.IsElementsClass := by
  refine ⟨fun hnone => ?_, fun hclass => hclass.elements?_eq⟩
  rw [Store.claimsElements] at h
  split at h
  · next name iterates hbase =>
    subst h
    exact ⟨name, hbase⟩
  · next hbase => rw [Store.elements?, hbase] at hnone; cases hnone
  · rw [hnone] at h
    cases h

theorem Store.drain?_eq_none_iff {c : Cursors} : g.drain? c v = none ↔ g.elements? v = none := by
  rw [Store.drain?, Store.remaining?]
  cases g.oneShot? v <;> simp

end Store

namespace Marker

variable {g : Store} {es : Entries}

theorem isSome_kindOfKey?_iff {key : Value} :
    (kindOfKey? key).isSome = true ↔ ∃ points ∈ key.points?, Text.points keyPrefix <+: points := by
  rw [kindOfKey?]
  cases key.points? with
  | none => simp
  | some points =>
    by_cases hprefix : (Text.points keyPrefix).isPrefixOf points = true
    · simp [List.isPrefixOf_iff_prefix.mp hprefix]
    · simp [mt List.isPrefixOf_iff_prefix.mpr hprefix]

theorem isShape_cons_iff {key payload : Value} :
    IsShape ((key, payload) :: es) ↔ (kindOfKey? key).isSome = true := by
  rw [isSome_kindOfKey?_iff]
  simp [IsShape]

/-- Entries that announce a marker begin with one that does. -/
theorem IsShape.exists_kindOfKey? (h : IsShape es) :
    ∃ key payload rest kind, es = (key, payload) :: rest ∧ kindOfKey? key = some kind := by
  cases es with
  | nil =>
    obtain ⟨key, hkey, -⟩ := h
    cases hkey
  | cons e es =>
    obtain ⟨key, payload⟩ := e
    obtain ⟨kind, hkind⟩ := Option.isSome_iff_exists.mp (isShape_cons_iff.mp h)
    exact ⟨key, payload, es, kind, rfl, hkind⟩

/-- Entries that do not announce a marker are none. -/
theorem ofEntries_eq_ok_none (h : ¬ IsShape es) (c : Cursors) :
    ofEntries g c es = (.ok none, c) := by
  cases es with
  | nil => rfl
  | cons e es =>
    obtain ⟨key, payload⟩ := e
    rw [isShape_cons_iff, Bool.not_eq_true, Option.isSome_eq_false_iff, Option.isNone_iff_eq_none]
      at h
    rw [ofEntries, h]

/-- What is no class and cannot be gone through is the only allowed value. -/
theorem allowedValues_of_elements?_eq_none {payload : Value} (h : g.elements? payload = none)
    (hclass : ¬ payload.IsElementsClass) (c : Cursors) :
    allowedValues g c payload = (.ok [payload], c) := by
  have hclaims : g.claimsElements payload = false := by
    rw [Bool.eq_false_iff]
    exact fun hclaims => hclass ((Store.elements?_eq_none_iff_of_claimsElements hclaims).mp h)
  have hsingle : isSingle g payload = true := by
    rw [isSingle, hclaims]
    split <;> rfl
  rw [allowedValues, if_pos hsingle]

/-- An object that can be gone through again and again stands for its elements. -/
theorem allowedValues_of_elements? {payload : Value} {r : Ref} {x : Object} {values : List Value}
    (h : g.object? payload = some (r, x)) (hvalues : g.elements? payload = some values)
    (hshot : g.oneShot? payload = none) (c : Cursors) :
    allowedValues g c payload = (.ok values, c) := by
  have hsingle : isSingle g payload = false := by
    simp [isSingle, Store.claimsElements, Store.base_eq_of_object? h, hvalues]
  rw [allowedValues, hsingle, if_neg Bool.false_ne_true]
  simp [Store.drain?, Store.remaining?, Store.take, hshot, hvalues]

theorem allowedValues_of_isElementsClass {payload : Value} (h : payload.IsElementsClass)
    (c : Cursors) : allowedValues g c payload = (.error .wrongType, c) := by
  have hsingle : isSingle g payload = false := by
    obtain ⟨name, hbase⟩ := h
    rw [isSingle, hbase]
    simp [Store.claimsElements, hbase]
  rw [allowedValues, hsingle, if_neg Bool.false_ne_true,
    Store.drain?_eq_none_iff.mpr h.elements?_eq]

/-- The allowed values of a marker can be told, unless they are given by a class. -/
theorem exists_allowedValues_eq_ok {payload : Value} (hclass : ¬ payload.IsElementsClass)
    (c : Cursors) : ∃ values c', allowedValues g c payload = (.ok values, c') := by
  cases hdrain : g.drain? c payload with
  | none =>
    rw [Store.drain?_eq_none_iff] at hdrain
    exact ⟨_, _, allowedValues_of_elements?_eq_none hdrain hclass c⟩
  | some drained =>
    rw [allowedValues]
    split
    · exact ⟨_, _, rfl⟩
    · rw [hdrain]
      exact ⟨_, _, rfl⟩

theorem IsUnreadable.isShape (h : IsUnreadable es) : IsShape es := by
  obtain ⟨key, payload, rest, rfl, hkind, -⟩ := h
  rw [isShape_cons_iff, hkind]
  rfl

/-- Where a class is given that cannot be gone through, no marker is made. -/
theorem IsUnreadable.ofEntries_eq (h : IsUnreadable es) (c : Cursors) :
    ofEntries g c es = (.error .wrongType, c) := by
  obtain ⟨key, payload, rest, rfl, hkind, hclass⟩ := h
  simp only [ofEntries, hkind, ofKind, if_true, allowedValues_of_isElementsClass hclass]
  rfl

/-- Entries that announce a marker are one, unless the values are given by a class. -/
theorem exists_ofEntries_eq_ok_some (h : IsShape es) (hread : ¬ IsUnreadable es) (c : Cursors) :
    ∃ m c', ofEntries g c es = (.ok (some m), c') := by
  obtain ⟨key, payload, rest, kind, rfl, hkind⟩ := h.exists_kindOfKey?
  simp only [ofEntries, hkind, ofKind]
  by_cases hequal : kind = .str equalKind
  · have hclass : ¬ payload.IsElementsClass := fun hclass =>
      hread ⟨key, payload, rest, rfl, hequal ▸ hkind, hclass⟩
    obtain ⟨values, c', hvalues⟩ := exists_allowedValues_eq_ok hclass c
    rw [if_pos hequal, hvalues]
    exact ⟨_, _, rfl⟩
  · rw [if_neg hequal]
    by_cases hpromise : kind = .str promiseKind
    · rw [if_pos hpromise]
      exact ⟨_, _, rfl⟩
    · rw [if_neg hpromise]
      exact ⟨_, _, rfl⟩

end Marker

/-! ### Positions that stop a compilation -/

namespace Position

/-- If the node announces a marker of given values, then these can be told. -/
def Readable (g : Store) (p : Position) : Prop :=
  ∀ r es, g.mapping? p.node = some (r, es) → ¬ Marker.IsUnreadable es

/-- The position is good, and no class stands there in the place of values. -/
structure IsUsable (g : Store) (p : Position) : Prop where
  good : p.Good g
  readable : p.Readable g

/-- The failure with which a position stops a compilation: the one of a position that is not good,
or that a class stands in the place of values. -/
inductive Stops (g : Store) (above : Text) (p : Position) : Failure → Prop
  | fails {e : Failure} (h : p.Fails g above e) : Stops g above p e
  | unreadable (hgood : p.Good g) (h : ¬ p.Readable g) : Stops g above p .wrongType

variable {g : Store} {p : Position} {above : Text}

/-- A position stops a compilation with one failure only. -/
theorem Stops.unique {e e' : Failure} (h : p.Stops g above e) (h' : p.Stops g above e') :
    e = e' := by
  cases h with
  | fails h =>
    cases h' with
    | fails h' => exact h.unique h'
    | unreadable hgood => exact absurd hgood (exists_fails_iff.mp ⟨e, h⟩)
  | unreadable hgood =>
    cases h' with
    | fails h' => exact absurd hgood (exists_fails_iff.mp ⟨e', h'⟩)
    | unreadable => rfl

section Under

variable {k : Value} {text : Text} (hk : g.str? k = some text)

include hk

theorem isUsable_under_iff : (p.under k).IsUsable g ↔ p.IsUsable g :=
  ⟨fun h => ⟨(good_under_iff hk).mp h.good, h.readable⟩,
    fun h => ⟨(good_under_iff hk).mpr h.good, h.readable⟩⟩

theorem Stops.under {e : Failure} (h : p.Stops g (Schema.joinPath above text) e) :
    (p.under k).Stops g above e := by
  cases h with
  | fails h => exact .fails (h.under hk)
  | unreadable hgood h => exact .unreadable ((good_under_iff hk).mpr hgood) h

end Under

/-- A node that may stand inside the given mappings can be used, unless it is a mapping with a
class in the place of values. -/
theorem isUsable_start {around : List Ref} {v : Value} (h : Acceptable g around v)
    (hread : ∀ r es, g.mapping? v = some (r, es) → ¬ Marker.IsUnreadable es) :
    (start around v).IsUsable g :=
  ⟨good_start_iff.mpr h, hread⟩

end Position

namespace Schema

open Position

variable {g : Store}

/-! ### Settling positions -/

/-- The result says about some positions, below a value and a path, what compiling says about
them: if there is one, all of them can be used, and else it is the failure of one that cannot, and
the others that cannot come after it. -/
def Settles {α : Type} (g : Store) (v : Value) (above : Text) (P : Position → Prop) :
    Except Failure α → Prop
  | .ok _ => ∀ p, P p → p.IsUsable g
  | .error e => ∃ p, P p ∧ p.Stops g above e ∧
      ∀ q, P q → ¬ q.IsUsable g → q = p ∨ g.Precedes v p.keys q.keys

namespace Settles

variable {α β : Type} {v : Value} {above : Text} {P Q : Position → Prop}

theorem congr {r : Except Failure α} (h : Settles g v above P r) (hPQ : ∀ p, P p ↔ Q p) :
    Settles g v above Q r := by
  obtain rfl : P = Q := funext fun p => propext (hPQ p)
  exact h

/-- A failure is that of the first of all positions if it is that of the first of some which all
others come after. -/
theorem or_of_error {e : Failure} (h : Settles g v above P (.error e : Except Failure α))
    (hbefore : ∀ p q, P p → Q q → g.Precedes v p.keys q.keys) :
    Settles g v above (fun p => P p ∨ Q p) (.error e : Except Failure β) := by
  obtain ⟨p, hp, hstops, hfirst⟩ := h
  refine ⟨p, .inl hp, hstops, fun q hq hbad => ?_⟩
  rcases hq with hq | hq
  · exact hfirst q hq hbad
  · exact .inr (hbefore p q hp hq)

/-- Positions that can be used do not change what is said about others. -/
theorem or_of_usable {r : Except Failure α} (husable : ∀ p, P p → p.IsUsable g)
    (h : Settles g v above Q r) : Settles g v above (fun p => P p ∨ Q p) r := by
  cases r with
  | ok x =>
    rintro p (hp | hp)
    · exact husable p hp
    · exact h p hp
  | error e =>
    obtain ⟨p, hp, hstops, hfirst⟩ := h
    refine ⟨p, .inr hp, hstops, fun q hq hbad => ?_⟩
    rcases hq with hq | hq
    · exact absurd (husable q hq) hbad
    · exact hfirst q hq hbad

/-- What is said about the positions of a node, seen from a mapping that holds it. -/
theorem ofEntry {r : Except Failure α} {es : Entries} {k w : Value} {around : List Ref}
    {text : Text} (hes : g.entries? v = some es) (hentry : (k, w) ∈ es)
    (htext : g.str? k = some text)
    (h : Settles g w (joinPath above text) (Position.Within g around w) r) :
    Settles g v above (Position.OfEntry g around (k, w)) r := by
  cases r with
  | ok x =>
    rintro p ⟨p', hp', rfl⟩
    exact (isUsable_under_iff htext).mpr (h p' hp')
  | error e =>
    obtain ⟨p, hp, hstops, hfirst⟩ := h
    refine ⟨p.under k, ⟨p, hp, rfl⟩, hstops.under htext, ?_⟩
    rintro q ⟨q', hq', rfl⟩ hbad
    rw [isUsable_under_iff htext] at hbad
    rcases hfirst q' hq' hbad with rfl | hafter
    · exact .inl rfl
    · exact .inr (.inside hes hentry hafter)

/-- Where the key of an entry has no text, the node of the entry is the first that stops a compilation. -/
theorem of_str?_eq_none {es : Entries} {k w : Value} {around : List Ref}
    (hes : g.entries? v = some es) (hentry : (k, w) ∈ es) (htext : g.str? k = none) :
    Settles g v above (Position.OfEntry g around (k, w))
      (.error .wrongValue : Except Failure α) := by
  refine ⟨(Position.start around w).under k, ⟨_, .here, rfl⟩, .fails (.noPath ?_), ?_⟩
  · change g.path? above [k] = none
    rw [Store.path?_singleton, htext, Option.map_none]
  · rintro q ⟨q', hq', rfl⟩ -
    rcases hq'.eq_start_or_precedes with rfl | hafter
    · exact .inl rfl
    · exact .inr (.inside hes hentry hafter)

/-- A node that stops a compilation is the first of its positions that does. -/
theorem of_stops {around : List Ref} {e : Failure}
    (h : (Position.start around v).Stops g above e) :
    Settles g v above (Position.Within g around v) (.error e : Except Failure α) :=
  ⟨_, .here, h, fun _ hq _ => hq.eq_start_or_precedes⟩

theorem of_refused {around : List Ref} {e : Failure} (h : Refused g around above v e) :
    Settles g v above (Position.Within g around v) (.error e : Except Failure α) :=
  .of_stops (.fails (.refused (Store.path?_nil above) h))

/-- Where no chain goes on from a node, the node alone is to be usable. -/
theorem of_acceptable {around : List Ref} {x : α}
    (hnode : ∀ r es, g.mapping? v = some (r, es) → Marker.IsShape es ∧ ¬ Marker.IsUnreadable es)
    (h : Acceptable g around v) : Settles g v above (Position.Within g around v) (.ok x) := by
  intro p hp
  rw [hp.eq_start fun r es hmapping => (hnode r es hmapping).1]
  exact isUsable_start h fun r es hmapping => (hnode r es hmapping).2

theorem of_leaf {around : List Ref} {x : α} (hnode : g.mapping? v = none)
    (h : Acceptable g around v) : Settles g v above (Position.Within g around v) (.ok x) :=
  of_acceptable (fun _ _ hmapping => nomatch hnode.symm.trans hmapping) h

end Settles

/-! ### Compiling -/

/-- A node in the place of a leaf is no mapping, and it may stand there or is a text that is no
descriptor. -/
theorem settles_of_leafNode? {v : Value} {above : Text} {around : List Ref}
    {r : Except SyntaxError Schema} (h : leafNode? g v = some r) :
    Settles g v above (Position.Within g around v)
      (r.mapError fun e => Failure.schema (.descriptor v e)) := by
  rw [leafNode?] at h
  cases hs : v.str? with
  | some s =>
    simp only [hs, Option.some.injEq] at h
    cases hd : Descriptor.parse s with
    | ok d =>
      obtain rfl : .ok (.leaf v d) = r := by rw [← h, hd]; rfl
      exact .of_leaf (Store.mapping?_eq_none_of_str? hs) (.text hs hd)
    | error e =>
      obtain rfl : .error e = r := by rw [← h, hd]; rfl
      exact .of_refused (.descriptor hs hd)
  | none =>
    simp only [hs] at h
    split at h
    · next hobject =>
      cases h
      exact .of_leaf (Store.mapping?_eq_none_of_object? hobject nofun) (.marker hobject)
    · next hobject =>
      cases h
      exact .of_leaf (Store.mapping?_eq_none_of_object? hobject nofun) (.compiledMarker hobject)
    · next hobject =>
      cases h
      exact .of_leaf (Store.mapping?_eq_none_of_object? hobject nofun) (.compiledObject hobject)
    · cases h

/-- A node that is in the place of no leaf is no text, and may stand anywhere only if it is a
mapping. -/
theorem not_acceptable_of_leafNode?_eq_none {v : Value} (h : leafNode? g v = none) :
    v.str? = none ∧ (g.mapping? v = none → ∀ around, ¬ Acceptable g around v) := by
  rw [leafNode?] at h
  cases hs : v.str? with
  | some s =>
    rw [hs] at h
    cases h
  | none =>
    refine ⟨rfl, fun hmapping around hnode => ?_⟩
    simp only [hs] at h
    cases hnode with
    | text hs' => cases hs.symm.trans hs'
    | marker hobject => simp [hobject] at h
    | compiledMarker hobject => simp [hobject] at h
    | compiledObject hobject => simp [hobject] at h
    | announced hnode => cases hmapping.symm.trans hnode
    | mapping hnode => cases hmapping.symm.trans hnode

mutual

/-- Compiling a mapping that does not announce a marker settles its positions. -/
theorem compileObject_settles {around : List Ref} {path : Text}
    {v : Value} {r : Ref} {es : Entries} (hnode : g.mapping? v = some (r, es))
    (hshape : ¬ Marker.IsShape es) (c : Cursors) :
    Settles g v path (Position.Within g around v) (compileObject g around path v c).1 := by
  rw [compileObject]
  split
  · next hnone => cases hnode.symm.trans hnone
  · next r' es' hmapping =>
    obtain ⟨rfl, rfl⟩ := Prod.mk.inj (Option.some.inj (hnode.symm.trans hmapping))
    by_cases hr : r ∈ around
    · rw [dif_pos hr]
      exact .of_refused (.selfReference hnode hshape hr)
    · rw [dif_neg hr]
      have hentries := compileEntries_settles (Store.entries?_of_mapping? hnode)
        (List.Sublist.refl es) (r :: around) path c
      have hown : ∀ p : Position, p = start around v → p.IsUsable g := by
        rintro p rfl
        refine isUsable_start (.mapping hnode hr) fun r' es' hmapping' hread => ?_
        cases hnode.symm.trans hmapping'
        exact hshape hread.isShape
      have hall := (hentries.or_of_usable hown).congr fun p => (within_mapping_iff hnode hshape).symm
      cases hresult : compileEntries g (r :: around) path es c with
      | mk result c' =>
        rw [hresult] at hall
        cases result with
        | error e => exact hall
        | ok children => exact hall
termination_by (g.unvisited around, 0, 0)
decreasing_by
  exact Prod.Lex.left _ _ (Store.unvisited_cons_lt (Store.lt_of_mapping? ‹_›) ‹_›)

/-- Compiling a node settles its positions. -/
theorem compileNode_settles (around : List Ref) (path : Text)
    (node : Value) (c : Cursors) :
    Settles g node path (Position.Within g around node) (compileNode g around path node c).1 := by
  rw [compileNode]
  split
  · next hleaf => exact settles_of_leafNode? hleaf
  · next hleaf => exact settles_of_leafNode? hleaf
  · next hleaf =>
    obtain ⟨hs, hunacceptable⟩ := not_acceptable_of_leafNode?_eq_none hleaf
    cases hmapping : g.mapping? node with
    | none =>
      have hes : g.entries? node = none := by rw [Store.entries?, hmapping, Option.map_none]
      rw [hes]
      cases htext : g.repr? node with
      | some text => exact .of_refused (.unsupported hs hmapping (hunacceptable hmapping _) htext)
      | none => exact .of_refused (.unshown hs hmapping (hunacceptable hmapping _) htext)
    | some mapping =>
      obtain ⟨r, es⟩ := mapping
      rw [Store.entries?_of_mapping? hmapping]
      by_cases hshape : Marker.IsShape es
      · have hacceptable : Acceptable g around node := .announced hmapping hshape
        by_cases hread : Marker.IsUnreadable es
        · simp only [hread.ofEntries_eq]
          exact .of_stops (.unreadable (good_start_iff.mpr hacceptable) fun h =>
            h r es hmapping hread)
        · obtain ⟨m, c', hm⟩ := Marker.exists_ofEntries_eq_ok_some (g := g) hshape hread c
          simp only [hm]
          refine .of_acceptable (fun r' es' hmapping' => ?_) hacceptable
          cases hmapping.symm.trans hmapping'
          exact ⟨hshape, hread⟩
      · simp only [Marker.ofEntries_eq_ok_none hshape]
        exact compileObject_settles hmapping hshape c
termination_by (g.unvisited around, 0, 1)

/-- Compiling some of the entries of a mapping settles the positions below them. -/
theorem compileEntries_settles {v : Value} {es fs : Entries}
    (hes : g.entries? v = some es) (hsub : fs.Sublist es) (around : List Ref) (path : Text)
    (c : Cursors) :
    Settles g v path (Position.Below g around fs) (compileEntries g around path fs c).1 := by
  -- The order of positions is that of all entries `es`, while those left to compile get fewer.
  match fs with
  | [] =>
    rw [compileEntries]
    exact fun p hp => absurd hp not_below_nil
  | (key, node) :: fs =>
    have hrest := List.Sublist.trans (List.sublist_cons_self (key, node) fs) hsub
    have hentry : (key, node) ∈ es := hsub.subset List.mem_cons_self
    rw [compileEntries]
    by_cases hkey : isTypeNameKey key = true
    · rw [if_pos hkey]
      refine (compileEntries_settles hes hrest around path c).congr fun p => ?_
      simp [below_cons_iff, hkey]
    · rw [if_neg hkey]
      have hbelow (p : Position) : p.OfEntry g around (key, node) ∨ p.Below g around fs ↔
          p.Below g around ((key, node) :: fs) := by
        simp [below_cons_iff, hkey]
      have hbefore (p q : Position) (hp : p.OfEntry g around (key, node))
          (hq : q.Below g around fs) : g.Precedes v p.keys q.keys := by
        obtain ⟨p', -, rfl⟩ := hp
        obtain ⟨e, he, -, q', -, rfl⟩ := hq
        exact .beside hes (Store.keyBefore_of_cons_sublist hsub he)
      cases htext : g.str? key with
      | none =>
        have hfirst : Settles g v path (Position.OfEntry g around (key, node))
            (.error .wrongValue : Except Failure (List (Value × Schema))) :=
          .of_str?_eq_none hes hentry htext
        exact (hfirst.or_of_error hbefore).congr hbelow
      | some text =>
        have hfirst := (compileNode_settles around (joinPath path text) node c).ofEntry hes
          hentry htext
        dsimp only
        cases hnode : compileNode g around (joinPath path text) node c with
        | mk result c' =>
          rw [hnode] at hfirst
          cases result with
          | error e => exact (hfirst.or_of_error hbefore).congr hbelow
          | ok s =>
            have hothers := compileEntries_settles hes hrest around path c'
            have hall := (hothers.or_of_usable hfirst).congr hbelow
            dsimp only
            cases hentries : compileEntries g around path fs c' with
            | mk result c'' =>
              rw [hentries] at hall
              cases result with
              | error e => exact hall
              | ok children => exact hall
termination_by (g.unvisited around, fs.length + 1, 0)

end

/-- Compiling the entries of a mapping at the root settles its positions. -/
theorem compileRoot_settles {v : Value} {r : Ref} {es : Entries}
    (hv : g.mapping? v = some (r, es)) (c : Cursors) :
    Settles g v "" (Position.Of g v) (compileRoot g [r] es c).1 := by
  have hpositions (p : Position) : p.Below g [r] es ↔ p.Of g v := by
    constructor
    · exact fun h => ⟨r, es, hv, h⟩
    · rintro ⟨r', es', hv', h⟩
      cases hv.symm.trans hv'
      exact h
  have hentries := (compileEntries_settles (Store.entries?_of_mapping? hv)
    (List.Sublist.refl es) [r] "" c).congr hpositions
  rw [compileRoot]
  cases hresult : compileEntries g [r] "" es c with
  | mk result c' =>
    rw [hresult] at hentries
    cases result with
    | error e => exact hentries
    | ok children => exact hentries

end Schema

end Conformance
