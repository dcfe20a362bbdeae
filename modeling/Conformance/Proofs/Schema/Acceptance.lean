import Conformance.Proofs.Schema.Stopping

/-!
# Which schemas compile

A schema compiles exactly if it is a compiled object already, or a mapping all of whose positions
are good, as long as no marker of given values is given a class in their place: then a position
stops a compilation exactly if it is not good. Else the failure is that of the first position that
is not good, in the order in which going through the schema comes to its positions.

## Main definitions

* `Store.HasPlainPayloads` — no marker is given a class in the place of its values.
* `Schema.Decides` — a result says whether some positions are good, or which is the first that
  is not.

## Main results

* `Schema.Settles.decides` — what is settled about positions that cannot be used is decided about
  those that are not good.
* `Schema.compile_decides` — which schemas compile, and what the failure is if one does not.
-/

namespace Conformance

/-- No mapping that announces a marker of given values holds a class in their place. -/
def Store.HasPlainPayloads (g : Store) : Prop :=
  ∀ (r : Ref) (kind : MappingKind) (key payload : Value) (es : Entries),
    g.objects[r]? = some (.mapping kind ((key, payload) :: es)) →
      Marker.kindOfKey? key = some (.str Marker.equalKind) →
        ∀ name iterates, payload.base ≠ .builtin (.cls name iterates)

/-- Where no class is given in the place of values, the values of all markers can be told. -/
theorem Store.HasPlainPayloads.readable {g : Store} (hg : g.HasPlainPayloads) (p : Position) :
    p.Readable g := by
  rintro r es hnode ⟨key, payload, rest, rfl, hkind, name, hbase⟩
  obtain ⟨kind, hobject⟩ := exists_object?_of_mapping? hnode
  exact hg r kind key payload rest (getElem?_of_object? hobject) hkind name true hbase

namespace Schema

open Position

variable {g : Store}

/-! ### Deciding positions -/

/-- The result says about some positions, below a value and a path, what compiling says about
them: if there is one, all of them are good, and else it is the failure of one that is not, and
the others that are not come after it. -/
def Decides {α : Type} (g : Store) (v : Value) (above : Text) (P : Position → Prop) :
    Except Failure α → Prop
  | .ok _ => ∀ p, P p → p.Good g
  | .error e => ∃ p, P p ∧ p.Fails g above e ∧
      ∀ q, P q → ¬ q.Good g → q = p ∨ g.Precedes v p.keys q.keys

/-- Where no class is given in the place of values, what is settled is decided: a position stops a
compilation exactly if it is not good. -/
theorem Settles.decides (hg : g.HasPlainPayloads) {α : Type} {v : Value} {above : Text}
    {P : Position → Prop} {r : Except Failure α} (h : Settles g v above P r) :
    Decides g v above P r := by
  cases r with
  | ok x => exact fun p hp => (h p hp).good
  | error e =>
    obtain ⟨p, hp, hstops, hfirst⟩ := h
    cases hstops with
    | fails hfails => exact ⟨p, hp, hfails, fun q hq hbad => hfirst q hq fun h => hbad h.good⟩
    | unreadable _ hread => exact absurd (hg.readable p) hread

/-- There is a result exactly if all positions are good. -/
theorem Decides.exists_eq_ok_iff {α : Type} {v : Value} {above : Text} {P : Position → Prop}
    {r : Except Failure α} (h : Decides g v above P r) :
    (∃ x, r = .ok x) ↔ ∀ p, P p → p.Good g := by
  cases r with
  | ok x => exact ⟨fun _ => h, fun _ => ⟨x, rfl⟩⟩
  | error e =>
    obtain ⟨p, hp, hfails, -⟩ := h
    refine ⟨fun ⟨x, hx⟩ => (nomatch hx), fun hgood => ?_⟩
    exact absurd (hgood p hp) (exists_fails_iff.mp ⟨e, hfails⟩)

/-! ### Compiling a schema -/

/-- The value may be the root of a schema: a compiled object or a mapping. -/
def IsRoot (g : Store) (v : Value) : Prop :=
  (∃ r name children, g.object? v = some (r, .schema (.object name children))) ∨
    ∃ r es, g.mapping? v = some (r, es)

/-- Compiling the entries of a mapping at the root decides its positions. -/
theorem compileRoot_decides (hg : g.HasPlainPayloads) {v : Value} {r : Ref} {es : Entries}
    (hv : g.mapping? v = some (r, es)) (c : Cursors) :
    Decides g v "" (Position.Of g v) (compileRoot g [r] es c).1 :=
  (compileRoot_settles hv c).decides hg

/-- A value is compiled as it is if it is a compiled object, and as a mapping if it is one. Any
other value is refused. -/
theorem compile_cases (g : Store) (v : Value) (c : Cursors) :
    (g.mapping? v = none ∧ IsRoot g v ∧ ∃ s, compile g v c = (.ok s, c)) ∨
    (∃ r es, g.mapping? v = some (r, es) ∧ compile g v c = compileRoot g [r] es c) ∨
    (¬ IsRoot g v ∧ compile g v c = (.error (.schema (.notMapping "" (g.className v))), c)) := by
  rw [compile]
  split
  · next hobject =>
    exact .inl ⟨Store.mapping?_eq_none_of_object? hobject nofun, .inl ⟨_, _, _, hobject⟩, _, rfl⟩
  · next r kind es hobject =>
    refine .inr (.inl ⟨r, es, ?_, rfl⟩)
    rw [Store.mapping?, hobject]
  · next hschema hmapping =>
    refine .inr (.inr ⟨?_, rfl⟩)
    rintro (⟨r, name, children, hobject⟩ | ⟨r, es, hnode⟩)
    · exact hschema r name children hobject
    · obtain ⟨kind, hobject⟩ := Store.exists_object?_of_mapping? hnode
      exact hmapping r kind es hobject

/-- What compiles is a compiled object, or a mapping all of whose positions are good. -/
theorem exists_compile_eq_ok_iff (hg : g.HasPlainPayloads) (v : Value) (c : Cursors) :
    (∃ s c', compile g v c = (.ok s, c')) ↔ IsRoot g v ∧ ∀ p : Position, p.Of g v → p.Good g := by
  rcases compile_cases g v c with ⟨hnone, hroot, s, hs⟩ | ⟨r, es, hv, hcompile⟩ | ⟨hroot, he⟩
  · have hpositions : ∀ p : Position, p.Of g v → p.Good g := by
      rintro p ⟨r, es, hv, -⟩
      cases hnone.symm.trans hv
    exact ⟨fun _ => ⟨hroot, hpositions⟩, fun _ => ⟨s, c, hs⟩⟩
  · have hroot : IsRoot g v := .inr ⟨r, es, hv⟩
    have hok := (compileRoot_decides hg hv c).exists_eq_ok_iff
    rw [hcompile, and_iff_right hroot, ← hok]
    cases hresult : compileRoot g [r] es c with
    | mk result c' => simp
  · rw [he]
    refine ⟨?_, fun h => absurd h.1 hroot⟩
    rintro ⟨s, c', hs⟩
    cases hs

end Schema

/-- A number that has one digit more than are ever written out. -/
def unwrittenNumber : Nat := 10 ^ Number.digitLimit

theorem Store.str?_int (g : Store) (n : Int) :
    g.str? (.int n) = (Number.intText? n).map Text.ofString := by
  change (g.reprFrom [] (.int n)).map Text.ofString = _
  rw [reprFrom]
  rfl

/-- A natural number has a text if it is below the first one that is not written out. -/
theorem Store.str?_natCast_eq_none_iff (g : Store) (n : Nat) :
    g.str? (.int n) = none ↔ unwrittenNumber ≤ n := by
  rw [str?_int, Option.map_eq_none_iff, Number.intText?, Int.natAbs_natCast]
  exact ite_eq_left_iff.trans (by simp [unwrittenNumber])

/-- A schema whose only key is such a number. -/
def unwrittenStore : Store where
  objects := #[.mapping .plain [(.int unwrittenNumber, .str "Number")]]

namespace Schema

theorem str?_unwrittenNumber (g : Store) : g.str? (.int unwrittenNumber) = none :=
  (g.str?_natCast_eq_none_iff unwrittenNumber).mpr le_rfl

/-- That all nodes may stand where they do is not enough: a key without a text ends the
compilation. -/
theorem not_compile_unwritten_key :
    unwrittenStore.HasPlainPayloads ∧
      ¬ ((∃ s c', compile unwrittenStore (.ref 0) [] = (.ok s, c')) ↔
        IsRoot unwrittenStore (.ref 0) ∧ ∀ p : Position, p.Of unwrittenStore (.ref 0) →
          Position.Acceptable unwrittenStore p.around p.node) := by
  have hpayloads : unwrittenStore.HasPlainPayloads := by
    rintro (_ | r) kind key payload es h hkind name iterates hbase
    · cases h
      cases hkind
    · cases h
  have hroot : unwrittenStore.mapping? (.ref 0) =
      some (0, [(.int unwrittenNumber, .str "Number")]) := rfl
  have hnode : ∀ p : Position, p.Of unwrittenStore (.ref 0) →
      p = (Position.start [0] (.str "Number")).under (.int unwrittenNumber) := by
    rintro p ⟨r, es, hv, e, he, -, p', hp', rfl⟩
    cases hroot.symm.trans hv
    obtain rfl := List.mem_singleton.mp he
    rw [hp'.eq_start fun r es h => nomatch h]
  refine ⟨hpayloads, fun hiff => ?_⟩
  have hcompiles := hiff.mpr ⟨.inr ⟨_, _, hroot⟩, fun p hp => ?_⟩
  · obtain ⟨-, hgood⟩ := (exists_compile_eq_ok_iff hpayloads (.ref 0) []).mp hcompiles
    have hposition : Position.Of unwrittenStore (.ref 0)
        ((Position.start [0] (.str "Number")).under (.int unwrittenNumber)) :=
      ⟨_, _, hroot, _, List.mem_singleton_self _, rfl, _, .here, rfl⟩
    have htext := (hgood _ hposition).texts (.int unwrittenNumber) List.mem_cons_self
    rw [str?_unwrittenNumber] at htext
    cases htext
  · rw [hnode p hp]
    have hparse : Descriptor.parse "Number" = .ok (.named "Number") := by cbv
    exact .text rfl hparse

end Schema

end Conformance
