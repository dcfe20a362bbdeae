import Conformance.Proofs.Json.Atoms
import Conformance.Proofs.Json.Form

/-!
# The value of a JSON document

Collections are made empty when they are met, and filled when it is their turn. All along, each
node that has been met has one value: that of an atom, or a reference to an object of its own,
which waits to be filled or holds the values of the nodes in it. There are at most as many turns as
nodes, so in the end nothing waits, and the value of the root is what is read in the place of the
JSON value that the root is the node of.

A JSON text has no aliases, but nothing here depends on that: a node stands for the same value
wherever it is met.

## Main definitions

* `Json.Holds` — an object that holds the values of the nodes of a collection.
* `Json.Settled` — the value that has been made for a node.
* `Json.Sound` — a state in which values are made for the nodes of JSON values.
* `Json.Runs` — a step that ends in such a state.

## Main results

* `Json.runs_value` — a node is given a value.
* `Json.exists_run_fill`, `Json.exists_run_fillAll` — one collection is filled, and all of them.
* `Json.exists_run_root` — the value of the root.
-/

namespace Conformance

open Yaml

namespace Json

/-! ### Entries -/

section Entries

variable {g : Store} {entries : List (List CodePoint × Json)} {e : List CodePoint × Json}
  {xs : Entries} {x : Value × Value}

/-- An entry is put in the same place among entries and among those of a store. -/
theorem entryAt_insert (h : Store) (hxs : List.Forall₂ (EntryAt g) entries xs)
    (hx : EntryAt g e x) :
    List.Forall₂ (EntryAt g) (insertEntry entries e) (h.insert x.1 x.2 xs) := by
  induction hxs with
  | nil => exact .cons hx .nil
  | @cons e' x' es xs' he hes ih =>
    obtain ⟨hkey, hvalue⟩ := hx
    have hsame : h.same x.1 x'.1 = true ↔ e.1 = e'.1 := by rw [hkey, he.1, same_texts]
    rw [insertEntry, Store.insert]
    by_cases heq : e.1 = e'.1
    · rw [if_pos heq, if_pos (hsame.mpr heq)]
      exact .cons ⟨he.1, hvalue⟩ hes
    · rw [if_neg heq, if_neg (mt hsame.mp heq)]
      exact .cons he ih

/-- Entries with those of a list put among them one by one. -/
def merged (h : Store) (acc xs : Entries) : Entries :=
  xs.foldl (fun es x => h.insert x.1 x.2 es) acc

theorem entryAt_foldl (h : Store) {acc : List (List CodePoint × Json)} {ys : Entries}
    (hys : List.Forall₂ (EntryAt g) acc ys) (hxs : List.Forall₂ (EntryAt g) entries xs) :
    List.Forall₂ (EntryAt g) (entries.foldl insertEntry acc) (merged h ys xs) := by
  refine List.rel_foldl ?_ hys hxs
  exact fun _ _ hys _ _ hx => entryAt_insert h hys hx

end Entries

/-! ### Nodes that are settled -/

/-- Lists that are related one by one through a list between them. -/
theorem forall₂_trans_of_mem {α β γ : Type} {R : α → β → Prop} {S : β → γ → Prop}
    {T : α → γ → Prop} {as : List α} {bs : List β} {cs : List γ}
    (h : ∀ a ∈ as, ∀ b c, R a b → S b c → T a c) (hR : List.Forall₂ R as bs)
    (hS : List.Forall₂ S bs cs) : List.Forall₂ T as cs := by
  induction hR generalizing cs with
  | nil =>
    cases hS
    exact .nil
  | cons hab _ ih =>
    cases hS with
    | cons hbc hbs =>
      obtain ⟨ha, has⟩ := List.forall_mem_cons.mp h
      exact .cons (ha _ _ hab hbc) (ih has hbs)

/-- The node of an atom. -/
def IsAtomNode (nodes : Array Node) (id : NodeId) : Prop :=
  ∃ t points, nodes[id]? = some ⟨t, .scalar points⟩

/-- The node of a value that has a text. -/
def IsWrittenNode (nodes : Array Node) (id : NodeId) : Prop :=
  ∃ v : Json, v.IsWritten ∧ IsNode nodes 0 v id

section Settled

variable {nodes : Array Node} {id : NodeId} {v : Json} {x : Value}
  {pending pending' : List (NodeId × Ref)} {m k : Maker}

theorem isAtomNode_iff (h : IsNode nodes 0 v id) : IsAtomNode nodes id ↔ v.IsAtom := by
  cases v with
  | array items =>
    obtain ⟨-, ids, hid, -⟩ := h
    simp [IsAtomNode, IsAtom, hid]
  | object entries =>
    obtain ⟨-, ids, hid, -⟩ := h
    simp [IsAtomNode, IsAtom, hid]
  | _ => exact iff_of_true ⟨_, _, h.2⟩ trivial

theorem lt_size_of_isNode {k : ℕ} (h : IsNode nodes k v id) : id < nodes.size := by
  obtain ⟨n, hn⟩ : ∃ n, nodes[id]? = some n := by
    cases v with
    | array items => exact ⟨_, h.2.choose_spec.1⟩
    | object entries => exact ⟨_, h.2.choose_spec.1⟩
    | _ => exact ⟨_, h.2⟩
  exact (Array.getElem?_eq_some_iff.mp hn).1

/-- The values of two nodes have been made. -/
def EntryMade (made : List (NodeId × Value)) (i : NodeId × NodeId) (x : Value × Value) : Prop :=
  (i.1, x.1) ∈ made ∧ (i.2, x.2) ∈ made

/-- An object that holds the values that have been made of the nodes of a collection. -/
inductive Holds (made : List (NodeId × Value)) : Content → Object → Prop
  | list {ids : List NodeId} {xs : List Value}
    (h : List.Forall₂ (fun id x => (id, x) ∈ made) ids xs) : Holds made (.sequence ids) (.list xs)
  | mapping {ids : List (NodeId × NodeId)} {xs : Entries}
    (h : List.Forall₂ (EntryMade made) ids xs) :
    Holds made (.mapping ids) (.mapping .plain (merged {} [] xs))

theorem Holds.mono {made made' : List (NodeId × Value)} (hmade : ∀ p ∈ made, p ∈ made')
    {c : Content} {o : Object} (h : Holds made c o) : Holds made' c o := by
  cases h with
  | list h => exact .list (h.imp fun _ _ hx => hmade _ hx)
  | mapping h => exact .mapping (h.imp fun _ _ hx => ⟨hmade _ hx.1, hmade _ hx.2⟩)

/-- The value that has been made for a node: that of an atom, or a reference to an object that
waits to be filled or holds what is in the node. -/
inductive Settled (nodes : Array Node) (pending : List (NodeId × Ref)) (m : Maker) (id : NodeId) :
    Value → Prop
  | atom {x : Value} (hid : IsAtomNode nodes id) (hx : x.IsScalar)
    (h : ∀ v : Json, v.IsWritten → IsNode nodes 0 v id → ∀ g, v.asRead.IsAt g x) :
    Settled nodes pending m id x
  | waiting {r : Ref} (hid : ¬ IsAtomNode nodes id) (h : (id, r) ∈ pending) :
    Settled nodes pending m id (.ref r)
  | filled {r : Ref} {n : Node} {o : Object} (hid : nodes[id]? = some n)
    (ho : m.store.objects[r]? = some o) (h : Holds m.made n.content o) :
    Settled nodes pending m id (.ref r)

/-- What has been made for a node stays settled. -/
theorem Settled.mono (hmade : ∀ p ∈ m.made, p ∈ k.made)
    (hpending : ∀ r, x = .ref r → (id, r) ∈ pending → (id, r) ∈ pending')
    (hobjects : ∀ r o, x = .ref r → m.store.objects[r]? = some o → k.store.objects[r]? = some o)
    (h : Settled nodes pending m id x) : Settled nodes pending' k id x := by
  cases h with
  | atom hid hx h => exact .atom hid hx h
  | waiting hid h => exact .waiting hid (hpending _ rfl h)
  | filled hid ho h => exact .filled hid (hobjects _ _ rfl ho) (h.mono hmade)

theorem Settled.isAt_of_isAtom (h : Settled nodes pending m id x) (hv : v.IsAtom)
    (hw : v.IsWritten) (hnode : IsNode nodes 0 v id) (g : Store) : v.asRead.IsAt g x := by
  have hid := (isAtomNode_iff hnode).mpr hv
  cases h with
  | atom _ _ h => exact h v hw hnode g
  | waiting hid' => exact absurd hid hid'
  | filled hn _ h =>
    obtain ⟨t, points, hid⟩ := hid
    cases hid.symm.trans hn
    cases h

theorem Settled.not_isAtomNode {r : Ref} (h : Settled nodes pending m id (.ref r)) :
    ¬ IsAtomNode nodes id := by
  cases h with
  | atom _ hx => exact hx.elim
  | waiting hid => exact hid
  | filled hn _ h =>
    rintro ⟨t, points, hid⟩
    cases hid.symm.trans hn
    cases h

/-- Where nothing waits to be filled, the object of a collection holds what is in it. -/
theorem Settled.exists_filled (h : Settled nodes [] m id x) (hid : ¬ IsAtomNode nodes id) :
    ∃ r n o, x = .ref r ∧ nodes[id]? = some n ∧ m.store.objects[r]? = some o ∧
      Holds m.made n.content o := by
  cases h with
  | atom hid' => exact absurd hid' hid
  | waiting _ h => cases h
  | filled hn ho h => exact ⟨_, _, _, rfl, hn, ho, h⟩

end Settled

/-! ### States -/

/-- A state in which values are made for the nodes of JSON values: each node has one value, each
object belongs to one node, and all objects are filled but those in the queue, and one perhaps
whose turn it is. -/
structure Sound (nodes : Array Node) (filling : List (NodeId × Ref)) (m : Maker) : Prop where
  nodes_eq : m.nodes = nodes
  nodup : (m.made.map Prod.fst).Nodup
  isWrittenNode : ∀ p ∈ m.made, IsWrittenNode nodes p.1
  settled : ∀ p ∈ m.made, Settled nodes (filling ++ m.queue) m p.1 p.2
  pending : ∀ p ∈ filling ++ m.queue, (p.1, .ref p.2) ∈ m.made
  lt_size : ∀ id r, (id, .ref r) ∈ m.made → r < m.store.objects.size
  unique : ∀ id id' r, (id, .ref r) ∈ m.made → (id', .ref r) ∈ m.made → id = id'

/-- A state has all values of an earlier one, and for each object that has joined the queue a
further value. -/
structure Extends (m k : Maker) : Prop where
  made : ∀ p ∈ m.made, p ∈ k.made
  count : k.queue.length + m.made.length ≤ m.queue.length + k.made.length

theorem Extends.refl (m : Maker) : Extends m m := ⟨fun _ h => h, le_rfl⟩

theorem Extends.trans {m k l : Maker} (h : Extends m k) (h' : Extends k l) : Extends m l :=
  ⟨fun p hp => h'.made p (h.made p hp), by have := h.count; have := h'.count; omega⟩

section Sound

variable {nodes : Array Node} {filling : List (NodeId × Ref)} {id : NodeId} {x : Value}
  {m k : Maker}

/-- The values that have been made are not more than the nodes. -/
theorem Sound.length_made_le (h : Sound nodes filling m) : m.made.length ≤ nodes.size := by
  have hrange : m.made.map Prod.fst ⊆ List.range nodes.size := by
    intro id hid
    obtain ⟨p, hp, rfl⟩ := List.mem_map.mp hid
    obtain ⟨v, -, hv⟩ := h.isWrittenNode p hp
    exact List.mem_range.mpr (lt_size_of_isNode hv)
  simpa using (List.subperm_of_subset h.nodup hrange).length_le

/-- A further value leaves a state sound. -/
theorem Sound.record (h : Sound nodes filling m) (hid : IsWrittenNode nodes id)
    (hnew : id ∉ m.made.map Prod.fst) (hnodes : k.nodes = m.nodes)
    (hmade : k.made = (id, x) :: m.made) (hqueue : ∀ p ∈ m.queue, p ∈ k.queue)
    (hjoined : ∀ p ∈ k.queue, p ∈ m.queue ∨ p.1 = id ∧ x = .ref p.2)
    (hold : ∀ (r : Ref) o, m.store.objects[r]? = some o → k.store.objects[r]? = some o)
    (hx : Settled nodes (filling ++ k.queue) k id x)
    (hsize : m.store.objects.size ≤ k.store.objects.size)
    (href : ∀ r, x = .ref r → m.store.objects.size ≤ r ∧ r < k.store.objects.size) :
    Sound nodes filling k := by
  have hmem (p : NodeId × Value) (hp : p ∈ m.made) : p ∈ k.made := hmade ▸ List.mem_cons_of_mem _ hp
  have hself : (id, x) ∈ k.made := hmade ▸ List.mem_cons_self
  refine ⟨hnodes.trans h.nodes_eq, ?_, ?_, ?_, ?_, ?_, ?_⟩
  · rw [hmade, List.map_cons]
    exact List.nodup_cons.mpr ⟨hnew, h.nodup⟩
  · rw [hmade]
    exact List.forall_mem_cons.mpr ⟨hid, h.isWrittenNode⟩
  · rw [hmade]
    refine List.forall_mem_cons.mpr ⟨hx, fun p hp => (h.settled p hp).mono hmem
      (fun r _ hr => ?_) (fun r o _ => hold r o)⟩
    exact List.mem_append.mpr ((List.mem_append.mp hr).imp_right (hqueue _))
  · intro p hp
    rcases List.mem_append.mp hp with hp | hp
    · exact hmem _ (h.pending p (List.mem_append_left _ hp))
    · rcases hjoined p hp with hp | ⟨rfl, hp⟩
      · exact hmem _ (h.pending p (List.mem_append_right _ hp))
      · exact hp ▸ hself
  · intro i r hr
    rw [hmade] at hr
    rcases List.mem_cons.mp hr with heq | hr
    · exact (href r (Prod.mk.inj heq).2.symm).2
    · exact (h.lt_size i r hr).trans_le hsize
  · intro i j r hi hj
    rw [hmade] at hi hj
    rcases List.mem_cons.mp hi with hi | hi <;> rcases List.mem_cons.mp hj with hj | hj
    · exact (Prod.mk.inj hi).1.trans (Prod.mk.inj hj).1.symm
    · exact absurd (h.lt_size j r hj) (Nat.not_lt.mpr (href r (Prod.mk.inj hi).2.symm).1)
    · exact absurd (h.lt_size i r hi) (Nat.not_lt.mpr (href r (Prod.mk.inj hj).2.symm).1)
    · exact h.unique i j r hi hj

/-- It is the turn of the first object of the queue. -/
theorem Sound.dequeue (h : Sound nodes [] m) {p : NodeId × Ref} {queue : List (NodeId × Ref)}
    (hqueue : m.queue = p :: queue) : Sound nodes [p] { m with queue := queue } := by
  have hpending : [] ++ m.queue = [p] ++ queue := hqueue
  refine ⟨h.nodes_eq, h.nodup, h.isWrittenNode, fun q hq => ?_, fun q hq => ?_, h.lt_size,
    h.unique⟩
  · exact Settled.mono (m := m) (fun _ h => h) (fun r _ hr => hpending ▸ hr) (fun _ _ _ ho => ho)
      (h.settled q hq)
  · exact h.pending q (hpending ▸ hq)

/-- Filling the object whose turn it is leaves a state sound. -/
theorem Sound.putting {r : Ref} (h : Sound nodes [(id, r)] m) {n : Node} {o : Object}
    (hn : nodes[id]? = some n) (ho : Holds m.made n.content o) :
    Sound nodes [] (m.putting r o) := by
  have hid : (id, .ref r) ∈ m.made := h.pending _ (List.mem_append_left _ List.mem_cons_self)
  have hsize := Maker.size_putting m r o
  refine ⟨h.nodes_eq, h.nodup, h.isWrittenNode, fun p hp => ?_,
    fun p hp => h.pending p (List.mem_append_right _ hp), fun i s hs => ?_, h.unique⟩
  · obtain ⟨j, y⟩ := p
    by_cases hj : y = .ref r
    · subst hj
      obtain rfl : j = id := h.unique j id r hp hid
      have hget : (m.putting r o).store.objects[r]? = some o := by
        rw [Maker.getElem?_putting, if_pos ⟨rfl, h.lt_size j r hid⟩]
      exact .filled hn hget ho
    · refine Settled.mono (m := m) (fun _ hq => hq) (fun s hs hmem => ?_) (fun s o' hs ho' => ?_)
        (h.settled _ hp)
      · rcases List.mem_append.mp hmem with hmem | hmem
        · cases List.mem_singleton.mp hmem
          exact absurd hs hj
        · exact hmem
      · rw [Maker.getElem?_putting, if_neg]
        · exact ho'
        · rintro ⟨rfl, -⟩
          exact hj hs
  · rw [hsize]
    exact h.lt_size i s hs

end Sound

/-! ### Steps -/

/-- A step ends, and leaves a sound state that extends the one before. -/
def Runs {α : Type} (nodes : Array Node) (filling : List (NodeId × Ref)) (w : Make α) (m : Maker)
    (Q : α → Maker → Prop) : Prop :=
  ∃ a k, w.run m = .ok (a, k) ∧ Sound nodes filling k ∧ Extends m k ∧ Q a k

section Runs

variable {α β : Type} {nodes : Array Node} {filling : List (NodeId × Ref)} {id : NodeId}
  {m k : Maker} {Q : α → Maker → Prop} {R : β → Maker → Prop}

theorem Runs.pure {a : α} (h : Sound nodes filling m) (ha : Q a m) :
    Runs nodes filling (pure a) m Q := ⟨a, m, rfl, h, .refl m, ha⟩

theorem Runs.bind {w : Make α} {f : α → Make β} (h : Runs nodes filling w m Q)
    (hf : ∀ a k, Sound nodes filling k → Extends m k → Q a k → Runs nodes filling (f a) k R) :
    Runs nodes filling (w >>= f) m R := by
  obtain ⟨a, k, hrun, hk, hext, ha⟩ := h
  obtain ⟨b, l, hrun', hl, hext', hb⟩ := hf a k hk hext ha
  exact ⟨b, l, (run_bind_of_ok hrun).trans hrun', hl, hext.trans hext', hb⟩

/-- A node that has no value yet is given one. -/
theorem runs_fresh (h : Sound nodes filling m) (hid : IsWrittenNode nodes id)
    (hnew : id ∉ m.made.map Prod.fst) :
    Runs nodes filling (do
      let v ← Make.fresh id
      modify fun m => { m with made := (id, v) :: m.made }
      Pure.pure v) m fun x k => (id, x) ∈ k.made := by
  obtain ⟨v, hw, hnode⟩ := hid
  have hnode' := hnode
  rw [← h.nodes_eq] at hnode'
  by_cases hv : v.IsAtom
  · obtain ⟨x, ⟨g, hrun, hobjects⟩, hscalar, -⟩ := exists_makesAtom hv hw hnode'
    refine ⟨x, _, run_bind_of_ok hrun, ?_, ⟨fun p hp => List.mem_cons_of_mem _ hp, ?_⟩,
      List.mem_cons_self⟩
    · refine h.record ⟨v, hw, hnode⟩ hnew rfl rfl (fun _ hp => hp) (fun _ hp => .inl hp)
        (fun r o ho => hobjects.symm ▸ ho) ?_ (congrArg Array.size hobjects).ge
        fun r hr => ?_
      · refine .atom ((isAtomNode_iff hnode).mpr hv) hscalar fun v' hw' hnode₂ g' => ?_
        have hv' := (isAtomNode_iff hnode₂).mp ((isAtomNode_iff hnode).mpr hv)
        rw [← h.nodes_eq] at hnode₂
        -- The node has one value, whichever JSON value it is taken to stand for.
        obtain ⟨x', ⟨g₂, hrun', -⟩, -, hx'⟩ := exists_makesAtom hv' hw' hnode₂
        cases hrun.symm.trans hrun'
        exact hx' g'
      · subst hr
        exact hscalar.elim
    · exact Nat.le_succ _
  · have hnot := mt (isAtomNode_iff hnode).mp hv
    obtain ⟨o, hrun⟩ : ∃ o, (Make.fresh id).run m = .ok (.ref m.store.objects.size,
        { m with store := (m.store.allocate o).2
                 queue := m.queue ++ [(id, m.store.objects.size)] }) := by
      cases v with
      | array items =>
        obtain ⟨-, ids, hn, -⟩ := hnode'
        exact ⟨.list [], run_bind_of_ok (Make.run_node hn)⟩
      | object entries =>
        obtain ⟨-, ids, hn, -⟩ := hnode'
        exact ⟨.mapping .plain [], run_bind_of_ok (Make.run_node hn)⟩
      | _ => exact absurd trivial hv
    refine ⟨_, _, run_bind_of_ok hrun, ?_, ⟨fun p hp => List.mem_cons_of_mem _ hp, ?_⟩,
      List.mem_cons_self⟩
    · refine h.record ⟨v, hw, hnode⟩ hnew rfl rfl (fun p hp => List.mem_append_left _ hp)
        (fun p hp => ?_) (fun r o' ho => ?_) (.waiting hnot ?_) ?_ ?_
      · refine (List.mem_append.mp hp).imp_right fun hp => ?_
        rw [List.mem_singleton.mp hp]
        exact ⟨rfl, rfl⟩
      · have hlt := (Array.getElem?_eq_some_iff.mp ho).1
        exact (Maker.getElem?_adding m o r).trans ((if_neg (Nat.ne_of_lt hlt)).trans ho)
      · exact List.mem_append_right _ (List.mem_append_right _ List.mem_cons_self)
      · exact (Nat.le_succ _).trans (Maker.size_adding m o).ge
      · rintro r ⟨rfl⟩
        exact ⟨le_rfl, (Nat.lt_succ_self _).trans_le (Maker.size_adding m o).ge⟩
    · simp only [List.length_append, List.length_cons, List.length_nil]
      omega

theorem runs_value (h : Sound nodes filling m) (hid : IsWrittenNode nodes id) :
    Runs nodes filling (Make.value id) m fun x k => (id, x) ∈ k.made := by
  have hget : (get : Make Maker).run m = .ok (m, m) := rfl
  rw [Make.value]
  cases hlookup : m.made.lookup id with
  | some x =>
    refine ⟨x, m, ?_, h, .refl m, ?_⟩
    · rw [run_bind_of_ok hget, hlookup]
      rfl
    · obtain ⟨before, after, hmade, -⟩ := List.lookup_eq_some_iff.mp hlookup
      exact hmade ▸ List.mem_append_cons_self
  | none =>
    have hnew : id ∉ m.made.map Prod.fst := by
      intro hmem
      obtain ⟨⟨_, x⟩, hp, rfl⟩ := List.mem_map.mp hmem
      simpa using List.lookup_eq_none_iff.mp hlookup _ hp
    obtain ⟨x, k, hrun, hk⟩ := runs_fresh h hid hnew
    refine ⟨x, k, ?_, hk⟩
    rw [run_bind_of_ok hget, hlookup]
    exact hrun

/-- The items of an array are given their values one by one. -/
theorem runs_values {ids : List NodeId} (hids : ∀ id ∈ ids, IsWrittenNode nodes id)
    (h : Sound nodes filling m) : Runs nodes filling (ids.mapM Make.value) m
      fun xs k => List.Forall₂ (fun id x => (id, x) ∈ k.made) ids xs := by
  induction ids generalizing m with
  | nil => exact .pure h .nil
  | cons id ids ih =>
    obtain ⟨hid, hids⟩ := List.forall_mem_cons.mp hids
    rw [List.mapM_cons]
    refine (runs_value h hid).bind fun x k hk _ hx => (ih hids hk).bind fun xs l hl hext hxs => ?_
    exact .pure hl (.cons (hext.made _ hx) hxs)

/-- The nodes of an entry of an object. -/
def IsEntryNode (nodes : Array Node) (i : NodeId × NodeId) : Prop :=
  (∃ s, IsNode nodes 0 (str s) i.1) ∧ IsWrittenNode nodes i.2

/-- What is made for the node of a text can be a key. -/
theorem isScalar_of_isNode_str {s : List CodePoint} {x : Value} (h : Sound nodes filling m)
    (hnode : IsNode nodes 0 (str s) id) (hx : (id, x) ∈ m.made) : x.IsScalar := by
  have hat : x = .ofPoints ((units s).map Fin.val) := by
    have hstr := (h.settled _ hx).isAt_of_isAtom (v := str s) trivial trivial hnode {}
    rwa [asRead, IsAt] at hstr
  exact hat ▸ Value.isScalar_ofPoints _

/-- The entries of an object are given their values one by one, and put among those before. -/
theorem runs_entries {ids : List (NodeId × NodeId)} (hids : ∀ i ∈ ids, IsEntryNode nodes i)
    (h : Sound nodes filling m) (acc : Entries) :
    Runs nodes filling (ids.foldlM (fun acc (k, v) => do
        let key ← Make.value k
        unless (← get).store.isKey key do Make.malformed
        let x ← Make.value v
        return (← get).store.insert key x acc) acc) m
      fun es k => ∃ xs, List.Forall₂ (EntryMade k.made) ids xs ∧ es = merged {} acc xs := by
  induction ids generalizing m acc with
  | nil => exact .pure h ⟨[], .nil, rfl⟩
  | cons i ids ih =>
    obtain ⟨⟨⟨s, hs⟩, hvalue⟩, hids⟩ := List.forall_mem_cons.mp hids
    rw [List.foldlM_cons]
    refine Runs.bind (Q := fun es k => ∃ x, EntryMade k.made i x ∧
      es = ({} : Store).insert x.1 x.2 acc) ?_ fun es k hk _ hes => ?_
    · refine (runs_value h ⟨str s, trivial, hs⟩).bind fun key k hk _ hkey => ?_
      have hscalar := isScalar_of_isNode_str hk hs hkey
      have hisKey := Store.isKey_of_isScalar k.store hscalar
      obtain ⟨x, l, hrun, hl, hext, hx⟩ := runs_value hk hvalue
      refine ⟨_, l, ?_, hl, hext, (key, x), ⟨hext.made _ hkey, hx⟩,
        Store.insert_eq_of_isScalar {} l.store hscalar x acc⟩
      have hget : (get : Make Maker).run k = .ok (k, k) := rfl
      rw [run_bind_of_ok hget, if_pos hisKey]
      exact run_bind_of_ok hrun
    · obtain ⟨x, hx, rfl⟩ := hes
      obtain ⟨es, l, hrun, hl, hext, xs, hxs, heq⟩ := ih hids hk (({} : Store).insert x.1 x.2 acc)
      exact ⟨es, l, hrun, hl, hext, x :: xs,
        .cons ⟨hext.made _ hx.1, hext.made _ hx.2⟩ hxs, heq⟩

/-- A node that is the one of a text is not changed by making it one. -/
theorem modify_eq_self {s : List CodePoint} (hnode : IsNode nodes 0 (str s) id) :
    (nodes.modify id fun n => if n.tag = .value then { n with tag := .str } else n) = nodes := by
  refine Array.ext_getElem? fun i => ?_
  rw [Array.getElem?_modify]
  split
  · next heq =>
    rw [← heq, hnode.2]
    rfl
  · rfl

/-- Keys that are texts are not changed by making those that stand for values texts. -/
theorem run_forM_keys {ids : List (NodeId × NodeId)} (hids : ∀ i ∈ ids, IsEntryNode m.nodes i) :
    (ids.forM fun (k, _) => modify fun m => { m with
      nodes := m.nodes.modify k fun n => if n.tag = .value then { n with tag := .str } else n } :
      Make Unit).run m = .ok ((), m) := by
  induction ids with
  | nil => rfl
  | cons i ids ih =>
    obtain ⟨⟨⟨s, hs⟩, -⟩, hids⟩ := List.forall_mem_cons.mp hids
    have hkey : (modify fun m => { m with nodes := m.nodes.modify i.1 fun n =>
        if n.tag = .value then { n with tag := .str } else n } : Make Unit).run m =
        .ok ((), m) := by
      change Except.ok ((), { m with nodes := _ }) = _
      rw [modify_eq_self hs]
    exact (run_bind_of_ok hkey).trans (ih hids)

/-- An object whose keys are texts merges nothing. -/
theorem run_flatten {t : Tag} {ids : List (NodeId × NodeId)}
    (hids : ∀ i ∈ ids, IsEntryNode m.nodes i) (hid : m.nodes[id]? = some ⟨t, .mapping ids⟩) :
    (Make.flatten id).run m = .ok ((), m) := by
  have hget : (get : Make Maker).run m = .ok (m, m) := rfl
  have hentries : (Make.entries id).run m = .ok (ids, m) := run_bind_of_ok (Make.run_node hid)
  have hmerge (n : ℕ) : (Make.merge id (n + 1)).run m = .ok ((), m) := by
    have hfind : ids.findIdx? (fun (k, _) => Make.hasTag m.nodes .merge k) = none := by
      refine List.findIdx?_eq_none_iff.mpr fun i hi => ?_
      obtain ⟨⟨s, hs⟩, -⟩ := hids i hi
      simp [Make.hasTag, hs.2]
    rw [Make.merge, run_bind_of_ok hentries, run_bind_of_ok hget]
    simp only [hfind]
    rfl
  rw [Make.flatten, run_bind_of_ok hget, run_bind_of_ok (hmerge _), run_bind_of_ok hentries]
  exact run_forM_keys hids

theorem isWrittenNode_of_mem {items : List Json} (hw : ∀ v ∈ items, v.IsWritten)
    {ids : List NodeId} (h : List.Forall₂ (IsNode nodes 0) items ids) :
    ∀ id ∈ ids, IsWrittenNode nodes id := by
  induction h with
  | nil => exact fun _ h => nomatch h
  | cons hv _ ih =>
    obtain ⟨hw, hws⟩ := List.forall_mem_cons.mp hw
    exact List.forall_mem_cons.mpr ⟨⟨_, hw, hv⟩, ih hws⟩

theorem isEntryNode_of_mem {entries : List (List CodePoint × Json)}
    (hw : ∀ e ∈ entries, e.2.IsWritten) {ids : List (NodeId × NodeId)}
    (h : List.Forall₂ (fun e i => IsNode nodes 0 (str e.1) i.1 ∧ IsNode nodes 0 e.2 i.2)
      entries ids) : ∀ i ∈ ids, IsEntryNode nodes i := by
  induction h with
  | nil => exact fun _ h => nomatch h
  | cons he _ ih =>
    obtain ⟨hw, hws⟩ := List.forall_mem_cons.mp hw
    exact List.forall_mem_cons.mpr ⟨⟨⟨_, he.1⟩, _, hw, he.2⟩, ih hws⟩

/-- The object of a collection is filled when it is its turn. -/
theorem exists_run_fill {r : Ref} (h : Sound nodes [(id, r)] m) :
    ∃ k, (Make.fill id r).run m = .ok ((), k) ∧ Sound nodes [] k ∧ Extends m k := by
  have hmade : (id, .ref r) ∈ m.made := h.pending _ (List.mem_append_left _ List.mem_cons_self)
  obtain ⟨v, hw, hnode⟩ := h.isWrittenNode _ hmade
  have hv := mt (isAtomNode_iff hnode).mpr (h.settled _ hmade).not_isAtomNode
  cases v with
  | array items =>
    obtain ⟨-, ids, hid, hitems⟩ := hnode
    have hids := isWrittenNode_of_mem (all_array.mp hw).2 (areNodes_iff.mp hitems)
    obtain ⟨xs, k, hrun, hk, hext, hxs⟩ := runs_values hids h
    refine ⟨k.putting r (.list xs), ?_, hk.putting hid (.list hxs), hext.made, hext.count⟩
    have hid' := hid
    rw [← h.nodes_eq] at hid'
    have hitems : (Make.items id).run m = .ok (ids, m) := run_bind_of_ok (Make.run_node hid')
    rw [Make.fill, run_bind_of_ok (Make.run_node hid')]
    exact (run_bind_of_ok hitems).trans ((run_bind_of_ok hrun).trans rfl)
  | object entries =>
    obtain ⟨-, ids, hid, hentries⟩ := hnode
    have hids := isEntryNode_of_mem (all_object.mp hw).2 (areEntryNodes_iff.mp hentries)
    obtain ⟨_, k, hrun, hk, hext, xs, hxs, rfl⟩ := runs_entries hids h []
    refine ⟨k.putting r (.mapping .plain (merged {} [] xs)), ?_, hk.putting hid (.mapping hxs),
      hext.made, hext.count⟩
    rw [← h.nodes_eq] at hid hids
    have hentries : (Make.entries id).run m = .ok (ids, m) := run_bind_of_ok (Make.run_node hid)
    have hmapping : (Make.mappingEntries id).run m = .ok (merged {} [] xs, k) := by
      rw [Make.mappingEntries, run_bind_of_ok (run_flatten hids hid), run_bind_of_ok hentries]
      exact hrun
    rw [Make.fill, run_bind_of_ok (Make.run_node hid)]
    exact (run_bind_of_ok hmapping).trans rfl
  | _ => exact absurd trivial hv

/-- All collections are filled, if there are enough turns for the nodes that have no value yet and
the objects in the queue. -/
theorem exists_run_fillAll {n : ℕ} (h : Sound nodes [] m)
    (hn : m.queue.length + nodes.size ≤ n + m.made.length) :
    ∃ k, (Make.fillAll n).run m = .ok ((), k) ∧ Sound nodes [] k ∧ k.queue = [] ∧
      ∀ p ∈ m.made, p ∈ k.made := by
  have hget : (get : Make Maker).run m = .ok (m, m) := rfl
  induction n generalizing m with
  | zero =>
    have hle := h.length_made_le
    exact ⟨m, rfl, h, List.length_eq_zero_iff.mp (by omega), fun _ hp => hp⟩
  | succ n ih =>
    match hqueue : m.queue with
    | [] =>
      refine ⟨m, ?_, h, hqueue, fun _ hp => hp⟩
      rw [Make.fillAll, run_bind_of_ok hget, hqueue]
      rfl
    | (id, r) :: queue =>
      have hturn := h.dequeue hqueue
      obtain ⟨k, hrun, hk, hext⟩ := exists_run_fill hturn
      have hcount := hext.count
      rw [hqueue, List.length_cons] at hn
      obtain ⟨l, hrun', hl, hempty, hmade⟩ := ih hk (by dsimp only at hcount; omega) rfl
      refine ⟨l, ?_, hl, hempty, fun p hp => hmade p (hext.made p hp)⟩
      have hset : (set { m with queue := queue } : Make Unit).run m =
        .ok ((), { m with queue := queue }) := rfl
      rw [Make.fillAll, run_bind_of_ok hget, hqueue]
      exact (run_bind_of_ok hset).trans ((run_bind_of_ok hrun).trans hrun')

/-- When nothing waits to be filled, the value of a node is what is read in the place of the JSON
value that the node is the one of. -/
theorem Sound.isAt {v : Json} {x : Value} (h : Sound nodes [] m) (hqueue : m.queue = [])
    (hw : v.IsWritten) (hnode : IsNode nodes 0 v id) (hx : (id, x) ∈ m.made) :
    v.asRead.IsAt m.store x := by
  have hpending : [] ++ m.queue = [] := hqueue
  have hsettled := h.settled _ hx
  rw [hpending] at hsettled
  induction v using Json.induction generalizing id x with
  | array items ih =>
    obtain ⟨r, n, o, rfl, hn, ho, hholds⟩ :=
      hsettled.exists_filled (mt (isAtomNode_iff hnode).mp False.elim)
    obtain ⟨-, ids, hid, hitems⟩ := hnode
    cases hid.symm.trans hn
    cases hholds with
    | @list _ xs hxs =>
      refine ⟨r, xs, rfl, ho, ?_⟩
      rw [areAt_iff, itemsAsRead_eq_map, List.forall₂_map_left_iff]
      refine forall₂_trans_of_mem (fun v hv i y hi hy => ?_) (areNodes_iff.mp hitems) hxs
      have hy' := h.settled _ hy
      rw [hpending] at hy'
      exact ih v hv ((all_array.mp hw).2 v hv) hi hy hy'
  | object entries ih =>
    obtain ⟨r, n, o, rfl, hn, ho, hholds⟩ :=
      hsettled.exists_filled (mt (isAtomNode_iff hnode).mp False.elim)
    obtain ⟨-, ids, hid, hentries⟩ := hnode
    cases hid.symm.trans hn
    cases hholds with
    | @mapping _ xs hxs =>
      refine ⟨r, _, rfl, ho, entriesAt_iff.mpr (entryAt_foldl {} .nil ?_)⟩
      rw [entriesAsRead_eq_map, List.forall₂_map_left_iff]
      refine forall₂_trans_of_mem (fun e he i y hi hy => ⟨?_, ?_⟩) (areEntryNodes_iff.mp hentries)
        hxs
      · exact (h.settled _ hy.1).isAt_of_isAtom (v := str e.1) trivial trivial hi.1 m.store
      · have hy' := h.settled _ hy.2
        rw [hpending] at hy'
        exact ih e he ((all_object.mp hw).2 e he) hi.2 hy.2 hy'
  | null | bool | int | float | str =>
    refine hsettled.isAt_of_isAtom ?_ hw hnode m.store
    trivial

/-- The value of a document whose root is the node of a JSON value. -/
theorem exists_run_root {v : Json} {g : Store} (hw : v.IsWritten) (hnode : IsNode nodes 0 v id) :
    ∃ x k, (Make.root id).run { nodes := nodes, store := g } = .ok (x, k) ∧
      v.asRead.IsAt k.store x := by
  have hstart : Sound nodes [] { nodes := nodes, store := g } :=
    ⟨rfl, .nil, fun _ h => (nomatch h), fun _ h => (nomatch h), fun _ h => (nomatch h),
      fun _ _ h => (nomatch h), fun _ _ _ h => (nomatch h)⟩
  obtain ⟨x, k, hrun, hk, hext, hx⟩ := runs_value hstart ⟨v, hw, hnode⟩
  have hcount : k.queue.length + nodes.size ≤ nodes.size + k.made.length := by
    have := hext.count
    simp only [List.length_nil] at this
    omega
  obtain ⟨l, hrun', hl, hempty, hmade⟩ := exists_run_fillAll hk hcount
  refine ⟨x, l, ?_, hl.isAt hempty hw hnode (hmade _ hx)⟩
  have hget : (get : Make Maker).run k = .ok (k, k) := rfl
  rw [Make.root, run_bind_of_ok hrun, run_bind_of_ok hget, hk.nodes_eq, run_bind_of_ok hrun']
  rfl

end Runs

end Json

end Conformance
