import Conformance.Proofs.Json.Lexemes
import Conformance.Yaml.Node

/-!
# Nodes of a JSON text

The tokens of a value are read as the node of this value. Words and numbers are nodes with the tag
that their text has, texts and keys are nodes of texts, and collections are nodes that refer to
those of what is in them. A key that is too long has no mark in front of it, so its colon stands
where a comma is expected, and the text is refused.

## Main definitions

* `Json.IsNode` — the node of a value.
* `Yaml.Build.Faces` — a builder that has looked at the next token.
* `Yaml.Build.Reads` — what a step comes to: it takes its tokens, or refuses the text.

## Main results

* `Json.nodeReads` — the tokens of a value are read as its node, by induction on the value.
* `Json.readNodes_written` — the nodes of the text of a value.
-/

namespace Conformance

open Yaml

/-! ### Nodes of a value -/

/-- Nodes from a place on are kept. -/
def Yaml.Keeps (k : ℕ) (nodes nodes' : Array Node) : Prop :=
  ∀ i n, k ≤ i → nodes[i]? = some n → nodes'[i]? = some n

namespace Json

/-- The code points of the text of a value that is a word or number. -/
def wordPoints (v : Json) : List ℕ := v.written.map Char.toNat

mutual

/-- Whether a node from a place on is the one of a value, with those that it refers to. -/
def IsNode (nodes : Array Node) (k : ℕ) : Json → NodeId → Prop
  | array items, id => k ≤ id ∧ ∃ ids, nodes[id]? = some ⟨.seq, .sequence ids⟩ ∧
      AreNodes nodes k items ids
  | object entries, id => k ≤ id ∧ ∃ ids, nodes[id]? = some ⟨.map, .mapping ids⟩ ∧
      AreEntryNodes nodes k entries ids
  | str s, id => k ≤ id ∧ nodes[id]? = some ⟨.str, .scalar (points s)⟩
  | v, id => k ≤ id ∧
      nodes[id]? = some ⟨Build.scalarTag v.wordPoints true none, .scalar v.wordPoints⟩

/-- Whether nodes are those of some items, one by one. -/
def AreNodes (nodes : Array Node) (k : ℕ) : List Json → List NodeId → Prop
  | [], [] => True
  | v :: vs, id :: ids => IsNode nodes k v id ∧ AreNodes nodes k vs ids
  | _, _ => False

/-- Whether pairs of nodes are those of some entries, one by one. -/
def AreEntryNodes (nodes : Array Node) (k : ℕ) :
    List (List CodePoint × Json) → List (NodeId × NodeId) → Prop
  | [], [] => True
  | (key, v) :: es, (i, j) :: ids => (k ≤ i ∧ nodes[i]? = some ⟨.str, .scalar (points key)⟩) ∧
      IsNode nodes k v j ∧ AreEntryNodes nodes k es ids
  | _, _ => False

end

variable {nodes nodes' : Array Node} {k k' : ℕ}

theorem areNodes_iff {items : List Json} {ids : List NodeId} :
    AreNodes nodes k items ids ↔ List.Forall₂ (IsNode nodes k) items ids := by
  induction items generalizing ids with
  | nil => cases ids <;> simp [AreNodes]
  | cons v vs ih => cases ids <;> simp [AreNodes, ih]

theorem areEntryNodes_iff {entries : List (List CodePoint × Json)} {ids : List (NodeId × NodeId)} :
    AreEntryNodes nodes k entries ids ↔ List.Forall₂
      (fun e i => IsNode nodes k (str e.1) i.1 ∧ IsNode nodes k e.2 i.2) entries ids := by
  induction entries generalizing ids with
  | nil => cases ids <;> simp [AreEntryNodes]
  | cons e es ih => cases ids <;> simp [AreEntryNodes, IsNode, ih, and_assoc]

theorem AreNodes.mono {items : List Json} (h : ∀ v ∈ items, ∀ {id}, IsNode nodes k' v id →
    IsNode nodes' k v id) {ids : List NodeId} (hids : AreNodes nodes k' items ids) :
    AreNodes nodes' k items ids := by
  induction items generalizing ids with
  | nil =>
    cases ids with
    | nil => trivial
    | cons id ids => exact hids.elim
  | cons v vs ih =>
    cases ids with
    | nil => exact hids.elim
    | cons id ids =>
      obtain ⟨hv, hvs⟩ := List.forall_mem_cons.mp h
      exact ⟨hv hids.1, ih hvs hids.2⟩

theorem AreEntryNodes.mono {entries : List (List CodePoint × Json)} (hk : k ≤ k')
    (hkeeps : Keeps k' nodes nodes') (h : ∀ e ∈ entries, ∀ {id}, IsNode nodes k' e.2 id →
      IsNode nodes' k e.2 id) {ids : List (NodeId × NodeId)}
    (hids : AreEntryNodes nodes k' entries ids) : AreEntryNodes nodes' k entries ids := by
  induction entries generalizing ids with
  | nil =>
    cases ids with
    | nil => trivial
    | cons id ids => exact hids.elim
  | cons e es ih =>
    cases ids with
    | nil => exact hids.elim
    | cons id ids =>
      obtain ⟨he, hes⟩ := List.forall_mem_cons.mp h
      obtain ⟨⟨hle, hkey⟩, hvalue, hrest⟩ := hids
      exact ⟨⟨hk.trans hle, hkeeps _ _ hle hkey⟩, he hvalue, ih hes hrest⟩

/-- The node of a value stays one as long as the nodes from its place on are kept. -/
theorem IsNode.mono (hk : k ≤ k') (hkeeps : Keeps k' nodes nodes') {v : Json} {id : NodeId}
    (h : IsNode nodes k' v id) : IsNode nodes' k v id := by
  induction v using Json.induction generalizing id with
  | array items ih =>
    obtain ⟨hle, ids, hid, hids⟩ := h
    exact ⟨hk.trans hle, ids, hkeeps _ _ hle hid, hids.mono ih⟩
  | object entries ih =>
    obtain ⟨hle, ids, hid, hids⟩ := h
    exact ⟨hk.trans hle, ids, hkeeps _ _ hle hid, hids.mono hk hkeeps ih⟩
  | _ => exact ⟨hk.trans h.1, hkeeps _ _ h.1 h.2⟩

end Json

/-! ### Steps -/

namespace Yaml

section

variable {σ α β : Type} {s s' : σ}

theorem run_bind_of_ok {w : StateT σ (Except Fault) α} {f : α → StateT σ (Except Fault) β} {a : α}
    (h : w.run s = .ok (a, s')) : (w >>= f).run s = (f a).run s' := by
  rw [StateT.run_bind, h]
  rfl

theorem run_bind_of_error {w : StateT σ (Except Fault) α} {f : α → StateT σ (Except Fault) β}
    {e : Fault} (h : w.run s = .error e) : (w >>= f).run s = .error e := by
  rw [StateT.run_bind, h]
  rfl

end

end Yaml

namespace Yaml.Build

variable {α β : Type} {b b' : Builder} {t : Token} {ts : List Token}

/-- The builder has looked at the next token, and others follow it. -/
def Faces (b : Builder) (t : Token) (ts : List Token) : Prop :=
  b.scanner.peek = .ok (t, b.scanner) ∧ b.scanner.skip.Gives ts

/-- The builder after the next token has been taken. -/
def skipped (b : Builder) : Builder := { b with scanner := b.scanner.skip }

/-- Looking at the next token changes only how far the scanner has read. -/
theorem exists_faces (h : b.scanner.Gives (t :: ts)) :
    ∃ s, peek.run b = .ok (t, { b with scanner := s }) ∧ Faces { b with scanner := s } t ts := by
  obtain ⟨s, hpeek, hagain, hskip⟩ := h
  refine ⟨s, ?_, hagain, hskip⟩
  simp [peek, hpeek]

theorem Faces.run_peek (h : Faces b t ts) : peek.run b = .ok (t, b) := by
  simp [peek, h.1]

/-- A token before which nothing is said of the node that it begins. -/
def IsBare : Token → Prop
  | .alias _ | .anchor _ | .tag _ => False
  | _ => True

theorem Faces.run_properties (h : Faces b t ts) (ht : IsBare t) :
    properties.run b = .ok ((none, none), b) := by
  cases t with
  | «alias» | anchor | tag => exact ht.elim
  | _ =>
    refine (run_bind_of_ok (a := none) (run_bind_of_ok h.run_peek)).trans ?_
    exact run_bind_of_ok (a := none) (run_bind_of_ok h.run_peek)

/-- A node is read alike after its first token has been looked at. -/
theorem run_node_of_peek (hpeek : peek.run b = .ok (t, b')) (hfaces : Faces b' t ts)
    (block indentless : Bool) (n : ℕ) :
    (node block indentless (n + 1)).run b = (node block indentless (n + 1)).run b' := by
  rw [node, run_bind_of_ok hpeek, run_bind_of_ok hfaces.run_peek]

/-- Nothing is said of a node that begins with a bare token. -/
theorem Faces.run_opening (h : Faces b t ts) (ht : IsBare t)
    (f : Option String × Option WrittenTag → Option String → Token → Build α) :
    (do
      let said ← properties
      let tag ← said.2.mapM fullTag
      f said tag (← peek) : Build α).run b = (f (none, none) none t).run b := by
  have htag : (Option.mapM fullTag none).run b = .ok (none, b) := rfl
  rw [run_bind_of_ok (h.run_properties ht)]
  dsimp only
  rw [run_bind_of_ok htag, run_bind_of_ok h.run_peek]

theorem Faces.run_node_scalar {points : List ℕ} {plain : Bool}
    (h : Faces b (.scalar points plain) ts) (block indentless : Bool) (n : ℕ) :
    (node block indentless (n + 1)).run b = .ok (b.nodes.size, { skipped b with
      nodes := b.nodes.push ⟨scalarTag points plain none, .scalar points⟩ }) := by
  rw [node, run_bind_of_ok h.run_peek]
  dsimp only
  refine (h.run_opening trivial _).trans ?_
  rfl

/-- The builder after a node has been added whose content is still to come. -/
def opened (b : Builder) (n : Node) : Builder := { skipped b with nodes := b.nodes.push n }

/-- The builder after a node has got its content. -/
def filled (b : Builder) (id : NodeId) (content : Content) : Builder :=
  { b with nodes := b.nodes.modify id fun n => { n with content := content } }

theorem Faces.run_node_sequence (h : Faces b .flowSequenceStart ts) (block indentless : Bool)
    (n : ℕ) : (node block indentless (n + 1)).run b =
      ((flowItems true n).run (opened b ⟨.seq, .sequence []⟩) >>= fun r =>
        .ok (b.nodes.size, filled r.2 b.nodes.size (.sequence r.1))) := by
  rw [node, run_bind_of_ok h.run_peek]
  dsimp only
  refine (h.run_opening trivial _).trans ?_
  rfl

theorem Faces.run_node_mapping (h : Faces b .flowMappingStart ts) (block indentless : Bool)
    (n : ℕ) : (node block indentless (n + 1)).run b =
      ((flowEntries true n).run (opened b ⟨.map, .mapping []⟩) >>= fun r =>
        .ok (b.nodes.size, filled r.2 b.nodes.size (.mapping r.1))) := by
  rw [node, run_bind_of_ok h.run_peek]
  dsimp only
  refine (h.run_opening trivial _).trans ?_
  rfl

/-! ### What steps come to -/

/-- A step takes its tokens and keeps the nodes that are there, if a condition holds, and refuses
the text otherwise. -/
inductive Reads (b : Builder) (ts : List Token) (p : Prop) (Q : Array Node → α → Prop) :
    Except Fault (α × Builder) → Prop
  | ok {a : α} {b' : Builder} (h : p) (gives : b'.scanner.Gives ts)
    (keeps : Keeps 0 b.nodes b'.nodes) (hQ : Q b'.nodes a) : Reads b ts p Q (.ok (a, b'))
  | refused (h : ¬ p) : Reads b ts p Q (.error .malformed)

namespace Reads

variable {p p' : Prop} {Q : Array Node → α → Prop} {R : Array Node → β → Prop}
  {x : Except Fault (α × Builder)} {ts' : List Token}

theorem bind {f : α × Builder → Except Fault (β × Builder)} (h : Reads b ts p Q x)
    (hf : ∀ a b', b'.scanner.Gives ts → Keeps 0 b.nodes b'.nodes → Q b'.nodes a →
      Reads b' ts' p' R (f (a, b'))) : Reads b ts' (p ∧ p') R (x >>= f) := by
  cases h with
  | refused h => exact .refused fun hboth => h hboth.1
  | @ok a b' hp hgives hkeeps hQ =>
    have hnext := hf a b' hgives hkeeps hQ
    change Reads b ts' (p ∧ p') R (f (a, b'))
    generalize f (a, b') = y at hnext
    cases hnext with
    | refused h => exact .refused fun hboth => h hboth.2
    | ok hp' hgives' hkeeps' hR =>
      exact .ok ⟨hp, hp'⟩ hgives' (fun i n hi hn => hkeeps' i n hi (hkeeps i n hi hn)) hR

theorem congr (h : Reads b ts p Q x) (hp : p ↔ p') : Reads b ts p' Q x := by
  cases h with
  | refused h => exact .refused fun h' => h (hp.mpr h')
  | ok h hgives hkeeps hQ => exact .ok (hp.mp h) hgives hkeeps hQ

theorem map {f : α → β} (h : Reads b ts p Q x)
    (hR : ∀ nodes a, Keeps 0 b.nodes nodes → Q nodes a → R nodes (f a)) :
    Reads b ts p R (x >>= fun r => .ok (f r.1, r.2)) := by
  cases h with
  | refused h => exact .refused h
  | ok h hgives hkeeps hQ => exact .ok h hgives hkeeps (hR _ _ hkeeps hQ)

/-- What keeps the nodes of a later step keeps those of an earlier one. -/
theorem of_keeps {b' : Builder} (h : Reads b' ts p Q x) (hkeeps : Keeps 0 b.nodes b'.nodes) :
    Reads b ts p Q x := by
  cases h with
  | refused h => exact .refused h
  | ok h hgives hkeeps' hQ =>
    exact .ok h hgives (fun i n hi hn => hkeeps' i n hi (hkeeps i n hi hn)) hQ

theorem of_nodes_eq {b' : Builder} (h : Reads b' ts p Q x) (hnodes : b'.nodes = b.nodes) :
    Reads b ts p Q x := h.of_keeps fun _ _ _ hn => hnodes.symm ▸ hn

end Reads

theorem Faces.gives (h : Faces b t ts) : b.scanner.Gives (t :: ts) := ⟨_, h.1, h.1, h.2⟩

/-- Looking for a token takes it if it is the next one. -/
theorem exists_accept (h : b.scanner.Gives (t :: ts)) (u : Token) :
    ∃ s, Faces { b with scanner := s } t ts ∧ (accept u).run b =
      if t = u then .ok (true, skipped { b with scanner := s })
      else .ok (false, { b with scanner := s }) := by
  obtain ⟨s, hpeek, hfaces⟩ := exists_faces h
  refine ⟨s, hfaces, ?_⟩
  rw [accept, run_bind_of_ok hpeek]
  split <;> rfl

theorem run_accept_self (h : b.scanner.Gives (t :: ts)) :
    ∃ b', (accept t).run b = .ok (true, b') ∧ b'.scanner.Gives ts ∧ b'.nodes = b.nodes := by
  obtain ⟨s, hfaces, hrun⟩ := exists_accept h t
  rw [if_pos rfl] at hrun
  exact ⟨_, hrun, hfaces.2, rfl⟩

theorem run_accept_other (h : b.scanner.Gives (t :: ts)) {u : Token} (hne : t ≠ u) :
    ∃ b', (accept u).run b = .ok (false, b') ∧ Faces b' t ts ∧ b'.nodes = b.nodes := by
  obtain ⟨s, hfaces, hrun⟩ := exists_accept h u
  rw [if_neg hne] at hrun
  exact ⟨_, hrun, hfaces, rfl⟩

theorem run_require_self (h : b.scanner.Gives (t :: ts)) :
    ∃ b', (require t).run b = .ok ((), b') ∧ b'.scanner.Gives ts ∧ b'.nodes = b.nodes := by
  obtain ⟨b', hrun, hgives, hnodes⟩ := run_accept_self h
  exact ⟨b', run_bind_of_ok hrun, hgives, hnodes⟩

end Yaml.Build

namespace Json

open Yaml.Build

variable {b : Builder} {ts : List Yaml.Token}

/-- What reading the node of a value comes to: the text is refused if a key in the value is too
long. -/
def NodeReads (v : Json) : Prop :=
  ∀ {b : Builder} {ts : List Yaml.Token} {n : ℕ} (block indentless : Bool), v.tokens.length ≤ n →
    b.scanner.Gives (v.tokens ++ ts) →
    Reads b ts v.HasShortKeys (fun nodes id => IsNode nodes b.nodes.size v id)
      ((node block indentless n).run b)

/-- Whether a value can begin with a token. -/
def begins : Yaml.Token → Bool
  | .flowSequenceStart | .flowMappingStart | .scalar .. => true
  | _ => false

theorem exists_tokens_cons (v : Json) : ∃ t us, v.tokens = t :: us ∧ begins t = true := by
  cases v with
  | array items => exact ⟨_, _, tokens_array items, rfl⟩
  | object entries => exact ⟨_, _, tokens_object entries, rfl⟩
  | _ => exact ⟨_, _, rfl, rfl⟩

/-- Before a value no token is taken that cannot begin one. -/
theorem run_accept_value {v : Json} (hgives : b.scanner.Gives (v.tokens ++ ts)) {u : Yaml.Token}
    (hu : begins u = false) : ∃ b', (accept u).run b = .ok (false, b') ∧
      b'.scanner.Gives (v.tokens ++ ts) ∧ b'.nodes = b.nodes := by
  obtain ⟨t, us, htokens, ht⟩ := exists_tokens_cons v
  have hne : t ≠ u := by
    rintro rfl
    rw [ht] at hu
    cases hu
  rw [htokens] at hgives ⊢
  obtain ⟨b', hrun, hfaces, hnodes⟩ := run_accept_other hgives hne
  exact ⟨b', hrun, hfaces.gives, hnodes⟩

/-- Nodes that are kept are not fewer afterwards. -/
theorem size_le_of_keeps {nodes nodes' : Array Node} (h : Keeps 0 nodes nodes') :
    nodes.size ≤ nodes'.size := by
  by_contra hlt
  rw [Nat.not_le] at hlt
  have hget := h _ _ (Nat.zero_le _) (Array.getElem?_eq_getElem hlt)
  rw [Array.getElem?_eq_none (Nat.le_refl _)] at hget
  cases hget

theorem length_itemTokens_pos (items : List Json) : 0 < (itemTokens false items).length := by
  cases items <;> simp [itemTokens, itemLexemes, Lexeme.tokens]

theorem length_entryTokens_pos (entries : List (List CodePoint × Json)) :
    0 < (entryTokens false entries).length := by
  cases entries <;> simp [entryTokens, entryLexemes, Lexeme.tokens]

/-- After its comma an item is read, and then the other ones. -/
theorem item_reads {v : Json} {vs : List Json} (hv : NodeReads v) {n : ℕ}
    (hn : v.tokens.length ≤ n) (hgives : b.scanner.Gives (v.tokens ++ (itemTokens false vs ++ ts)))
    (hvs : ∀ b : Builder, b.scanner.Gives (itemTokens false vs ++ ts) →
      Reads b ts (∀ v ∈ vs, v.HasShortKeys)
        (fun nodes ids => AreNodes nodes b.nodes.size vs ids) ((flowItems false n).run b)) :
    Reads b ts (∀ u ∈ v :: vs, u.HasShortKeys)
      (fun nodes ids => AreNodes nodes b.nodes.size (v :: vs) ids) ((do
        if ← accept .flowSequenceEnd then pure []
        else
          let item ← if ← accept .key then flowPair n else node false false n
          return item :: (← flowItems false n) : Build (List NodeId)).run b) := by
  obtain ⟨b₁, hend, hgives₁, hnodes₁⟩ := run_accept_value (u := .flowSequenceEnd) hgives rfl
  obtain ⟨b₂, hkey, hgives₂, hnodes₂⟩ := run_accept_value (u := .key) hgives₁ rfl
  rw [run_bind_of_ok hend, if_neg Bool.false_ne_true, run_bind_of_ok hkey,
    if_neg Bool.false_ne_true, StateT.run_bind]
  have hnodes := hnodes₂.trans hnodes₁
  refine Reads.of_nodes_eq ?_ hnodes
  rw [← hnodes]
  refine Reads.congr ?_ List.forall_mem_cons.symm
  refine (hv _ _ hn hgives₂).bind fun id b₃ hgives₃ hkeeps₃ hid => ?_
  refine (hvs b₃ hgives₃).map fun nodes ids hkeeps hids => ⟨?_, ?_⟩
  · exact hid.mono le_rfl fun i n _ h => hkeeps i n (Nat.zero_le _) h
  · exact hids.mono fun v _ _ h => h.mono (size_le_of_keeps hkeeps₃) fun _ _ _ h => h

theorem flowItems_reads {items : List Json} (h : ∀ v ∈ items, NodeReads v) {first : Bool} {n : ℕ}
    (hn : (itemTokens first items).length ≤ n)
    (hgives : b.scanner.Gives (itemTokens first items ++ ts)) :
    Reads b ts (∀ v ∈ items, v.HasShortKeys)
      (fun nodes ids => AreNodes nodes b.nodes.size items ids) ((flowItems first n).run b) := by
  induction items generalizing first n b with
  | nil =>
    obtain ⟨n, rfl⟩ : ∃ k, n = k + 1 := Nat.exists_eq_add_one.mpr hn
    obtain ⟨b', hrun, hgives', hnodes⟩ := run_accept_self hgives
    rw [flowItems, run_bind_of_ok hrun]
    refine .ok (List.forall_mem_nil _) hgives' (fun i n _ h => ?_) trivial
    rw [hnodes]
    exact h
  | cons v vs ih =>
    obtain ⟨hv, hvs⟩ := List.forall_mem_cons.mp h
    rw [itemTokens_cons] at hn hgives
    rw [List.length_append, List.length_append] at hn
    have hpos : 0 < v.tokens.length := by
      obtain ⟨t, us, htokens, -⟩ := exists_tokens_cons v
      rw [htokens]
      exact Nat.succ_pos _
    have hrest := length_itemTokens_pos vs
    obtain ⟨n, rfl⟩ : ∃ k, n = k + 1 := Nat.exists_eq_add_one.mpr (by omega)
    have hitem {b : Builder} (hgives : b.scanner.Gives (v.tokens ++ (itemTokens false vs ++ ts))) :=
      item_reads hv (n := n) (by omega) hgives fun b hb => ih hvs (by omega) hb
    rw [flowItems]
    cases first with
    | true =>
      rw [if_pos rfl, List.nil_append, List.append_assoc] at hgives
      obtain ⟨b₁, hend, hgives₁, hnodes₁⟩ := run_accept_value (u := .flowSequenceEnd) hgives rfl
      rw [run_bind_of_ok hend, if_neg Bool.false_ne_true, if_pos rfl, ← hnodes₁]
      exact (hitem hgives₁).of_nodes_eq hnodes₁
    | false =>
      rw [if_neg Bool.false_ne_true, List.singleton_append, List.cons_append,
        List.append_assoc] at hgives
      obtain ⟨b₁, hend, hfaces₁, hnodes₁⟩ :=
        run_accept_other (u := .flowSequenceEnd) hgives (by simp)
      obtain ⟨b₂, hcomma, hgives₂, hnodes₂⟩ := run_require_self hfaces₁.gives
      have hnodes := hnodes₂.trans hnodes₁
      rw [run_bind_of_ok hend, if_neg Bool.false_ne_true, if_neg Bool.false_ne_true,
        run_bind_of_ok hcomma, ← hnodes]
      exact (hitem hgives₂).of_nodes_eq hnodes

theorem keeps_push (nodes : Array Node) (n : Node) : Keeps 0 nodes (nodes.push n) := by
  intro i x _ hx
  rw [Array.getElem?_push, if_neg (Nat.ne_of_lt (Array.getElem?_eq_some_iff.mp hx).1)]
  exact hx

/-- A key is read as the node of a text. -/
theorem run_key {points : List ℕ} (hgives : b.scanner.Gives (.scalar points false :: ts))
    (n : ℕ) : ∃ b', (node false false (n + 1)).run b = .ok (b.nodes.size, b') ∧
      b'.scanner.Gives ts ∧ b'.nodes = b.nodes.push ⟨.str, .scalar points⟩ := by
  obtain ⟨s, hpeek, hfaces⟩ := exists_faces hgives
  exact ⟨_, (run_node_of_peek hpeek hfaces ..).trans (hfaces.run_node_scalar false false n),
    hfaces.2, rfl⟩

theorem run_nodeUnless (stop : List Yaml.Token) {t : Yaml.Token}
    (hgives : b.scanner.Gives (t :: ts)) (ht : t ∉ stop) (n : ℕ) :
    ∃ b', (nodeUnless stop false false (n + 1)).run b = (node false false n).run b' ∧
      b'.scanner.Gives (t :: ts) ∧ b'.nodes = b.nodes := by
  obtain ⟨s, hpeek, hfaces⟩ := exists_faces hgives
  have hnext : (isNext stop).run b = .ok (false, { b with scanner := s }) := by
    rw [isNext, run_bind_of_ok hpeek]
    have hcontains : stop.contains t = false := by simpa using ht
    rw [hcontains]
    rfl
  refine ⟨_, ?_, hfaces.gives, rfl⟩
  rw [nodeUnless, run_bind_of_ok hnext, if_neg Bool.false_ne_true]

theorem run_nodeUnless_value (stop : List Yaml.Token) {v : Json}
    (hgives : b.scanner.Gives (v.tokens ++ ts)) (hstop : ∀ u ∈ stop, begins u = false) (n : ℕ) :
    ∃ b', (nodeUnless stop false false (n + 1)).run b = (node false false n).run b' ∧
      b'.scanner.Gives (v.tokens ++ ts) ∧ b'.nodes = b.nodes := by
  obtain ⟨t, us, htokens, ht⟩ := exists_tokens_cons v
  rw [htokens] at hgives ⊢
  refine run_nodeUnless stop hgives (fun hmem => ?_) n
  rw [hstop t hmem] at ht
  cases ht

theorem length_tokens_pos (v : Json) : 0 < v.tokens.length := by
  obtain ⟨t, us, htokens, -⟩ := exists_tokens_cons v
  rw [htokens]
  exact Nat.succ_pos _

/-- An entry begins with the mark of its key, or with the key itself. -/
theorem exists_keyMark_append (k : List CodePoint) (points : List ℕ) (ts : List Yaml.Token) :
    ∃ t us, Lexeme.keyMark k ++ .scalar points false :: ts = t :: us ∧ t ≠ .flowMappingEnd := by
  rw [Lexeme.keyMark]
  split
  · exact ⟨_, _, rfl, by simp⟩
  · exact ⟨_, _, rfl, by simp⟩

/-- A colon cannot stand where a comma is expected. -/
theorem flowEntries_value (hgives : b.scanner.Gives (.value :: ts)) (n : ℕ) :
    (flowEntries false (n + 1)).run b = .error .malformed := by
  obtain ⟨b₁, hend, hfaces, -⟩ := run_accept_other (u := .flowMappingEnd) hgives (by simp)
  obtain ⟨b₂, hcomma, -, -⟩ := run_accept_other (u := .flowEntry) hfaces.gives (by simp)
  have hrequire : (require .flowEntry).run b₁ = .error .malformed := by
    rw [require, run_bind_of_ok hcomma]
    rfl
  rw [flowEntries, run_bind_of_ok hend, if_neg Bool.false_ne_true, if_neg Bool.false_ne_true,
    run_bind_of_error hrequire]

/-- Reads the key and the value of an entry. -/
def entryPair (n : ℕ) : Build (NodeId × NodeId) := do
  if ← accept .key then do
    let k ← nodeUnless [.value, .flowEntry, .flowMappingEnd] false false n
    let v ← if ← accept .value then nodeUnless [.flowEntry, .flowMappingEnd] false false n
      else addEmpty
    pure (k, v)
  else do
    let k ← node false false n
    pure (k, ← addEmpty)

/-- The entries of a mapping are read one after the other. -/
theorem flowEntries_succ (first : Bool) (n : ℕ) : flowEntries first (n + 1) = do
    if ← accept .flowMappingEnd then pure []
    else
      unless first do require .flowEntry
      if ← accept .flowMappingEnd then pure []
      else return (← entryPair n) :: (← flowEntries false n) := by
  have hite {α β : Type} (c : Bool) (x y : Build α) (f : α → Build β) :
      ((if c = true then x else y) >>= f) = if c = true then x >>= f else y >>= f :=
    apply_ite (· >>= f) ..
  simp only [flowEntries, entryPair, bind_assoc, pure_bind, hite]

/-- Behind the mark of a key the key is read, and then the value under it. -/
theorem entryPair_reads {k : List CodePoint} {v : Json} (hv : NodeReads v) {n : ℕ}
    (hn : v.tokens.length < n)
    (hgives : b.scanner.Gives (.key :: .scalar (points k) false :: .value :: (v.tokens ++ ts))) :
    Reads b ts v.HasShortKeys
      (fun nodes e => (b.nodes.size ≤ e.1 ∧ nodes[e.1]? = some ⟨.str, .scalar (points k)⟩) ∧
        IsNode nodes b.nodes.size v e.2) ((entryPair n).run b) := by
  obtain ⟨n, rfl⟩ : ∃ k, n = k + 1 := Nat.exists_eq_add_one.mpr (Nat.zero_lt_of_lt hn)
  have hpos := length_tokens_pos v
  obtain ⟨n, rfl⟩ : ∃ k, n = k + 1 := Nat.exists_eq_add_one.mpr (by omega)
  obtain ⟨b₁, hkey, hgives₁, hnodes₁⟩ := run_accept_self hgives
  obtain ⟨b₂, hnode₂, hgives₂, hnodes₂⟩ := run_nodeUnless
    [.value, .flowEntry, .flowMappingEnd] hgives₁ (by simp) (n + 1)
  obtain ⟨b₃, hnode₃, hgives₃, hnodes₃⟩ := run_key hgives₂ n
  obtain ⟨b₄, hvalue, hgives₄, hnodes₄⟩ := run_accept_self hgives₃
  obtain ⟨b₅, hnode₅, hgives₅, hnodes₅⟩ := run_nodeUnless_value
    [.flowEntry, .flowMappingEnd] hgives₄ (by decide) (n + 1)
  rw [entryPair, run_bind_of_ok hkey, if_pos rfl, run_bind_of_ok (hnode₂.trans hnode₃),
    run_bind_of_ok hvalue, if_pos rfl, StateT.run_bind, hnode₅]
  have hsize : b₂.nodes.size = b.nodes.size := by rw [hnodes₂, hnodes₁]
  have hnodes : b₅.nodes = b.nodes.push ⟨.str, .scalar (points k)⟩ := by
    rw [hnodes₅, hnodes₄, hnodes₃, hnodes₂, hnodes₁]
  have hkeeps : Keeps 0 b.nodes b₅.nodes := by
    rw [hnodes]
    exact keeps_push _ _
  have hkeyNode : b₅.nodes[b₂.nodes.size]? = some ⟨.str, .scalar (points k)⟩ := by
    rw [hnodes, hsize, Array.getElem?_push_size]
  refine Reads.of_keeps ?_ hkeeps
  refine (hv _ _ (by omega) hgives₅).map fun nodes id hkeeps₆ hid => ⟨⟨hsize.ge, ?_⟩, ?_⟩
  · exact hkeeps₆ _ _ (Nat.zero_le _) hkeyNode
  · exact hid.mono (size_le_of_keeps hkeeps) fun _ _ _ h => h

/-- A key without its mark is read as if nothing were under it. -/
theorem run_entryPair_unmarked {points : List ℕ}
    (hgives : b.scanner.Gives (.scalar points false :: ts)) (n : ℕ) :
    ∃ ids b', (entryPair (n + 1)).run b = .ok (ids, b') ∧ b'.scanner.Gives ts := by
  obtain ⟨b₁, hkey, hfaces, -⟩ := run_accept_other (u := .key) hgives (by simp)
  obtain ⟨b₂, hnode, hgives₂, -⟩ := run_key hfaces.gives n
  refine ⟨(b₁.nodes.size, b₂.nodes.size),
    { b₂ with nodes := b₂.nodes.push ⟨.null, .scalar []⟩ }, ?_, hgives₂⟩
  rw [entryPair, run_bind_of_ok hkey, if_neg Bool.false_ne_true, run_bind_of_ok hnode]
  rfl

/-- After its comma an entry is read if its key is short enough, and then the other ones. -/
theorem entry_reads {k : List CodePoint} {v : Json} {es : List (List CodePoint × Json)}
    (hv : NodeReads v) {n : ℕ} (hn : v.tokens.length < n) (hgives : b.scanner.Gives
      (Lexeme.keyMark k ++ .scalar (points k) false :: .value ::
        (v.tokens ++ (entryTokens false es ++ ts))))
    (hes : ∀ b : Builder, b.scanner.Gives (entryTokens false es ++ ts) →
      Reads b ts (∀ e ∈ es, (quoted e.1).length ≤ Scanner.keyLimit ∧ e.2.HasShortKeys)
        (fun nodes ids => AreEntryNodes nodes b.nodes.size es ids) ((flowEntries false n).run b)) :
    Reads b ts (∀ e ∈ (k, v) :: es, (quoted e.1).length ≤ Scanner.keyLimit ∧ e.2.HasShortKeys)
      (fun nodes ids => AreEntryNodes nodes b.nodes.size ((k, v) :: es) ids) ((do
        if ← accept .flowMappingEnd then pure []
        else return (← entryPair n) :: (← flowEntries false n) :
          Build (List (NodeId × NodeId))).run b) := by
  rw [Lexeme.keyMark] at hgives
  split at hgives
  · next hshort =>
    obtain ⟨b₁, hend, hfaces, hnodes₁⟩ := run_accept_other (u := .flowMappingEnd) hgives (by simp)
    rw [run_bind_of_ok hend, if_neg Bool.false_ne_true, StateT.run_bind]
    refine Reads.of_nodes_eq ?_ hnodes₁
    rw [← hnodes₁]
    have hp : v.HasShortKeys ∧
        (∀ e ∈ es, (quoted e.1).length ≤ Scanner.keyLimit ∧ e.2.HasShortKeys) ↔
          ∀ e ∈ (k, v) :: es, (quoted e.1).length ≤ Scanner.keyLimit ∧ e.2.HasShortKeys := by
      rw [List.forall_mem_cons]
      exact and_congr_left' (and_iff_right hshort).symm
    refine Reads.congr ?_ hp
    refine (entryPair_reads hv hn hfaces.gives).bind fun ids b₂ hgives₂ hkeeps₂ hids => ?_
    refine (hes b₂ hgives₂).map fun nodes rest hkeeps₃ hrest => ⟨⟨hids.1.1, ?_⟩, ?_, ?_⟩
    · exact hkeeps₃ _ _ (Nat.zero_le _) hids.1.2
    · exact hids.2.mono le_rfl fun i n _ h => hkeeps₃ i n (Nat.zero_le _) h
    · have hle := size_le_of_keeps hkeeps₂
      exact hrest.mono hle (fun _ _ _ h => h) fun e _ _ h => h.mono hle fun _ _ _ h => h
  · next hlong =>
    obtain ⟨n, rfl⟩ : ∃ k, n = k + 1 := Nat.exists_eq_add_one.mpr (Nat.zero_lt_of_lt hn)
    obtain ⟨b₁, hend, hfaces, -⟩ := run_accept_other (u := .flowMappingEnd) hgives (by simp)
    obtain ⟨ids, b₂, hpair, hgives₂⟩ := run_entryPair_unmarked hfaces.gives n
    rw [run_bind_of_ok hend, if_neg Bool.false_ne_true, run_bind_of_ok hpair,
      run_bind_of_error (flowEntries_value hgives₂ n)]
    exact .refused fun h => hlong (h (k, v) List.mem_cons_self).1

theorem flowEntries_reads {entries : List (List CodePoint × Json)}
    (h : ∀ e ∈ entries, NodeReads e.2) {first : Bool} {n : ℕ}
    (hn : (entryTokens first entries).length ≤ n)
    (hgives : b.scanner.Gives (entryTokens first entries ++ ts)) :
    Reads b ts (∀ e ∈ entries, (quoted e.1).length ≤ Scanner.keyLimit ∧ e.2.HasShortKeys)
      (fun nodes ids => AreEntryNodes nodes b.nodes.size entries ids)
      ((flowEntries first n).run b) := by
  induction entries generalizing first n b with
  | nil =>
    obtain ⟨n, rfl⟩ : ∃ k, n = k + 1 := Nat.exists_eq_add_one.mpr hn
    obtain ⟨b', hrun, hgives', hnodes⟩ := run_accept_self hgives
    rw [flowEntries, run_bind_of_ok hrun]
    refine .ok (List.forall_mem_nil _) hgives' (fun i n _ h => ?_) trivial
    rw [hnodes]
    exact h
  | cons e es ih =>
    obtain ⟨k, v⟩ := e
    obtain ⟨hv, hes⟩ : NodeReads v ∧ ∀ e ∈ es, NodeReads e.2 := List.forall_mem_cons.mp h
    rw [entryTokens_cons] at hn hgives
    simp only [List.length_append, List.length_cons] at hn
    have hrest := length_entryTokens_pos es
    obtain ⟨n, rfl⟩ : ∃ k, n = k + 1 := Nat.exists_eq_add_one.mpr (by omega)
    have hentry {b : Builder} (hgives : b.scanner.Gives (Lexeme.keyMark k ++
        .scalar (points k) false :: .value :: (v.tokens ++ (entryTokens false es ++ ts)))) :=
      entry_reads hv (n := n) (by omega) hgives fun b hb => ih hes (by omega) hb
    rw [flowEntries_succ]
    cases first with
    | true =>
      simp only [if_true, List.nil_append, List.append_assoc, List.cons_append] at hgives
      obtain ⟨t, us, htokens, hne⟩ := exists_keyMark_append k (points k)
        (.value :: (v.tokens ++ (entryTokens false es ++ ts)))
      rw [htokens] at hgives
      obtain ⟨b₁, hend, hfaces₁, hnodes₁⟩ := run_accept_other hgives hne
      have hgives₁ := hfaces₁.gives
      rw [← htokens] at hgives₁
      rw [run_bind_of_ok hend, if_neg Bool.false_ne_true, if_pos rfl, ← hnodes₁]
      exact (hentry hgives₁).of_nodes_eq hnodes₁
    | false =>
      simp only [if_neg Bool.false_ne_true, List.cons_append, List.append_assoc] at hgives
      obtain ⟨b₁, hend, hfaces₁, hnodes₁⟩ :=
        run_accept_other (u := .flowMappingEnd) hgives (by simp)
      obtain ⟨b₂, hcomma, hgives₂, hnodes₂⟩ := run_require_self hfaces₁.gives
      have hnodes := hnodes₂.trans hnodes₁
      rw [run_bind_of_ok hend, if_neg Bool.false_ne_true, if_neg Bool.false_ne_true,
        run_bind_of_ok hcomma, ← hnodes]
      exact (hentry hgives₂).of_nodes_eq hnodes

/-- The node of a collection gets its content when that has been read; all other nodes stay. -/
theorem getElem?_filled {b' : Builder} {n : Node} (content : Content)
    (hkeeps : Keeps 0 (b.nodes.push n) b'.nodes) :
    (filled b' b.nodes.size content).nodes[b.nodes.size]? = some ⟨n.tag, content⟩ ∧
      Keeps 0 b.nodes (filled b' b.nodes.size content).nodes ∧
      Keeps (b.nodes.size + 1) b'.nodes (filled b' b.nodes.size content).nodes := by
  have hroot : b'.nodes[b.nodes.size]? = some n :=
    hkeeps _ _ (Nat.zero_le _) Array.getElem?_push_size
  refine ⟨?_, fun i x _ hx => ?_, fun i x hi hx => ?_⟩
  · rw [filled, Array.getElem?_modify, if_pos rfl, hroot]
    rfl
  · have hlt := (Array.getElem?_eq_some_iff.mp hx).1
    rw [filled, Array.getElem?_modify, if_neg (Nat.ne_of_gt hlt)]
    exact hkeeps i x (Nat.zero_le _) (keeps_push _ _ i x (Nat.zero_le _) hx)
  · rw [filled, Array.getElem?_modify, if_neg (by omega)]
    exact hx

/-- A word, a number or a text is read as a node of its own. -/
theorem scalar_reads {v : Json} {points : List ℕ} {plain block indentless : Bool} {n : ℕ}
    (hn : 0 < n) (hgives : b.scanner.Gives (.scalar points plain :: ts)) (hv : v.HasShortKeys)
    (hnode : ∀ nodes : Array Node,
      nodes[b.nodes.size]? = some ⟨scalarTag points plain none, .scalar points⟩ →
        IsNode nodes b.nodes.size v b.nodes.size) :
    Reads b ts v.HasShortKeys (fun nodes id => IsNode nodes b.nodes.size v id)
      ((node block indentless n).run b) := by
  obtain ⟨n, rfl⟩ : ∃ k, n = k + 1 := Nat.exists_eq_add_one.mpr hn
  obtain ⟨s, hpeek, hfaces⟩ := exists_faces hgives
  rw [run_node_of_peek hpeek hfaces, hfaces.run_node_scalar]
  exact .ok hv hfaces.2 (keeps_push _ _) (hnode _ Array.getElem?_push_size)

theorem hasShortKeys_array {items : List Json} :
    (array items).HasShortKeys ↔ ∀ v ∈ items, v.HasShortKeys :=
  all_array.trans (iff_of_eq (true_and _))

theorem hasShortKeys_object {entries : List (List CodePoint × Json)} :
    (object entries).HasShortKeys ↔
      ∀ e ∈ entries, (quoted e.1).length ≤ Scanner.keyLimit ∧ e.2.HasShortKeys :=
  all_object.trans forall₂_and.symm

/-- **A JSON text is read as the nodes of its value**, or refused if a key in it is too long. -/
theorem nodeReads (v : Json) : NodeReads v := by
  induction v using Json.induction with
  | array items ih =>
    intro b ts n block indentless hn hgives
    rw [tokens_array] at hn hgives
    obtain ⟨n, rfl⟩ : ∃ k, n = k + 1 := Nat.exists_eq_add_one.mpr (Nat.zero_lt_of_lt hn)
    obtain ⟨s, hpeek, hfaces⟩ := exists_faces hgives
    have hitems := flowItems_reads (b := opened { b with scanner := s } ⟨.seq, .sequence []⟩)
      ih (Nat.le_of_succ_le_succ hn) hfaces.2
    rw [run_node_of_peek hpeek hfaces, hfaces.run_node_sequence]
    generalize (flowItems true n).run (opened { b with scanner := s } ⟨.seq, .sequence []⟩) = r
      at hitems
    cases hitems with
    | refused h => exact .refused fun hv => h (hasShortKeys_array.mp hv)
    | @ok ids b' h hgives' hkeeps hids =>
      obtain ⟨hroot, hold, hnew⟩ := getElem?_filled (.sequence ids) hkeeps
      refine .ok (hasShortKeys_array.mpr h) hgives' hold ⟨le_rfl, ids, hroot, ?_⟩
      have hsize : (opened { b with scanner := s } ⟨.seq, .sequence []⟩).nodes.size =
        b.nodes.size + 1 := Array.size_push _
      rw [hsize] at hids
      exact hids.mono fun v _ _ h => h.mono (Nat.le_succ _) hnew
  | object entries ih =>
    intro b ts n block indentless hn hgives
    rw [tokens_object] at hn hgives
    obtain ⟨n, rfl⟩ : ∃ k, n = k + 1 := Nat.exists_eq_add_one.mpr (Nat.zero_lt_of_lt hn)
    obtain ⟨s, hpeek, hfaces⟩ := exists_faces hgives
    have hentries := flowEntries_reads (b := opened { b with scanner := s } ⟨.map, .mapping []⟩)
      ih (Nat.le_of_succ_le_succ hn) hfaces.2
    rw [run_node_of_peek hpeek hfaces, hfaces.run_node_mapping]
    generalize (flowEntries true n).run (opened { b with scanner := s } ⟨.map, .mapping []⟩) = r
      at hentries
    cases hentries with
    | refused h => exact .refused fun hv => h (hasShortKeys_object.mp hv)
    | @ok ids b' h hgives' hkeeps hids =>
      obtain ⟨hroot, hold, hnew⟩ := getElem?_filled (.mapping ids) hkeeps
      refine .ok (hasShortKeys_object.mpr h) hgives' hold ⟨le_rfl, ids, hroot, ?_⟩
      have hsize : (opened { b with scanner := s } ⟨.map, .mapping []⟩).nodes.size =
        b.nodes.size + 1 := Array.size_push _
      rw [hsize] at hids
      exact hids.mono (Nat.le_succ _) hnew fun e _ _ h => h.mono (Nat.le_succ _) hnew
  | _ =>
    intro b ts n block indentless hn hgives
    exact scalar_reads (Nat.zero_lt_of_lt hn) hgives trivial fun nodes h => ⟨le_rfl, h⟩

/-- After the value the text ends. -/
theorem run_finish (hgives : b.scanner.Gives [.streamEnd]) (n : ℕ) :
    ∃ b', (finish (n + 1)).run b = .ok ((), b') ∧ b'.nodes = b.nodes := by
  obtain ⟨b₁, hmark, hfaces, hnodes₁⟩ := run_accept_other (u := .documentEnd) hgives (by simp)
  obtain ⟨b₂, hend, -, hnodes₂⟩ := run_accept_self hfaces.gives
  have hends : (documentEnds (n + 1)).run b = .ok ((), b₁) := by
    rw [documentEnds, run_bind_of_ok hmark]
    rfl
  refine ⟨b₂, ?_, hnodes₂.trans hnodes₁⟩
  rw [finish, run_bind_of_ok hends, run_bind_of_ok hend]
  rfl

theorem document_reads (v : Json) {n : ℕ} (hn : v.tokens.length ≤ n)
    (hgives : b.scanner.Gives (v.tokens ++ [.streamEnd])) :
    (v.HasShortKeys ∧ ∃ b' id, (document n).run b = .ok (some id, b') ∧ IsNode b'.nodes 0 v id) ∨
      (¬ v.HasShortKeys ∧ (document n).run b = .error .malformed) := by
  obtain ⟨n, rfl⟩ : ∃ k, n = k + 1 :=
    Nat.exists_eq_add_one.mpr ((length_tokens_pos v).trans_le hn)
  obtain ⟨t, us, htokens, ht⟩ := exists_tokens_cons v
  have hgives' := hgives
  rw [htokens] at hgives'
  obtain ⟨s, hpeek, hfaces⟩ := exists_faces hgives'
  have hdirective : (isDirectiveOr [.documentStart, .streamEnd]).run b =
      .ok (false, { b with scanner := s }) := by
    rw [isDirectiveOr, run_bind_of_ok hpeek]
    cases t with
    | flowSequenceStart | flowMappingStart | scalar => rfl
    | _ => cases ht
  have hgives₁ : s.Gives (v.tokens ++ [.streamEnd]) := by
    rw [htokens]
    exact hfaces.gives
  have hreads := nodeReads v (b := { b with scanner := s, handles := standardHandles })
    true false hn hgives₁
  have hhandles : (modify fun b => { b with handles := standardHandles } : Build Unit).run
    { b with scanner := s } = .ok ((), { b with scanner := s, handles := standardHandles }) := rfl
  rw [document, run_bind_of_ok hdirective, if_neg Bool.false_ne_true, run_bind_of_ok hhandles]
  generalize hrun : (node true false (n + 1)).run
    { b with scanner := s, handles := standardHandles } = r at hreads
  cases hreads with
  | refused h => exact .inr ⟨h, run_bind_of_error hrun⟩
  | @ok id b' h hgives₂ hkeeps hnode =>
    obtain ⟨b'', hfinish, hnodes⟩ := run_finish hgives₂ n
    refine .inl ⟨h, b'', id, ?_, ?_⟩
    · rw [run_bind_of_ok hrun, run_bind_of_ok hfinish]
      rfl
    · rw [hnodes]
      exact hnode.mono (Nat.zero_le _) fun _ _ _ h => h

/-- The nodes of a JSON text are read, or the text is refused if a key in it is too long. -/
theorem readNodes_written (v : Json) :
    (v.HasShortKeys ∧ ∃ nodes id, readNodes ⟨v.written, none⟩ = .ok (nodes, some id) ∧
      IsNode nodes 0 v id) ∨
      (¬ v.HasShortKeys ∧ readNodes ⟨v.written, none⟩ = .error .malformed) := by
  have hstart : Cursor.start ⟨v.written, none⟩ = { rest := v.written } := by
    have hhead := Scanner.flat_head (fits_lexemes v)
    rw [flat_lexemes] at hhead
    cases hwritten : v.written with
    | nil => rfl
    | cons c cs =>
      have hc : c ≠ byteOrderMark :=
        ne_of_isPrintable (hhead c (by rw [hwritten]; rfl)).1 (by decide)
      rw [Cursor.start]
      exact if_neg hc
  have hlength : v.tokens.length ≤ stepBound v.written.length := by
    have := length_tokens_le v
    rw [stepBound]
    omega
  have hread : readNodes ⟨v.written, none⟩ = ((document (stepBound v.written.length)).run
      { scanner := { cursor := { rest := v.written } } } >>= fun r => .ok (r.2.nodes, r.1)) := by
    have hrequire := Scanner.require_eq (c := { rest := v.written }) rfl
    rw [readNodes, hstart]
    simp only [hrequire]
    rfl
  rw [hread]
  rcases document_reads v hlength
    (b := { scanner := { cursor := { rest := v.written } } }) (gives_tokens v) with
    ⟨h, b', id, hrun, hnode⟩ | ⟨h, hrun⟩
  · exact .inl ⟨h, b'.nodes, id, by rw [hrun]; rfl, hnode⟩
  · exact .inr ⟨h, by rw [hrun]; rfl⟩

end Json

end Conformance
