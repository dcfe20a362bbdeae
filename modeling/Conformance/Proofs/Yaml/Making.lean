import Conformance.Proofs.Document.Loader
import Conformance.Proofs.Yaml.Reading
import Conformance.Yaml.Document

/-!
# The data of a document

Making the value of a document adds objects to a store and does nothing else to it. What it adds
is data: an object that is made refers to others that are made, or is to be filled with such
references, and the keys of a mapping are scalars, since everything else that has a place in a
document can change. What is made does not depend on the objects that are there already, but for
how many they are: two runs that start from stores of one size take the same steps.

All this is shown for each step at once. The objects from a place on are those of the document;
a step is looked at beside the same step of another run whose state differs below that place
only, and it gives the same result there, or fails in the same way.

## Main definitions

* `Fault.OfMaking` — the faults of making values.
* `Maker.Tidy` — a state in which all objects from a place on are data of the document.
* `Maker.Alike` — two states that differ below a place only.
* `Make.Does` — what a step does at a state, beside a run that is alike.
* `LoadedAlike` — a document loaded into two stores, or the same fault.

## Main results

* `load_alike` — a document adds the same to all stores of one size.
* `load_adds` — what it adds to a store is data.
-/

namespace Conformance.Yaml

/-- A misuse that ends making a scalar that has no value: its text is none, or it stands for
itself. -/
def IsScalarMisuse (m : Misuse) : Prop :=
  m ∈ [.wrongType, .wrongValue, .noSuchKey, .noSuchIndex, .noSuchName, .overflow, .endless]

instance : DecidablePred IsScalarMisuse := fun _ => inferInstanceAs (Decidable (_ ∈ _))

/-- A fault that making values can end with. -/
inductive Fault.OfMaking : Fault → Prop
  | malformed : OfMaking .malformed
  | misuse {m : Misuse} (h : IsScalarMisuse m) : OfMaking (.misuse m)

/-! ### Scalars -/

namespace Scalar

theorem wrongValue_yields {α : Type} {Q : α → Prop} :
    Yields Fault.OfMaking Q (wrongValue : Except Fault α) := .error (.misuse (by decide))

theorem orWrong_yields {α : Type} (x : Option α) :
    Yields Fault.OfMaking (fun _ => True) (orWrong x) := by
  cases x with
  | none => exact wrongValue_yields
  | some x => exact .ok trivial

theorem signed_yields (cs : List Char) :
    Yields Fault.OfMaking (fun _ => True) (signed cs) :=
  .ite (.error (.misuse (by decide))) (.ok trivial)

theorem bool_yields (text : List Char) :
    Yields Fault.OfMaking (fun _ => True) (bool text) := by
  rw [bool]
  split
  · exact .ok trivial
  · exact .error (.misuse (by decide))

theorem mapM_yields {α β : Type} {F : Fault → Prop} {f : α → Except Fault β}
    (h : ∀ x, Yields F (fun _ => True) (f x)) (xs : List α) :
    Yields F (fun _ => True) (xs.mapM f) := by
  induction xs with
  | nil => exact .ok trivial
  | cons x xs ih =>
    rw [List.mapM_cons]
    exact (h x).bind fun _ _ => ih.bind fun _ _ => .ok trivial

theorem int_yields (text : List Char) :
    Yields Fault.OfMaking (fun _ => True) (int text) := by
  rw [int]
  refine (signed_yields _).bind fun p _ => ?_
  obtain ⟨negative, cs⟩ := p
  dsimp only
  split
  · exact .error (.misuse (by decide))
  · exact .ok trivial
  · exact (orWrong_yields _).bind fun _ _ => .ok trivial
  · exact (orWrong_yields _).bind fun _ _ => .ok trivial
  · exact (orWrong_yields _).bind fun _ _ => .ok trivial
  · exact (mapM_yields (fun _ => orWrong_yields _) _).bind fun _ _ => .ok trivial

theorem floatText_yields (text : List Char) :
    Yields Fault.OfMaking (fun _ => True) (floatText text) := signed_yields _

theorem weighted_yields (d : Binary64) (place : Nat) :
    Yields Fault.OfMaking (fun _ => True) (weighted d place) := by
  rw [weighted]
  split
  · exact .error (.misuse (by decide))
  · exact .ok trivial

theorem float_yields (text : List Char) :
    Yields Fault.OfMaking (fun _ => True) (float text) := by
  rw [float]
  refine (floatText_yields _).bind fun p _ => .ite (.ok trivial) (.ite (.ok trivial) ?_)
  refine (mapM_yields (fun _ => orWrong_yields _) _).bind fun fields _ => ?_
  split
  · exact .ok trivial
  · exact (mapM_yields (fun _ => weighted_yields ..) _).bind fun _ _ => .ok trivial

theorem decodeLetters_yields (place left pads : Nat) (bytes : List UInt8) (cs : List Char) :
    Yields Fault.OfMaking (fun _ => True) (decodeLetters place left pads bytes cs) := by
  induction cs generalizing place left pads bytes with
  | nil => exact .ite (.ok trivial) (.error .malformed)
  | cons c cs ih =>
    rw [decodeLetters]
    refine .ite (.ite (.ite (.ok trivial) (ih ..)) (ih ..)) ?_
    split
    · exact ih ..
    · dsimp only
      split <;> exact ih ..

theorem binary_yields (text : List Char) :
    Yields Fault.OfMaking (fun _ => True) (binary text) :=
  .ite (decodeLetters_yields ..) (.error .malformed)

theorem timestamp_yields (text : List Char) :
    Yields Fault.OfMaking Value.IsScalar (timestamp text) := by
  rw [timestamp]
  split
  · exact .error (.misuse (by decide))
  · dsimp only
    split
    · exact .ite (.ok trivial) wrongValue_yields
    · exact .ite (.ok trivial) wrongValue_yields

end Scalar

/-! ### States -/

namespace Maker

variable {n : Nat} {m k k' m' : Maker} {v : Value} {r : Ref}

/-- The place of an object that was made since there were a number of objects. -/
def IsNew (n : Nat) (m : Maker) (r : Ref) : Prop := n ≤ r ∧ r < m.store.objects.size

/-- The place of a new object that can still change. -/
def IsOpen (n : Nat) (m : Maker) (r : Ref) : Prop :=
  n ≤ r ∧ ∃ o, m.store.objects[r]? = some o ∧ o.isFrozen = false

/-- A value as nodes have: a scalar or a reference to a new object that can change. -/
def Makes (n : Nat) (m : Maker) (v : Value) : Prop :=
  v.IsScalar ∨ ∃ r, v = .ref r ∧ m.IsOpen n r

/-- Entries of data at new places. -/
def MakesEntries (n : Nat) (m : Maker) (es : Entries) : Prop :=
  ∀ e ∈ es, e.1.IsScalar ∧ e.2.IsData (m.IsNew n)

theorem IsOpen.isNew (h : m.IsOpen n r) : m.IsNew n r := by
  obtain ⟨hle, o, ho, -⟩ := h
  exact ⟨hle, (Array.getElem?_eq_some_iff.mp ho).1⟩

theorem Makes.isData (h : m.Makes n v) : v.IsData (m.IsNew n) := by
  rcases h with h | ⟨r, rfl, hr⟩
  · exact h.isData
  · exact hr.isNew

/-- Of the values that nodes have only scalars can be keys. -/
theorem Makes.isScalar_of_isKey (h : m.Makes n v) (hkey : m.store.isKey v = true) :
    v.IsScalar := by
  rcases h with h | ⟨r, rfl, -, o, ho, hopen⟩
  · exact h
  · have hfrozen := (Store.isHashable_of_isKey hkey).isFrozen rfl ho
    rw [hopen] at hfrozen
    cases hfrozen

/-- All objects from a place on are data of the document. -/
structure Tidy (n : Nat) (m : Maker) : Prop where
  le : n ≤ m.store.objects.size
  objects : ∀ r o, n ≤ r → m.store.objects[r]? = some o → o.IsData (m.IsNew n)
  made : ∀ id v, (id, v) ∈ m.made → m.Makes n v
  queue : ∀ id r, (id, r) ∈ m.queue → m.IsOpen n r

/-- A state has all objects of an earlier one, and those below a place are the same. -/
structure Grows (n : Nat) (m k : Maker) : Prop where
  size : m.store.objects.size ≤ k.store.objects.size
  old : ∀ r < n, k.store.objects[r]? = m.store.objects[r]?
  isOpen : ∀ r, m.IsOpen n r → k.IsOpen n r

namespace Grows

theorem refl (m : Maker) : m.Grows n m := ⟨Nat.le_refl _, fun _ _ => rfl, fun _ h => h⟩

theorem trans (h : m.Grows n k) (h' : k.Grows n k') : m.Grows n k' where
  size := Nat.le_trans h.size h'.size
  old r hr := (h'.old r hr).trans (h.old r hr)
  isOpen r hr := h'.isOpen r (h.isOpen r hr)

theorem isNew (h : m.Grows n k) (hr : m.IsNew n r) : k.IsNew n r :=
  ⟨hr.1, Nat.lt_of_lt_of_le hr.2 h.size⟩

theorem makes (h : m.Grows n k) (hv : m.Makes n v) : k.Makes n v :=
  hv.imp_right fun ⟨r, heq, hr⟩ => ⟨r, heq, h.isOpen r hr⟩

theorem makesEntries {es : Entries} (h : m.Grows n k) (hes : m.MakesEntries n es) :
    k.MakesEntries n es :=
  fun e he => ⟨(hes e he).1, (hes e he).2.mono fun _ => h.isNew⟩

end Grows

/-- Two states that differ in the objects below a place only. -/
structure Alike (n : Nat) (m m' : Maker) : Prop where
  nodes : m'.nodes = m.nodes
  made : m'.made = m.made
  queue : m'.queue = m.queue
  size : m'.store.objects.size = m.store.objects.size
  marks : m'.store.marks = m.store.marks
  new : ∀ r, n ≤ r → m'.store.objects[r]? = m.store.objects[r]?

theorem Alike.refl (m : Maker) : m.Alike n m := ⟨rfl, rfl, rfl, rfl, rfl, fun _ _ => rfl⟩

/-- The state after an object has been added. -/
def adding (m : Maker) (o : Object) : Maker := { m with store := (m.store.allocate o).2 }

theorem getElem?_adding (m : Maker) (o : Object) (r : Ref) :
    (m.adding o).store.objects[r]? =
      if r = m.store.objects.size then some o else m.store.objects[r]? :=
  Array.getElem?_push

theorem size_adding (m : Maker) (o : Object) :
    (m.adding o).store.objects.size = m.store.objects.size + 1 := Array.size_push ..

theorem grows_adding (hn : n ≤ m.store.objects.size) (o : Object) : m.Grows n (m.adding o) where
  size := by rw [size_adding]; exact Nat.le_succ _
  old r hr := by rw [getElem?_adding, if_neg (Nat.ne_of_lt (Nat.lt_of_lt_of_le hr hn))]
  isOpen r hr := by
    obtain ⟨hle, x, hx, hopen⟩ := hr
    have hlt := (Array.getElem?_eq_some_iff.mp hx).1
    exact ⟨hle, x, by rw [getElem?_adding, if_neg (Nat.ne_of_lt hlt), hx], hopen⟩

/-- Adding an object of data keeps a state tidy. -/
theorem Tidy.adding (hm : m.Tidy n) {o : Object} (ho : o.IsData (m.IsNew n)) :
    (m.adding o).Tidy n := by
  have hgrows := grows_adding hm.le o
  refine ⟨Nat.le_trans hm.le hgrows.size, fun r x hr hx => ?_,
    fun id v h => hgrows.makes (hm.made id v h), fun id r h => hgrows.isOpen r (hm.queue id r h)⟩
  have hx' : x.IsData (m.IsNew n) := by
    rw [getElem?_adding] at hx
    split at hx
    · cases hx
      exact ho
    · exact hm.objects r x hr hx
  exact hx'.mono fun _ => hgrows.isNew

theorem Alike.adding (h : m.Alike n m') (o : Object) : (m.adding o).Alike n (m'.adding o) where
  nodes := h.nodes
  made := h.made
  queue := h.queue
  size := by rw [size_adding, size_adding, h.size]
  marks := h.marks
  new r hr := by rw [getElem?_adding, getElem?_adding, h.size, h.new r hr]

/-- The state after an object has been put into the place of another one. -/
def putting (m : Maker) (r : Ref) (o : Object) : Maker := { m with store := m.store.replace r o }

theorem getElem?_putting (m : Maker) (r s : Ref) (o : Object) :
    (m.putting r o).store.objects[s]? =
      if s = r ∧ s < m.store.objects.size then some o else m.store.objects[s]? := by
  rw [putting, Store.replace, Array.getElem?_setIfInBounds]
  by_cases hr : r = s
  · subst hr
    by_cases hlt : r < m.store.objects.size
    · rw [if_pos rfl, if_pos hlt, if_pos ⟨rfl, hlt⟩]
    · rw [if_pos rfl, if_neg hlt, if_neg fun h => hlt h.2]
      exact (Array.getElem?_eq_none_iff.mpr (Nat.le_of_not_lt hlt)).symm
  · rw [if_neg hr, if_neg fun h => hr h.1.symm]

theorem size_putting (m : Maker) (r : Ref) (o : Object) :
    (m.putting r o).store.objects.size = m.store.objects.size := Array.size_setIfInBounds ..

theorem grows_putting (hr : m.IsOpen n r) {o : Object} (ho : o.isFrozen = false) :
    m.Grows n (m.putting r o) where
  size := Nat.le_of_eq (size_putting ..).symm
  old s hs := by
    rw [getElem?_putting, if_neg]
    rintro ⟨rfl, -⟩
    exact Nat.not_le_of_lt hs hr.1
  isOpen s hs := by
    obtain ⟨hle, x, hx, hopen⟩ := hs
    refine ⟨hle, ?_⟩
    rw [getElem?_putting]
    split
    · exact ⟨o, rfl, ho⟩
    · exact ⟨x, hx, hopen⟩

/-- Data that can change, in the place of such data, keeps a state tidy. -/
theorem Tidy.putting (hm : m.Tidy n) (hr : m.IsOpen n r) {o : Object}
    (ho : o.IsData (m.IsNew n)) (hopen : o.isFrozen = false) : (m.putting r o).Tidy n := by
  have hgrows := grows_putting hr hopen
  refine ⟨Nat.le_trans hm.le hgrows.size, fun s x hs hx => ?_,
    fun id v h => hgrows.makes (hm.made id v h), fun id s h => hgrows.isOpen s (hm.queue id s h)⟩
  have hx' : x.IsData (m.IsNew n) := by
    rw [getElem?_putting] at hx
    split at hx
    · cases hx
      exact ho
    · exact hm.objects s x hs hx
  exact hx'.mono fun _ => hgrows.isNew

theorem Alike.putting (h : m.Alike n m') (r : Ref) (o : Object) :
    (m.putting r o).Alike n (m'.putting r o) where
  nodes := h.nodes
  made := h.made
  queue := h.queue
  size := by rw [size_putting, size_putting, h.size]
  marks := h.marks
  new s hs := by rw [getElem?_putting, getElem?_putting, h.size, h.new s hs]

end Maker

/-! ### Steps -/

namespace Make

open Maker

variable {α β : Type} {n : Nat} {m k : Maker} {Q : α → Maker → Prop}

/-- The same result in both of two states that are alike, or the same fault. -/
inductive Outcome (n : Nat) (m : Maker) (Q : α → Maker → Prop) :
    Except Fault (α × Maker) → Except Fault (α × Maker) → Prop
  | ok {a : α} {k k' : Maker} (tidy : k.Tidy n) (alike : k.Alike n k') (grows : m.Grows n k)
      (h : Q a k) : Outcome n m Q (.ok (a, k)) (.ok (a, k'))
  | error {f : Fault} (h : f.OfMaking) : Outcome n m Q (.error f) (.error f)

theorem Outcome.bind {R : β → Maker → Prop} {x x' : Except Fault (α × Maker)}
    {f : α × Maker → Except Fault (β × Maker)} (h : Outcome n m Q x x')
    (hf : ∀ a k k', k.Tidy n → k.Alike n k' → m.Grows n k → Q a k →
      Outcome n k R (f (a, k)) (f (a, k'))) : Outcome n m R (x >>= f) (x' >>= f) := by
  cases h with
  | error h => exact .error h
  | @ok a k k' tidy alike grows h =>
    change Outcome n m R (f (a, k)) (f (a, k'))
    have hnext := hf a k k' tidy alike grows h
    generalize f (a, k) = y, f (a, k') = y' at hnext
    cases hnext with
    | error h => exact .error h
    | ok tidy alike grows' h => exact .ok tidy alike (grows.trans grows') h

/-- What a step does at a tidy state, and does alike at every state that is alike. -/
def Does (n : Nat) (w : Make α) (m : Maker) (Q : α → Maker → Prop) : Prop :=
  m.Tidy n → ∀ m', m.Alike n m' → Outcome n m Q (w.run m) (w.run m')

namespace Does

theorem pure {a : α} (h : Q a m) : Does n (pure a) m Q :=
  fun hm _ hm' => .ok hm hm' (.refl m) h

theorem failing {f : Fault} (h : f.OfMaking) : Does n (throw f) m Q := fun _ _ _ => .error h

theorem malformed : Does n malformed m Q := failing .malformed

theorem bind {R : β → Maker → Prop} {w : Make α} {f : α → Make β} (h : Does n w m Q)
    (hf : ∀ a k, m.Grows n k → Q a k → Does n (f a) k R) : Does n (w >>= f) m R :=
  fun hm m' hm' => (h hm m' hm').bind fun a k _ hk hk' hgrows ha => hf a k hgrows ha hk _ hk'

theorem mono {R : α → Maker → Prop} {w : Make α} (h : Does n w m Q)
    (hQR : ∀ a k, m.Grows n k → Q a k → R a k) : Does n w m R := by
  have hbind := h.bind (f := Pure.pure) fun a k hgrows ha => pure (hQR a k hgrows ha)
  rwa [bind_pure] at hbind

theorem ite {p : Prop} [Decidable p] {w w' : Make α} (h : Does n w m Q) (h' : Does n w' m Q) :
    Does n (if p then w else w') m Q := by
  split
  · exact h
  · exact h'

/-- A computation without a state. -/
theorem lift {x : Except Fault α} {T : α → Prop} (h : Yields Fault.OfMaking T x) :
    Does n (liftM x) m fun a _ => T a := by
  cases h with
  | ok h => exact pure h
  | error h => exact failing h

/-- A step that comes to the same as another one in all states that are alike. -/
theorem congr {w u : Make α} (hrun : ∀ m', m.Alike n m' → w.run m' = u.run m')
    (h : Does n u m Q) : Does n w m Q := by
  intro hm m' hm'
  rw [hrun m (.refl m), hrun m' hm']
  exact h hm m' hm'

/-- A step that looks at what is the same in all states that are alike. -/
theorem look {f : Maker → Make α} (hf : ∀ m', m.Alike n m' → f m' = f m)
    (h : Does n (f m) m Q) : Does n (get >>= f) m Q :=
  congr (u := f m) (fun m' hm' => by rw [← hf m' hm']; rfl) h

/-- A change of the state. -/
theorem change {f : Maker → α × Maker} (hsame : ∀ m', m.Alike n m' → (f m').1 = (f m).1)
    (htidy : m.Tidy n → (f m).2.Tidy n) (halike : ∀ m', m.Alike n m' → (f m).2.Alike n (f m').2)
    (hgrows : m.Grows n (f m).2) (h : Q (f m).1 (f m).2) : Does n (modifyGet f) m Q := by
  intro hm m' hm'
  have hrun : (modifyGet f : Make α).run m' = .ok ((f m).1, (f m').2) := by
    rw [← hsame m' hm']
    rfl
  rw [hrun]
  exact .ok (htidy hm) (halike m' hm') hgrows h

theorem mapM {T : β → Maker → Prop} (hT : ∀ b m k, m.Grows n k → T b m → T b k)
    {f : α → Make β} (hf : ∀ x m, Does n (f x) m T) (xs : List α) (m : Maker) :
    Does n (xs.mapM f) m fun bs k => ∀ b ∈ bs, T b k := by
  induction xs generalizing m with
  | nil => exact pure fun _ h => nomatch h
  | cons x xs ih =>
    rw [List.mapM_cons]
    refine (hf x m).bind fun b k _ hb => (ih k).bind fun bs k' hgrows hbs => pure ?_
    exact List.forall_mem_cons.mpr ⟨hT b k k' hgrows hb, hbs⟩

theorem foldlM {T : β → Maker → Prop} {f : β → α → Make β}
    (hf : ∀ b x m, T b m → Does n (f b x) m T) (xs : List α) {b : β} {m : Maker} (hb : T b m) :
    Does n (xs.foldlM f b) m T := by
  induction xs generalizing b m with
  | nil => exact pure hb
  | cons x xs ih =>
    rw [List.foldlM_cons]
    exact (hf b x m hb).bind fun b' k _ hb' => ih hb'

theorem forM {f : α → Make Unit} (hf : ∀ x m, Does n (f x) m fun _ _ => True) (xs : List α)
    (m : Maker) : Does n (xs.forM f) m fun _ _ => True := by
  induction xs generalizing m with
  | nil => exact pure trivial
  | cons x xs ih => exact (hf x m).bind fun _ k _ _ => ih k

/-! #### Nodes -/

/-- What changes the nodes changes nothing else. -/
theorem changeNodes (f : Array Node → Array Node) :
    Does n (modify fun m => { m with nodes := f m.nodes }) m fun _ _ => True :=
  change (fun _ _ => rfl) (fun hm => ⟨hm.le, hm.objects, hm.made, hm.queue⟩)
    (fun _ h => ⟨congrArg f h.nodes, h.made, h.queue, h.size, h.marks, h.new⟩)
    ⟨Nat.le_refl _, fun _ _ => rfl, fun _ h => h⟩ trivial

theorem node (id : NodeId) : Does n (node id) m fun _ _ => True := by
  refine look (fun m' h => by simp only [h.nodes]) ?_
  split
  · exact pure trivial
  · exact malformed

theorem entries (id : NodeId) : Does n (entries id) m fun _ _ => True := by
  refine (node id).bind fun x k _ _ => ?_
  split
  · exact pure trivial
  · exact malformed

theorem items (id : NodeId) : Does n (items id) m fun _ _ => True := by
  refine (node id).bind fun x k _ _ => ?_
  split
  · exact pure trivial
  · exact malformed

theorem setContent (id : NodeId) (content : Content) :
    Does n (setContent id content) m fun _ _ => True :=
  changeNodes fun nodes => nodes.modify id fun x => { x with content := content }

theorem merge (id : NodeId) (bound : Nat) (m : Maker) :
    Does n (merge id bound) m fun _ _ => True := by
  induction bound generalizing id m with
  | zero => exact failing (.misuse (by decide))
  | succ bound ih =>
    have hlast (merged : List (NodeId × NodeId)) (k : Maker) : Does n (do
        Make.merge id bound
        Make.setContent id (.mapping (merged ++ (← Make.entries id)))) k fun _ _ => True :=
      (ih id k).bind fun _ k _ _ => (entries id).bind fun es k _ _ => setContent _ _
    rw [Make.merge]
    refine (entries id).bind fun es k _ _ => look (fun m' h => by simp only [h.nodes]) ?_
    dsimp only
    split
    · exact pure trivial
    · refine (setContent _ _).bind fun _ k _ _ => (node _).bind fun x k _ _ => ?_
      split
      · exact (ih _ k).bind fun _ k _ _ => (entries _).bind fun merged k _ _ => hlast merged k
      · refine (mapM (T := fun _ _ => True) (fun _ _ _ _ h => h) (fun item k => ?_) _ k).bind
          fun parts k _ _ => (pure (Q := fun _ _ => True) trivial).bind fun merged k _ _ =>
            hlast merged k
        exact (entries item).bind fun _ k _ _ => (ih item k).bind fun _ k _ _ => entries item
      · exact malformed

theorem flatten (id : NodeId) : Does n (flatten id) m fun _ _ => True := by
  refine look (fun m' h => by simp only [h.nodes]) ?_
  refine (merge id _ m).bind fun _ k _ _ => (entries id).bind fun es k _ _ => ?_
  exact forM (fun x m => changeNodes fun nodes => nodes.modify x.1 fun y =>
    if y.tag = .value then { y with tag := .str } else y) es k

theorem scalarPoints (id : NodeId) (bound : Nat) (m : Maker) :
    Does n (scalarPoints id bound) m fun _ _ => True := by
  induction bound generalizing id m with
  | zero => exact failing (.misuse (by decide))
  | succ bound ih =>
    rw [Make.scalarPoints]
    refine (node id).bind fun x k _ _ => ?_
    split
    · exact pure trivial
    · exact malformed
    · refine look (fun m' h => by simp only [h.nodes]) ?_
      dsimp only
      split
      · exact ih _ _
      · exact malformed

/-! #### Values -/

theorem freshMark : Does n freshMark m fun _ _ => True := by
  refine change (fun m' h => congrArg (· + 1) h.marks)
    (fun hm => ⟨hm.le, hm.objects, hm.made, hm.queue⟩) (fun m' h => ?_)
    ⟨Nat.le_refl _, fun _ _ => rfl, fun _ h => h⟩ trivial
  exact ⟨h.nodes, h.made, h.queue, h.size, congrArg (· + 1) h.marks, h.new⟩

/-- A new object of data that can change is met again where it is to be filled. -/
theorem collection (id : NodeId) {o : Object} (ho : o.IsData fun _ => False)
    (hopen : o.isFrozen = false) :
    Does n (collection id o) m fun v k => k.Makes n v := by
  let f (m : Maker) : Maker :=
    { m.adding o with queue := m.queue ++ [(id, m.store.objects.size)] }
  have hf : Make.collection id o = modifyGet fun m => (.ref m.store.objects.size, f m) := rfl
  have hnew (hm : m.Tidy n) : (f m).IsOpen n m.store.objects.size :=
    ⟨hm.le, o, by rw [getElem?_adding, if_pos rfl], hopen⟩
  intro hm
  have hgrows : m.Grows n (f m) := by
    have hadding := grows_adding hm.le o
    exact ⟨hadding.size, hadding.old, hadding.isOpen⟩
  rw [hf]
  refine change (fun m' h => congrArg Value.ref h.size) (fun hm => ?_) (fun m' h => ?_) hgrows
    (.inr ⟨_, rfl, hnew hm⟩) hm
  · have htidy := hm.adding (ho.mono fun _ h => h.elim)
    refine ⟨htidy.le, htidy.objects, htidy.made, fun id' r h => ?_⟩
    rcases List.mem_append.mp h with h | h
    · exact htidy.queue id' r h
    · cases List.mem_singleton.mp h
      exact hnew hm
  · have halike := h.adding o
    exact ⟨halike.nodes, halike.made, by simp only [f, h.queue, h.size], halike.size,
      halike.marks, halike.new⟩

theorem fresh (id : NodeId) : Does n (fresh id) m fun v k => k.Makes n v := by
  have hpoints (m : Maker) : Does n (do Make.scalarPoints id ((← get).nodes.size + 1)) m
      fun _ _ => True :=
    look (fun m' h => by simp only [h.nodes]) (scalarPoints id _ m)
  have htext (m : Maker) : Does n (do
      return (← do Make.scalarPoints id ((← get).nodes.size + 1)).map Text.shownChar) m
      fun _ _ => True := (hpoints m).bind fun _ k _ _ => pure trivial
  refine (node id).bind fun x k _ _ => ?_
  dsimp only
  split
  · exact (htext k).bind fun _ k _ _ => pure (.inl trivial)
  · exact (htext k).bind fun text k _ _ => (lift (Scalar.bool_yields _)).bind fun _ k _ _ =>
      pure (.inl trivial)
  · exact (htext k).bind fun text k _ _ => (lift (Scalar.int_yields _)).bind fun _ k _ _ =>
      pure (.inl trivial)
  · refine (htext k).bind fun text k _ _ => (lift (Scalar.float_yields _)).bind fun y k _ _ => ?_
    exact .ite (pure (.inl trivial)) (freshMark.bind fun _ k _ _ => pure (.inl trivial))
  · exact (htext k).bind fun text k _ _ => (lift (Scalar.binary_yields _)).bind fun _ k _ _ =>
      pure (.inl trivial)
  · refine (htext k).bind fun text k _ _ => ?_
    split
    · exact (lift (Scalar.timestamp_yields _)).mono fun _ _ _ h => .inl h
    · exact failing (.misuse (by decide))
  · exact (hpoints k).bind fun _ k _ _ => pure (.inl (Value.isScalar_ofPoints _))
  · exact collection id (fun _ h => nomatch h) rfl
  · exact collection id (fun _ h => nomatch h) rfl
  · exact collection id (fun _ h => nomatch h) rfl
  · exact collection id (fun _ h => nomatch h) rfl
  · exact collection id (fun _ h => nomatch h) rfl
  · exact malformed
  · exact malformed
  · exact malformed

theorem value (id : NodeId) : Does n (value id) m fun v k => k.Makes n v := by
  intro hm
  refine look (fun m' h => by simp only [h.made]) ?_ hm
  split
  · next v hv =>
    obtain ⟨before, after, hmade, -⟩ := List.lookup_eq_some_iff.mp hv
    exact pure (hm.made id v (hmade ▸ List.mem_append_cons_self))
  · refine (fresh id).bind fun v k _ hv => ?_
    have hmade : Does n (modify fun m => { m with made := (id, v) :: m.made }) k
        fun _ k => k.Makes n v := by
      refine change (fun _ _ => rfl) (fun hk => ⟨hk.le, hk.objects, ?_, hk.queue⟩)
        (fun m' h => ⟨h.nodes, congrArg ((id, v) :: ·) h.made, h.queue, h.size, h.marks, h.new⟩)
        ⟨Nat.le_refl _, fun _ _ => rfl, fun _ h => h⟩ hv
      intro id' w hw
      rcases List.mem_cons.mp hw with heq | hw
      · cases heq
        exact hv
      · exact hk.made id' w hw
    exact hmade.bind fun _ k _ hv => pure hv

/-- Whether a value of a node can be a key is seen alike. -/
theorem isKey_eq {m' : Maker} (h : m.Alike n m') {v : Value} (hv : m.Makes n v) :
    m'.store.isKey v = m.store.isKey v := by
  rcases hv with hv | ⟨r, rfl, hle, o, ho, hopen⟩
  · rw [Store.isKey_of_isScalar _ hv, Store.isKey_of_isScalar _ hv]
  · have hkey (g : Store) (hg : g.objects[r]? = some o) : g.isKey (.ref r) = false := by
      rw [Bool.eq_false_iff]
      intro hkey
      have hfrozen := (Store.isHashable_of_isKey hkey).isFrozen rfl hg
      rw [hopen] at hfrozen
      cases hfrozen
    rw [hkey _ ho, hkey _ ((h.new r hle).trans ho)]

theorem mappingEntries (id : NodeId) :
    Does n (mappingEntries id) m fun es k => k.MakesEntries n es := by
  refine (flatten id).bind fun _ k _ _ => (entries id).bind fun es k _ _ => ?_
  refine foldlM (T := fun acc k => k.MakesEntries n acc) (fun acc e k hacc => ?_) es
    (fun _ h => nomatch h)
  refine (value e.1).bind fun key k₁ h₁ hkey hk₁ => ?_
  refine look (fun k' h => by simp only [isKey_eq h hkey]) ?_ hk₁
  by_cases hisKey : k₁.store.isKey key = true
  · have hscalar := hkey.isScalar_of_isKey hisKey
    rw [if_pos hisKey]
    refine (value e.2).bind fun x k₂ h₂ hx => ?_
    refine look (fun k' h => ?_) (pure ?_)
    · rw [Store.insert_eq_of_isScalar k₂.store k'.store hscalar]
    · exact Store.isData_insert hscalar hx.isData (h₂.makesEntries (h₁.makesEntries hacc))
  · rw [if_neg hisKey]
    exact (malformed (Q := fun _ _ => False)).bind fun _ _ _ h => h.elim

theorem pair (id : NodeId) : Does n (pair id) m fun v k => v.IsData (k.IsNew n) := by
  refine (entries id).bind fun es k _ _ => ?_
  split
  · refine (value _).bind fun key k₁ _ hkey => (value _).bind fun x k₂ h₂ hx hk₂ => ?_
    have hdata : (Object.tuple [key, x]).IsData (k₂.IsNew n) :=
      List.forall_mem_cons.mpr ⟨(h₂.makes hkey).isData,
        List.forall_mem_cons.mpr ⟨hx.isData, fun _ h => nomatch h⟩⟩
    refine change (f := fun k => (Value.ref k.store.objects.size, k.adding (.tuple [key, x])))
      (fun k' h => congrArg Value.ref h.size) (fun hk => hk.adding hdata) (fun k' h => h.adding _)
      (grows_adding hk₂.le _) ?_ hk₂
    exact ⟨hk₂.le, by rw [size_adding]; exact Nat.lt_succ_self _⟩
  · exact malformed

theorem put {r : Ref} (hr : m.IsOpen n r) {o : Object} (ho : o.IsData (m.IsNew n))
    (hopen : o.isFrozen = false) : Does n (fill.put r o) m fun _ _ => True :=
  change (f := fun m => ((), m.putting r o)) (fun _ _ => rfl) (fun hm => hm.putting hr ho hopen)
    (fun _ h => h.putting r o) (grows_putting hr hopen) trivial

/-- Filling a collection leaves all new objects data. -/
theorem fill (id : NodeId) {r : Ref} (hr : m.IsOpen n r) :
    Does n (fill id r) m fun _ _ => True := by
  have hpairs (k : Maker) (xs : List NodeId) (hk : k.IsOpen n r) :
      Does n (do fill.put r (.list (← xs.mapM Make.pair))) k fun _ _ => True :=
    (mapM (T := fun (v : Value) k => v.IsData (k.IsNew n))
      (fun v m k h hv => hv.mono fun _ => h.isNew) (fun id m => pair id) xs k).bind
      fun vs k h hvs => put (h.isOpen r hk) hvs rfl
  refine (node id).bind fun x k h _ => ?_
  have hk := h.isOpen r hr
  dsimp only
  split
  · exact (items id).bind fun xs k h _ => hpairs k xs (h.isOpen r hk)
  · exact (items id).bind fun xs k h _ => hpairs k xs (h.isOpen r hk)
  · exact (mappingEntries id).bind fun es k h hes => put (h.isOpen r hk) hes rfl
  · refine (mappingEntries id).bind fun es k h hes => put (h.isOpen r hk) ?_ rfl
    intro key hkey
    obtain ⟨e, he, rfl⟩ := List.mem_map.mp hkey
    exact (hes e he).1
  · refine (items id).bind fun xs k h _ => ?_
    refine (mapM (T := fun (v : Value) k => k.Makes n v) (fun v m k h hv => h.makes hv)
      (fun id m => value id) xs k).bind fun vs k' h' hvs => put (h'.isOpen r (h.isOpen r hk)) ?_ rfl
    exact fun v hv => (hvs v hv).isData

/-- Taking the first collection that is to be filled changes nothing else. -/
theorem dequeue {p : NodeId × Ref} {queue : List (NodeId × Ref)} (hqueue : m.queue = p :: queue) :
    Does n (modify fun m => { m with queue := queue }) m fun _ k => k.IsOpen n p.2 := by
  intro hm
  refine change (fun _ _ => rfl) (fun hm => ⟨hm.le, hm.objects, hm.made, fun id r h => ?_⟩)
    (fun m' h => ⟨h.nodes, h.made, rfl, h.size, h.marks, h.new⟩)
    ⟨Nat.le_refl _, fun _ _ => rfl, fun _ h => h⟩ ?_ hm
  · exact hm.queue id r (hqueue ▸ List.mem_cons_of_mem _ h)
  · exact hm.queue p.1 p.2 (hqueue ▸ List.mem_cons_self)

theorem fillAll (bound : Nat) (m : Maker) : Does n (fillAll bound) m fun _ _ => True := by
  induction bound generalizing m with
  | zero => exact pure trivial
  | succ bound ih =>
    rw [Make.fillAll]
    match hqueue : m.queue with
    | [] =>
      refine congr (u := Pure.pure ()) (fun m' h => ?_) (pure trivial)
      simp only [StateT.run_bind, StateT.run_get, pure_bind, h.queue, hqueue]
    | (id, r) :: queue =>
      refine congr (u := do
        modify fun m => { m with queue := queue }
        Make.fill id r
        Make.fillAll bound) (fun m' h => ?_) ?_
      · simp only [StateT.run_bind, StateT.run_get, pure_bind, h.queue, hqueue]
        rfl
      · exact (dequeue hqueue).bind fun _ k _ hk => (fill id hk).bind fun _ k _ _ => ih k

theorem root (id : NodeId) : Does n (root id) m fun v k => k.Makes n v := by
  refine (value id).bind fun v k _ hv => look (fun m' h => by simp only [h.nodes]) ?_
  exact (fillAll _ k).bind fun _ k' h _ => pure (h.makes hv)

end Does

end Make

/-! ### Documents -/

/-- A fault that loading a document can end with; the argument says with what its source ends. -/
inductive Fault.OfLoading (beyond : Option Fault) : Fault → Prop
  | reading {f : Fault} (h : f.OfReading beyond) : OfLoading beyond f
  | making {f : Fault} (h : f.OfMaking) : OfLoading beyond f

/-- The same value loaded into two stores, with the same objects at new places, or the same
fault. -/
inductive LoadedAlike (beyond : Option Fault) (g g' : Store) :
    Except Fault (Value × Store) → Except Fault (Value × Store) → Prop
  | ok {v : Value} {h h' : Store} (adds : g.Adds v h) (adds' : g'.Adds v h')
      (size : h'.objects.size = h.objects.size) (marks : h'.marks = h.marks)
      (new : ∀ r, g.objects.size ≤ r → h'.objects[r]? = h.objects[r]?) :
      LoadedAlike beyond g g' (.ok (v, h)) (.ok (v, h'))
  | error {f : Fault} (h : f.OfLoading beyond) : LoadedAlike beyond g g' (.error f) (.error f)

/-- The state in which making values begins. -/
abbrev Maker.start (nodes : Array Node) (g : Store) : Maker := { nodes := nodes, store := g }

theorem Maker.tidy_start (nodes : Array Node) (g : Store) :
    (Maker.start nodes g).Tidy g.objects.size where
  le := Nat.le_refl _
  objects _ _ hr ho := absurd hr (Nat.not_le_of_lt (Array.getElem?_eq_some_iff.mp ho).1)
  made _ _ h := nomatch h
  queue _ _ h := nomatch h

theorem Maker.adds {nodes : Array Node} {g : Store} {k : Maker} {v : Value}
    (htidy : k.Tidy g.objects.size) (h : (Maker.start nodes g).Grows g.objects.size k)
    (hv : k.Makes g.objects.size v) : g.Adds v k.store where
  size := h.size
  old := h.old
  new := htidy.objects
  value := hv.isData

/-- Stores of one size end at the same place. -/
theorem getElem?_eq_of_size_le {g g' : Store} (hsize : g'.objects.size = g.objects.size) {r : Ref}
    (hr : g.objects.size ≤ r) : g'.objects[r]? = g.objects[r]? := by
  rw [Array.getElem?_eq_none hr, Array.getElem?_eq_none (hsize ▸ hr)]

/-- Making the value of a document takes the same steps in two stores of one size. -/
theorem Make.root_alike {g g' : Store} (hsize : g'.objects.size = g.objects.size)
    (hmarks : g'.marks = g.marks) (nodes : Array Node) (id : NodeId) (beyond : Option Fault) :
    LoadedAlike beyond g g'
      (do let (v, m) ← (Make.root id).run (.start nodes g); .ok (v, m.store))
      (do let (v, m) ← (Make.root id).run (.start nodes g'); .ok (v, m.store)) := by
  have halike : (Maker.start nodes g).Alike g.objects.size (.start nodes g') :=
    ⟨rfl, rfl, rfl, hsize, hmarks, fun _ hr => getElem?_eq_of_size_le hsize hr⟩
  have hdoes := Does.root id (Maker.tidy_start nodes g) _ halike
  have hdoes' := Does.root id (Maker.tidy_start nodes g') _ (.refl _)
  generalize (Make.root id).run (.start nodes g) = x, (Make.root id).run (.start nodes g') = x'
    at hdoes hdoes'
  cases hdoes with
  | error h => exact .error (.making h)
  | ok tidy alike grows hv =>
    cases hdoes' with
    | ok tidy' _ grows' hv' =>
      exact .ok (Maker.adds tidy grows hv) (Maker.adds tidy' grows' hv') alike.size alike.marks
        alike.new

/-- Two stores of one size get the same document. -/
theorem load_alike {g g' : Store} (hsize : g'.objects.size = g.objects.size)
    (hmarks : g'.marks = g.marks) (s : Source) :
    LoadedAlike s.beyond g g' (load g s) (load g' s) := by
  have hread := readNodes_yields s
  rw [load, load]
  generalize readNodes s = x at hread
  cases hread with
  | error h => exact .error (.reading h)
  | @ok p _ =>
    obtain ⟨nodes, _ | id⟩ := p
    · exact .ok (.refl g trivial) (.refl g' trivial) hsize hmarks
        fun _ hr => getElem?_eq_of_size_le hsize hr
    · exact Make.root_alike hsize hmarks nodes id s.beyond

/-- Loading a document adds data to a store. -/
theorem load_adds (g : Store) (s : Source) :
    Yields (Fault.OfLoading s.beyond) (fun p => g.Adds p.1 p.2) (load g s) := by
  have halike := load_alike (g := g) rfl rfl s
  generalize load g s = x at halike
  cases halike with
  | ok adds => exact .ok adds
  | error h => exact .error h

end Conformance.Yaml
