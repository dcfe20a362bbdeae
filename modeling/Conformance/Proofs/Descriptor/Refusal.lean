import Conformance.Descriptor.Value
import Conformance.Proofs.Store.Hashing

/-!
# What is no descriptor at all

A value that is no text never stands for a descriptor, but it is not always told so. Descriptors
that were read before are found by the value that is given, which is hashed first; a value that
cannot be hashed is of the wrong type, and nobody looks at what it is. One that can be is refused
with its written form, and if it has none, since an integer in it is too long to be written, this
is what it is refused for. Checking a value against a descriptor fails in the same way, whatever the
value is.

## Main definitions

* `Descriptor.Refusal` — how a value that is no text is refused.

## Main results

* `Descriptor.Refusal.unique` — there is one way to refuse a value.
* `Descriptor.refuses_nonText` — a value that is no text is refused by reading and by checking.
-/

namespace Conformance.Descriptor

variable {g : Store} {v : Value}

/-- How a value that is no text is refused in the place of a descriptor. -/
inductive Refusal (g : Store) (v : Value) : Failure → Prop
  | unhashable (h : ¬ g.Hashes v) : Refusal g v .wrongType
  | unwritten (h : g.Hashes v) (hrepr : g.repr? v = none) : Refusal g v .wrongValue
  | notText {text : String} (h : g.Hashes v) (hrepr : g.repr? v = some text) :
      Refusal g v (.schema (.descriptor (.str text) ⟨text, .notText⟩))

theorem Refusal.unique {e e' : Failure} (h : Refusal g v e) (h' : Refusal g v e') : e = e' := by
  cases h with
  | unhashable hno =>
    cases h' with
    | unhashable => rfl
    | unwritten h => exact absurd h hno
    | notText h => exact absurd h hno
  | unwritten hyes hrepr =>
    cases h' with
    | unhashable hno => exact absurd hyes hno
    | unwritten => rfl
    | notText _ htext => cases hrepr.symm.trans htext
  | notText hyes htext =>
    cases h' with
    | unhashable hno => exact absurd hyes hno
    | unwritten _ hrepr => cases hrepr.symm.trans htext
    | notText _ htext' =>
      cases htext.symm.trans htext'
      rfl

/-- A value that is no text is refused. -/
theorem exists_refusal (hv : v.str? = none) : ∃ e, Refusal g v e ∧ ofValue g v = .error e := by
  rw [ofValue]
  by_cases h : g.Hashes v
  · rw [if_pos (Store.isKey_iff_hashes.mpr h), hv]
    cases hrepr : g.repr? v with
    | none => exact ⟨_, .unwritten h hrepr, rfl⟩
    | some text => exact ⟨_, .notText h hrepr, rfl⟩
  · rw [if_neg (Store.isKey_iff_hashes.not.mpr h)]
    exact ⟨_, .unhashable h, rfl⟩

theorem message_notText (text : Text) : SyntaxFault.notText.message text =
    "Invalid descriptor '" ++ text ++ "': descriptor must be a string" := by
  have hend : "': descriptor must be a string" = "': " ++ "descriptor must be a string" := by cbv
  rw [hend, Text.ofString_append, Text.append_assoc]
  unfold SyntaxFault.message SyntaxFault.reason
  rw [Text.concat_cons, Text.concat_cons, Text.concat_cons, Text.concat_singleton]

/-- A refusal that is one of a descriptor shows the written form of the value. -/
theorem Refusal.message_eq {fault : SchemaFault} (h : Refusal g v (.schema fault)) :
    ∃ text, g.repr? v = some text ∧
      fault.message = "Invalid descriptor '" ++ text ++ "': descriptor must be a string" := by
  cases h with
  | notText _ hrepr => exact ⟨_, hrepr, message_notText _⟩

/-- **A value that is no text is refused in the place of a descriptor**, by reading it and by
checking any value against it alike. It is refused as no descriptor exactly if it can be hashed and
has a written form, and the message then shows this form and says that a descriptor must be a text.
One that cannot be hashed is of the wrong type, and one that can be but has no written form is
refused for this. -/
theorem refuses_nonText (g : Store) {v : Value} (hv : v.str? = none) :
    ∃ e, ofValue g v = .error e ∧ (∀ x, typeCheck g v x = .error e) ∧
      (∀ e', Refusal g v e' ↔ e' = e) ∧
      ∀ fault, e = .schema fault → ∃ text, g.repr? v = some text ∧
        fault.message = "Invalid descriptor '" ++ text ++ "': descriptor must be a string" := by
  obtain ⟨e, he, hvalue⟩ := exists_refusal (g := g) hv
  refine ⟨e, hvalue, fun x => ?_, fun e' => ⟨fun h => h.unique he, fun h => h ▸ he⟩, ?_⟩
  · rw [typeCheck, hvalue, Except.map]
  · rintro fault rfl
    exact he.message_eq

/-- A list, and a tuple that holds it. -/
def nestedListStore : Store where
  objects := #[.list [.int 1], .tuple [.null, .ref 0]]

theorem not_hashes_tuple_of_list : ¬ nestedListStore.Hashes (.ref 1) := by
  have hlist : ¬ nestedListStore.Hashes (.ref 0) := by
    intro h
    obtain ⟨parts, hparts, -⟩ :=
      (Store.HashesBy.iff_of_object (x := .list [.int 1]) rfl rfl).mp (Store.hashes_iff_hashesBy.mp h)
    cases hparts
  intro h
  obtain ⟨parts, hparts, hall⟩ := (Store.HashesBy.iff_of_object
    (x := .tuple [.null, .ref 0]) rfl rfl).mp (Store.hashes_iff_hashesBy.mp h)
  cases hparts
  exact hlist (hall (.ref 0) (List.mem_cons_of_mem _ (List.mem_singleton_self _)))

/-- A tuple that holds a list is of the wrong type, and what is missing is refused as no
descriptor. -/
theorem refuses_nonText_sample :
    (Value.ref 1).str? = none ∧ Value.null.str? = none ∧
      (∀ x, typeCheck nestedListStore (.ref 1) x = .error .wrongType) ∧
      ∃ fault, (∀ x, typeCheck nestedListStore .null x = .error (.schema fault)) ∧
        fault.message = "Invalid descriptor 'None': descriptor must be a string" := by
  obtain ⟨e, -, htuple, hiff, -⟩ := refuses_nonText nestedListStore (v := .ref 1) rfl
  obtain rfl := (hiff _).mp (.unhashable not_hashes_tuple_of_list)
  obtain ⟨e, -, hnull, hiff, -⟩ := refuses_nonText nestedListStore (v := .null) rfl
  have hrepr : nestedListStore.repr? .null = some "None" := by
    rw [Store.repr?, Store.reprFrom]
    rfl
  obtain rfl := (hiff _).mp (.notText (.atom nofun rfl) hrepr)
  exact ⟨rfl, rfl, htuple, _, hnull, message_notText "None"⟩

end Conformance.Descriptor
