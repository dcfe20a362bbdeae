import Conformance.Proofs.Store.ContentEquality
import Conformance.Proofs.Validation.Conformity
import Conformance.Proofs.Validation.Relating

/-!
# What a schema lets see

Of an element a check looks at what its schema lists, and in strict mode at the other keys, but
never at the values under them. What is left of an element without all this is its view, which is
given by recursion on the schema: a mapping at an object node is seen through its entries, and
everything else through its content, so it does not count in which objects an element is stored. Two
elements with the same view cannot be told apart by a check, whatever else is in them. The reports
are the same in all that they say, and where one check fails the other fails in the same way.

The key that a report is about is taken from the element itself. Two reports on elements that do not
share their keys are therefore said to be the same if these keys have the same content.

## Main definitions

* `Schema.view` — what a schema lets see of a value.
* `Violation.Same`, `Report.Same` — reports that are the same in every field.

## Main results

* `Walk.found_alike_of_view_eq` — what is found in a value depends on its view only.
* `Validator.check_same_of_view_eq` — a check depends on the view of the element only.
-/

namespace Conformance

/-- What can be seen of a value: its content, or the entries of a mapping, in order. Of an entry
that is not listed only the key can be seen. -/
inductive View
  | whole (c : Value.Content)
  | entries (es : List (Value.Content × Option View))

namespace Schema

mutual

/-- What a schema lets see of a value. Entries that a node does not list are seen by their keys in
strict mode, and not at all otherwise. -/
def view (g : Store) (strict : Bool) (value : Value) : Schema → View
  | .object _ children =>
    match g.entries? value with
    | none => .whole (g.content [] value)
    | some es =>
      .entries ((es.map fun e => (g.content [] e.1, viewChild g strict e.1 e.2 children)).filter
        fun e => strict || e.2.isSome)
  | .leaf _ _ | .marker _ => .whole (g.content [] value)

/-- What the child with the key of an entry lets see of its value, if there is such a child. -/
def viewChild (g : Store) (strict : Bool) (key value : Value) :
    List (Value × Schema) → Option View
  | [] => none
  | (k, child) :: children =>
    if g.same key k then some (view g strict value child)
    else viewChild g strict key value children

end

end Schema

/-- Two violations that are the same in every field. -/
structure Violation.Same (g : Store) (v w : Violation) : Prop where
  key : g.content [] v.key = g.content [] w.key
  other : { v with key := w.key } = w

/-- Two reports that are the same in every field. -/
structure Report.Same (g : Store) (r s : Report) : Prop where
  typeName : r.typeName = s.typeName
  violations : List.Forall₂ (Violation.Same g) r.violations s.violations

namespace Walk

open Schema Findings

variable {g : Store} {strict : Bool} {name : Value} {place : Text}
  {children : List (Value × Schema)} {es fs : Entries}

/-- Two findings that are the same in every field of each violation, or in the failure. -/
def Alike (g : Store) : Findings → Findings → Prop :=
  Related .same (List.Forall₂ (Violation.Same g))

namespace Alike

variable {v? w? : Option Violation}

theorem refl (r : Findings) : Alike g r r :=
  Related.refl (fun _ => List.forall₂_same.mpr fun _ _ => ⟨rfl, rfl⟩) (fun _ => rfl) r

theorem append {r r' s s' : Findings} (h : Alike g r s) (h' : Alike g r' s') :
    Alike g (r.append r') (s.append s') :=
  Related.append (isAdditive_forall₂ _) h h'

/-- The same is found if it is the same violation, or none that can be told. -/
theorem single (h : Option.Rel (Violation.Same g) v? w?) :
    Alike g (Findings.single v?) (Findings.single w?) := by
  cases h with
  | none => exact .error rfl
  | some h => exact .ok (.cons h .nil)

theorem singleUnless (b : Bool) (h : Option.Rel (Violation.Same g) v? w?) :
    Alike g (Findings.singleUnless b v?) (Findings.singleUnless b w?) := by
  cases b with
  | true => exact refl _
  | false => exact single h

end Alike

/-! ### Violations about the same content -/

section About

variable {key key' : Value} {path : Option Text}

theorem isTypeNameKey_eq_of_content_eq (h : g.content [] key = g.content [] key') :
    isTypeNameKey key = isTypeNameKey key' := by
  cases Store.content_eq_cases h with
  | container hr hs => rw [isTypeNameKey, isTypeNameKey, Value.str?, Value.str?, hr, hs]
  | _ => rfl

/-- Keys of the same contents are listed in the same way. -/
theorem keysText?_eq_of_forall₂ {keys keys' : List Value}
    (h : List.Forall₂ (fun k k' => g.content [] k = g.content [] k') keys keys') :
    keysText? g keys = keysText? g keys' := by
  have hshown : List.Forall₂ (fun k k' => g.str? k = g.str? k')
      (keys.filter (!isTypeNameKey ·)) (keys'.filter (!isTypeNameKey ·)) := by
    induction h with
    | nil => exact .nil
    | @cons k k' keys keys' hk _ ih =>
      have hname := isTypeNameKey_eq_of_content_eq hk
      cases htype : isTypeNameKey k with
      | true =>
        rw [List.filter_cons_of_neg (by simp [htype]),
          List.filter_cons_of_neg (by simp [← hname, htype])]
        exact ih
      | false =>
        rw [List.filter_cons_of_pos (by simp [htype]),
          List.filter_cons_of_pos (by simp [← hname, htype])]
        exact .cons (Store.str?_eq_of_content_eq hk) ih
  rw [keysText?, keysText?, mapM_eq_of_forall₂ hshown]

theorem join?_eq_of_content_eq (h : g.content [] key = g.content [] key') :
    join? g place key = join? g place key' := by
  rw [join?, join?, Store.str?_eq_of_content_eq h]

theorem unknownKey?_same (h : g.content [] key = g.content [] key') :
    Option.Rel (Violation.Same g) (unknownKey? g name place key)
      (unknownKey? g name place key') := by
  rw [unknownKey?, unknownKey?, Store.str?_eq_of_content_eq h]
  cases g.str? name with
  | none => exact .none
  | some shownName =>
    cases g.str? key' with
    | none => exact .none
    | some shownKey => exact .some ⟨h, rfl⟩

theorem invalidValue?_same (h : g.content [] key = g.content [] key') (kind : ViolationKind)
    (expected : Value) (actual : Text) :
    Option.Rel (Violation.Same g) (invalidValue? g kind name key path expected actual)
      (invalidValue? g kind name key' path expected actual) := by
  rw [invalidValue?, invalidValue?, Store.str?_eq_of_content_eq h]
  cases g.str? name with
  | none => exact .none
  | some shownName =>
    cases g.str? key' with
    | none => exact .none
    | some shownKey =>
      cases g.str? expected with
      | none => exact .none
      | some shownExpected =>
        cases path with
        | none => exact .none
        | some path => exact .some ⟨h, rfl⟩

variable {v w : Value}

theorem rejected?_same (h : g.content [] key = g.content [] key')
    (hvalue : g.content [] v = g.content [] w) (m : Marker) :
    Option.Rel (Violation.Same g) (rejected? g m name key path v)
      (rejected? g m name key' path w) := by
  rw [rejected?, rejected?, Store.str?_eq_of_content_eq hvalue]
  by_cases hpromise : m = .promise
  · rw [if_pos hpromise, if_pos hpromise]
    exact invalidValue?_same h _ _ ""
  · rw [if_neg hpromise, if_neg hpromise]
    cases g.str? w with
    | none => exact .none
    | some actual => exact invalidValue?_same h _ _ actual

theorem mistyped?_same (h : g.content [] key = g.content [] key')
    (hvalue : g.content [] v = g.content [] w) (source : Value) :
    Option.Rel (Violation.Same g) (mistyped? g source name key path v)
      (mistyped? g source name key' path w) := by
  rw [mistyped?, mistyped?, Store.str?_eq_of_content_eq hvalue]
  cases g.str? w with
  | none => exact .none
  | some actual => exact invalidValue?_same h _ _ actual

theorem invalidType?_eq_of_content_eq (h : g.content [] v = g.content [] w) :
    invalidType? g name place v = invalidType? g name place w := by
  rw [invalidType?, invalidType?, Store.str?_eq_of_content_eq h]

theorem lengthMismatch?_eq_of_forall₂ {keys actual actual' : List Value}
    (h : List.Forall₂ (fun k k' => g.content [] k = g.content [] k') actual actual') :
    lengthMismatch? g name place keys actual = lengthMismatch? g name place keys actual' := by
  rw [lengthMismatch?, lengthMismatch?, keysText?_eq_of_forall₂ h]

end About

/-! ### Entries that are seen alike -/

/-- The part of an entry that is seen. -/
def seen (g : Store) (strict : Bool) (children : List (Value × Schema)) (e : Value × Value) :
    Value.Content × Option View :=
  (g.content [] e.1, viewChild g strict e.1 e.2 children)

/-- Two entries of mappings of which the same is seen. -/
structure SeenAlike (g : Store) (strict : Bool) (children : List (Value × Schema))
    (e f : Value × Value) : Prop where
  left : g.isKey e.1 = true
  right : g.isKey f.1 = true
  key : g.content [] e.1 = g.content [] f.1
  value : viewChild g strict e.1 e.2 children = viewChild g strict f.1 f.2 children

/-- Nothing is found under a key that is not listed. -/
theorem foundChild_eq_ok_nil_of_viewChild_eq_none {key value : Value} {path : Option Text}
    (h : viewChild g strict key value children = none) :
    foundChild g strict name key path value children = .ok [] := by
  induction children with
  | nil => rw [foundChild]
  | cons first children ih =>
    obtain ⟨k, child⟩ := first
    rw [viewChild] at h
    by_cases hsame : g.same key k = true
    · rw [if_pos hsame] at h
      cases h
    · rw [if_neg hsame] at h
      rw [foundChild, if_neg hsame, ih h]

theorem forall₂_seenAlike {es' fs' : Entries} (hes : g.KeysApart (es.map Prod.fst))
    (hfs : g.KeysApart (fs.map Prod.fst)) (hsub : ∀ e ∈ es', e ∈ es) (hsub' : ∀ f ∈ fs', f ∈ fs)
    (h : es'.map (seen g strict children) = fs'.map (seen g strict children)) :
    List.Forall₂ (SeenAlike g strict children) es' fs' := by
  rw [← List.forall₂_eq_eq_eq, List.forall₂_map_left_iff, List.forall₂_map_right_iff] at h
  induction h with
  | nil => exact .nil
  | @cons e f es' fs' hef _ ih =>
    rw [List.forall_mem_cons] at hsub hsub'
    obtain ⟨hkey, hvalue⟩ := Prod.mk.injEq .. ▸ hef
    have hesKey := hes.isKey _ (List.mem_map_of_mem hsub.1)
    have hfsKey := hfs.isKey _ (List.mem_map_of_mem hsub'.1)
    exact .cons ⟨hesKey, hfsKey, hkey, hvalue⟩ (ih hsub.2 hsub'.2)

/-- The same is found at the entries of mappings of which the same is seen, if nothing is found at
the other ones and the same at the ones that are seen alike. -/
theorem gather_alike {r : Value × Value → Findings} (hes : g.KeysApart (es.map Prod.fst))
    (hfs : g.KeysApart (fs.map Prod.fst))
    (hunlisted : ∀ e, (seen g strict children e).2 = none → r e = .ok [])
    (hseen : ∀ e f, SeenAlike g strict children e f → Alike g (r e) (r f))
    (h : (es.map (seen g strict children)).filter (fun e => strict || e.2.isSome) =
      (fs.map (seen g strict children)).filter fun e => strict || e.2.isSome) :
    Alike g (gather r es) (gather r fs) := by
  let listed (e : Value × Value) : Bool := strict || (seen g strict children e).2.isSome
  have hdropped : ∀ e, listed e = false → r e = .ok [] := by
    intro e he
    refine hunlisted e (Option.not_isSome_iff_eq_none.mp ?_)
    simp only [listed, Bool.or_eq_false_iff] at he
    simp [he.2]
  rw [List.filter_map, List.filter_map] at h
  have hentries : List.Forall₂ (SeenAlike g strict children) (es.filter listed)
      (fs.filter listed) :=
    forall₂_seenAlike hes hfs (fun _ he => List.mem_of_mem_filter he)
      (fun _ hf => List.mem_of_mem_filter hf) h
  rw [← gather_filter hdropped es, ← gather_filter hdropped fs]
  exact Related.gather (isAdditive_forall₂ _) (hentries.imp hseen)

variable (hg : g.WellFormed)
include hg

/-- The keys of mappings with the same view in strict mode are compared with those of a node to the
same effect. -/
theorem parityFound_alike {keys : List Value} (hkeys : g.KeysApart keys)
    (h : List.Forall₂ (SeenAlike g strict children) es fs) :
    Alike g (parityFound g name place keys es) (parityFound g name place keys fs) := by
  have hlists : List.Forall₂ (fun k k' => g.content [] k = g.content [] k') (es.map Prod.fst)
      (fs.map Prod.fst) := by
    rw [List.forall₂_map_left_iff, List.forall₂_map_right_iff]
    exact h.imp fun _ _ hef => hef.key
  rw [parityFound, parityFound, h.length_eq, lengthMismatch?_eq_of_forall₂ hlists]
  refine (Alike.refl _).append (Related.gather (isAdditive_forall₂ _) (h.imp fun e f hef => ?_))
  have hknown : keys.any (g.same e.1) = keys.any (g.same f.1) := by
    rw [Bool.eq_iff_iff, List.any_eq_true, List.any_eq_true]
    refine exists_congr fun k => and_congr_right fun hk => ?_
    rw [Store.same_eq_of_content_eq hg hef.left hef.right (hkeys.isKey k hk) hef.key]
  rw [keyFound, keyFound, hknown]
  exact Alike.singleUnless _ (unknownKey?_same hef.key)

mutual

/-- **What is found in a value depends on its view only.** -/
theorem found_alike_of_view_eq {v w : Value} : ∀ {schema : Schema}, schema.WellFormed g →
    schema.view g strict v = schema.view g strict w →
      ∀ (name : Value) {key key' : Value} (place : Option Text),
        g.content [] key = g.content [] key' →
          Alike g (found g strict name key place v schema) (found g strict name key' place w schema)
  | .marker m, _, h, _, _, _, _, hkey => by
    rw [view, view, View.whole.injEq] at h
    rw [found, found, Marker.accepts_eq_of_content_eq hg h]
    cases m.accepts g w with
    | error e => exact Alike.refl _
    | ok b => exact Alike.singleUnless b (rejected?_same hkey h m)
  | .leaf source d, _, h, _, _, _, _, hkey => by
    rw [view, view, View.whole.injEq] at h
    rw [found, found, Store.matches_eq_of_content_eq h]
    exact Alike.singleUnless _ (mistyped?_same hkey h source)
  | .object nodeName children, hschema, h, name, _, _, place, hkey => by
    obtain ⟨hkeys, -, hchildren⟩ := hschema
    rw [view, view] at h
    cases place with
    | none =>
      simp only [found]
      exact Alike.refl _
    | some place =>
      simp only [found]
      cases hv : g.entries? v with
      | none =>
        cases hw : g.entries? w with
        | none =>
          simp only [hv, hw, View.whole.injEq] at h
          rw [invalidType?_eq_of_content_eq h]
          exact Alike.refl _
        | some fs => simp [hv, hw] at h
      | some es =>
        cases hw : g.entries? w with
        | none => simp [hv, hw] at h
        | some fs =>
          simp only [hv, hw, View.entries.injEq] at h
          have hes := hg.keysApart_of_entries? hv
          have hfs := hg.keysApart_of_entries? hw
          refine Alike.append ?_ (gather_alike hes hfs
            (fun e he => foundChild_eq_ok_nil_of_viewChild_eq_none he) (fun e f hef => ?_) h)
          · cases strict with
            | false => exact Alike.refl _
            | true =>
              simp only [Bool.true_or, List.filter_true] at h
              exact parityFound_alike hg hkeys
                (forall₂_seenAlike hes hfs (fun _ => id) (fun _ => id) h)
          · rw [join?_eq_of_content_eq hef.key]
            exact foundChild_alike_of_viewChild_eq hkeys hchildren hef nodeName _

theorem foundChild_alike_of_viewChild_eq {e f : Value × Value} :
    ∀ {children : List (Value × Schema)}, g.KeysApart (children.map Prod.fst) →
      (∀ k child, (k, child) ∈ children → child.WellFormed g) →
      SeenAlike g strict children e f → ∀ (name : Value) (place : Option Text),
        Alike g (foundChild g strict name e.1 place e.2 children)
          (foundChild g strict name f.1 place f.2 children)
  | [], _, _, _, _, _ => by
    rw [foundChild, foundChild]
    exact Alike.refl _
  | (k, child) :: children, hkeys, hchildren, h, name, place => by
    obtain ⟨hleft, hright, hkey, hvalue⟩ := h
    have hk : g.isKey k = true := hkeys.isKey k List.mem_cons_self
    have hsame := Store.same_eq_of_content_eq hg hleft hright hk hkey
    rw [viewChild, viewChild, hsame] at hvalue
    rw [foundChild, foundChild, hsame]
    split_ifs at hvalue ⊢ with hlisted
    · exact found_alike_of_view_eq (hchildren k child List.mem_cons_self)
        (Option.some.inj hvalue) name place hkey
    · exact foundChild_alike_of_viewChild_eq
        (hkeys.sublist (List.sublist_cons_self _ _))
        (fun k' child' hmem => hchildren k' child' (List.mem_cons_of_mem _ hmem))
        ⟨hleft, hright, hkey, hvalue⟩ name place

end

end Walk

namespace Validator

open Walk

variable {g : Store}

/-- **A check depends on the view of the element only.** Two elements that come to the same once all
entries that no object node lists are left out have reports that are the same in every field outside
strict mode, or there is no report of either for the same reason. In strict mode this holds of two
elements that differ in the values of such entries only. -/
theorem check_same_of_view_eq (hg : g.WellFormed) {schema : Value} {c c' : Cursors} {v : Validator}
    (hv : ofSchema g c schema = (.ok v, c')) {o : Options} (ho : g.truth o.fatal = false)
    {element other : Value}
    (h : v.schema.toSchema.view g (g.truth o.strict) element =
      v.schema.toSchema.view g (g.truth o.strict) other) (d : Cursors) :
    (∃ e, v.check g d element o = (.error e, d) ∧ v.check g d other o = (.error e, d)) ∨
      ∃ r s, v.check g d element o = (.ok r, d) ∧ v.check g d other o = (.ok s, d) ∧
        r.Same g s := by
  obtain ⟨hkind, hcompile⟩ := kind_and_schema_of_ofSchema hv
  have halike : Alike g
      (found g (g.truth o.strict) v.schema.name .null (some "") element v.schema.toSchema)
      (found g (g.truth o.strict) v.schema.name .null (some "") other v.schema.toSchema) :=
    found_alike_of_view_eq hg (Schema.wellFormed_of_compile hg hcompile) h v.schema.name
      (some "") rfl
  rw [check_eq_found hkind ho, check_eq_found hkind ho]
  generalize found g _ _ _ _ element _ = r at halike
  generalize found g _ _ _ _ other _ = s at halike
  cases halike with
  | ok h => exact .inr ⟨_, _, rfl, rfl, rfl, h⟩
  | @error e e' h =>
    obtain rfl : e = e' := h
    exact .inl ⟨e, rfl, rfl⟩
  | first h => exact h.elim
  | second _ h => exact h.elim

/-- A schema and three elements that share nothing, with a list of one text in the place of a
number. Two have a key that is not listed, with different values under it, and one has no such key; in a
nested object it is the same again. -/
def unlistedStore : Store where
  objects := #[
    .mapping .plain [(.str "__typeName", .str "T"), (.str "a", .str "Number"), (.str "b", .ref 1)],
    .mapping .plain [(.str "c", .str "String")],
    .mapping .plain [(.str "a", .ref 3), (.str "z", .int 1), (.str "b", .ref 4)],
    .list [.str "x"],
    .mapping .plain [(.str "c", .str "x"), (.str "y", .null)],
    .mapping .plain [(.str "a", .ref 6), (.str "z", .str "secret"), (.str "b", .ref 7)],
    .list [.str "x"],
    .mapping .plain [(.str "c", .str "x"), (.str "y", .ref 3)],
    .mapping .plain [(.str "a", .ref 9), (.str "b", .ref 10)],
    .list [.str "x"],
    .mapping .plain [(.str "c", .str "x")]]

/-- In strict mode the keys that are not listed are reported, whatever is under them, and outside
strict mode they are as good as missing. -/
theorem check_same_of_view_eq_unlisted :
    unlistedStore.WellFormed ∧
    (∃ r s, check unlistedStore [] ⟨.object, sampleSchema⟩ (.ref 2) {} = (.ok r, []) ∧
      check unlistedStore [] ⟨.object, sampleSchema⟩ (.ref 5) {} = (.ok s, []) ∧
      r.Same unlistedStore s ∧
      r.violations.map (·.path) = (["", "z", "a", "b", "b.y"] : List Text)) ∧
    ∃ r s, check unlistedStore [] ⟨.object, sampleSchema⟩ (.ref 2) { strict := .bool false } =
        (.ok r, []) ∧
      check unlistedStore [] ⟨.object, sampleSchema⟩ (.ref 8) { strict := .bool false } =
        (.ok s, []) ∧
      r.Same unlistedStore s ∧ r.violations.map (·.path) = (["a"] : List Text) := by
  have hg : unlistedStore.WellFormed := Store.wellFormed_of_hasTextKeys (by decide)
  have hv : ofSchema unlistedStore [] (.ref 0) = (.ok ⟨.object, sampleSchema⟩, []) := by cbv
  have hvalues : sampleSchema.toSchema.view unlistedStore true (.ref 2) =
      sampleSchema.toSchema.view unlistedStore true (.ref 5) := by cbv
  have hlisted : sampleSchema.toSchema.view unlistedStore false (.ref 2) =
      sampleSchema.toSchema.view unlistedStore false (.ref 8) := by cbv
  have hstrict : ((check unlistedStore [] ⟨.object, sampleSchema⟩ (.ref 2) {}).1.toOption.map
      fun r => r.violations.map (·.path)) =
      some (["", "z", "a", "b", "b.y"] : List Text) := by cbv
  have hloose : ((check unlistedStore [] ⟨.object, sampleSchema⟩ (.ref 2)
      { strict := .bool false }).1.toOption.map fun r => r.violations.map (·.path)) =
      some (["a"] : List Text) := by cbv
  refine ⟨hg, ?_, ?_⟩
  · obtain ⟨e, he, -⟩ | ⟨r, s, hr, hs, hsame⟩ :=
      check_same_of_view_eq hg hv (o := {}) rfl hvalues []
    · rw [he] at hstrict
      cases hstrict
    · rw [hr] at hstrict
      exact ⟨r, s, hr, hs, hsame, Option.some.inj hstrict⟩
  · obtain ⟨e, he, -⟩ | ⟨r, s, hr, hs, hsame⟩ :=
      check_same_of_view_eq hg hv (o := { strict := .bool false }) rfl hlisted []
    · rw [he] at hloose
      cases hloose
    · rw [hr] at hloose
      exact ⟨r, s, hr, hs, hsame, Option.some.inj hloose⟩

end Validator

end Conformance
