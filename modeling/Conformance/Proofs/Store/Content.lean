import Conformance.Descriptor.Matching
import Conformance.Proofs.Store.WellFormed
import Conformance.Store.Text
import Mathlib.Data.List.Forall2

/-!
# What a value comes to

Two values can be the same without being one object: two lists with the same items, or two mappings
that were read from two files. What a value comes to is its content, the tree that is met by going
from containers to what they hold, in order. A container inside itself is met again as this very
object, so a value that contains itself has the content of another one only if both lead to the same
cycle. Nor do containers of two kinds, or of two classes, have the same content.

An object that is no container comes to nothing but itself. Equality has it so for the instances of
other classes, and what can be written about such an object may depend on what it holds and where it
is met, so this belongs to its content too.

Values of the same content match the same descriptors and have the same texts.

## Main definitions

* `Value.Content`, `Store.content` — what a value comes to.
* `Object.Corresponds` — containers of a kind that hold values side by side.

## Main results

* `Store.content_eq_cases` — the ways in which two values have the same content.
* `Store.eval_eq_of_content_eq` — they match the same descriptors.
* `Store.str?_eq_of_content_eq` — they have the same texts.
-/

namespace Conformance

/-- The kinds of containers. -/
inductive ContainerKind
  | list
  | tuple
  | set (frozen : Bool)
  | mapping (kind : MappingKind)

/-- What a value comes to. -/
inductive Value.Content
  /-- A value that refers to no object, or to one of those around it. -/
  | plain (v : Value)
  /-- A container with the classes derived from its own, its kind and the contents of what it holds:
  of a mapping these are keys and values by turns. -/
  | container (names : List String) (kind : ContainerKind) (parts : List Value.Content)
  /-- An object that is no container, with the contents of what it holds. -/
  | single (v : Value) (parts : List Value.Content)

/-! ### What objects hold -/

/-- The values in a marker. -/
def Marker.held : Marker → List Value
  | equal values => values
  | promise => []
  | unknown kind => [kind]

mutual

/-- The values in a schema. -/
def Schema.held : Schema → List Value
  | .object name children => name :: Schema.childrenHeld children
  | .leaf source _ => [source]
  | .marker m => m.held

/-- The values in the children of a schema. -/
def Schema.childrenHeld : List (Value × Schema) → List Value
  | [] => []
  | (key, child) :: children => key :: (child.held ++ Schema.childrenHeld children)

end

namespace Object

/-- The kind of an object that is a container. -/
def containerKind? : Object → Option ContainerKind
  | list _ => some .list
  | tuple _ => some .tuple
  | set frozen _ => some (.set frozen)
  | mapping kind _ => some (.mapping kind)
  | _ => none

/-- The values in an object, in order. -/
def held : Object → List Value
  | list xs | tuple xs | set _ xs => xs
  | mapping _ es => es.flatMap fun e => [e.1, e.2]
  | marker m => m.held
  | schema s => s.held
  | options o => [o.strict, o.fatal]
  | violation v => [v.typeName, v.key, v.expected, v.actualValue]
  | report typeName violations => [typeName, violations]
  | _ => []

/-- Two containers of a kind that hold related values, side by side. -/
inductive Corresponds (R : Value → Value → Prop) : Object → Object → Prop
  | list {xs ys : List Value} (h : List.Forall₂ R xs ys) : Corresponds R (.list xs) (.list ys)
  | tuple {xs ys : List Value} (h : List.Forall₂ R xs ys) : Corresponds R (.tuple xs) (.tuple ys)
  | set (frozen : Bool) {xs ys : List Value} (h : List.Forall₂ R xs ys) :
      Corresponds R (.set frozen xs) (.set frozen ys)
  | mapping (kind : MappingKind) {es fs : Entries}
      (h : List.Forall₂ (fun e f => R e.1 f.1 ∧ R e.2 f.2) es fs) :
      Corresponds R (.mapping kind es) (.mapping kind fs)

end Object

namespace Store

/-- What a value comes to inside the objects passed so far. -/
def content (g : Store) (passed : List Ref) (v : Value) : Value.Content :=
  match v.base with
  | .ref r =>
    match _hr : g.objects[r]? with
    | none => .plain v
    | some x =>
      if _hp : r ∈ passed then .plain v
      else
        let parts := x.held.map fun w => g.content (r :: passed) w
        match x.containerKind? with
        | some kind => .container v.derivedNames kind parts
        | none => .single v parts
  | _ => .plain v
termination_by g.unvisited passed
decreasing_by exact unvisited_cons_lt (Array.getElem?_eq_some_iff.1 _hr).1 _hp

variable {g : Store} {p q : List Ref} {v w : Value} {r : Ref} {x : Object}

/-! ### The same content -/

theorem content_of_object (hr : v.base = .ref r) (hx : g.objects[r]? = some x) (hp : r ∉ p) :
    g.content p v = match x.containerKind? with
      | some kind => .container v.derivedNames kind (x.held.map (g.content (r :: p)))
      | none => .single v (x.held.map (g.content (r :: p))) := by
  rw [content]
  simp only [hr]
  split
  · next h => cases hx.symm.trans h
  · next h =>
    cases hx.symm.trans h
    rw [dif_neg hp]

theorem content_of_passed (h : ∀ r x, v.base = .ref r → g.objects[r]? = some x → r ∈ p) :
    g.content p v = .plain v := by
  rw [content]
  split
  · next hr =>
    split
    · rfl
    · next hx => rw [dif_pos (h _ _ hr hx)]
  · rfl

/-- The ways in which two values have the same content. -/
inductive ContentEq (g : Store) (p q : List Ref) : Value → Value → Prop
  | plain {v : Value} (hp : ∀ r x, v.base = .ref r → g.objects[r]? = some x → r ∈ p ∧ r ∈ q) :
      ContentEq g p q v v
  | single {v : Value} {r : Ref} {x : Object} (hr : v.base = .ref r)
      (hx : g.objects[r]? = some x) (hp : r ∉ p) (hq : r ∉ q)
      (h : ∀ a ∈ x.held, g.content (r :: p) a = g.content (r :: q) a) : ContentEq g p q v v
  | container {v w : Value} {r s : Ref} {x y : Object} (hr : v.base = .ref r) (hs : w.base = .ref s)
      (hx : g.objects[r]? = some x) (hy : g.objects[s]? = some y) (hp : r ∉ p) (hq : s ∉ q)
      (hnames : v.derivedNames = w.derivedNames)
      (h : x.Corresponds (fun a b => g.content (r :: p) a = g.content (s :: q) b) y) :
      ContentEq g p q v w

/-- A value is met as it is, or it is an object that is not passed yet. -/
theorem content_cases (g : Store) (p : List Ref) (v : Value) :
    ((∀ r x, v.base = .ref r → g.objects[r]? = some x → r ∈ p) ∧ g.content p v = .plain v) ∨
      ∃ r x, v.base = .ref r ∧ g.objects[r]? = some x ∧ r ∉ p := by
  by_cases h : ∀ r x, v.base = .ref r → g.objects[r]? = some x → r ∈ p
  · exact .inl ⟨h, content_of_passed h⟩
  · push Not at h
    exact .inr h

/-- Mappings that hold related values have related keys and related values under them. -/
theorem forall₂_entries_of_held {R : Value → Value → Prop} {es fs : Entries}
    (h : List.Forall₂ R (es.flatMap fun e => [e.1, e.2]) (fs.flatMap fun f => [f.1, f.2])) :
    List.Forall₂ (fun e f => R e.1 f.1 ∧ R e.2 f.2) es fs := by
  induction es generalizing fs with
  | nil =>
    cases fs with
    | nil => exact .nil
    | cons f fs => cases h
  | cons e es ih =>
    cases fs with
    | nil => cases h
    | cons f fs =>
      obtain ⟨hkey, hvalue, hrest⟩ : R e.1 f.1 ∧ R e.2 f.2 ∧ List.Forall₂ R _ _ := by
        simpa only [List.flatMap_cons, List.cons_append, List.nil_append, List.forall₂_cons] using h
      exact .cons ⟨hkey, hvalue⟩ (ih hrest)

/-- Containers of a kind with the same parts hold values side by side. -/
theorem corresponds_of_map_eq {y : Object} {kind : ContainerKind} {f f' : Value → Value.Content}
    (hx : x.containerKind? = some kind) (hy : y.containerKind? = some kind)
    (h : x.held.map f = y.held.map f') : x.Corresponds (fun a b => f a = f' b) y := by
  rw [← List.forall₂_eq_eq_eq, List.forall₂_map_left_iff, List.forall₂_map_right_iff] at h
  cases x <;> cases hx <;> cases y <;> cases hy
  · exact .list h
  · exact .tuple h
  · exact .set _ h
  · exact .mapping _ (forall₂_entries_of_held h)

/-- **The same content** is had by one value that is met in the same way, or by two containers of a
kind that hold values of the same content. -/
theorem content_eq_cases (h : g.content p v = g.content q w) : g.ContentEq p q v w := by
  obtain ⟨hv, hcontent⟩ | ⟨r, x, hr, hx, hp⟩ := g.content_cases p v
  · obtain ⟨hw, hcontent'⟩ | ⟨s, y, hs, hy, hq⟩ := g.content_cases q w
    · rw [hcontent, hcontent', Value.Content.plain.injEq] at h
      subst h
      exact .plain fun r x hr hx => ⟨hv r x hr hx, hw r x hr hx⟩
    · rw [hcontent, content_of_object hs hy hq] at h
      split at h <;> cases h
  · obtain ⟨hw, hcontent'⟩ | ⟨s, y, hs, hy, hq⟩ := g.content_cases q w
    · rw [hcontent', content_of_object hr hx hp] at h
      split at h <;> cases h
    · rw [content_of_object hr hx hp, content_of_object hs hy hq] at h
      cases hkind : x.containerKind? with
      | none =>
        cases hkind' : y.containerKind? with
        | none =>
          simp only [hkind, hkind', Value.Content.single.injEq] at h
          obtain ⟨rfl, h⟩ := h
          cases hr.symm.trans hs
          cases hx.symm.trans hy
          exact .single hr hx hp hq (List.map_inj_left.mp h)
        | some kind => simp [hkind, hkind'] at h
      | some kind =>
        cases hkind' : y.containerKind? with
        | none => simp [hkind, hkind'] at h
        | some kind' =>
          simp only [hkind, hkind', Value.Content.container.injEq] at h
          obtain ⟨hnames, rfl, h⟩ := h
          exact .container hr hs hx hy hp hq hnames (corresponds_of_map_eq hkind hkind' h)

/-! ### Matching -/

section Matching

variable {y : Object} {s : Ref} {R : Value → Value → Prop}

theorem object?_of_base (hr : v.base = .ref r) (hx : g.objects[r]? = some x) :
    g.object? v = some (r, x) :=
  object?_eq_some_iff.mpr ⟨Value.ref?_of_base hr, hx⟩

/-- The classes of a value are the derived ones around it and those of what it derives from. -/
theorem classes_eq_append (g : Store) (v : Value) :
    g.classes v = v.derivedNames ++ g.classes v.base := by
  induction v with
  | derived cls v ih => rw [classes, ih, Value.derivedNames, Value.base, List.cons_append]
  | _ => rfl

/-- Containers of a kind are of the same classes. -/
theorem objectClasses_eq_of_corresponds (h : x.Corresponds R y) :
    objectClasses x = objectClasses y := by
  cases h with
  | set frozen => cases frozen <;> rfl
  | mapping kind => cases kind <;> rfl
  | _ => rfl

theorem classes_eq_of_corresponds (hr : v.base = .ref r) (hs : w.base = .ref s)
    (hx : g.objects[r]? = some x) (hy : g.objects[s]? = some y)
    (hnames : v.derivedNames = w.derivedNames) (h : x.Corresponds R y) :
    g.classes v = g.classes w := by
  rw [classes_eq_append g v, classes_eq_append g w, hnames, hr, hs, classes, classes, hx, hy,
    Option.map_some, Option.map_some, objectClasses_eq_of_corresponds h]

/-- The items of lists and tuples correspond. -/
theorem items?_of_corresponds (hr : v.base = .ref r) (hs : w.base = .ref s)
    (hx : g.objects[r]? = some x) (hy : g.objects[s]? = some y) (h : x.Corresponds R y) :
    (g.items? v = none ∧ g.items? w = none) ∨
      ∃ xs ys, g.items? v = some xs ∧ g.items? w = some ys ∧ List.Forall₂ R xs ys := by
  rw [items?, items?, object?_of_base hr hx, object?_of_base hs hy]
  cases h with
  | list h => exact .inr ⟨_, _, rfl, rfl, h⟩
  | tuple h => exact .inr ⟨_, _, rfl, rfl, h⟩
  | _ => exact .inl ⟨rfl, rfl⟩

/-- The entries of mappings correspond. -/
theorem entries?_of_corresponds (hr : v.base = .ref r) (hs : w.base = .ref s)
    (hx : g.objects[r]? = some x) (hy : g.objects[s]? = some y) (h : x.Corresponds R y) :
    (g.entries? v = none ∧ g.entries? w = none) ∨ ∃ es fs, g.entries? v = some es ∧
      g.entries? w = some fs ∧ List.Forall₂ (fun e f => R e.1 f.1 ∧ R e.2 f.2) es fs := by
  rw [entries?, entries?, mapping?, mapping?, object?_of_base hr hx, object?_of_base hs hy]
  cases h with
  | mapping kind h => exact .inr ⟨_, _, rfl, rfl, h⟩
  | _ => exact .inl ⟨rfl, rfl⟩

theorem isCallable_eq_of_corresponds (hr : v.base = .ref r) (hs : w.base = .ref s)
    (hx : g.objects[r]? = some x) (hy : g.objects[s]? = some y) (h : x.Corresponds R y) :
    g.isCallable v = g.isCallable w := by
  rw [isCallable, isCallable, object?_of_base hr hx, object?_of_base hs hy, hr, hs]
  cases h <;> rfl

end Matching

theorem nameAccepts_eq_of_content_eq (h : g.content p v = g.content q w) (name : String) :
    Pattern.nameAccepts g name v = Pattern.nameAccepts g name w := by
  cases content_eq_cases h with
  | plain => rfl
  | single => rfl
  | container hr hs hx hy hp hq hnames h =>
    rw [Pattern.nameAccepts, Pattern.nameAccepts, classes_eq_of_corresponds hr hs hx hy hnames h]
    cases BuiltinType.ofName? name with
    | none => rfl
    | some t =>
      have hitems := items?_of_corresponds hr hs hx hy h
      have hentries := entries?_of_corresponds hr hs hx hy h
      have hnull {u : Value} {r : Ref} (hu : u.base = .ref r) : (u == .null) = false := by
        rw [beq_eq_false_iff_ne]
        rintro rfl
        cases hu
      cases t with
      | array =>
        obtain ⟨hv, hw⟩ | ⟨xs, ys, hv, hw, -⟩ := hitems <;> simp [BuiltinType.accepts, hv, hw]
      | object =>
        rw [entries?, entries?, Option.map_eq_none_iff, Option.map_eq_none_iff] at hentries
        obtain ⟨hv, hw⟩ | ⟨es, fs, hv, hw, -⟩ := hentries
        · simp [BuiltinType.accepts, isMapping, hv, hw]
        · obtain ⟨_, hv, -⟩ := Option.map_eq_some_iff.mp hv
          obtain ⟨_, hw, -⟩ := Option.map_eq_some_iff.mp hw
          simp [BuiltinType.accepts, isMapping, hv, hw]
      | function => exact isCallable_eq_of_corresponds hr hs hx hy h
      | _ => simp [BuiltinType.accepts, BuiltinType.isNumber, Value.str?, Value.bool?, hr, hs,
          hnull hr, hnull hs]

mutual

/-- **Values of the same content match the same trees.** -/
theorem eval_eq_of_content_eq {α : Type} : ∀ (d : Pattern α) {p q : List Ref} {v w : Value},
    g.content p v = g.content q w → d.eval g v = d.eval g w
  | .named name, _, _, v, w, h => by
    rw [Pattern.eval, Pattern.eval, nameAccepts_eq_of_content_eq h]
  | .union options, _, _, v, w, h => by
    rw [Pattern.eval, Pattern.eval, evalAny_eq_of_content_eq options h]
  | .arrayOf item, p, q, v, w, h => by
    cases content_eq_cases h with
    | plain => rfl
    | single => rfl
    | container hr hs hx hy hp hq hnames h =>
      rw [Pattern.eval, Pattern.eval]
      obtain ⟨hv, hw⟩ | ⟨xs, ys, hv, hw, hitems⟩ := items?_of_corresponds hr hs hx hy h
      · rw [hv, hw]
      · rw [hv, hw]
        dsimp only
        clear hv hw
        induction hitems with
        | nil => rfl
        | cons hitem _ ih => rw [List.allM, List.allM, eval_eq_of_content_eq item hitem, ih]
  | .maybe inner, p, q, v, w, h => by
    have hnull : v = .null ↔ w = .null := by
      cases content_eq_cases h with
      | plain => rfl
      | single => rfl
      | container hr hs => constructor <;> rintro rfl <;> contradiction
    rw [Pattern.eval, Pattern.eval, eval_eq_of_content_eq inner h]
    simp only [hnull]
  | .foreign x, _, _, v, w, h => by rw [Pattern.eval, Pattern.eval]

theorem evalAny_eq_of_content_eq {α : Type} : ∀ (ds : List (Pattern α)) {p q : List Ref}
    {v w : Value}, g.content p v = g.content q w →
      Pattern.evalAny g ds v = Pattern.evalAny g ds w
  | [], _, _, v, w, h => by rw [Pattern.evalAny, Pattern.evalAny]
  | d :: ds, p, q, v, w, h => by
    rw [Pattern.evalAny, Pattern.evalAny, eval_eq_of_content_eq d h, evalAny_eq_of_content_eq ds h]

end

theorem matches_eq_of_content_eq (h : g.content p v = g.content q w) (d : Descriptor) :
    d.matches g v = d.matches g w := by
  rw [Descriptor.matches, Descriptor.matches]
  simp only [eval_eq_of_content_eq d h]

end Store

/-! ### Texts -/

section Texts

variable {f k : Value → Option String}

theorem mapM_eq_of_forall₂ {α β : Type} {f k : α → Option β} {xs ys : List α}
    (h : List.Forall₂ (fun x y => f x = k y) xs ys) : xs.mapM f = ys.mapM k := by
  induction h with
  | nil => rfl
  | cons hxy _ ih => rw [List.mapM_cons, List.mapM_cons, hxy, ih]

theorem mapM_eq_of_forall_mem {α β : Type} {f k : α → Option β} {xs : List α}
    (h : ∀ x ∈ xs, f x = k x) : xs.mapM f = xs.mapM k :=
  mapM_eq_of_forall₂ (List.forall₂_same.mpr h)

theorem Marker.reprWith_congr {m : Marker} (h : ∀ a ∈ m.held, f a = k a) :
    m.reprWith f = m.reprWith k := by
  cases m with
  | equal values =>
    have hvalues : values.mapM f = values.mapM k := mapM_eq_of_forall_mem h
    rw [reprWith, reprWith, hvalues]
  | promise => rfl
  | unknown kind => rw [reprWith, reprWith, h kind List.mem_cons_self]

mutual

theorem Schema.reprWith_congr : ∀ {s : Schema}, (∀ a ∈ s.held, f a = k a) →
    s.reprWith f = s.reprWith k
  | .object name children, h => by
    rw [Schema.held, List.forall_mem_cons] at h
    rw [Schema.reprWith, Schema.reprWith, h.1, childTexts_congr h.2]
  | .leaf source d, h => by
    rw [Schema.held, List.forall_mem_singleton] at h
    rw [Schema.reprWith, Schema.reprWith, h]
  | .marker m, h => by
    rw [Schema.held] at h
    rw [Schema.reprWith, Schema.reprWith, Marker.reprWith_congr h]

theorem childTexts_congr : ∀ {children : List (Value × Schema)},
    (∀ a ∈ Schema.childrenHeld children, f a = k a) → childTexts f children = childTexts k children
  | [], _ => by rw [childTexts, childTexts]
  | (key, child) :: children, h => by
    rw [Schema.childrenHeld, List.forall_mem_cons, List.forall_mem_append] at h
    rw [childTexts, childTexts, h.1, Schema.reprWith_congr h.2.1, childTexts_congr h.2.2]

end

theorem entriesText_eq_of_forall₂ {es fs : Entries}
    (h : List.Forall₂ (fun e e' => f e.1 = k e'.1 ∧ f e.2 = k e'.2) es fs) :
    entriesText f es = entriesText k fs := by
  rw [entriesText, entriesText, mapM_eq_of_forall₂ (k := fun e => do
    return s!"{← k e.1}: {← k e.2}")]
  exact h.imp fun e e' he => by simp only [he.1, he.2]

namespace Object

variable {x y : Object} {v w : Value} {R : Value → Value → Prop}

/-- Containers that hold values of the same written forms have the same written form. -/
theorem reprWith_eq_of_corresponds (h : x.Corresponds R y) (hf : ∀ a b, R a b → f a = k b)
    (hnames : v.derivedNames = w.derivedNames) : x.reprWith f v = y.reprWith k w := by
  cases h with
  | list h => rw [reprWith, reprWith, mapM_eq_of_forall₂ (h.imp hf)]
  | tuple h => rw [reprWith, reprWith, mapM_eq_of_forall₂ (h.imp hf)]
  | @set frozen xs ys h =>
    have hempty : xs.isEmpty = ys.isEmpty := by cases h <;> rfl
    rw [reprWith, reprWith, mapM_eq_of_forall₂ (h.imp hf), hempty, Value.nameOr, Value.nameOr,
      hnames]
  | @mapping kind es fs h =>
    have htexts : List.Forall₂ (fun e e' => f e.1 = k e'.1 ∧ f e.2 = k e'.2) es fs :=
      h.imp fun e e' he => ⟨hf _ _ he.1, hf _ _ he.2⟩
    cases kind with
    | plain => exact entriesText_eq_of_forall₂ htexts
    | wrapper => exact entriesText_eq_of_forall₂ htexts
    | readOnly => rw [reprWith, reprWith, entriesText_eq_of_forall₂ htexts]
    | ordered =>
      have hempty : es.isEmpty = fs.isEmpty := by cases h <;> rfl
      rw [reprWith, reprWith, hempty, Value.nameOr, Value.nameOr, hnames,
        mapM_eq_of_forall₂ (k := fun e => do return tupleText [← k e.1, ← k e.2])]
      exact htexts.imp fun e e' he => by simp only [he.1, he.2]

/-- The written form of an object depends on those of the values that it holds only. -/
theorem reprWith_congr (h : ∀ a ∈ x.held, f a = k a) : x.reprWith f v = x.reprWith k v := by
  have hcontainer (y : Object) (hy : x.Corresponds (fun a b => f a = k b) y) :
      x.reprWith f v = y.reprWith k v := reprWith_eq_of_corresponds hy (fun _ _ => id) rfl
  cases x with
  | list xs => exact hcontainer _ (.list (List.forall₂_same.mpr fun a ha => h a ha))
  | tuple xs => exact hcontainer _ (.tuple (List.forall₂_same.mpr fun a ha => h a ha))
  | set frozen xs => exact hcontainer _ (.set _ (List.forall₂_same.mpr fun a ha => h a ha))
  | mapping kind es =>
    refine hcontainer _ (.mapping _ (List.forall₂_same.mpr fun e he => ?_))
    have hmem (a : Value) (ha : a ∈ [e.1, e.2]) : f a = k a :=
      h a (List.mem_flatMap.mpr ⟨e, he, ha⟩)
    exact ⟨hmem _ (by simp), hmem _ (by simp)⟩
  | marker m => exact Marker.reprWith_congr h
  | schema s => exact Schema.reprWith_congr h
  | options o =>
    rw [reprWith, reprWith, Options.reprWith, Options.reprWith, h o.strict (by simp [held]),
      h o.fatal (by simp [held])]
  | violation u =>
    rw [reprWith, reprWith, Violation.reprWith, Violation.reprWith, h u.typeName (by simp [held]),
      h u.key (by simp [held]), h u.expected (by simp [held]),
      h u.actualValue (by simp [held])]
  | report typeName violations =>
    rw [reprWith, reprWith, h typeName (by simp [held]), h violations (by simp [held])]
  | _ => rfl

end Object

end Texts

namespace Store

variable {g : Store} {p q : List Ref} {v w : Value} {r : Ref} {x : Object}

theorem reprFrom_of_object (hr : v.base = .ref r) (hx : g.objects[r]? = some x) (hp : r ∉ p) :
    g.reprFrom p v = x.reprWith (g.reprFrom (r :: p)) v := by
  rw [reprFrom]
  simp only [hr]
  split
  · next h => cases hx.symm.trans h
  · next h =>
    cases hx.symm.trans h
    rw [dif_neg hp]

theorem reprFrom_of_passed (hr : v.base = .ref r) (hx : g.objects[r]? = some x) (hp : r ∈ p) :
    g.reprFrom p v = some (x.cycleText v) := by
  rw [reprFrom]
  simp only [hr]
  split
  · next h => cases hx.symm.trans h
  · next h =>
    cases hx.symm.trans h
    rw [dif_pos hp]

theorem reprFrom_of_atom (h : ∀ r x, v.base = .ref r → g.objects[r]? ≠ some x) :
    g.reprFrom p v = v.atomRepr? := by
  rw [reprFrom]
  split
  · next r hr =>
    rw [Value.atomRepr?, hr]
    split
    · rfl
    · next hx => exact absurd hx (h r _ hr)
  · rfl

/-- **Values of the same content have the same written form.** -/
theorem reprFrom_eq_of_content_eq (h : g.content p v = g.content q w) :
    g.reprFrom p v = g.reprFrom q w := by
  induction hn : g.unvisited p using Nat.strongRecOn generalizing p q v w with
  | _ n ih =>
  have inside {r s : Ref} {a b : Value} {x : Object} (hx : g.objects[r]? = some x) (hp : r ∉ p)
      (hab : g.content (r :: p) a = g.content (s :: q) b) :
      g.reprFrom (r :: p) a = g.reprFrom (s :: q) b :=
    ih _ (hn ▸ unvisited_cons_lt (Array.getElem?_eq_some_iff.mp hx).1 hp) hab rfl
  cases content_eq_cases h with
  | plain hpassed =>
    by_cases hobject : ∃ r x, v.base = .ref r ∧ g.objects[r]? = some x
    · obtain ⟨r, x, hr, hx⟩ := hobject
      obtain ⟨hp, hq⟩ := hpassed r x hr hx
      rw [reprFrom_of_passed hr hx hp, reprFrom_of_passed hr hx hq]
    · push Not at hobject
      rw [reprFrom_of_atom hobject, reprFrom_of_atom hobject]
  | single hr hx hp hq hheld =>
    rw [reprFrom_of_object hr hx hp, reprFrom_of_object hr hx hq]
    exact Object.reprWith_congr fun a ha => inside hx hp (hheld a ha)
  | container hr hs hx hy hp hq hnames hheld =>
    rw [reprFrom_of_object hr hx hp, reprFrom_of_object hs hy hq]
    exact Object.reprWith_eq_of_corresponds hheld (fun a b hab => inside hx hp hab) hnames

/-- **Values of the same content have the same text.** -/
theorem str?_eq_of_content_eq (h : g.content [] v = g.content [] w) : g.str? v = g.str? w := by
  have hrepr : g.repr? v = g.repr? w := reprFrom_eq_of_content_eq h
  cases content_eq_cases h with
  | plain => rfl
  | single => rfl
  | container hr hs hx hy hp hq hnames hheld =>
    rw [str?, str?, hr, hs]
    simp only [hx, hy, hrepr]
    cases hheld with
    | @mapping kind es fs hentries =>
      cases kind with
      | readOnly =>
        refine congrArg (Option.map Text.ofString)
          (entriesText_eq_of_forall₂ (hentries.imp fun e f he => ?_))
        exact ⟨reprFrom_eq_of_content_eq he.1, reprFrom_eq_of_content_eq he.2⟩
      | _ => rfl
    | _ => rfl

end Store

end Conformance
