import Mathlib.Data.List.Forall2
import Conformance.Store.Equality

/-!
# What a comparison of keys looks at

Two atoms are the same key exactly if they have the same canonical form: a number has its exact
value, a moment its instant, a range the integers it stands for. Objects that can be keys are
compared by their form and, part by part, by the values in them; only sets are compared without
regard to order. A comparison can fail on the way, and what is characterized here is when it
ends and says that the two are equal.

## Main definitions

* `Value.atom?` — the canonical form of an atom.
* `Object.form?` — the form of an object and the values in it that are compared.
* `Object.Alike` — when two objects are equal, given when the values in them are.

## Main results

* `Value.sameAtom_iff`, `Value.sameNumber_eq_ok_true_iff` — equality of atoms is equality of
  canonical forms.
* `Object.sameBy_eq_ok_true_iff` — the comparison of objects that can be keys.
-/

namespace Conformance

/-! ### Comparisons that hold -/

/-- Two answers, the second asked for only if the first is yes, are yes if both are. -/
theorem Comparison.ite_eq_ok_true_iff {c d : Comparison} :
    (do if ← c then d else pure false) = (.ok true : Comparison) ↔ c = .ok true ∧ d = .ok true := by
  cases c with
  | error e => simp [bind, Except.bind]
  | ok b => cases b <;> simp [bind, Except.bind, pure, Except.pure]

/-- Asking about items from the left ends with yes exactly if the answer is yes for each. -/
theorem Comparison.allM_eq_ok_true_iff {α : Type} {p : α → Comparison} {xs : List α} :
    xs.allM p = (.ok true : Comparison) ↔ ∀ x ∈ xs, p x = .ok true := by
  induction xs with
  | nil => simp [List.allM, pure, Except.pure]
  | cons x xs ih =>
    have hstep : (x :: xs).allM p = (do if ← p x then xs.allM p else pure false) := by
      rw [List.allM]
      congr 1
      funext b
      cases b <;> rfl
    rw [hstep, Comparison.ite_eq_ok_true_iff, ih, List.forall_mem_cons]

/-- Two tuples agree exactly if they are of one length and agree item by item. -/
theorem tuplesAgree_eq_ok_true_iff {α : Type} {same : α → α → Comparison} {xs ys : List α} :
    tuplesAgree same xs ys = .ok true ↔ List.Forall₂ (same · · = .ok true) xs ys := by
  rw [tuplesAgree, Comparison.ite_eq_ok_true_iff, Comparison.allM_eq_ok_true_iff,
    List.forall₂_iff_zip]
  constructor
  · rintro ⟨hall, hlen⟩
    exact ⟨by simpa [pure, Except.pure] using hlen, fun h => hall _ h⟩
  · rintro ⟨hlen, hall⟩
    exact ⟨fun x hx => hall hx, by simp [pure, Except.pure, hlen]⟩

/-! ### Descriptors -/

mutual

/-- Two trees without foreign matter are the same exactly if they are equal. -/
theorem Pattern.sameBy_eq_true_iff {same : Empty → Empty → Bool} :
    ∀ {d e : Descriptor}, d.sameBy same e = true ↔ d = e
  | .named a, e => by cases e <;> simp [Pattern.sameBy]
  | .union ps, e => by
    cases e <;> simp [Pattern.sameBy, Pattern.sameListBy_eq_true_iff]
  | .arrayOf p, e => by cases e <;> simp [Pattern.sameBy, Pattern.sameBy_eq_true_iff]
  | .maybe p, e => by cases e <;> simp [Pattern.sameBy, Pattern.sameBy_eq_true_iff]
  | .foreign x, _ => nomatch x

theorem Pattern.sameListBy_eq_true_iff {same : Empty → Empty → Bool} :
    ∀ {ds es : List Descriptor}, Pattern.sameListBy same ds es = true ↔ ds = es
  | [], es => by cases es <;> simp [Pattern.sameListBy]
  | d :: ds, es => by
    cases es <;>
      simp [Pattern.sameListBy, Pattern.sameBy_eq_true_iff, Pattern.sameListBy_eq_true_iff]

end

/-! ### Atoms -/

namespace Value

/-- The canonical form of an atom. -/
inductive Atom
  | null
  | text (s : String)
  | points (ps : List Nat)
  | bytes (bs : List UInt8)
  | date (d : Date)
  /-- A moment: by universal time if it has an offset, and by its own clock if it has none. -/
  | moment (hasOffset : Bool) (t : Int)
  /-- A range; the start of one without integers and the step of one with fewer than two do not
  count. -/
  | range (length : Nat) (start step : Int)
  | builtin (b : Builtin)
  | number (x : Exact)

/-- The canonical form of a moment. -/
def momentAtom (t : DateTime) : Atom :=
  .moment t.offset.isSome (t.clock - t.offset.getD 0 * 1000000)

/-- The canonical form of a range. -/
def rangeAtom (start stop step : Int) : Atom :=
  let n := rangeLength start stop step
  .range n (if n = 0 then 0 else start) (if n ≤ 1 then 0 else step)

/-- The canonical form of an atom that is no number. -/
def plainAtom? : Value → Option Atom
  | null => some .null
  | str s => some (.text s)
  | illFormed ps => some (.points ps)
  | bytes bs => some (.bytes bs)
  | date d => some (.date d)
  | datetime t => some (momentAtom t)
  | range a b c => some (rangeAtom a b c)
  | builtin b => some (.builtin b)
  | _ => none

/-- The canonical form of an atom. A not-a-number has none, since it equals nothing. -/
def atom? (v : Value) : Option Atom :=
  if v.isNumber then (if v.isSignaling then none else v.number?.map .number)
  else v.base.plainAtom?

theorem same_iff_momentAtom_eq {t u : DateTime} :
    t.same u = true ↔ momentAtom t = momentAtom u := by
  rw [momentAtom, momentAtom, DateTime.same, Atom.moment.injEq]
  cases t.offset <;> cases u.offset <;> simp

theorem sameRanges_iff_rangeAtom_eq {a b c a' b' c' : Int} :
    sameRanges a b c a' b' c' = true ↔ rangeAtom a b c = rangeAtom a' b' c' := by
  simp only [rangeAtom, sameRanges, Atom.range.injEq, Bool.and_eq_true, Bool.or_eq_true,
    beq_iff_eq]
  refine and_congr_right fun hn => ?_
  rw [← hn]
  by_cases h0 : rangeLength a b c = 0
  · simp [h0]
  · by_cases h1 : rangeLength a b c = 1
    · simp [h1]
    · have hle : ¬ rangeLength a b c ≤ 1 := by omega
      simp [h0, h1, hle]

/-- Two atoms that are no numbers are equal exactly if their canonical forms are. -/
theorem sameAtom_iff {v w : Value} :
    v.sameAtom w = true ↔ ∃ x, w.plainAtom? = some x ∧ v.plainAtom? = some x := by
  cases v <;> cases w <;>
    simp [sameAtom, plainAtom?, same_iff_momentAtom_eq, sameRanges_iff_rangeAtom_eq, momentAtom,
      rangeAtom]

/-- Two numbers are equal exactly if their canonical forms are. -/
theorem sameNumber_eq_ok_true_iff {v w : Value} (hv : v.isNumber = true) (hw : w.isNumber = true) :
    v.sameNumber w = .ok true ↔ ∃ x, w.atom? = some x ∧ v.atom? = some x := by
  simp only [sameNumber, atom?, hv, hw, if_true]
  cases v.isSignaling <;> cases w.isSignaling <;> cases v.number? <;> cases w.number? <;>
    simp [pure, Except.pure, throw, throwThe, MonadExceptOf.throw]

/-- A number has no canonical form but that of its exact value. -/
theorem plainAtom?_base_of_isNumber {v : Value} (hv : v.isNumber = true) :
    v.base.plainAtom? = none := by
  rw [isNumber] at hv
  cases hbase : v.base <;> simp_all [plainAtom?]

/-- The canonical forms of numbers are those of no other values. -/
theorem plainAtom?_ne_number {v : Value} {x : Exact} : v.plainAtom? ≠ some (.number x) := by
  cases v <;> simp [plainAtom?, momentAtom, rangeAtom]

/-- Where one of two values is no number, equality of canonical forms is that of the atoms. -/
theorem sameAtom_base_iff {v w : Value} (h : (v.isNumber && w.isNumber) = false) :
    v.base.sameAtom w.base = true ↔ ∃ x, w.atom? = some x ∧ v.atom? = some x := by
  rw [sameAtom_iff, atom?, atom?]
  cases hv : v.isNumber <;> cases hw : w.isNumber
  · simp
  · simp [plainAtom?_base_of_isNumber hw, plainAtom?_ne_number]
  · simp [plainAtom?_base_of_isNumber hv, plainAtom?_ne_number]
  · simp [hv, hw] at h

/-- A reference, or an instance of a derived class that is one, is no atom. -/
theorem atom?_of_base_eq_ref {v : Value} {r : Ref} (h : v.base = .ref r) : v.atom? = none := by
  simp [atom?, isNumber, h, plainAtom?]

/-- The text of an atom that is one. -/
def Atom.str? : Atom → Option String
  | .text s => some s
  | .points ps => some (Text.mk ps).shown
  | _ => none

/-- Whether an atom is a text, and which, can be told from its canonical form. -/
theorem str?_of_atom? {v : Value} {x : Atom} (h : v.atom? = some x) : v.str? = x.str? := by
  rw [atom?] at h
  cases hnum : v.isNumber with
  | true =>
    rw [hnum, if_pos rfl, Option.ite_none_left_eq_some, Option.map_eq_some_iff] at h
    obtain ⟨-, y, -, rfl⟩ := h
    rw [isNumber] at hnum
    rw [str?]
    cases hbase : v.base <;> simp_all [Atom.str?]
  | false =>
    rw [hnum, if_neg Bool.false_ne_true] at h
    rw [str?]
    cases hbase : v.base <;> rw [hbase] at h <;> cases h <;> rfl

/-- The canonical form of a text is its characters, and that of nothing else. -/
theorem atom?_eq_text_iff {v : Value} {t : String} :
    v.atom? = some (.text t) ↔ v.base = .str t := by
  rw [atom?, isNumber]
  cases hbase : v.base <;> simp [plainAtom?, momentAtom, rangeAtom]

end Value

/-- A text can be a key. -/
theorem Store.isKey_of_str? (g : Store) {v : Value} {s : String} (hv : v.str? = some s) :
    g.isKey v = true := by
  rw [Value.str?] at hv
  rw [isKey, isKeyWithin]
  cases hbase : v.base <;> simp_all

/-- Whether a text is empty does not depend on what is stored. -/
theorem Store.truth_eq_of_str? {g g' : Store} {v : Value} {t : String} (h : v.str? = some t) :
    g'.truth v = g.truth v := by
  rw [Value.str?] at h
  rw [truth, truth]
  cases hbase : v.base <;> simp_all

/-! ### Objects -/

namespace Object

/-- The form of an object: what two objects must have in common to be equal, apart from the
values in them. -/
inductive Form
  | tuple
  | equal
  | promise
  | unknown
  | leaf (d : Descriptor)
  | options
  | violation (kind : ViolationKind) (message : Text) (actual : Option Text) (path : Text)
  | descriptor (d : Descriptor)

/-- The form of an object and the values in it that are compared one by one. -/
def form? : Object → Option (Form × List Value)
  | .tuple xs => some (.tuple, xs)
  | .marker (.equal vs) => some (.equal, vs)
  | .marker .promise => some (.promise, [])
  | .marker (.unknown kind) => some (.unknown, [kind])
  | .schema (.leaf source d) => some (.leaf d, [source])
  | .options o => some (.options, [o.strict, o.fatal])
  | .violation v =>
    some (.violation v.kind v.message v.actual v.path, [v.typeName, v.key, v.expected])
  | .descriptor d => some (.descriptor d, [])
  | _ => none

/-- The values in an object that are compared. -/
def parts : Object → List Value
  | .set _ xs => xs
  | x => (x.form?.map Prod.snd).getD []

/-- Two objects are equal, given when the values in them are. -/
inductive Alike (R : Value → Value → Prop) : Object → Object → Prop
  | ofForm {x y : Object} {f : Form} {xs ys : List Value} (hx : x.form? = some (f, xs))
      (hy : y.form? = some (f, ys)) (h : List.Forall₂ R xs ys) : Alike R x y
  | set {frozen frozen' : Bool} {xs ys : List Value} (hlen : xs.length = ys.length)
      (h : ∀ x ∈ xs, ∃ y ∈ ys, R x y) : Alike R (.set frozen xs) (.set frozen' ys)

/-- Whether an object never changes: containers that can be written to and what is made of them
do. -/
def isFrozen : Object → Bool
  | .list _ | .mapping .. | .report .. => false
  | .set frozen _ => frozen
  | .schema (.leaf ..) => true
  | .schema _ => false
  | _ => true

variable {same : Value → Value → Comparison} {sameKey : Value → Value → Bool}
  {R : Value → Value → Prop}

/-- Two violations are equal exactly if all their fields are. -/
theorem violation_sameBy_eq_ok_true_iff {v w : Violation} :
    v.sameBy same w = .ok true ↔
      (v.kind = w.kind ∧ v.message = w.message ∧ v.actual = w.actual ∧ v.path = w.path) ∧
        same v.typeName w.typeName = .ok true ∧ same v.key w.key = .ok true ∧
          same v.expected w.expected = .ok true := by
  rw [Violation.sameBy]
  by_cases hkind : v.kind = w.kind
  · rw [if_pos hkind]
    cases hname : same v.typeName w.typeName with
    | error e => simp [bind, Except.bind]
    | ok b =>
    cases b
    · simp [bind, Except.bind, pure, Except.pure]
    by_cases hmessage : v.message = w.message
    · cases hkey : same v.key w.key with
      | error e => simp [bind, Except.bind, hmessage]
      | ok b =>
      cases b
      · simp [bind, Except.bind, pure, Except.pure, hmessage]
      cases hexpected : same v.expected w.expected with
      | error e => simp [bind, Except.bind, hmessage]
      | ok b => cases b <;> simp [bind, Except.bind, pure, Except.pure, hmessage, hkind]
    · simp [bind, Except.bind, pure, Except.pure, hmessage]
  · simp [hkind, pure, Except.pure]

/-- Two leaves are equal exactly if their sources and their descriptors are. -/
theorem leaf_sameBy_eq_ok_true_iff {s s' : Value} {d d' : Descriptor} :
    (Schema.leaf s d).sameBy same sameKey (.leaf s' d') = .ok true ↔
      d = d' ∧ same s s' = .ok true := by
  rw [Schema.sameBy, Comparison.ite_eq_ok_true_iff, and_comm]
  simp [Descriptor.same, Pattern.sameBy_eq_true_iff, pure, Except.pure]

theorem alike_iff_of_form? {x y : Object} {f : Form} {xs : List Value}
    (hx : x.form? = some (f, xs)) :
    Alike R x y ↔ ∃ ys, y.form? = some (f, ys) ∧ List.Forall₂ R xs ys := by
  constructor
  · rintro (⟨hx', hy, h⟩ | ⟨hlen, h⟩)
    · rw [hx] at hx'
      cases hx'
      exact ⟨_, hy, h⟩
    · cases hx
  · rintro ⟨ys, hy, h⟩
    exact .ofForm hx hy h

theorem alike_set_iff {frozen : Bool} {xs : List Value} {y : Object} :
    Alike R (.set frozen xs) y ↔
      ∃ frozen' ys, y = .set frozen' ys ∧ xs.length = ys.length ∧ ∀ x ∈ xs, ∃ y ∈ ys, R x y := by
  constructor
  · rintro (⟨hx, -, -⟩ | ⟨hlen, h⟩)
    · cases hx
    · exact ⟨_, _, rfl, hlen, h⟩
  · rintro ⟨frozen', ys, rfl, hlen, h⟩
    exact .set hlen h

/-- An object without a form that is no set is like nothing. -/
theorem not_alike {x y : Object} (hx : x.form? = none) (hset : ∀ frozen xs, x ≠ .set frozen xs) :
    ¬ Alike R x y := by
  rintro (⟨hx', -, -⟩ | ⟨-, -⟩)
  · rw [hx] at hx'
    cases hx'
  · exact hset _ _ rfl

/-- Comparing an object that never changes with another ends with yes exactly if the two are
alike. -/
theorem sameBy_eq_ok_true_iff (hsame : ∀ v w, same v w = .ok true ↔ R v w)
    (hkey : ∀ v w, sameKey v w = true ↔ R v w) {x y : Object} (hx : x.isFrozen = true) :
    x.sameBy same sameKey y = .ok true ↔ Alike R x y := by
  have htuple (xs ys : List Value) : tuplesAgree same xs ys = .ok true ↔ List.Forall₂ R xs ys := by
    simp only [tuplesAgree_eq_ok_true_iff, hsame]
  cases x with
  | list xs => simp [isFrozen] at hx
  | mapping kind es => simp [isFrozen] at hx
  | report name vs => simp [isFrozen] at hx
  | inst i =>
    simp [not_alike (show (Object.inst i).form? = none from rfl), sameBy, pure, Except.pure]
  | coroutine =>
    simp [not_alike (show Object.coroutine.form? = none from rfl), sameBy, pure, Except.pure]
  | validator v =>
    simp [not_alike (show (Object.validator v).form? = none from rfl), sameBy, pure, Except.pure]
  | set frozen xs =>
    rw [alike_set_iff]
    cases y <;> simp [sameBy, hkey, pure, Except.pure]
  | tuple xs =>
    rw [alike_iff_of_form? rfl]
    rcases y with _ | _ | _ | _ | _ | _ | (_ | _ | _) | (_ | _ | _) | _ | _ | _ | _ | _ <;>
      simp [sameBy, form?, htuple, pure, Except.pure]
  | marker m =>
    cases m <;> rw [alike_iff_of_form? rfl] <;>
    rcases y with _ | _ | _ | _ | _ | _ | (_ | _ | _) | (_ | _ | _) | _ | _ | _ | _ | _ <;>
      simp [sameBy, Marker.sameBy, form?, htuple, hsame, pure, Except.pure]
  | schema s =>
    cases s with
    | object name children => simp [isFrozen] at hx
    | marker m => simp [isFrozen] at hx
    | leaf source d =>
      rw [alike_iff_of_form? rfl]
      rcases y with _ | _ | _ | _ | _ | _ | (_ | _ | _) | (_ | ⟨s', d'⟩ | _) | _ | _ | _ | _ | _
      case schema.leaf => simp [sameBy, form?, leaf_sameBy_eq_ok_true_iff, hsame, @eq_comm _ d]
      all_goals simp [sameBy, Schema.sameBy, form?, pure, Except.pure]
  | options o =>
    rw [alike_iff_of_form? rfl]
    rcases y with _ | _ | _ | _ | _ | _ | (_ | _ | _) | (_ | _ | _) | _ | _ | _ | _ | _ <;>
      simp [sameBy, form?, htuple, pure, Except.pure]
  | violation v =>
    rw [alike_iff_of_form? rfl]
    rcases y with _ | _ | _ | _ | _ | _ | (_ | _ | _) | (_ | _ | _) | _ | w | _ | _ | _
    case violation =>
      simp [sameBy, form?, violation_sameBy_eq_ok_true_iff, hsame, @eq_comm _ w.kind,
        @eq_comm _ w.message, @eq_comm _ w.actual, @eq_comm _ w.path]
    all_goals simp [sameBy, form?, pure, Except.pure]
  | descriptor d =>
    rw [alike_iff_of_form? rfl]
    rcases y with _ | _ | _ | _ | _ | _ | (_ | _ | _) | (_ | _ | _) | _ | _ | _ | _ | e
    case descriptor =>
      simp [sameBy, form?, Descriptor.same, Pattern.sameBy_eq_true_iff, pure, Except.pure,
        @eq_comm _ e]
    all_goals simp [sameBy, form?, pure, Except.pure]

/-! ### Objects that are alike -/

theorem parts_of_form? {x : Object} {f : Form} {xs : List Value} (hx : x.form? = some (f, xs)) :
    x.parts = xs := by
  cases x
  case set => cases hx
  all_goals simp only [parts, hx]; rfl

/-- Being alike only depends on when the parts of the two objects are equal. -/
theorem Alike.imp {S : Value → Value → Prop} {x y : Object} (h : Alike R x y)
    (hparts : ∀ v ∈ x.parts, ∀ w ∈ y.parts, R v w → S v w) : Alike S x y := by
  obtain ⟨hx, hy, hforall⟩ | ⟨hlen, hmatch⟩ := h
  · refine .ofForm hx hy (List.forall₂_iff_zip.mpr ⟨hforall.length_eq, fun {v w} hvw => ?_⟩)
    obtain ⟨hv, hw⟩ := List.of_mem_zip hvw
    rw [← parts_of_form? hx] at hv
    rw [← parts_of_form? hy] at hw
    exact hparts v hv w hw (List.forall₂_zip hforall hvw)
  · refine .set hlen fun v hv => ?_
    obtain ⟨w, hw, hvw⟩ := hmatch v hv
    exact ⟨w, hw, hparts v hv w hw hvw⟩

end Object

/-! ### Counting matches -/

section Counting

variable {α β : Type} {R : α → β → Prop} {xs : List α} {ys : List β}

private theorem mem_around_of_ne {before after : List β} {y y₀ : β}
    (hy : y ∈ before ++ y₀ :: after) (hne : y ≠ y₀) : y ∈ before ++ after := by
  rw [List.mem_append, List.mem_cons] at hy
  rw [List.mem_append]
  exact hy.imp_right fun h => h.resolve_left hne

private theorem mem_of_mem_around {before after : List β} {y y₀ : β}
    (hy : y ∈ before ++ after) : y ∈ before ++ y₀ :: after := by
  rw [List.mem_append] at hy ⊢
  exact hy.imp_right (List.mem_cons_of_mem y₀)

/-- If each of some things has its own match among others, then there are at least as many of
the others. -/
theorem length_le_of_match (hmatch : ∀ x ∈ xs, ∃ y ∈ ys, R x y)
    (hapart : xs.Pairwise fun x x' => ∀ y ∈ ys, R x y → ¬ R x' y) : xs.length ≤ ys.length := by
  induction xs generalizing ys with
  | nil => exact Nat.zero_le _
  | cons x xs ih =>
    rw [List.forall_mem_cons] at hmatch
    rw [List.pairwise_cons] at hapart
    obtain ⟨⟨y₀, hy₀, hxy₀⟩, hrest⟩ := hmatch
    obtain ⟨before, after, rfl⟩ := List.append_of_mem hy₀
    -- The match of the first is no match of the others, so they have theirs among the rest.
    have hothers : ∀ x' ∈ xs, ∃ y ∈ before ++ after, R x' y := by
      intro x' hx'
      obtain ⟨y, hy, hxy⟩ := hrest x' hx'
      refine ⟨y, mem_around_of_ne hy ?_, hxy⟩
      rintro rfl
      exact hapart.1 x' hx' y hy₀ hxy₀ hxy
    have hle := ih hothers (hapart.2.imp fun h y hy => h y (mem_of_mem_around hy))
    simp only [List.length_append, List.length_cons] at hle ⊢
    omega

/-- If each of some things has its own match among others that are no more than they, then each
of the others is a match. -/
theorem exists_match_of_length_le (hlen : ys.length ≤ xs.length)
    (hmatch : ∀ x ∈ xs, ∃ y ∈ ys, R x y)
    (hapart : xs.Pairwise fun x x' => ∀ y ∈ ys, R x y → ¬ R x' y) :
    ∀ y ∈ ys, ∃ x ∈ xs, R x y := by
  intro y₀ hy₀
  by_contra hnone
  obtain ⟨before, after, rfl⟩ := List.append_of_mem hy₀
  have hothers : ∀ x ∈ xs, ∃ y ∈ before ++ after, R x y := by
    intro x hx
    obtain ⟨y, hy, hxy⟩ := hmatch x hx
    refine ⟨y, mem_around_of_ne hy ?_, hxy⟩
    rintro rfl
    exact hnone ⟨x, hx, hxy⟩
  have hle := length_le_of_match hothers
    (hapart.imp fun h y hy => h y (mem_of_mem_around hy))
  simp only [List.length_append, List.length_cons] at hle hlen
  omega

end Counting

private theorem forall₂_trans {α : Type} {R : α → α → Prop}
    (ht : ∀ x y z, R x y → R y z → R x z)
    {xs ys zs : List α} (h : List.Forall₂ R xs ys) (h' : List.Forall₂ R ys zs) :
    List.Forall₂ R xs zs := by
  induction h generalizing zs with
  | nil => exact h'
  | cons hxy _ ih =>
    cases h' with
    | cons hyz h' => exact .cons (ht _ _ _ hxy hyz) (ih h')

namespace Object.Alike

variable {R : Value → Value → Prop} {x y z : Object}

/-- Being alike is symmetric if the equality of parts is an equivalence that tells the members
of a set apart. -/
theorem symm (hs : ∀ v w, R v w → R w v) (ht : ∀ u v w, R u v → R v w → R u w)
    (hapart : ∀ frozen xs, x = .set frozen xs → xs.Pairwise fun v w => ¬ R v w)
    (h : Alike R x y) : Alike R y x := by
  obtain ⟨hx, hy, hforall⟩ | ⟨hlen, hmatch⟩ := h
  · exact .ofForm hy hx (hforall.imp hs).flip
  · refine .set hlen.symm fun w hw => ?_
    have hothers := exists_match_of_length_le (Nat.le_of_eq hlen.symm) hmatch
      ((hapart _ _ rfl).imp fun hvv' w _ hvw hvw' => hvv' (ht _ _ _ hvw (hs _ _ hvw')))
    obtain ⟨v, hv, hvw⟩ := hothers w hw
    exact ⟨v, hv, hs v w hvw⟩

theorem trans (ht : ∀ u v w, R u v → R v w → R u w) (h : Alike R x y) (h' : Alike R y z) : Alike R x z := by
  obtain ⟨hx, hy, hforall⟩ | ⟨hlen, hmatch⟩ := h
  · obtain ⟨zs, hz, hforall'⟩ := (alike_iff_of_form? hy).mp h'
    exact .ofForm hx hz (forall₂_trans ht hforall hforall')
  · obtain ⟨frozen, zs, rfl, hlen', hmatch'⟩ := alike_set_iff.mp h'
    refine .set (hlen.trans hlen') fun v hv => ?_
    obtain ⟨w, hw, hvw⟩ := hmatch v hv
    obtain ⟨u, hu, hwu⟩ := hmatch' w hw
    exact ⟨u, hu, ht v w u hvw hwu⟩

end Object.Alike

end Conformance
