import Conformance.Proofs.Number.Layout
import Conformance.Store.Basic
import Conformance.Yaml.Token

/-!
# JSON values

A JSON value is nothing, a truth value, an integer, a finite floating-point number, a text, an
array, or an object. It is written on one line in ASCII: items are set apart by a comma and a
space, a key from its value by a colon and a space, and what is not printable ASCII is escaped in a
text by the hexadecimal numbers of its sixteen-bit units, so that a character beyond them is
escaped as two halves of a surrogate pair.

## Main definitions

* `Json` — the values.
* `Json.written` — the text of a value, and `Json.IsWritten` — the values that have one.
* `Json.IsAt` — a value of a store that is a JSON value.
* `Json.asRead` — what is read in the place of a value if a number without a point is taken for a
  text, and the halves of a surrogate pair for code points of their own.
* `Json.KeepsForm` — there are no such numbers and no such characters.
* `Json.HasShortKeys` — all keys of objects are short enough to be keys.
-/

namespace Conformance

/-- A code point, which may be half of a pair of surrogates. -/
abbrev CodePoint := Fin Yaml.Flow.codePointLimit

namespace CodePoint

/-- The code point of a character. -/
def ofChar (c : Char) : CodePoint :=
  ⟨c.toNat, by
    have h := c.valid
    have : c.toNat = c.val.toNat := rfl
    simp only [UInt32.isValidChar, Nat.isValidChar, Yaml.Flow.codePointLimit] at *
    omega⟩

/-- The sixteen-bit units of a code point: itself, or the two halves of a pair of surrogates. -/
def units (p : CodePoint) : List CodePoint :=
  if p.val < 0x10000 then [p]
  else
    [⟨0xd800 + (p.val - 0x10000) / 0x400, by
      have := p.isLt
      simp only [Yaml.Flow.codePointLimit] at *
      omega⟩,
     ⟨0xdc00 + (p.val - 0x10000) % 0x400, by
      simp only [Yaml.Flow.codePointLimit]
      omega⟩]

/-- Four hexadecimal digits. -/
def hexDigits (n : Nat) : List Char :=
  [n / 0x1000 % 16, n / 0x100 % 16, n / 0x10 % 16, n % 16].map Nat.digitChar

/-- The letters that stand for characters after a backslash. -/
def shortEscapes : List (Nat × Char) :=
  [(0x22, '"'), (0x5c, '\\'), (0x08, 'b'), (0x0c, 'f'), (0x0a, 'n'), (0x0d, 'r'), (0x09, 't')]

/-- A unit as it is written in a text: as an escape, unless it is printable ASCII other than the
quotation mark and the backslash. -/
def written (p : CodePoint) : List Char :=
  match shortEscapes.lookup p.val with
  | some c => ['\\', c]
  | none =>
    if 0x20 ≤ p.val ∧ p.val ≤ 0x7e then [Char.ofNat p.val] else '\\' :: 'u' :: hexDigits p.val

end CodePoint

/-- A JSON value. -/
inductive Json
  | null
  | bool (b : Bool)
  | int (n : Int)
  | float (negative : Bool) (significand : Nat) (exponent : Int)
      (h : Binary64.IsNormal significand exponent)
  | str (s : List CodePoint)
  | array (items : List Json)
  | object (entries : List (List CodePoint × Json))

namespace Json

/-! ### Texts -/

/-- The units of a text as code points of their own. -/
def units (s : List CodePoint) : List CodePoint := s.flatMap CodePoint.units

/-- A text between quotation marks. -/
def quoted (s : List CodePoint) : List Char := '"' :: (units s).flatMap CodePoint.written ++ ['"']

/-- Some texts with a comma and a space between them. -/
def separated (texts : List (List Char)) : List Char := [',', ' '].intercalate texts

mutual

/-- The text of a value. -/
def written : Json → List Char
  | null => "null".toList
  | bool b => if b then "true".toList else "false".toList
  | int n => (toString n).toList
  | float negative m e _ => (Binary64.finite negative m e).text.toList
  | str s => quoted s
  | array items => '[' :: separated (writtenItems items) ++ [']']
  | object entries => '\x7b' :: separated (writtenEntries entries) ++ ['\x7d']

/-- The texts of some items. -/
def writtenItems : List Json → List (List Char)
  | [] => []
  | v :: vs => v.written :: writtenItems vs

/-- The texts of some entries, each with a colon and a space after its key. -/
def writtenEntries : List (List CodePoint × Json) → List (List Char)
  | [] => []
  | (k, v) :: es => (quoted k ++ ':' :: ' ' :: v.written) :: writtenEntries es

end

/-! ### Induction -/

/-- A property of all values, shown for a collection from what is in it. -/
@[elab_as_elim]
theorem induction {P : Json → Prop} (null : P null) (bool : ∀ b, P (bool b)) (int : ∀ n, P (int n))
    (float : ∀ negative m e h, P (float negative m e h)) (str : ∀ s, P (str s))
    (array : ∀ items, (∀ v ∈ items, P v) → P (array items))
    (object : ∀ entries, (∀ e ∈ entries, P e.2) → P (object entries)) (v : Json) : P v :=
  @Json.rec P (fun items => ∀ v ∈ items, P v) (fun entries => ∀ e ∈ entries, P e.2)
    (fun e => P e.2) null bool int float str array object
    (fun _ h => nomatch h) (fun _ _ hv hvs => List.forall_mem_cons.mpr ⟨hv, hvs⟩)
    (fun _ h => nomatch h) (fun _ _ he hes => List.forall_mem_cons.mpr ⟨he, hes⟩)
    (fun _ _ hv => hv) v

/-! ### Properties of all that is in a value -/

mutual

/-- Whether a value and all that is in it have a property. -/
def All (P : Json → Prop) : Json → Prop
  | array items => P (array items) ∧ AllItems P items
  | object entries => P (object entries) ∧ AllEntries P entries
  | v => P v

/-- Whether some items and all that is in them have a property. -/
def AllItems (P : Json → Prop) : List Json → Prop
  | [] => True
  | v :: vs => All P v ∧ AllItems P vs

/-- Whether the values of some entries and all that is in them have a property. -/
def AllEntries (P : Json → Prop) : List (List CodePoint × Json) → Prop
  | [] => True
  | (_, v) :: es => All P v ∧ AllEntries P es

end

section All

variable {P : Json → Prop}

theorem allItems_iff {items : List Json} : AllItems P items ↔ ∀ v ∈ items, All P v := by
  induction items with
  | nil => simp [AllItems]
  | cons v vs ih => rw [AllItems, ih, List.forall_mem_cons]

theorem allEntries_iff {entries : List (List CodePoint × Json)} :
    AllEntries P entries ↔ ∀ e ∈ entries, All P e.2 := by
  induction entries with
  | nil => simp [AllEntries]
  | cons e es ih => rw [AllEntries, ih, List.forall_mem_cons]

theorem all_array {items : List Json} :
    All P (array items) ↔ P (array items) ∧ ∀ v ∈ items, All P v := by
  rw [All, allItems_iff]

theorem all_object {entries : List (List CodePoint × Json)} :
    All P (object entries) ↔ P (object entries) ∧ ∀ e ∈ entries, All P e.2 := by
  rw [All, allEntries_iff]

end All

/-- Whether a value has a text: an integer has one only up to a number of digits. -/
def IsWritten : Json → Prop := All fun
  | int n => (Number.intText? n).isSome = true
  | _ => True

/-- Whether no object has two entries of one key. -/
def HasDistinctKeys : Json → Prop := All fun
  | object entries => (entries.map Prod.fst).Nodup
  | _ => True

/-- Whether the keys of objects, with their quotation marks and escapes, are short enough to be
keys. -/
def HasShortKeys : Json → Prop := All fun
  | object entries => ∀ e ∈ entries, (quoted e.1).length ≤ Yaml.Scanner.keyLimit
  | _ => True

/-- Whether a value keeps its form where it is read: floating-point numbers are written with a
point, and there are no characters that are written as pairs of surrogates. -/
def KeepsForm : Json → Prop := All fun
  | float negative m e _ => '.' ∈ (Binary64.finite negative m e).text.toList
  | str s => ∀ p ∈ s, p.val < 0x10000
  | object entries => ∀ e ∈ entries, ∀ p ∈ e.1, p.val < 0x10000
  | _ => True

/-! ### What is read -/

/-- Entries with one more, whose value takes the place of an earlier one of the same key. -/
def insertEntry : List (List CodePoint × Json) → List CodePoint × Json →
    List (List CodePoint × Json)
  | [], e => [e]
  | x :: es, e => if e.1 = x.1 then (x.1, e.2) :: es else x :: insertEntry es e

mutual

/-- What is read in the place of a value: a number that is written without a point but with an
exponent is read as a text, and the halves of a pair of surrogates as two code points. -/
def asRead : Json → Json
  | float negative m e h =>
    let text := (Binary64.finite negative m e).text.toList
    if '.' ∈ text then float negative m e h else str (text.map CodePoint.ofChar)
  | str s => str (units s)
  | array items => array (itemsAsRead items)
  | object entries => object ((entriesAsRead entries).foldl insertEntry [])
  | v => v

/-- What is read in the place of some items. -/
def itemsAsRead : List Json → List Json
  | [] => []
  | v :: vs => v.asRead :: itemsAsRead vs

/-- What is read in the place of some entries, before those of one key are merged. -/
def entriesAsRead : List (List CodePoint × Json) → List (List CodePoint × Json)
  | [] => []
  | (k, v) :: es => (units k, v.asRead) :: entriesAsRead es

end

mutual

/-- Whether a value of a store is a JSON value. -/
def IsAt (g : Store) : Json → Value → Prop
  | null, x => x = .null
  | bool b, x => x = .bool b
  | int n, x => x = .int n
  | float negative m e _, x => x = .real (.finite negative m e) 0
  | str s, x => x = .ofPoints (s.map Fin.val)
  | array items, x => ∃ r xs, x = .ref r ∧ g.objects[r]? = some (.list xs) ∧ AreAt g items xs
  | object entries, x =>
    ∃ r es, x = .ref r ∧ g.objects[r]? = some (.mapping .plain es) ∧ EntriesAt g entries es

/-- Whether values of a store are some JSON values, one by one. -/
def AreAt (g : Store) : List Json → List Value → Prop
  | [], [] => True
  | v :: vs, x :: xs => IsAt g v x ∧ AreAt g vs xs
  | _, _ => False

/-- Whether entries of a store are those of a JSON object, one by one. -/
def EntriesAt (g : Store) : List (List CodePoint × Json) → Entries → Prop
  | [], [] => True
  | (k, v) :: es, (key, x) :: xs =>
    key = .ofPoints (k.map Fin.val) ∧ IsAt g v x ∧ EntriesAt g es xs
  | _, _ => False

end

/-! ### Items and entries -/

theorem itemsAsRead_eq_map (items : List Json) : itemsAsRead items = items.map asRead := by
  induction items with
  | nil => rfl
  | cons v vs ih => rw [itemsAsRead, ih, List.map_cons]

theorem entriesAsRead_eq_map (entries : List (List CodePoint × Json)) :
    entriesAsRead entries = entries.map fun e => (units e.1, e.2.asRead) := by
  induction entries with
  | nil => rfl
  | cons e es ih => rw [entriesAsRead, ih, List.map_cons]

theorem areAt_iff {g : Store} {items : List Json} {xs : List Value} :
    AreAt g items xs ↔ List.Forall₂ (IsAt g) items xs := by
  induction items generalizing xs with
  | nil => cases xs <;> simp [AreAt]
  | cons v vs ih => cases xs <;> simp [AreAt, ih]

/-- Whether an entry of a store is one of a JSON object. -/
def EntryAt (g : Store) (e : List CodePoint × Json) (x : Value × Value) : Prop :=
  x.1 = .ofPoints (e.1.map Fin.val) ∧ IsAt g e.2 x.2

theorem entriesAt_iff {g : Store} {entries : List (List CodePoint × Json)} {xs : Entries} :
    EntriesAt g entries xs ↔ List.Forall₂ (EntryAt g) entries xs := by
  induction entries generalizing xs with
  | nil => cases xs <;> simp [EntriesAt]
  | cons e es ih => cases xs <;> simp [EntriesAt, EntryAt, ih, and_assoc]

end Json

end Conformance
