/-!
# Code points

A text that is made from the numbers of its characters can hold the halves of surrogate pairs,
which are no characters. So a text is a list of code points, and a string is a text without such
halves. Where characters are asked for, the replacement character stands for a half.
-/

namespace Conformance

/-- A text, by its code points. -/
structure Text where
  codes : List Nat
deriving DecidableEq, Repr, Inhabited

namespace Text

/-- Whether a code point is half of a pair of surrogates. -/
def isSurrogate (n : Nat) : Bool := 0xd800 ≤ n && n < 0xe000

/-- The code points of a string. -/
def points (s : String) : List Nat := s.toList.map Char.toNat

/-- A string as a text. -/
def ofString (s : String) : Text := ⟨points s⟩

instance : Coe String Text := ⟨ofString⟩

instance : Append Text := ⟨fun t u => ⟨t.codes ++ u.codes⟩⟩

/-- Whether there is nothing in a text. -/
def isEmpty (t : Text) : Bool := t.codes.isEmpty

theorem codes_append (t u : Text) : (t ++ u).codes = t.codes ++ u.codes := rfl

theorem append_assoc (t u w : Text) : t ++ u ++ w = t ++ (u ++ w) :=
  congrArg mk (List.append_assoc ..)

@[simp] theorem isEmpty_append (t u : Text) : (t ++ u).isEmpty = (t.isEmpty && u.isEmpty) := by
  cases h : t.codes <;> simp [isEmpty, codes_append, h]

@[simp] theorem isEmpty_iff {t : Text} : t.isEmpty = true ↔ t = ofString "" :=
  ⟨fun h => congrArg mk (List.isEmpty_iff.mp h), fun h => h ▸ rfl⟩

theorem ofString_append (s t : String) : ofString (s ++ t) = ofString s ++ ofString t :=
  congrArg mk (by rw [points, String.toList_append, List.map_append]; rfl)

/-- Some texts, one after the other. -/
def concat (ts : List Text) : Text := ⟨ts.flatMap codes⟩

theorem concat_cons (t : Text) (ts : List Text) : concat (t :: ts) = t ++ concat ts := rfl

theorem concat_singleton (t : Text) : concat [t] = t := congrArg mk (List.append_nil _)

/-- Some texts with another one between them. -/
def joined (separator : Text) (ts : List Text) : Text :=
  ⟨separator.codes.intercalate (ts.map codes)⟩

theorem joined_singleton (separator t : Text) : separator.joined [t] = t :=
  congrArg mk (by simp [List.intercalate])

theorem joined_cons_cons (separator t u : Text) (ts : List Text) :
    separator.joined (t :: u :: ts) = t ++ separator ++ separator.joined (u :: ts) :=
  congrArg mk (by simp [List.intercalate, codes_append, joined])

/-- The string of a text without halves of surrogate pairs. -/
def string? (t : Text) : Option String :=
  if t.codes.any isSurrogate then none else some (String.ofList (t.codes.map Char.ofNat))

/-- The character that stands for a code point. -/
def shownChar (n : Nat) : Char := if isSurrogate n then '\uFFFD' else Char.ofNat n

/-- The characters that stand for the code points of a text. -/
def shown (t : Text) : String := String.ofList (t.codes.map shownChar)

end Text

end Conformance
