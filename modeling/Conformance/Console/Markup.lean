import Conformance.Console.Layout
import Conformance.Console.Literal
import Conformance.Console.ShortName
import Conformance.Console.Style
import Conformance.Text.Blank
import Conformance.Text.NameChar

/-!
# Marked-up text

A console reads a text with tags: a style in square brackets is opened, a bracket with a slash
closes the style that it names, or the last one opened if it names none. Only the text between
the tags is shown here, since no style changes it. A tag that begins with an at sign stands for
an action, whose values follow an equals sign. Backslashes in front of a tag stand for half as
many, and one that is left over makes the tag ordinary text. Short names of symbols are replaced
within each piece of text that is shown.

Text that comes from elsewhere is escaped, so that its tags are shown. What is shown is almost the
text itself: a backslash in front of a bracket that begins no tag is lost, and a single one at the
end is shown twice.
-/

namespace Conformance.Markup

/-- A part of a marked-up text. -/
inductive Piece
  | text (cs : List Char)
  /-- A pair of brackets and the number of backslashes in front of it. -/
  | tag (slashes : Nat) (content : List Char)
deriving DecidableEq, Repr

/-- Whether a character after an opening bracket makes it a tag. -/
def beginsTag (c : Char) : Bool := ('a' ≤ c && c ≤ 'z') || c = '#' || c = '/' || c = '@'

/-- Whether a character is a square bracket. -/
def isBracket (c : Char) : Bool := c = '[' || c = ']'

/-- The content of a tag in its brackets. -/
def brackets (content : List Char) : List Char := '[' :: content ++ [']']

/-- The text that a piece was read from. -/
def Piece.source : Piece → List Char
  | text cs => cs
  | tag n content => List.replicate n '\\' ++ brackets content

/-- The content of a tag that a text begins with, and what follows it. -/
def bracketed? : List Char → Option (List Char × List Char)
  | '[' :: c :: cs =>
    match beginsTag c, cs.dropWhile (!isBracket ·) with
    | true, ']' :: rest => some (c :: cs.takeWhile (!isBracket ·), rest)
    | _, _ => none
  | _ => none

theorem eq_of_bracketed? {cs content rest : List Char}
    (h : bracketed? cs = some (content, rest)) : cs = brackets content ++ rest := by
  unfold bracketed? at h
  split at h
  · next c cs =>
    split at h
    · next hd =>
      cases h
      have := List.takeWhile_append_dropWhile (p := (!isBracket ·)) (l := cs)
      rw [hd] at this
      simp [brackets, this]
    · cases h
  · cases h

/-- A tag that a text begins with: the number of its backslashes, its content and what
follows it. -/
def tag? (cs : List Char) : Option (Nat × List Char × List Char) :=
  let slashes := (cs.takeWhile (· = '\\')).length
  (bracketed? (cs.drop slashes)).map fun (content, rest) => (slashes, content, rest)

theorem replicate_slashes_append_drop (cs : List Char) :
    List.replicate (cs.takeWhile (· = '\\')).length '\\' ++
      cs.drop (cs.takeWhile (· = '\\')).length = cs := by
  induction cs with
  | nil => rfl
  | cons c cs ih =>
    by_cases h : c = '\\'
    · subst h
      simpa [List.replicate_succ] using ih
    · simp [h]

theorem eq_of_tag? {n : Nat} {cs content rest : List Char}
    (h : tag? cs = some (n, content, rest)) : cs = (Piece.tag n content).source ++ rest := by
  simp only [tag?, Option.map_eq_some_iff] at h
  obtain ⟨_, h', e⟩ := h
  cases e
  rw [Piece.source, List.append_assoc, ← eq_of_bracketed? h', replicate_slashes_append_drop]

/-- A character in front of some pieces. -/
def consChar (c : Char) : List Piece → List Piece
  | .text cs :: ps => .text (c :: cs) :: ps
  | ps => .text [c] :: ps

/-- The pieces of a text. -/
def pieces (cs : List Char) : List Piece :=
  match _h : tag? cs with
  | some (n, content, rest) => .tag n content :: pieces rest
  | none =>
    match cs with
    | [] => []
    | c :: rest => consChar c (pieces rest)
termination_by cs.length
decreasing_by
  · have := congrArg List.length (eq_of_tag? ‹_›)
    simp only [Piece.source, brackets, List.length_append, List.length_cons] at this
    omega
  · simp only [List.length_cons]; omega

/-- Text without the backslashes that stand in front of an opening bracket. -/
def unslashed : List Char → List Char
  | '\\' :: '[' :: cs => '[' :: unslashed cs
  | c :: cs => c :: unslashed cs
  | [] => []

/-- What is shown for ordinary text. -/
def plain (cs : List Char) : List Char := ShortName.replace (unslashed cs)

/-- What is shown for a tag that is ordinary text, with a number of backslashes in front. -/
def spelled (slashes : Nat) (content : List Char) : List Char :=
  List.replicate slashes '\\' ++ ShortName.replace (brackets content)

/-- Why a marked-up text cannot be shown. -/
inductive Fault
  /-- A tag closes a style that is not open. -/
  | notOpen
  /-- The values of an action are no literal. -/
  | notLiteral
  /-- A part of a colour that has to be a number is none. -/
  | noNumber
deriving DecidableEq, Repr

/-- A tag that has been opened: the usual spelling of its style, what follows the equals sign,
and whether anything has been shown in it. -/
structure OpenTag where
  name : String
  values : Option (List Char)
  isUsed : Bool
deriving DecidableEq, Repr

/-- The values of an action without the name in front of them. -/
def actionValues (cs : List Char) : List Char :=
  let rest := cs.dropWhile fun c => Text.isNameChar c || c = '.'
  if rest.isEmpty then ['(', ')']
  else if rest.head? = some '(' && rest.getLast? = some ')' && !rest.contains '\n' then rest
  else cs

namespace OpenTag

/-- Whether a tag that is closed has a fault in its values. -/
def hasWrongValues (t : OpenTag) : Bool :=
  match t.name.toList.head?, t.values with
  | some '@', some (c :: cs) => !Literal.isLiteral (actionValues (Text.trim (c :: cs)))
  | _, _ => false

/-- Whether a number is missing in the style that a tag gives to what is shown in it. What
follows an equals sign is a part of that style. -/
def lacksNumber (t : OpenTag) : Bool :=
  let values := (t.values.map (' ' :: ·)).getD []
  t.isUsed && (Style.usual? (t.name.toList ++ values)).isNone

/-- A tag after something has been shown in it. -/
def showing (cs : List Char) (t : OpenTag) : OpenTag :=
  { t with isUsed := t.isUsed || cs.any fun c => c ≠ '\n' && !Layout.movesCursor c }

end OpenTag

/-- What has been shown of a marked-up text, the tags that are open, the last one opened first,
and those that have been closed. -/
structure Reading where
  shown : List Char := []
  opened : List OpenTag := []
  closed : List OpenTag := []
deriving DecidableEq, Repr

namespace Reading

/-- Shows some characters. -/
def showing (r : Reading) (cs : List Char) : Reading :=
  { r with shown := r.shown ++ cs, opened := r.opened.map (OpenTag.showing cs) }

/-- Closes a tag that is open. -/
def closing (r : Reading) (t : OpenTag) : Except Fault Reading :=
  if t.hasWrongValues then .error .notLiteral
  else .ok { r with opened := r.opened.erase t, closed := t :: r.closed }

/-- The usual spelling of a style. -/
def usual (cs : List Char) : Except Fault String :=
  match Style.usual? cs with
  | some name => .ok name
  | none => .error .noNumber

/-- Opens or closes the style that a tag names. -/
def reading (r : Reading) (content : List Char) : Except Fault Reading := do
  let values := (content.dropWhile (· ≠ '=')).tail?
  match content.takeWhile (· ≠ '=') with
  | '/' :: name =>
    let closed? ←
      if (Text.trim name).isEmpty then pure r.opened.head?
      else do
        let name ← usual (Text.trim name)
        pure (r.opened.find? (·.name = name))
    match closed? with
    | some t => r.closing t
    | none => .error .notOpen
  | name => do
    let name ← usual name
    return { r with opened := ⟨name, values, false⟩ :: r.opened }

/-- Goes on with a piece of text. -/
def next (r : Reading) : Piece → Except Fault Reading
  | .text cs => .ok (r.showing (plain cs))
  | .tag n content =>
    if n % 2 = 1 then .ok (r.showing (spelled (n / 2) content))
    else (r.showing (List.replicate (n / 2) '\\')).reading content

/-- What a text shows in the end. -/
def result (r : Reading) : Except Fault String :=
  if (r.closed ++ r.opened).any OpenTag.lacksNumber then .error .noNumber
  else .ok (String.ofList r.shown)

end Reading

/-- The text shown for a marked-up text. -/
def read (s : String) : Except Fault String := do
  ((← (pieces s.toList).foldlM Reading.next {}).result)

/-- A piece with as many more backslashes in front of a tag as make it ordinary text that shows those
it had. -/
def Piece.escaped : Piece → List Char
  | text cs => cs
  | tag n content => List.replicate (2 * n + 1) '\\' ++ brackets content

/-- Whether a text ends with exactly one backslash. -/
def endsWithSlash (cs : List Char) : Bool := (cs.reverse.takeWhile (· = '\\')).length = 1

/-- The marked-up text in which the tags of a text are ordinary text. A single backslash at the end
is doubled, since something may follow it. -/
def escape (s : String) : String :=
  let cs := (pieces s.toList).flatMap Piece.escaped
  String.ofList (cs ++ if endsWithSlash cs then ['\\'] else [])

end Conformance.Markup
