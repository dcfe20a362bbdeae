import Conformance.Text.Blank

/-!
# Tokens of a descriptor

A descriptor text is cut into brackets, bars, stars and names, each as long as it can be, with
white space allowed around them. The only thing that can go wrong is a character that begins
none of these.
-/

namespace Conformance

/-- A word of the descriptor grammar. -/
inductive Token
  | openBracket
  | closeBracket
  | bar
  | star
  | name (text : String)
deriving DecidableEq, Repr

namespace Token

/-- The text of a token. -/
def text : Token → String
  | openBracket => "["
  | closeBracket => "]"
  | bar => "|"
  | star => "*"
  | name s => s

/-- Whether a character may begin a name: an ASCII letter or an underscore. -/
def isNameStart (c : Char) : Bool := c.isAlpha || c = '_'

/-- Whether a character may stand inside a name: an ASCII letter, digit or underscore. -/
def isNameChar (c : Char) : Bool := c.isAlphanum || c = '_'

/-- The token of a single character. -/
def ofChar? : Char → Option Token
  | '[' => some openBracket
  | ']' => some closeBracket
  | '|' => some bar
  | '*' => some star
  | _ => none

/-- The token at the very beginning of a text, and what follows it. -/
def read? : List Char → Option (Token × List Char)
  | [] => none
  | c :: cs =>
    match ofChar? c with
    | some t => some (t, cs)
    | none =>
      if isNameStart c then
        some (name (String.ofList (c :: cs.takeWhile isNameChar)), cs.dropWhile isNameChar)
      else none

theorem length_dropWhile_le {α : Type} (p : α → Bool) (l : List α) :
    (l.dropWhile p).length ≤ l.length :=
  (List.dropWhile_suffix p).length_le

/-- A token takes at least one character. -/
theorem length_lt_of_read? {cs rest : List Char} {t : Token} (h : read? cs = some (t, rest)) :
    rest.length < cs.length := by
  cases cs with
  | nil => simp [read?] at h
  | cons c cs =>
    simp only [read?] at h
    split at h
    · simp only [Option.some.injEq, Prod.mk.injEq] at h
      simp [← h.2]
    · split at h
      · simp only [Option.some.injEq, Prod.mk.injEq] at h
        rw [← h.2, List.length_cons]
        exact Nat.lt_succ_of_le (length_dropWhile_le _ _)
      · simp at h

/-- The tokens of a text that does not end in white space, or the place where cutting stopped:
the position just after the last token. Positions count characters from `position`. -/
def scanFrom (position : Nat) (cs : List Char) : Except Nat (List Token) :=
  if cs = [] then .ok []
  else
    let body := cs.dropWhile Text.isBlank
    match _h : read? body with
    | none => .error position
    | some (t, rest) =>
      (scanFrom (position + (cs.length - rest.length)) rest).map (t :: ·)
termination_by cs.length
decreasing_by
  exact Nat.lt_of_lt_of_le (length_lt_of_read? _h) (length_dropWhile_le _ _)

/-- The tokens of a text, or the position just after the last token that could be read. -/
def scan (s : String) : Except Nat (List Token) :=
  scanFrom 0 (Text.trimEnd s.toList)

end Token

end Conformance
