import Conformance.Descriptor.Basic
import Conformance.Descriptor.Token
import Conformance.Text.CodePoint

/-!
# Reading descriptors

The grammar over tokens is

* a union is one or more terms with bars between them;
* a term is the keyword `Maybe` and a term, a union in brackets, a star, or any other name.

A union of a single term is that term. A text that is no descriptor is refused with the first
reason that reading from the left meets.
-/

namespace Conformance

/-- Why something is not a descriptor. -/
inductive SyntaxFault
  | notText
  | unexpectedCharacter (position : Nat)
  | empty
  | unexpectedToken (token : Token)
  | unexpectedEnd
  | expectedClose
deriving DecidableEq, Repr

/-- The wording of a fault. -/
def SyntaxFault.reason : SyntaxFault → String
  | notText => "descriptor must be a string"
  | unexpectedCharacter p => s!"unexpected character at position {p}"
  | empty => "empty descriptor"
  | unexpectedToken t => s!"unexpected token '{t.text}'"
  | unexpectedEnd => "unexpected end of descriptor"
  | expectedClose => "expected ']'"

/-- The wording of a fault in a text that was given as a descriptor. -/
def SyntaxFault.message (fault : SyntaxFault) (descriptor : Text) : Text :=
  .concat ["Invalid descriptor '", descriptor, "': ", fault.reason]

/-- A text that was given as a descriptor and is none, with the fault found in it. -/
structure SyntaxError where
  descriptor : String
  fault : SyntaxFault
deriving DecidableEq, Repr

/-- The wording of a syntax error. -/
def SyntaxError.message (e : SyntaxError) : Text := e.fault.message e.descriptor

namespace Descriptor

/-- What is read from the front of some tokens, with fewer tokens left. -/
abbrev Front (α : Type) (ts : List Token) := { r : α × List Token // r.2.length < ts.length }

/-- A union of some terms; a single term stands for itself. -/
def ofOptions (first : Descriptor) : List Descriptor → Descriptor
  | [] => first
  | others => .union (first :: others)

mutual

/-- Reads a term. -/
def readTerm : (ts : List Token) → Except SyntaxFault (Front Descriptor ts)
  | [] => .error .unexpectedEnd
  | .openBracket :: ts =>
    match readUnion ts with
    | .error e => .error e
    | .ok ⟨(_, []), _⟩ => .error .unexpectedEnd
    | .ok ⟨(d, .closeBracket :: rest), h⟩ =>
      .ok ⟨(.arrayOf d, rest), by simp only [List.length_cons] at h ⊢; omega⟩
    | .ok ⟨(_, _ :: _), _⟩ => .error .expectedClose
  | .closeBracket :: _ => .error (.unexpectedToken .closeBracket)
  | .bar :: _ => .error (.unexpectedToken .bar)
  | .star :: ts => .ok ⟨(.named Token.star.text, ts), by simp⟩
  | .name s :: ts =>
    if s = Pattern.maybeKeyword then
      match readTerm ts with
      | .error e => .error e
      | .ok ⟨(d, rest), h⟩ => .ok ⟨(.maybe d, rest), by simp only [List.length_cons] at h ⊢; omega⟩
    else .ok ⟨(.named s, ts), by simp⟩
termination_by ts => (ts.length, 0)

/-- Reads a union. -/
def readUnion (ts : List Token) : Except SyntaxFault (Front Descriptor ts) :=
  match readTerm ts with
  | .error e => .error e
  | .ok ⟨(d, rest), h⟩ =>
    match readOptions rest with
    | .error e => .error e
    | .ok ⟨(ds, rest'), h'⟩ => .ok ⟨(ofOptions d ds, rest'), by simp only at h h' ⊢; omega⟩
termination_by (ts.length, 2)

/-- Reads the further options of a union, each after a bar. -/
def readOptions : (ts : List Token) →
    Except SyntaxFault { r : List Descriptor × List Token // r.2.length ≤ ts.length }
  | .bar :: ts =>
    match readTerm ts with
    | .error e => .error e
    | .ok ⟨(d, rest), h⟩ =>
      match readOptions rest with
      | .error e => .error e
      | .ok ⟨(ds, rest'), h'⟩ =>
        .ok ⟨(d :: ds, rest'), by simp only [List.length_cons] at h h' ⊢; omega⟩
  | ts => .ok ⟨([], ts), Nat.le_refl _⟩
termination_by ts => (ts.length, 1)
decreasing_by
  all_goals simp_wf
  all_goals first
    | exact Prod.Lex.left _ _ (by simp only at h; omega)
    | exact Prod.Lex.left _ _ (by omega)

end

/-- The descriptor that some tokens make up. -/
def ofTokens (ts : List Token) : Except SyntaxFault Descriptor :=
  if ts = [] then .error .empty
  else
    match readUnion ts with
    | .error e => .error e
    | .ok ⟨(d, []), _⟩ => .ok d
    | .ok ⟨(_, t :: _), _⟩ => .error (.unexpectedToken t)

/-- The descriptor with the given text, or the fault in it. -/
def read (s : String) : Except SyntaxFault Descriptor :=
  match Token.scan s with
  | .error position => .error (.unexpectedCharacter position)
  | .ok ts => ofTokens ts

/-- The descriptor with the given text. -/
def parse (s : String) : Except SyntaxError Descriptor :=
  (read s).mapError (⟨s, ·⟩)

end Descriptor

end Conformance
