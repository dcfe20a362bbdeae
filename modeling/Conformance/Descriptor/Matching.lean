import Conformance.Store.Basic

/-!
# Matching values against descriptors

Thirteen names are those of built-in types. Any other name matches the instances of the classes
with this name and of the classes derived from them. A union matches what one of its options
matches, an array the lists and tuples whose items all match, and a descriptor that may be
missing also matches nothing at all.

Options and items are tried from the left and only as far as needed, so foreign matter in a
tree is harmless until a value reaches it.
-/

namespace Conformance

/-- The types whose names have a meaning of their own. -/
inductive BuiltinType
  | any
  | number
  | int
  | float
  | nan
  | string
  | boolean
  | array
  | function
  | object
  | date
  | null
  | none
deriving DecidableEq, Repr

namespace BuiltinType

/-- The built-in types, in the order in which they are listed. -/
def all : List BuiltinType :=
  [any, number, int, float, nan, string, boolean, array, function, object, date, null, none]

/-- The name of a built-in type. -/
def name : BuiltinType → String
  | any => "*"
  | number => "Number"
  | int => "Int"
  | float => "Float"
  | nan => "NaN"
  | string => "String"
  | boolean => "Boolean"
  | array => "Array"
  | function => "Function"
  | object => "Object"
  | date => "Date"
  | null => "Null"
  | none => "None"

/-- What a built-in type matches, in words. -/
def description : BuiltinType → String
  | any => "any value"
  | number | float => "int or float (not bool, not NaN)"
  | int => "int (not bool)"
  | nan => "float(\"nan\")"
  | string => "str"
  | boolean => "bool"
  | array => "list or tuple"
  | function => "any callable"
  | object => "any mapping"
  | date => "datetime.date / datetime.datetime"
  | null | none => "None"

/-- The built-in type of a name. -/
def ofName? (s : String) : Option BuiltinType := all.find? (·.name == s)

/-- Whether a value is an integer or a floating-point number; truth values and not-a-numbers
are none. -/
def isNumber (v : Value) : Bool :=
  match v.base with
  | .int _ => true
  | .real x _ => !x.isNaN
  | _ => false

/-- Whether a value is of a built-in type. -/
def accepts (g : Store) (v : Value) : BuiltinType → Bool
  | any => true
  | number | float => isNumber v
  | int => match v.base with
    | .int _ => true
    | _ => false
  | nan => match v.base with
    | .real x _ => x.isNaN
    | _ => false
  | string => v.str?.isSome
  | boolean => v.bool?.isSome
  | array => (g.items? v).isSome
  | function => g.isCallable v
  | object => g.isMapping v
  | date => match v.base with
    | .date _ | .datetime _ => true
    | _ => false
  | null | none => v == .null

end BuiltinType

namespace Pattern

/-- Whether a value matches the name of a type. -/
def nameAccepts (g : Store) (name : String) (v : Value) : Bool :=
  match BuiltinType.ofName? name with
  | some t => t.accepts g v
  | none => (g.classes v).contains name

variable {α : Type}

mutual

/-- Whether a value matches a tree, or the foreign thing that matching reached. -/
def eval (g : Store) : Pattern α → Value → Except α Bool
  | named name, v => .ok (nameAccepts g name v)
  | union options, v => evalAny g options v
  | arrayOf item, v =>
    match g.items? v with
    | none => .ok false
    | some xs => xs.allM fun x => item.eval g x
  | maybe inner, v => if v = .null then .ok true else inner.eval g v
  | foreign x, _ => .error x

/-- Whether a value matches one of some trees. -/
def evalAny (g : Store) : List (Pattern α) → Value → Except α Bool
  | [], _ => .ok false
  | p :: ps, v =>
    match p.eval g v with
    | .error x => .error x
    | .ok true => .ok true
    | .ok false => evalAny g ps v

end

end Pattern

/-- Whether a value matches a descriptor. -/
def Descriptor.matches (g : Store) (d : Descriptor) (v : Value) : Bool :=
  match d.eval g v with
  | .ok b => b
  | .error e => nomatch e

end Conformance
