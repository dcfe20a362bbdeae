import Conformance.Number.Shortest
import Conformance.Store.Basic
import Conformance.Text.Quoted

/-!
# The texts of values

Every value has a plain text, which messages show, and a written form, which shows how it is
made. The two differ for texts, dates, decimals and a few others; containers show the written
forms of their items. A container inside itself is shown as dots between its brackets. Dates,
times, sets and mappings that keep their order are shown with the name of their class, which is
that of the derived class for an instance of one.

Whatever shows an integer that is too long to be written has no text either.
-/

namespace Conformance

/-- Texts with a comma and a space between them. -/
def commaSeparated (texts : List String) : String := ", ".intercalate texts

/-- A name applied to arguments. -/
def applied (name : String) (arguments : List String) : String :=
  s!"{name}({commaSeparated arguments})"

/-- A record with its fields by name. -/
def recordText (name : String) (fields : List (String × String)) : String :=
  applied name (fields.map fun (field, text) => s!"{field}={text}")

/-- The written form of a tuple; a single item is followed by a comma. -/
def tupleText : List String → String
  | [text] => s!"({text},)"
  | texts => s!"({commaSeparated texts})"

/-- A text between braces. -/
def braced (s : String) : String := "\x7b" ++ s ++ "\x7d"

/-- The written form of a truth value. -/
def boolText (b : Bool) : String := if b then "True" else "False"

/-- The written form of an offset from universal time. -/
def offsetRepr (o : Int) : String :=
  if o = 0 then "datetime.timezone.utc"
  else
    let (days, seconds) := DateTime.offsetParts o
    let fields := (if days = 0 then [] else [("days", toString days)]) ++
      (if seconds = 0 then [] else [("seconds", toString seconds)])
    applied "datetime.timezone" [recordText "datetime.timedelta" fields]

/-- The arguments that show how a time is made. -/
def dateTimeArguments (t : DateTime) : List String :=
  t.arguments.map toString ++ (t.offset.map fun o => s!"tzinfo={offsetRepr o}").toList

/-- The written form of a value that is no reference. -/
def Value.atomRepr? (v : Value) : Option String :=
  match v.base with
  | .null => some "None"
  | .bool b => some (boolText b)
  | .int n => Number.intText? n
  | .real x _ => some x.text
  | .decimal d _ => some s!"Decimal('{d.text}')"
  | .str s => some (Text.quote s)
  | .illFormed points => some (Text.quotePoints points)
  | .bytes bs => some (Text.quoteBytes bs)
  | .date d => some (applied (v.nameOr "datetime.date") (d.arguments.map toString))
  | .datetime t => some (applied (v.nameOr "datetime.datetime") (dateTimeArguments t))
  | .range a b c =>
    (([a, b] ++ if c = 1 then [] else [c]).mapM Number.intText?).map (applied "range")
  | .builtin (.function n) => some s!"<built-in function {n}>"
  | .builtin (.cls n _) => some s!"<class '{n}'>"
  | .builtin (.combinator n) => some s!"<function {n}>"
  | .ref _ | .derived .. => some ""

mutual

/-- The written form of a descriptor. -/
def Descriptor.repr : Descriptor → String
  | .named name => recordText "Primitive" [("name", Text.quote name)]
  | .union options => recordText "Union" [("options", tupleText (Descriptor.reprs options))]
  | .arrayOf item => recordText "ArrayOf" [("item", Descriptor.repr item)]
  | .maybe inner => recordText "Maybe" [("inner", Descriptor.repr inner)]

/-- The written forms of some descriptors. -/
def Descriptor.reprs : List Descriptor → List String
  | [] => []
  | d :: ds => Descriptor.repr d :: Descriptor.reprs ds

end

/-- The name of the class of a set. -/
def setName (frozen : Bool) : String := if frozen then "frozenset" else "set"

section With

variable (form : Value → Option String)

/-- The written form of a mapping's entries, given that of values. -/
def entriesText (es : Entries) : Option String := do
  let texts ← es.mapM fun (k, v) => return s!"{← form k}: {← form v}"
  return braced (commaSeparated texts)

/-- The written form of a marker. -/
def Marker.reprWith : Marker → Option String
  | .equal vs => return recordText "EqualMarker" [("values", tupleText (← vs.mapM form))]
  | .promise => some (recordText "PromiseMarker" [])
  | .unknown kind => return recordText "UnknownMarker" [("kind", ← form kind)]

mutual

/-- The written form of a schema node. -/
def Schema.reprWith : Schema → Option String
  | .object name children => do
    let name ← form name
    let children ← childTexts children
    return recordText "ObjectSchema" [("name", name),
      ("children", applied "mappingproxy" [braced (commaSeparated children)])]
  | .leaf source d =>
    return recordText "LeafSchema" [("source", ← form source), ("descriptor", d.repr)]
  | .marker m => m.reprWith form

/-- The written forms of some children. -/
def childTexts : List (Value × Schema) → Option (List String)
  | [] => some []
  | (k, s) :: rest => do
    let key ← form k
    let node ← s.reprWith
    return s!"{key}: {node}" :: (← childTexts rest)

end

/-- The written form of options. -/
def Options.reprWith (o : Options) : Option String :=
  return recordText "ValidationOptions" [("strict", ← form o.strict), ("fatal", ← form o.fatal)]

/-- The written form of a violation. -/
def Violation.reprWith (v : Violation) : Option String :=
  return recordText "Violation"
    [("kind", s!"<{v.kind.memberName}: '{v.kind.name}'>"),
      ("type_name", ← form v.typeName), ("message", Text.quotePoints v.message.codes),
      ("key", ← form v.key), ("expected", ← form v.expected),
      ("actual", ← form v.actualValue), ("path", Text.quotePoints v.path.codes)]

/-- The written form of the object that a value refers to, given that of the values in it. -/
def Object.reprWith (v : Value) : Object → Option String
  | .list xs => return s!"[{commaSeparated (← xs.mapM form)}]"
  | .tuple xs => return tupleText (← xs.mapM form)
  | .set frozen xs => do
    let items := braced (commaSeparated (← xs.mapM form))
    let isUsual := !frozen && v.derivedNames.isEmpty
    return if isUsual && !xs.isEmpty then items
      else applied (v.nameOr (setName frozen)) (if xs.isEmpty then [] else [items])
  | .mapping .plain es => entriesText form es
  | .mapping .wrapper es => entriesText form es
  | .mapping .ordered es => do
    let texts ← es.mapM fun (k, x) => return tupleText [← form k, ← form x]
    let pairs := if es.isEmpty then [] else [s!"[{commaSeparated texts}]"]
    return applied (v.nameOr "OrderedDict") pairs
  | .mapping .readOnly es => return applied "mappingproxy" [← entriesText form es]
  | .inst i => some i.repr
  | .coroutine => some "<coroutine object>"
  | .marker m => m.reprWith form
  | .schema s => s.reprWith form
  | .options o => o.reprWith form
  | .violation w => w.reprWith form
  | .report typeName violations =>
    return recordText "ValidationReport"
      [("type_name", ← form typeName), ("violations", ← form violations)]
  | .validator _ => some "<validator>"
  | .descriptor d => some d.repr

end With

/-- What stands for the object that a value refers to inside itself. -/
def Object.cycleText (v : Value) : Object → String
  | .list _ => "[...]"
  | .tuple _ => "(...)"
  | .set frozen _ => applied (v.nameOr (setName frozen)) ["..."]
  | .mapping .plain _ => braced "..."
  | .mapping .wrapper _ => braced "..."
  | .mapping .readOnly _ => applied "mappingproxy" [braced "..."]
  | _ => "..."

namespace Store

/-- The written form of a value inside the objects passed so far. -/
def reprFrom (g : Store) (passed : List Ref) (v : Value) : Option String :=
  match v.base with
  | .ref r =>
    match _hr : g.objects[r]? with
    | none => some ""
    | some o =>
      if _hp : r ∈ passed then some (o.cycleText v)
      else o.reprWith (fun w => g.reprFrom (r :: passed) w) v
  | _ => v.atomRepr?
termination_by g.unvisited passed
decreasing_by exact unvisited_cons_lt (Array.getElem?_eq_some_iff.1 _hr).1 _hp

/-- The written form of a value. -/
def repr? (g : Store) (v : Value) : Option String := g.reprFrom [] v

/-- The plain text of a value. -/
def str? (g : Store) (v : Value) : Option Text :=
  match v.base with
  | .str s => some s
  | .illFormed points => some ⟨points⟩
  | .decimal d _ => some d.text
  | .date d => some d.iso
  | .datetime t => some (t.iso " ")
  | .ref r =>
    match g.objects[r]? with
    | some (.inst i) => some i.str
    | some (.mapping .readOnly es) => (entriesText (g.reprFrom [r]) es).map .ofString
    | some (.descriptor d) => some d.text
    | _ => (g.repr? v).map .ofString
  | _ => (g.repr? v).map .ofString

end Store

end Conformance
