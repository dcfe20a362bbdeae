import Conformance.Descriptor.Parser
import Conformance.Marker.Basic

/-!
# Compiled schemas

A schema is compiled once into a tree: an object node has a name and a child for each of its
keys, in order, a leaf has a descriptor together with the text it was read from, and a marker
stands for itself.
-/

namespace Conformance

/-- A node of a compiled schema. -/
inductive Schema
  | object (name : Value) (children : List (Value × Schema))
  | leaf (source : Value) (descriptor : Descriptor)
  | marker (m : Marker)
deriving Inhabited

/-- A compiled schema whose root is an object. -/
structure ObjectSchema where
  name : Value
  children : List (Value × Schema)
deriving Inhabited

namespace ObjectSchema

/-- The schema as a node. -/
def toSchema (s : ObjectSchema) : Schema := .object s.name s.children

/-- The keys of the children, in order. -/
def keys (s : ObjectSchema) : List Value := s.children.map Prod.fst

end ObjectSchema

namespace Schema

/-- The key of a mapping under which the name of its type stands. -/
def typeNameKey : String := "__typeName"

/-- The name of an object node that has none. -/
def unknownTypeName : String := "Type (unknown or not defined)"

end Schema

end Conformance
