/-!
# Descriptors

A descriptor says which type a leaf value has. It names a type, joins descriptors as
alternatives, asks for an array whose items all match one descriptor, or allows a value to be
missing. `Pattern α` is the same tree with foreign matter of type `α` allowed in any place;
a `Descriptor` is a pattern without any.
-/

namespace Conformance

/-- A tree of the descriptor grammar in which things of type `α` may stand in for subtrees. -/
inductive Pattern (α : Type)
  | named (name : String)
  | union (options : List (Pattern α))
  | arrayOf (item : Pattern α)
  | maybe (inner : Pattern α)
  | foreign (x : α)
deriving Inhabited

/-- A tree of the descriptor grammar. -/
abbrev Descriptor := Pattern Empty

namespace Pattern

variable {α : Type}

/-- The keyword in front of a descriptor whose value may be missing. -/
def maybeKeyword : String := "Maybe"

/-- What stands between the options of a union. -/
def separator : String := " | "

mutual

/-- The text of a tree, given the text of foreign matter. No brackets are written around the
options of a union, so the text of one inside another tree may read back differently. -/
def textWith (foreignText : α → String) : Pattern α → String
  | named name => name
  | union options => separator.intercalate (textsWith foreignText options)
  | arrayOf item => "[" ++ item.textWith foreignText ++ "]"
  | maybe inner => maybeKeyword ++ " " ++ inner.textWith foreignText
  | foreign x => foreignText x

/-- The texts of some trees. -/
def textsWith (foreignText : α → String) : List (Pattern α) → List String
  | [] => []
  | p :: ps => p.textWith foreignText :: textsWith foreignText ps

end

mutual

/-- Whether two trees are the same, given when foreign things are. -/
def sameBy (same : α → α → Bool) : Pattern α → Pattern α → Bool
  | named a, named b => a == b
  | union ps, union qs => sameListBy same ps qs
  | arrayOf p, arrayOf q => p.sameBy same q
  | maybe p, maybe q => p.sameBy same q
  | foreign x, foreign y => same x y
  | _, _ => false

/-- Whether two lists of trees are the same. -/
def sameListBy (same : α → α → Bool) : List (Pattern α) → List (Pattern α) → Bool
  | [], [] => true
  | p :: ps, q :: qs => p.sameBy same q && sameListBy same ps qs
  | _, _ => false

end

end Pattern

/-- The text of a descriptor. -/
def Descriptor.text (d : Descriptor) : String := d.textWith nofun

/-- Whether two descriptors are the same tree. -/
def Descriptor.same (d e : Descriptor) : Bool := d.sameBy (fun _ _ => true) e

end Conformance
