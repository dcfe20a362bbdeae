import Conformance.Text.Columns

/-!
# Clusters

The parts of a text that are shown each in a place of its own, and that no line is broken
within: a character that takes columns, and what follows it and takes none. A joiner brings the
next character into the cluster, and a selector may make it wide.
-/

namespace Conformance

/-- Some characters shown in one place, and the number of columns they take. -/
structure Cluster where
  chars : List Char
  columns : Nat
deriving DecidableEq, Repr

namespace Cluster

/-- The cluster that a character begins. -/
def ofChar (c : Char) : Cluster := ⟨[c], Text.charColumns c⟩

/-- A cluster with further characters and further columns. -/
def extend (k : Cluster) (cs : List Char) (columns : Nat) : Cluster :=
  ⟨k.chars ++ cs, k.columns + columns⟩

end Cluster

namespace Text

/-- The clusters of a text that goes on after the beginning of one, in which a selector would
apply to the given character. -/
def clustersAfter (k : Cluster) (base : Option Char) : List Char → List Cluster
  | [] => [k]
  | c :: cs =>
    if c = joiner then
      match cs with
      | [] => [k.extend [c] 0]
      | d :: rest => clustersAfter (k.extend [c, d] 0) base rest
    else if c = selector then clustersAfter (k.extend [c] (addedColumns base)) none cs
    else if charColumns c = 0 then clustersAfter (k.extend [c] 0) base cs
    else k :: clustersAfter (.ofChar c) (some c) cs

/-- The clusters of a text. -/
def clusters : List Char → List Cluster
  | [] => []
  | c :: cs => clustersAfter (.ofChar c) (if charColumns c = 0 then none else some c) cs

end Text

end Conformance
