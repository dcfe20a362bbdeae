/-!
# Paths and files

A path is the names between its slashes; empty names and single points count for nothing, so a
path has one text, while two points are kept, since they go up from wherever the names before
them lead. A tree of files says what a path names: a directory, a file whose bytes are a text or
are none, a file that may not be opened, or nothing.

A name and a whole path have a greatest length, beyond which they cannot name anything.
-/

namespace Conformance

/-- A path: what it begins with, which is empty for a relative one, and its names. -/
structure FilePath where
  root : String
  names : List String
deriving DecidableEq, Repr, Inhabited

namespace FilePath

/-- The name of the directory above. -/
def up : String := ".."

/-- The path with a given text. Two slashes at the beginning are kept apart from one. -/
def ofString (s : String) : FilePath :=
  let cs := s.toList
  let slashes := (cs.takeWhile (· = '/')).length
  let names := (cs.splitOn '/').map String.ofList
  { root := if slashes = 0 then "" else if slashes = 2 then "//" else "/"
    names := names.filter fun n => n ≠ "" ∧ n ≠ "." }

/-- The text of a path. -/
def text (p : FilePath) : String :=
  if p.root = "" ∧ p.names = [] then "." else p.root ++ "/".intercalate p.names

/-- The greatest number of bytes of a name. -/
def nameLimit : Nat := 255

/-- The least number of bytes that no path has. -/
def pathLimit : Nat := 4096

/-- A name without its extension. The extension begins at the last point, but a point at the
beginning or the end of a name begins none. -/
def stemOfName (name : String) : String :=
  let cs := name.toList
  let extension := (cs.reverse.takeWhile (· ≠ '.')).length
  let length := cs.length - extension - 1
  if extension = 0 ∨ cs.length ≤ extension + 1 then name else String.ofList (cs.take length)

/-- The last name of a path without its extension. -/
def stem (p : FilePath) : String := stemOfName (p.names.getLastD "")

end FilePath

/-- What a path names. -/
inductive FileEntry
  | missing
  | directory
  /-- A file that is there and may not be opened. -/
  | denied
  | text (s : String)
  /-- The path, or a name on the way, is too long. -/
  | tooLong
  /-- A file whose bytes are not a text, with the text that its leading blocks make up. -/
  | binary (readable : String)
deriving DecidableEq, Repr, Inhabited

namespace FileEntry

/-- How many bytes of a file are read at once. -/
def blockSize : Nat := 8192

/-- The characters of some bytes from a place on, each with the place after it, up to one that
cannot be decoded; the number bounds them. -/
def decoded (bytes : ByteArray) (place : Nat) : Nat → List (Char × Nat)
  | 0 => []
  | n + 1 =>
    match bytes.utf8DecodeChar? place with
    | none => []
    | some c => (c, place + c.utf8Size) :: decoded bytes (place + c.utf8Size) n

/-- The text of the blocks in front of the one that cannot be decoded. -/
def readable (bytes : ByteArray) : String :=
  let cs := decoded bytes 0 bytes.size
  let place := (cs.getLast?.map Prod.snd).getD 0
  let limit := place / blockSize * blockSize
  String.ofList ((cs.takeWhile (·.2 ≤ limit)).map Prod.fst)

/-- A file with some bytes. -/
def ofBytes (bytes : ByteArray) : FileEntry :=
  match String.fromUTF8? bytes with
  | some s => .text s
  | none => .binary (readable bytes)

end FileEntry

/-- Where files are looked up. -/
abbrev Files := FilePath → FileEntry

/-- Files and empty directories by their names below one directory. -/
abbrev FileTree := List (List String × FileEntry)

namespace FileTree

/-- The entry under some names: a file or directory of this name, or a directory above one. -/
def entry (t : FileTree) (names : List String) : FileEntry :=
  match t.reverse.lookup names with
  | some e => e
  | none => if t.any fun (ns, _) => names.isPrefixOf ns then .directory else .missing

/-- What names lead to from a directory. Above the directory of the tree nothing is known but
the directories above it. -/
def walk (t : FileTree) (here : List String) : List String → FileEntry
  | [] => .directory
  | name :: rest =>
    if name = FilePath.up then
      if here = [] then (if rest.all (· = FilePath.up) then .directory else .missing)
      else walk t here.dropLast rest
    else if FilePath.nameLimit < name.utf8ByteSize then .tooLong
    else
      match t.entry (here ++ [name]) with
      | .directory => walk t (here ++ [name]) rest
      | e => if rest = [] then e else .missing

/-- What a path names. Of the paths that are not relative only the root is known. -/
def files (t : FileTree) : Files := fun p =>
  if FilePath.pathLimit ≤ p.text.utf8ByteSize then .tooLong
  else if p.root = "" then t.walk [] p.names
  else
    match p.names with
    | [] => .directory
    | name :: _ => if FilePath.nameLimit < name.utf8ByteSize then .tooLong else .missing

end FileTree

end Conformance
