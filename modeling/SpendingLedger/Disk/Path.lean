import SpendingLedger.Text.Space

/-!
# Paths

A path is written as names between slashes.  It is absolute when it begins with a slash, and
otherwise starts from the working directory.  A location is a path from the root of the file system
without `.` and `..`.  The file system knows no names and paths beyond certain lengths.

## Main definitions

* `Location` — the names from the root to a file or directory.
* `Path`, `Path.ofText`, `Path.text` — paths as they are written.
* `isLongName`, `isLongPath` — names and paths that are too long.
* `Path.expandHome?` — a path with the home directory's path in place of a tilde.
* `Path.resolve` — the location of a path.
-/

namespace SpendingLedger

/-- The names from the root of the file system to a file or directory. -/
abbrev Location := List String

namespace Location

/-- The text of a location. -/
def text (l : Location) : String := "/" ++ String.intercalate "/" l

/-- The location of a file in a directory. -/
def child (l : Location) (name : String) : Location := l ++ [name]

/-- The directory of a location. -/
def parent (l : Location) : Location := l.dropLast

/-- The location beside `l` with `ending` added to its last name. -/
def withEnding (l : Location) (ending : String) : Location :=
  l.dropLast ++ [l.getLast?.getD "" ++ ending]

end Location

/-- The greatest number of bytes in a name. -/
def nameLimit : Nat := 255

/-- The number of bytes that no path has. -/
def pathLimit : Nat := 4096

/-- Whether a name is too long. -/
def isLongName (name : String) : Bool := nameLimit < name.utf8ByteSize

/-- Whether the text of a path is too long. -/
def isLongPath (text : String) : Bool := pathLimit ≤ text.utf8ByteSize

/-- Whether a text holds a zero character, which no path does. -/
def hasZeroCharacter (text : String) : Bool := text.toList.contains '\x00'

/-- A path as it is written, without empty names and those for the directory itself. -/
structure Path where
  /-- The slashes at its head: none, one, or two that are kept apart from one. -/
  slashes : Nat
  names : List String
  deriving DecidableEq

namespace Path

/-- Whether a path begins at the root. -/
def isAbsolute (p : Path) : Bool := 0 < p.slashes

/-- The slashes that count at the head of a text: more than two are as good as one. -/
def leadingSlashes (cs : List Char) : Nat :=
  let n := (cs.takeWhile (· == '/')).length
  if n ≤ 2 then n else 1

/-- The path that a text writes. -/
def ofText (s : String) : Path where
  slashes := leadingSlashes s.toList
  names := ((Text.pieces (· == '/') s.toList).map String.ofList).filter fun n => n ≠ "" ∧ n ≠ "."

/-- The text of a path. -/
def text (p : Path) : String :=
  let names := String.intercalate "/" p.names
  if p.isAbsolute then String.ofList (List.replicate p.slashes '/') ++ names
  else if p.names.isEmpty then "."
  else names

/-- A path with the home directory of a user in place of a tilde at its head, which stands before
the user's name; none when there is no such home. -/
def expandHome? (home : String → Option Path) (p : Path) : Option Path :=
  match p.names with
  | first :: rest =>
    if p.isAbsolute then some p
    else match first.toList with
      | '~' :: user => (home (String.ofList user)).map fun h => { h with names := h.names ++ rest }
      | _ => some p
  | [] => some p

/-- The location reached from `start` by following names, `..` to the directory above. -/
def follow (start : Location) (names : List String) : Location :=
  names.foldl (fun l n => if n = ".." then l.dropLast else l ++ [n]) start

/-- The location of a path in the working directory `cwd`. -/
def resolve (cwd : Location) (p : Path) : Location :=
  follow (if p.isAbsolute then [] else cwd) p.names

end Path

end SpendingLedger
