import SpendingLedger.Disk.Path
import SpendingLedger.Disk.Utf8

/-!
# Files and directories

The files and directories that a run can see, as a map from locations.  A location has an entry only
below directories.  Each operation gives the disk after it or the reason why it failed; beside what
is on the disk that reason can be the device, which may have no room left or be broken.

## Main definitions

* `Content`, `Node`, `Hazard`, `Disk` — what a file holds, what is at a location, what the device
  does not do, and the whole.
* `Disk.readText` — the text of a file.
* `Disk.makeDirectory`, `Disk.writeFile`, `Disk.rename`, `Disk.removeFile` — the changes.
* `Disk.replaceFile` — a file replaced as a whole or not at all.
-/

namespace SpendingLedger

/-- What a file holds: a text that was written, or bytes of any kind. -/
inductive Content
  | text (s : String)
  | bytes (bs : List UInt8)
  deriving DecidableEq

/-- The text of a file's content. -/
def Content.decode : Content → Except Utf8.Error String
  | .text s => .ok s
  | .bytes bs => Utf8.decode bs

/-- What is at a location. -/
inductive Node
  | file (content : Content)
  | directory
  deriving DecidableEq

/-- Something that the device does not do, whatever is on the disk. -/
inductive Hazard
  | makeDirectory (l : Location)
  | openFile (l : Location)
  /-- The writing of a file stops after so many characters. -/
  | writeFile (l : Location) (after : Nat)
  | rename (source target : Location)
  deriving DecidableEq

/-- Files and directories by location, on a device that does all but `hazards`. -/
structure Disk where
  entries : List (Location × Node) := []
  hazards : List Hazard := []
  deriving DecidableEq

/-- Why an operation on a file fails. -/
inductive FileError
  | notFound
  | isDirectory
  | notDirectory
  | alreadyExists
  /-- A name or a path is too long. -/
  | nameTooLong
  /-- The device does not do it. -/
  | device
  deriving DecidableEq

/-- `cs` with a line feed in place of each line end of another kind. -/
def unifyLineEnds : List Char → List Char
  | [] => []
  | '\r' :: '\n' :: cs => '\n' :: unifyLineEnds cs
  | c :: cs => (if c = '\r' then '\n' else c) :: unifyLineEnds cs

namespace Disk

/-- What is at a location; the root is a directory. -/
def node? (d : Disk) (l : Location) : Option Node :=
  if l = [] then some .directory else d.entries.lookup l

/-- Entries with a node put at a location, in the place of the one that is there. -/
def setEntry (l : Location) (n : Node) : List (Location × Node) → List (Location × Node)
  | [] => [(l, n)]
  | e :: rest => if e.1 = l then (l, n) :: rest else e :: setEntry l n rest

/-- The disk with a node put at a location. -/
def set (d : Disk) (l : Location) (n : Node) : Disk :=
  { d with entries := setEntry l n d.entries }

/-- The disk with nothing at a location. -/
def erase (d : Disk) (l : Location) : Disk :=
  { d with entries := d.entries.filter (·.1 ≠ l) }

theorem lookup_entry_cons (l place : Location) (n : Node) (es : List (Location × Node)) :
    List.lookup l ((place, n) :: es) = if l = place then some n else es.lookup l := by
  rw [List.lookup_cons]
  by_cases h : l = place
  · simp [h]
  · rw [show (l == place) = false by simpa using h]
    simp [h]

theorem lookup_setEntry (l other : Location) (n : Node) (es : List (Location × Node)) :
    (setEntry l n es).lookup other = if other = l then some n else es.lookup other := by
  induction es with
  | nil => rw [setEntry, lookup_entry_cons]
  | cons e rest ih =>
    obtain ⟨place, m⟩ := e
    by_cases h : place = l
    · simp only [setEntry, h, if_true, lookup_entry_cons]
      split <;> rfl
    · simp only [setEntry, h, if_false, lookup_entry_cons, ih]
      by_cases h' : other = place <;> simp [h', h]

/-- A node that is put at a location is there, and every other location keeps what it has. -/
theorem node?_set (d : Disk) (l other : Location) (n : Node) (h : l ≠ []) :
    (d.set l n).node? other = if other = l then some n else d.node? other := by
  unfold node? set
  by_cases h' : other = []
  · subst h'
    simp [Ne.symm h]
  · simp [h', lookup_setEntry]

theorem lookup_filter_ne (l other : Location) (es : List (Location × Node)) :
    (es.filter (·.1 ≠ l)).lookup other = if other = l then none else es.lookup other := by
  induction es with
  | nil => simp
  | cons e rest ih =>
    obtain ⟨place, m⟩ := e
    by_cases h : place = l
    · rw [List.filter_cons_of_neg (by simpa using h), ih, lookup_entry_cons, h]
      split <;> rfl
    · rw [List.filter_cons_of_pos (by simpa using h), lookup_entry_cons, lookup_entry_cons, ih]
      by_cases h' : other = place <;> simp [h', h]

/-- Nothing is at a location that is erased, and every other location keeps what it has. -/
theorem node?_erase (d : Disk) (l other : Location) (h : l ≠ []) :
    (d.erase l).node? other = if other = l then none else d.node? other := by
  unfold node? erase
  by_cases h' : other = []
  · subst h'
    simp [Ne.symm h]
  · simpa [h'] using lookup_filter_ne l other d.entries

/-- Whether a file stands where a directory above `l` should be. -/
def blocked (d : Disk) (l : Location) : Bool :=
  (List.range l.length).any fun n => match d.node? (l.take n) with
    | some (.file _) => true
    | _ => false

/-- The location reached from `l` by following names through directories that are there.  A name is
looked up only in such a directory. -/
def follow (d : Disk) (l : Location) : List String → Except FileError Location
  | [] => .ok l
  | n :: rest => match d.node? l with
    | some .directory =>
      if isLongName n then .error .nameTooLong
      else d.follow (if n = ".." then l.dropLast else l ++ [n]) rest
    | some (.file _) => .error .notDirectory
    | none => .error .notFound

/-- Why there is nothing at `l`. -/
def absence (d : Disk) (l : Location) : FileError :=
  if isLongPath l.text then .nameTooLong
  else match d.follow [] l with
    | .error e => e
    | .ok _ => .notFound

/-! ### Reading -/

/-- Why a file has no text to read. -/
inductive ReadError
  | file (e : FileError)
  | undecodable (e : Utf8.Error)
  deriving DecidableEq

/-- The text of a file, with line feeds for line ends. -/
def readText (d : Disk) (l : Location) : Except ReadError String :=
  match d.node? l with
  | none => .error (.file (d.absence l))
  | some .directory => .error (.file .isDirectory)
  | some (.file content) => match content.decode with
    | .error e => .error (.undecodable e)
    | .ok s => .ok (String.ofList (unifyLineEnds s.toList))

/-- The location of a path in the working directory `cwd`, found by following its names. -/
def locate (d : Disk) (cwd : Location) (p : Path) : Except FileError Location :=
  if isLongPath p.text then .error .nameTooLong
  else d.follow (if p.isAbsolute then [] else cwd) p.names

/-- Whether there is anything at a location. -/
def contains (d : Disk) (l : Location) : Bool := (d.node? l).isSome

/-- Whether there is anything at a location; of one with too long a name nothing is known. -/
def exists? (d : Disk) (l : Location) : Except FileError Bool :=
  if d.contains l then .ok true
  else if d.absence l = .nameTooLong then .error .nameTooLong
  else .ok false

/-! ### Changes -/

/-- The disk with a directory at each of the locations, up to the first that cannot be made; those
that are there are kept. -/
def addDirectories (d : Disk) : List Location → Disk × Option FileError
  | [] => (d, none)
  | l :: rest =>
    if d.contains l then d.addDirectories rest
    else if isLongName (l.getLast?.getD "") then (d, some .nameTooLong)
    else if Hazard.makeDirectory l ∈ d.hazards then (d, some .device)
    else (d.set l .directory).addDirectories rest

/-- The disk with a directory at `l` and above, and why that failed. -/
def makeDirectory (d : Disk) (l : Location) : Disk × Option FileError :=
  if isLongPath l.text then (d, some .nameTooLong)
  else if d.blocked l then (d, some .notDirectory)
  else match d.node? l with
    | some (.file _) => (d, some .alreadyExists)
    | _ => d.addDirectories ((List.range (l.length + 1)).map l.take)

/-- The disk with an empty file at `l`, in a directory that is there. -/
def openFile (d : Disk) (l : Location) : Except FileError Disk :=
  match d.node? l, d.node? l.parent with
  | some .directory, _ => .error .isDirectory
  | none, none => .error (d.absence l)
  | none, some (.file _) => .error (d.absence l)
  | _, _ =>
    if isLongPath l.text || isLongName (l.getLast?.getD "") then .error .nameTooLong
    else if Hazard.openFile l ∈ d.hazards then .error .device
    else .ok (d.set l (.file (.text "")))

/-- After how many characters the writing of the file at `l` stops, if it does. -/
def stopsAfter? (d : Disk) (l : Location) : Option Nat :=
  d.hazards.findSome? fun
    | .writeFile l' n => if l' = l then some n else none
    | _ => none

/-- The disk with a file of the given text at `l`, or with what was written of it before that
failed. -/
def writeFile (d : Disk) (l : Location) (text : String) : Disk × Option FileError :=
  match d.openFile l with
  | .error e => (d, some e)
  | .ok opened => match d.stopsAfter? l with
    | some n => (opened.set l (.file (.text (String.ofList (text.toList.take n)))), some .device)
    | none => (opened.set l (.file (.text text)), none)

/-- The disk with the file at `source` moved to `target`, in the place of a file there. -/
def rename (d : Disk) (source target : Location) : Except FileError Disk :=
  match d.node? source, d.node? target with
  | none, _ => .error (d.absence source)
  | some _, some .directory => .error .isDirectory
  | some n, _ =>
    if Hazard.rename source target ∈ d.hazards then .error .device
    else .ok ((d.erase source).set target n)

/-- The disk without the file at `l`, if there is one. -/
def removeFile (d : Disk) (l : Location) : Disk :=
  match d.node? l with
  | some (.file _) => d.erase l
  | _ => d

/-- The ending of the name of a file that is being written. -/
def draftEnding : String := ".tmp"

/-- The disk with the file at `l` replaced by one of the given text, and why that failed.  The text
is first written to a draft beside it, which is then moved into place; a draft that is left after a
failure is removed. -/
def replaceFile (d : Disk) (l : Location) (text : String) : Disk × Option FileError :=
  match d.makeDirectory l.parent with
  | (d₁, some e) => (d₁, some e)
  | (d₁, none) =>
    let draft := l.withEnding draftEnding
    match d₁.writeFile draft text with
    | (d₂, some e) => (d₂.removeFile draft, some e)
    | (d₂, none) => match d₂.rename draft l with
      | .error e => (d₂.removeFile draft, some e)
      | .ok d₃ => (d₃, none)

end Disk

end SpendingLedger
