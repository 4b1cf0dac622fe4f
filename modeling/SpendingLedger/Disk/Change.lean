import SpendingLedger.Disk.Tree

/-!
# Changes of a disk

What has to be done to bring the files and directories from one state to another.
-/

namespace SpendingLedger.Disk

/-- A difference between two states. -/
inductive Change
  | makeDirectory (l : Location)
  | writeFile (l : Location) (content : Content)
  | remove (l : Location)
  deriving DecidableEq

/-- The change that puts a node at a location. -/
def Change.put (l : Location) : Node → Change
  | .directory => .makeDirectory l
  | .file content => .writeFile l content

/-- What leads from `before` to `after`: what is new or different, in order, and then what is
gone. -/
def changes (before after : Disk) : List Change :=
  (after.entries.filter fun e => before.node? e.1 ≠ some e.2).map (fun e => Change.put e.1 e.2)
    ++ (before.entries.filter fun e => !after.contains e.1).map fun e => .remove e.1

end SpendingLedger.Disk
