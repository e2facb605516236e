import Std.Time.DateTime.Timestamp
import Accessors.Cli.Execute

/-!
# The program

`accessorgen` runs on its working directory. The files below it, and the `go.mod` files of the
directories above it, are read into a tree of files; the command line runs on that tree
(`Accessors.Cli.execute`); its output and error output are written; and the changes it made to
the tree (`Accessors.Disk.changes`) are carried out on the file system. The exit status is the
command line's.

A file that cannot be read as text is in the tree with no text, and symbolic links to
directories are not followed.
-/

namespace Accessors.Cli

/-- The text of a file, empty when it cannot be read as text. -/
def readText (path : String) : IO String :=
  try IO.FS.readFile path catch _ => pure ""

/-- The entries below a directory, given by its path from the working directory, added to
`acc` by path from the working directory. -/
partial def loadBelow (acc : Array (String × DiskEntry)) (dir : String) : IO (Array (String × DiskEntry)) := do
  let mut acc := acc
  for e in ← ((← IO.currentDir) / dir).readDir do
    let path := Disk.joinPath [dir, e.fileName]
    match (← e.path.symlinkMetadata).type with
    | .dir => acc ← loadBelow (acc.push (path, .dir)) path
    | .file => acc := acc.push (path, .file (← readText path))
    | .symlink =>
      if !(← e.path.isDir) then acc := acc.push (path, .file (← readText path))
    | .other => pure ()
  return acc

/-- The `go.mod` files of the directories above a directory, by absolute path. -/
def moduleFilesAbove (root : String) : IO (Array (String × DiskEntry)) := do
  let mut acc := #[]
  for dir in Disk.ancestors root do
    let path := Disk.joinPath [dir, "go.mod"]
    match ← (try some <$> IO.FS.readFile path catch _ => pure none) with
    | some text => acc := acc.push (path, .file text)
    | none => pure ()
  return acc

/-- **The tree of the working directory.** -/
def loadDisk : IO Disk := do
  let root := Disk.cleanPath (← IO.currentDir).toString
  let above ← moduleFilesAbove root
  let below ← loadBelow #[] "."
  return ⟨root, (above ++ below).toList⟩

/-- Carries out a change to the tree on the file system. -/
def applyChange : Disk.Change → IO Unit
  | .removeFile path => IO.FS.removeFile path
  | .removeTree path => IO.FS.removeDirAll path
  | .makeDir path => IO.FS.createDirAll path
  | .writeFile path text => IO.FS.writeFile path text

/-- **Runs the command line** on the working directory, at this moment. -/
def runHere (args : List String) : IO UInt32 := do
  let disk ← loadDisk
  let bytes ← IO.getRandomBytes 16
  let now ← Std.Time.Timestamp.now
  let inv := Invocation.atMoment (bytes.toList.map (·.toNat)) now.toNanosecondsSinceUnixEpoch.val
  let out := execute inv disk args
  IO.print out.out
  IO.eprint out.err
  for c in Disk.changes disk out.disk do
    applyChange c
  return out.exit.toUInt32

end Accessors.Cli

/-- The program: the command line run on the working directory. -/
def main (args : List String) : IO UInt32 := Accessors.Cli.runHere args
