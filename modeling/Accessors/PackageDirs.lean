import Accessors.Source.Directory

/-!
# Package directories

The directories a run works on are named by patterns: a directory, or a directory followed by
`/...` (or `...` alone, for the working directory) for it and every directory below it that
holds a hand-written Go file. Below such a root, directories whose name starts with `.` or `_`,
and those named `vendor`, `node_modules` or `testdata`, are not entered.

* No pattern means `./...`.
* A pattern whose root cannot be reached, or is a file, is an error naming the pattern.
* The directories are cleaned, each named once, and sorted.

Generated accessor files are the files named `zz_generated.*.accessors.go` directly in a
directory.

Main statements: vendored directories are not entered (`entered_vendor`).
-/

namespace Accessors.PackageDirs

/-- The suffix of the names of generated accessor files. -/
def generatedSuffix : String := ".accessors.go"

/-- Whether a file name is that of generated accessors. -/
def isGeneratedName (name : String) : Bool :=
  name.startsWith Source.generatedPrefix && name.endsWith generatedSuffix

/-- **Whether a directory below a root is entered**: its name is not hidden, not private, and
not one of the directories of vendored code, node modules or test data. -/
def entered (name : String) : Bool :=
  !name.startsWith "." && !name.startsWith "_" && !(["vendor", "node_modules", "testdata"].contains name)

/-- Whether a directory holds a hand-written Go file. -/
def hasSourceFiles (disk : Disk) (dir : String) : Bool :=
  (disk.children dir).any fun (name, e) =>
    match e with
    | .file _ => Source.isSourceFileName name
    | .dir => false

/-- The directories below a root key, as paths relative to it. -/
def below (disk : Disk) (rootKey : String) : List String :=
  disk.entries.filterMap fun (k, e) =>
    if e == .dir && Disk.isWithin k rootKey then
      some (if rootKey == "." then k else Disk.dropChars k (rootKey.length + 1))
    else none

/-- **The directories of a walk from a root** that hold hand-written Go files: the root, and the
directories below it reached through entered directories only. -/
def walk (disk : Disk) (root : String) : List String :=
  let inner := (below disk (disk.key root)).filter fun rel => (Text.splitOn rel "/").all entered
  (root :: inner.map fun rel => Disk.joinPath [root, rel]).filter (hasSourceFiles disk)

/-- The root of a pattern and whether it is walked. -/
def rootOf (pattern : String) : String × Bool :=
  if pattern == "..." then (".", true)
  else
    let (root, recursive) :=
      match Text.dropPrefix? "/...".toList.reverse pattern.toList.reverse with
      | some rest => (String.ofList rest.reverse, true)
      | none => (pattern, false)
    (if root.isEmpty then "." else root, recursive)

/-- The directories one pattern names. -/
def expandOne (disk : Disk) (pattern : String) : Except Error (List String) := do
  let (root, recursive) := rootOf pattern
  match disk.stat root with
  | .error e => throw (.wrapped ("cannot scan " ++ pattern ++ ": " ++ e.text) e.toError)
  | .ok (.file _) => throw (.plain ("cannot scan " ++ pattern ++ ": not a directory"))
  | .ok .dir => return if recursive then walk disk root else [root]

/-- **The directories patterns name**, cleaned, each once, sorted; no pattern means `./...`. -/
def expand (disk : Disk) (patterns : List String) : Except Error (List String) := do
  let patterns := if patterns.isEmpty then ["./..."] else patterns
  let dirs ← patterns.foldlM (fun acc p => (acc ++ ·) <$> expandOne disk p) []
  return (dirs.map Disk.cleanPath).eraseDups.mergeSort fun a b => decide (a ≤ b)

/-- **The generated accessor files** directly in a directory, by name. -/
def generatedFiles (disk : Disk) (dir : String) : Except DiskError (List String) := do
  let entries ← disk.readDir dir
  return entries.filterMap fun (name, e) =>
    match e with
    | .file _ => if isGeneratedName name then some (Disk.joinPath [dir, name]) else none
    | .dir => none

/-- **The package directories of a run**, as absolute paths. -/
def scan (disk : Disk) (patterns : List String) : Except Error (List String) :=
  match expand disk patterns with
  | .ok dirs => .ok (dirs.map disk.absPath)
  | .error e =>
    .error ((Error.wrap ErrorCode.fileSystem "failed to scan directories" (some e)).withSuggestions
      ["check that the specified directories exist"])

/-- The generated accessor files of a package directory, a failure reported as a file system
error. -/
def generatedIn (disk : Disk) (dir : String) : Except Error (List String) :=
  (generatedFiles disk dir).mapError fun e => Error.fileSystem "read directory" dir (some e.toError)

/-- Vendored directories are not entered. -/
theorem entered_vendor : entered "vendor" = false := by
  decide +kernel

end Accessors.PackageDirs
