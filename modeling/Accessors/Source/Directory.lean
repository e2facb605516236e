import Accessors.Source.Package
import Accessors.Disk

/-!
# Packages of a directory

A directory holds one package: its hand-written Go files, that is the files named `*.go` that
are neither tests (`*_test.go`) nor generated accessors (`zz_generated.*`). Reading it

* fails when the directory cannot be listed, or when some such file has a syntax error (the
  first in name order is reported);
* fails when the files declare no package, or more than one (the names are listed sorted);
* otherwise gives the package of its files, leaving out files marked as generated: a comment
  before the package clause with a line `// Code generated <tool> DO NOT EDIT.`.

Files are named by joining the directory and the file name, so a relative directory gives
relative file names.

Main statements: a line of the generated mark is recognised (`generatedLine_mark`).
-/

namespace Accessors.Source

/-- The prefix of the names of generated accessor files. -/
def generatedPrefix : String := "zz_generated."

/-- **Whether a file name is a hand-written Go file**: a `.go` file that is neither a test nor
generated accessors. -/
def isSourceFileName (name : String) : Bool :=
  name.endsWith ".go" && !name.endsWith "_test.go" && !name.startsWith generatedPrefix

/-- Whether a line of a comment marks its file as generated. -/
def generatedLine (line : String) : Bool :=
  match Text.dropPrefix? "// Code generated ".toList line.toList with
  | some rest => Text.hasSuffix (String.ofList rest) " DO NOT EDIT."
  | none => false

/-- **Whether a file is marked as generated**: by a comment before its package clause. -/
def isGenerated (f : SourceFile) : Bool :=
  f.comments.any fun g => g.list.any fun (pos, text) =>
    pos < f.packagePos && Text.containsText text "// Code generated " &&
      (Text.splitOn text "\n").any generatedLine

/-- The failure of reading a directory, about the directory. -/
def directoryError (dir : String) (kind : Int) (msg : String) (cause : Option Error) : Error :=
  .model kind dir 0 msg cause

/-- **Reads the package of a directory.** -/
def parseDirectory (disk : Disk) (dir : String) : Except Error PackageInfo := do
  let entries ← (disk.readDir dir).mapError fun e =>
    directoryError dir 0 "failed to parse directory" (some e.toError)
  let names := entries.filterMap fun (name, e) =>
    match e with
    | .file text => if isSourceFileName name then some (Disk.joinPath [dir, name], text) else none
    | .dir => none
  let parsed := names.map fun (path, text) => parseFile path text
  if let some msg := parsed.findSome? (fun r => match r with | .error m => some m | .ok _ => none) then
    throw (directoryError dir 0 "failed to parse directory" (some (.plain msg)))
  let files := parsed.filterMap fun r => r.toOption
  let packages := (files.map (·.file.packageName)).eraseDups.mergeSort fun a b => decide (a ≤ b)
  match packages with
  | [] => throw (directoryError dir 1 "no Go packages found in directory" none)
  | [name] => return collect name dir (files.filter fun f => !isGenerated f.file)
  | _ => throw (directoryError dir 1 ("multiple packages found in directory: " ++ ", ".intercalate packages) none)

/-- A line of the generated mark is recognised. -/
theorem generatedLine_mark : generatedLine "// Code generated by hand. DO NOT EDIT." = true := by
  decide +kernel

end Accessors.Source
