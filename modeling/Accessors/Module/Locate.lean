import Accessors.Module.ImportPath
import Accessors.Disk

/-!
# Locating a module

A module is a tree of packages under a directory holding a `go.mod` file, which declares the
module path. The import path of a package is the module path followed by the package's directory
relative to the module directory.

* The declared path is the first line that, without its `//` comment and outer blanks, starts
  with the word `module` followed by blanks and something else; a quoted path is unquoted, and a
  malformed quoted path declares none.
* Reading a module path fails when the file is not named `go.mod`, cannot be read, declares no
  path, or declares a malformed import path.
* The module of a directory is found at the nearest directory at or above it that holds a
  `go.mod` file (a directory of that name does not count); the search stops at the first such
  file, even one that cannot be read.
* A module path given by the user replaces the declared one; without a `go.mod` file the
  directory the search started from becomes the module directory.

Main statements: the declared path of a plain declaration (`declaredPath_plain`), and the import
path of the module directory itself is the module path (`importPath_root`).
-/

namespace Accessors.Module

/-- **A located module**: its path and the absolute directory that holds its `go.mod`. -/
structure GoModule where
  path : String
  dir : String
  deriving Repr, Inhabited, DecidableEq

/-- The text of a raw literal between back quotes, or none when it is not one. -/
def rawLiteral? (s : String) : Option String :=
  match s.toList with
  | '\x60' :: rest =>
    match rest.reverse with
    | '\x60' :: body => if body.contains '\x60' then none else some (String.ofList (body.reverse.filter (· != '\r')))
    | _ => none
  | _ => none

/-- The path a `module` line declares, from the text after the word: none when the word is not
followed by blanks and something else. -/
def lineDeclaration? (after : List Char) : Option String :=
  let t := Text.trimSpace (String.ofList after)
  if t.length == after.length || t.isEmpty then none
  else if t.startsWith "\"" then some ((Text.unquote? t).getD "")
  else if t.startsWith "`" then some ((rawLiteral? t).getD "")
  else some t

/-- **The module path a `go.mod` text declares**, empty when it declares none. -/
def declaredPath (content : String) : String :=
  let decl? := fun (line : String) =>
    let line := Text.trimSpace ((Text.splitOn line "//").headD "")
    (Text.dropPrefix? "module".toList line.toList).bind lineDeclaration?
  ((Text.splitOn content "\n").findSome? decl?).getD ""

/-- **Reads the module path** of a `go.mod` file. -/
def parseModuleName (disk : Disk) (goModPath : String) : Except Error String := do
  let clean := Disk.cleanPath goModPath
  if Disk.baseName clean != "go.mod" then
    throw (.plain ("file is not a go.mod file: " ++ goModPath))
  let content ← (disk.fileText clean).mapError fun e => .wrapped ("failed to read go.mod file: " ++ e.text) e.toError
  let path := declaredPath content
  if path.isEmpty then throw (.plain ("no module declaration found in " ++ clean))
  match checkImportPath path with
  | some f =>
    let inner : Error := .wrapped (malformedText path f) (.plain f.text)
    throw (.wrapped ("invalid module path in " ++ clean ++ ": " ++ inner.message) inner)
  | none => return path

/-- The directories from an absolute cleaned path up to the root of the file system. -/
def upward (abs : String) : List String :=
  let parts := (Text.splitOn abs "/").filter (· != "")
  (List.range (parts.length + 1)).reverse.map fun i => "/" ++ "/".intercalate (parts.take i)

/-- Whether a directory holds a `go.mod` file; a directory of that name does not count. -/
def holdsGoMod (disk : Disk) (dir : String) : Bool :=
  match disk.entry? (Disk.joinPath [dir, "go.mod"]) with
  | some (.file _) => true
  | _ => false

/-- **Finds the module of a directory**: the nearest `go.mod` file at or above it. -/
def findModule (disk : Disk) (startDir : String) : Except Error GoModule :=
  match (upward (disk.absPath startDir)).find? (holdsGoMod disk) with
  | some dir => (parseModuleName disk (Disk.joinPath [dir, "go.mod"])).map fun path => ⟨path, dir⟩
  | none => .error (.plain ("go.mod file not found above " ++ startDir))

/-- **The import path of a package directory** of the module; a directory outside it has none. -/
def GoModule.importPath (m : GoModule) (disk : Disk) (dir : String) : Except Error String :=
  let rel := Disk.relPath m.dir (disk.absPath dir)
  if rel == ".." || rel.startsWith "../" then
    .error (.plain ("directory " ++ dir ++ " is outside module " ++ m.path ++ " (" ++ m.dir ++ ")"))
  else if rel == "." then .ok m.path
  else .ok (m.path ++ "/" ++ rel)

/-- **Resolves the module** of a run from the directory `startDir` (the working directory when
empty), with a module path given by the user replacing the declared one when not empty. -/
def resolve (disk : Disk) (custom startDir : String) : Except Error GoModule := do
  let startDir := if startDir.isEmpty then disk.root else startDir
  let found := findModule disk startDir
  if custom.isEmpty then
    found.mapError fun e =>
      .wrapped ("failed to determine module name: " ++ e.message ++ " (consider using --module flag)") e
  else
    match checkImportPath custom with
    | some f =>
      let inner : Error := .wrapped (malformedText custom f) (.plain f.text)
      throw (.wrapped ("invalid module path " ++ Text.quote custom ++ ": " ++ inner.message) inner)
    | none =>
      match found with
      | .ok m => return { m with path := custom }
      | .error _ => return ⟨custom, disk.absPath startDir⟩

/-- The import path of a package directory, the failure naming the directory. -/
def GoModule.packagePath (m : GoModule) (disk : Disk) (dir : String) : Except Error String :=
  (m.importPath disk dir).mapError fun e =>
    .wrapped ("failed to build import path for " ++ dir ++ ": " ++ e.message) e

/-- The declared path of a plain declaration. -/
theorem declaredPath_plain : declaredPath "module example.com/app\n\ngo 1.22\n" = "example.com/app" := by
  decide +kernel

/-- The import path of the module directory itself is the module path. -/
theorem importPath_root : (GoModule.importPath ⟨"m", "/r"⟩ (Disk.atRoot "/r") ".").toOption = some "m" := by
  decide +kernel

end Accessors.Module
