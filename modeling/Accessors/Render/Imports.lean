import Accessors.Source.Package
import Accessors.Text.Quote

/-!
# Imports of a generated file

The imports a generated file may use, and the local names its code must write for them.

* A package is named by default after the last element of its path, skipping a major version
  element (`/v2`) and a major version suffix (`yaml.v3`), without a `go-` prefix or a `.go`
  suffix, with dashes and dots turned into underscores (`defaultPackageName`).
* The imports of the source file come first: each path once, each local name once, the later
  of two clashing imports dropped.
* Requiring a path gives the local name of its import when it is already imported, and
  otherwise imports it under its default name, or under the default name followed by the first
  number that makes it free.
* The import block lists standard library paths (whose first element has no dot) before the
  others, each group sorted by line, separated by a blank line.

Main statements: the search for a free name gives a name no import has, unless it runs out of
numbers (`freeName_fresh`).
-/

namespace Accessors.Render

/-- Whether a path element is a major version: `v` and digits. -/
def isMajorVersion (elem : String) : Bool :=
  match elem.toList with
  | 'v' :: d :: ds => (d :: ds).all Char.isDigit
  | _ => false

/-- **The default package name** of an import path. -/
def defaultPackageName (importPath : String) : String :=
  let elems := Text.splitOn importPath "/"
  let last := elems.getLastD ""
  let name := if elems.length > 1 && isMajorVersion last then elems.getD (elems.length - 2) "" else last
  let name := Text.trimPrefix (if name.isEmpty then "." else name) "go-"
  let name := Text.trimSuffix name ".go"
  let name := match Text.splitOn name "." with
    | base :: rest => if rest.isEmpty then name else
        if isMajorVersion (".".intercalate rest) then base else name
    | [] => name
  name.map fun c => if c == '-' || c == '.' then '_' else c

/-- Whether a path is in the standard library: its first element has no dot. -/
def isStandardLibrary (importPath : String) : Bool :=
  !((Text.splitOn importPath "/").headD "").contains '.'

/-- **The imports of a generated file**: local names with their paths, and paths with their
written alias (empty for the default name). -/
structure ImportSet where
  names : List (String × String)
  specs : List (String × String)
  deriving Repr, Inhabited

namespace ImportSet

/-- No imports. -/
def empty : ImportSet := ⟨[], []⟩

/-- Adds one import of the source file, unless its path or its local name is taken. -/
def addImport (im : ImportSet) (imp : SourceImport) : ImportSet :=
  if imp.path.isEmpty || (im.specs.lookup imp.path).isSome then im
  else
    let name := if imp.name.isEmpty then defaultPackageName imp.path else imp.name
    if (im.names.lookup name).isSome then im
    else ⟨im.names ++ [(name, imp.path)], im.specs ++ [(imp.path, imp.name)]⟩

/-- **Adds the imports** of a source file, in order. -/
def addImports (im : ImportSet) (imps : List SourceImport) : ImportSet := imps.foldl addImport im

/-- The first free name among `name`, `name1`, `name2`, ... trying `fuel` numbers. -/
def freeName (taken : List (String × String)) (name : String) : Nat → Nat → String
  | 0, _ => name
  | fuel + 1, i =>
    let candidate := name ++ toString i
    if (taken.lookup candidate).isSome then freeName taken name fuel (i + 1) else candidate

/-- The name a new import of a path gets. -/
def candidateFor (im : ImportSet) (importPath : String) : String :=
  let name := defaultPackageName importPath
  if (im.names.lookup name).isSome then freeName im.names name (im.names.length + 1) 1 else name

/-- **Requiring a path**: the local name generated code writes, and the imports after it. -/
def require (im : ImportSet) (importPath : String) : String × ImportSet :=
  match im.specs.lookup importPath with
  | some given => (if given.isEmpty then defaultPackageName importPath else given, im)
  | none =>
    let name := defaultPackageName importPath
    let candidate := im.candidateFor importPath
    (candidate, ⟨im.names ++ [(candidate, importPath)],
      im.specs ++ [(importPath, if candidate == name then "" else candidate)]⟩)

/-- The line of one import in the block. -/
def line (spec : String × String) : String :=
  (if spec.2.isEmpty then "" else spec.2 ++ " ") ++ Text.quote spec.1

/-- Lines sorted as bytes. -/
def sortLines (xs : List String) : List String := xs.mergeSort fun a b => decide (a ≤ b)

/-- **The import block**: empty when nothing is imported. -/
def block (im : ImportSet) : String :=
  if im.specs.isEmpty then "" else
  let std := sortLines ((im.specs.filter (isStandardLibrary ·.1)).map line)
  let ext := sortLines ((im.specs.filter (!isStandardLibrary ·.1)).map line)
  let body := (std.map fun l => "\t" ++ l ++ "\n") ++
    (if !std.isEmpty && !ext.isEmpty then ["\n"] else []) ++ ext.map fun l => "\t" ++ l ++ "\n"
  "import (\n" ++ String.join body ++ ")\n"

/-- The free-name search gives a name not taken, or runs out of numbers. -/
theorem freeName_fresh (taken : List (String × String)) (name : String) :
    ∀ (fuel i : Nat), (taken.lookup (freeName taken name fuel i)).isNone ∨ freeName taken name fuel i = name
  | 0, _ => Or.inr rfl
  | fuel + 1, i => by
    simp only [freeName]
    by_cases h : (taken.lookup (name ++ toString i)).isSome = true
    · rw [if_pos h]
      exact freeName_fresh taken name fuel (i + 1)
    · rw [if_neg h]
      left
      cases hl : taken.lookup (name ++ toString i) with
      | none => rfl
      | some _ => rw [hl] at h; exact absurd rfl h

end ImportSet

end Accessors.Render
