import Accessors.Yaml.Bind
import Accessors.Disk
import Accessors.Error.Basic
import Accessors.Module.ImportPath

/-!
# Configuration

A run is configured by a YAML file, `accessorgen.yaml` by default:

* `directories` to scan (a trailing `/...` scans recursively), by default `./...`;
* `module`, the module path that overrides the one of `go.mod`;
* `generatedFilesDirectory`, which receives the class map, by default `.accessorgen`;
* `methodAnnotationsMap`, from method tags to operations, which replaces the default map
  (`Get`, `Set`, `Add`, `Remove`, `Contains` to their operations) entirely;
* `workers`, the number of classes generated at once, by default 4;
* `runtimeImport`, the import path of the runtime package generated code uses.

The file is read strictly: unknown keys and repeated keys are errors. Values left unset get
their defaults. **Validation** then checks, in this order, that there is a directory, that the
generated files directory is not blank, that the workers are between 1 and 256, that the map
has a tag, that the runtime import is empty or a valid import path, and for every tag in order
that it is a name and its operation one of `get`, `set`, `add`, `remove`, `contains`.

Main statements: the tags of the default map are names (`validTag_default`).
-/

namespace Accessors

/-- **A configuration**: the settings of the file, and the verbosity flags of the command
line. A map that was never set is none. -/
structure Config where
  directories : List String
  module : String
  generatedDir : String
  methodMap : Option (List (String × String))
  workers : Int
  runtime : String
  verbose : Bool
  quiet : Bool
  deriving Repr, Inhabited

namespace Config

/-- The file read when no configuration file is named and it exists. -/
def defaultFile : String := "accessorgen.yaml"

/-- The default directory of generated files. -/
def defaultGeneratedDir : String := ".accessorgen"

/-- The most workers a run may use. -/
def maxWorkers : Int := 256

/-- The default number of workers: the processors available. -/
def defaultWorkers : Int := 4

/-- The name of the class map file in the generated files directory. -/
def classMapFileName : String := "_classMap.yaml"

/-- The default map from method tags to operations. -/
def defaultMethodMap : List (String × String) :=
  [("Get", "get"), ("Set", "set"), ("Add", "add"), ("Remove", "remove"), ("Contains", "contains")]

/-- **The configuration used when nothing is configured.** -/
def standard : Config :=
  ⟨["./..."], "", defaultGeneratedDir, some defaultMethodMap, defaultWorkers, "", false, false⟩

/-- The shape of the configuration file. -/
def shape : Yaml.Shape :=
  .record "cli.Config" [("directories", .list .text), ("module", .text),
    ("generatedFilesDirectory", .text), ("methodAnnotationsMap", .dict .text), ("workers", .int),
    ("runtimeImport", .text)]

/-- The texts of a JSON list, none for null. -/
def textsOf (j : Json) : List String :=
  (j.arr?.getD []).map fun x => x.str?.getD ""

/-- **The configuration a decoded file sets**, everything else unset. -/
def ofJson (j : Json) : Config :=
  { directories := textsOf (j.get "directories"),
    module := (j.get "module").str?.getD "",
    generatedDir := (j.get "generatedFilesDirectory").str?.getD "",
    methodMap := (j.get "methodAnnotationsMap").obj?.map fun ms => ms.map fun (k, v) => (k, v.str?.getD ""),
    workers := (j.get "workers").int?.getD 0,
    runtime := (j.get "runtimeImport").str?.getD "",
    verbose := false, quiet := false }

/-- **Fills unset values with their defaults**: no directories, an empty generated files
directory, a map never set and zero workers. -/
def withDefaults (c : Config) : Config :=
  { c with
    directories := if c.directories.isEmpty then standard.directories else c.directories,
    generatedDir := if c.generatedDir.isEmpty then standard.generatedDir else c.generatedDir,
    methodMap := if c.methodMap.isNone then standard.methodMap else c.methodMap,
    workers := if c.workers == 0 then standard.workers else c.workers }

/-- The suggestion given with a file that cannot be read as a configuration. -/
def supportedKeysHint : String :=
  "supported keys: directories, module, generatedFilesDirectory, methodAnnotationsMap, workers, runtimeImport"

/-- **Loads a configuration file** from a tree of files; the empty path reads `accessorgen.yaml`
when it exists and gives the standard configuration otherwise. -/
def load (disk : Disk) (path : String) : Except Error Config :=
  if path.isEmpty && !disk.present defaultFile then .ok standard
  else
    let path := if path.isEmpty then defaultFile else path
    match disk.fileText path with
    | .error e => .error (Error.configuration path "read" (some e.toError))
    | .ok text =>
      match Yaml.readInto text shape true with
      | .error e => .error ((Error.configuration path "parse" (some (.plain e))).withSuggestions [supportedKeysHint])
      | .ok j => .ok (ofJson j).withDefaults

/-- The class map file of a configuration. -/
def classMapPath (c : Config) : String := Disk.joinPath [c.generatedDir, classMapFileName]

/-- **The diagnostic level** the flags ask for: errors only when quiet, verbose, or information. -/
def diagnosticLevel (c : Config) : Int :=
  if c.quiet then 1 else if c.verbose then 4 else 3

/-! ### Validation -/

/-- **Whether a text is a valid import path** (`Accessors.Module.checkImportPath`). -/
def validImportPath (path : String) : Bool := (Module.checkImportPath path).isNone

/-- Whether a method tag is a name: a letter, `_` or backslash, then letters, digits, `_`,
backslashes and dots. -/
def validTag (tag : String) : Bool :=
  match tag.toList with
  | c :: cs =>
    (c.isAlpha || c == '_' || c == '\\') && cs.all fun x => x.isAlphanum || x == '_' || x == '\\' || x == '.'
  | [] => false

/-- The operations a method tag may map to. -/
def operationNames : List String := ["get", "set", "add", "remove", "contains"]

/-- The check of a method tag and of its operation. -/
def tagChecks (tag op : String) : List (Option Error) :=
  [if Text.trimSpace tag == "" then some (.field "method annotation tag" (Text.quote tag) "cannot be empty")
   else if !validTag tag then
     some (.field "method annotation tag" (Text.quote tag) "must match pattern '^[A-Za-z_\\\\][A-Za-z0-9_\\\\.]*$'")
   else none,
   if operationNames.contains op then none
   else some (.field "method annotation operation" (Text.quote op)
     ("must be one of: [" ++ " ".intercalate operationNames ++ "]"))]

/-- **Validates a configuration**: the first rejected value, as a configuration error. -/
def validate (c : Config) : Option Error :=
  let map := c.methodMap.getD []
  let sorted := map.mergeSort fun a b => decide (a.1 ≤ b.1)
  let checks : List (Option Error) :=
    [if c.directories.isEmpty then some (.field "directories" "[]" "at least one directory is required") else none,
     if Text.trimSpace c.generatedDir == "" then
       some (.field "generatedFilesDirectory" (Text.quote c.generatedDir) "cannot be empty") else none,
     if c.workers < 1 || c.workers > maxWorkers then
       some (.field "workers" (toString c.workers) "must be between 1 and 256") else none,
     if map.isEmpty then some (.field "methodAnnotationsMap" "0" "must map at least one tag") else none,
     if c.runtime.isEmpty || validImportPath c.runtime then none
     else some (.field "runtimeImport" (Text.quote c.runtime) "must be a valid import path")] ++
    sorted.flatMap fun (tag, op) => tagChecks tag op
  (checks.findSome? id).map fun e => Error.wrap ErrorCode.configuration "invalid configuration" (some e)

/-- The tags of the default map are names. -/
theorem validTag_default : defaultMethodMap.all (fun (t, _) => validTag t) = true := by
  decide +kernel

end Config

end Accessors
