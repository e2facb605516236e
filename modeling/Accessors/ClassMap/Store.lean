import Accessors.ClassMap.Version
import Accessors.Yaml.Bind
import Accessors.Yaml.Emit
import Accessors.Disk
import Accessors.Error.Basic

/-!
# The class map

The class map records, for every class that was generated, the file generated for it, the run
that generated it and when. It is kept as a YAML file `_classMap.yaml` in the generated files
directory:

```
entries:
  example.Article:
    generatedAt: "2024-01-02T03:04:05Z"
    path: models/zz_generated.article.accessors.go
    runId: run-1
version: "1.0"
```

* A missing file is an empty map; a file that cannot be read, decoded, or whose format version
  is not supported (`Accessors.ClassMap.Version`) is an error.
* Every change reads the file, applies the change and writes the whole map back, through a
  temporary file in the same directory that then replaces the map.
* How a document is written and read is the store's format; YAML (`Format.yaml`) is the one
  runs use.
* Looking up an entry or listing them treats an unreadable map as empty.

Main statements: a map without entries is written with an empty mapping
(`documentItem_empty`).
-/

namespace Accessors.ClassMap

/-- **An entry** of the class map: the class, its generated file, the run and the time. -/
structure Entry where
  name : String
  path : String
  runId : String
  generatedAt : Time
  deriving Repr, Inhabited, DecidableEq

/-- The shape of an entry in the file. -/
def entryShape : Yaml.Shape :=
  .record "classmap.Entry" [("path", .text), ("runId", .text), ("generatedAt", .time)]

/-- The shape of the file. -/
def documentShape : Yaml.Shape :=
  .record "classmap.document" [("version", .text), ("entries", .dict entryShape)]

/-- The name of the class map file. -/
def fileName : String := "_classMap.yaml"

/-- The entry of a class as decoded from the file. -/
def Entry.ofJson (name : String) (j : Json) : Entry :=
  { name, path := (j.get "path").str?.getD "", runId := (j.get "runId").str?.getD "",
    generatedAt := ((j.get "generatedAt").str?.bind (Time.parse? · 0)).getD Time.zero }

/-- The value an entry is written as. -/
def Entry.item (e : Entry) : Yaml.Item :=
  .map [(.str "generatedAt", .str e.generatedAt.stamp), (.str "path", .str e.path), (.str "runId", .str e.runId)]

/-- **The document of a map**: its format version and its entries by class. -/
def documentItem (entries : List Entry) : Yaml.Item :=
  .map [(.str "entries", .map (entries.map fun e => (.str e.name, e.item))), (.str "version", .str Version.current)]

/-- **How a map is kept in its file**: the text a document is written as, and the document a
text reads as, or why it cannot be read. -/
structure Format where
  write : Yaml.Item → String
  read : String → Except String Json

/-- The map kept as YAML, its document read into the shape of the file. -/
def Format.yaml : Format := ⟨Yaml.writeYaml, fun text => Yaml.readInto text documentShape false⟩

/-- **A store** of the class map file at a path, in a format. -/
structure Store where
  path : String
  format : Format

namespace Store

/-- The store of the class map in a directory. -/
def inDir (dir : String) : Store := ⟨Disk.joinPath [dir, fileName], .yaml⟩

/-- **Checks the format version** of a map. -/
def checkVersion (s : Store) (raw : String) : Except Error Unit :=
  match Version.parse raw with
  | .error e =>
    .error (Error.classMap "decode" s.path (some (.plain ("invalid format version " ++ Text.quote raw ++ ": " ++ e))))
  | .ok v =>
    if v.supported then .ok ()
    else .error ((Error.wrap ErrorCode.classMap ("class map '" ++ s.path ++ "' has format version " ++ v.text ++
      ", supported " ++ Version.supportedRange) none).withSuggestions ["remove the class map and run generate again"])

/-- **The entries of a document** of the map, in its order, once its format version is
checked. -/
def decodeDocument (s : Store) (doc : Json) : Except Error (List Entry) := do
  s.checkVersion ((doc.get "version").str?.getD "")
  return ((doc.get "entries").obj?.getD []).map fun (k, v) => Entry.ofJson k v

/-- **Reads a map from the text of its file**: its entries in the order of the file. -/
def decode (s : Store) (text : String) : Except Error (List Entry) :=
  match s.format.read text with
  | .error e => .error (Error.classMap "decode" s.path (some (.plain e)))
  | .ok doc => s.decodeDocument doc

/-- **Reads the map**: its entries in the order of the file; a missing file has none. -/
def load (s : Store) (disk : Disk) : Except Error (List Entry) :=
  match disk.fileText s.path with
  | .error e => if e.isNotFound then .ok [] else .error (Error.classMap "read" s.path (some e.toError))
  | .ok text => s.decode text

/-- The name of the temporary file a map is written through. -/
def tempName (s : Store) : String := Disk.joinPath [Disk.dirName s.path, ".classmap-RAND.tmp"]

/-- **Writes the map** through a temporary file in its directory, which then replaces it. -/
def save (s : Store) (disk : Disk) (entries : List Entry) : Except Error Disk := do
  let text := s.format.write (documentItem entries)
  let tmp := s.tempName
  let disk ← (disk.putText tmp text).mapError fun e => Error.classMap "write" s.path (some e.toError)
  if disk.isDir s.path then
    throw (Error.classMap "replace" s.path (some (DiskError.toError ⟨"rename", tmp ++ " " ++ s.path, "file exists"⟩)))
  let disk := disk.erase tmp
  return disk.put s.path (.file text)

/-- Reads the map, changes its entries and writes it back. -/
def update (s : Store) (disk : Disk) (change : List Entry → List Entry) : Except Error Disk := do
  let entries ← s.load disk
  s.save disk (change entries)

/-- The entries with an entry in place of those of its class, or after them all if there is
none. -/
def putEntry (e : Entry) (es : List Entry) : List Entry :=
  if es.any (·.name == e.name) then es.map fun x => if x.name == e.name then e else x else es ++ [e]

/-- The entries without those of a class. -/
def removeEntry (name : String) (es : List Entry) : List Entry := es.filter (·.name != name)

/-- **Adds or replaces the entry** of a class; an entry without a class name is an error. -/
def put (s : Store) (disk : Disk) (e : Entry) : Except Error Disk :=
  if e.name.isEmpty then .error (Error.wrap ErrorCode.classMap "class map entry has no class name" none)
  else s.update disk (putEntry e)

/-- **Removes the entry** of a class; removing an absent entry only writes the map back. -/
def remove (s : Store) (disk : Disk) (name : String) : Except Error Disk :=
  s.update disk (removeEntry name)

/-- The entry of a class; none when the map cannot be read. -/
def lookup (s : Store) (disk : Disk) (name : String) : Option Entry :=
  match s.load disk with
  | .ok es => es.find? (·.name == name)
  | .error _ => none

/-- **The entries sorted by class**, or why the map cannot be read. -/
def snapshot (s : Store) (disk : Disk) : Except Error (List Entry) :=
  (s.load disk).map fun es => es.mergeSort fun a b => decide (a.name ≤ b.name)

/-- The entries sorted by class; none when the map cannot be read. -/
def entries (s : Store) (disk : Disk) : List Entry :=
  match s.snapshot disk with
  | .ok es => es
  | .error _ => []

end Store

/-- A map without entries is written with an empty mapping. -/
theorem documentItem_empty :
    (match documentItem [] with
     | .map ((_, .map []) :: _) => true
     | _ => false) = true := rfl

end Accessors.ClassMap
