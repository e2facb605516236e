import Accessors.Yaml.Resolve
import Accessors.Json.Basic
import Accessors.Value.Time
import Accessors.Sorting

/-!
# Reading YAML into typed settings

Settings files are read in two steps: the YAML value is converted to a JSON document, and the
document is then decoded into the shape of the settings.

**Conversion** follows the shape as a guide: mapping keys become texts (integers in decimal,
floats in their shortest 32-bit form, booleans as words), and a number or boolean read where the
shape wants a text becomes its text. Floats that JSON cannot hold (NaN and the infinities) are
an error. Objects are written with their keys sorted.

**Decoding** walks the document and the shape together:

* a field is found by its exact name or else ignoring case; an unknown field is an error only
  when reading strictly;
* null leaves texts, integers and times as they were and empties lists and maps;
* a value of the wrong kind is an error naming the JSON kind, the path of the field and its Go
  type; the first such error is the answer, but decoding goes on;
* an integer must be written as one and fit 64 bits;
* a time must be a JSON string holding an RFC 3339 time; any other value stops decoding at once.

Main statements: the Go type of a list of texts (`Shape.typeName_list`).
-/

namespace Accessors.Yaml

/-- **The shape of typed settings**: a text, an integer, a time, a list or a map of texts to
values of a shape, or a record of named fields, with the Go name of its type. -/
inductive Shape where
  | text
  | int
  | time
  | list (elem : Shape)
  | dict (elem : Shape)
  | record (typeName : String) (fields : List (String × Shape))
  deriving Repr, Inhabited

/-- The Go name of the type of a shape. -/
def Shape.typeName : Shape → String
  | .text => "string"
  | .int => "int"
  | .time => "time.Time"
  | .list e => "[]" ++ e.typeName
  | .dict e => "map[string]" ++ e.typeName
  | .record n _ => n

/-- A text in ASCII lower case, to compare names ignoring case. -/
def foldCase (s : String) : String := String.ofList ((Text.chars s).map Char.toLower)

/-- **The field of a record a key names**: its exact name, or else the first name equal to it
ignoring case. -/
def Shape.field? (s : Shape) (key : String) : Option (String × Shape) :=
  match s with
  | .record _ fs =>
    match fs.find? (·.1 == key) with
    | some f => some f
    | none => fs.find? fun f => foldCase f.1 == foldCase key
  | _ => none

/-- The value of a shape before anything is read into it. -/
def Shape.zero : Shape → Json
  | .text => .str ""
  | .int => .num "0"
  | .time => .str "0001-01-01T00:00:00Z"
  | .list _ => .null
  | .dict _ => .null
  | .record _ _ => .obj []

/-! ### Conversion to JSON -/

/-- The shortest text of a float as a 32-bit float, in general form. -/
def float32Text (x : Float) : String := Number.float32Text x.toFloat32

/-- **The text of a mapping key**: texts as they are, integers in decimal, floats in their
shortest 32-bit form (`.inf`, `-.inf` and `.nan` for the special ones), booleans as words. Other
keys cannot be converted. -/
def keyText (k v : Item) : Except String String :=
  match k with
  | .str s => .ok s
  | .int n => .ok (toString n)
  | .float x =>
    let s := float32Text x
    .ok (if s == "+Inf" then ".inf" else if s == "-Inf" then "-.inf" else if s == "NaN" then ".nan" else s)
  | .bool b => .ok (if b then "true" else "false")
  | .uint n => .error ("unsupported map key of type: uint64, key: 0x" ++ Text.hexDigits n ++ ", value: " ++ v.goSyntax)
  | _ => .error ("unsupported map key of type: %!s(<nil>), key: <nil>, value: " ++ v.goSyntax)

/-- A scalar as JSON; a float is written as JSON writes it, or as `NaN`, `+Inf` or `-Inf`. -/
def Item.scalarJson : Item → Json
  | .null => .null
  | .bool b => .bool b
  | .int n => .num (toString n)
  | .uint n => .num (toString n)
  | .float x => .num (Number.floatDataText x)
  | .str s => .str s
  | _ => .null

/-- A scalar read where a text is wanted: numbers and booleans as their texts. -/
def Item.asText : Item → Json
  | .int n => .str (toString n)
  | .uint n => .str (toString n)
  | .float x => .str (float32Text x)
  | .bool b => .str (if b then "true" else "false")
  | x => x.scalarJson

/-- Sets a member of an object, replacing one with the same key. -/
def setMember (ms : List (String × Json)) (k : String) (v : Json) : List (String × Json) :=
  if ms.any (·.1 == k) then ms.map fun (k', v') => if k' == k then (k', v) else (k', v') else ms ++ [(k, v)]

/-- **Converts a value to JSON**, guided by the shape it will be read into, when known. A time
guides nothing, as it reads itself. -/
def toJson : Nat → Item → Option Shape → Except String Json
  | 0, _, _ => .error "exceeded max depth"
  | fuel + 1, item, hint =>
    let hint := match hint with
      | some .time => none
      | h => h
    match item with
    | .map entries => do
      let mut out : List (String × Json) := []
      for (k, v) in entries do
        let key ← keyText k v
        let sub := match hint with
          | some (.record n fs) => ((Shape.record n fs).field? key).map (·.2)
          | some (.dict e) => some e
          | _ => none
        out := setMember out key (← toJson fuel v sub)
      return .obj (Sorting.sort (fun a b => decide (a.1 ≤ b.1)) out)
    | .seq items => do
      let sub := match hint with
        | some (.list e) => some e
        | _ => none
      return .arr (← items.mapM fun x => toJson fuel x sub)
    | x =>
      match hint with
      | some .text => .ok x.asText
      | _ => .ok x.scalarJson

/-- Whether a number of converted JSON is a float JSON cannot hold. -/
def isUnsupportedNumber (t : String) : Bool := t == "NaN" || t == "+Inf" || t == "-Inf"

mutual
/-- **The first float JSON cannot hold**, in the order JSON is written (objects are converted
with their keys sorted). -/
def firstUnsupported : Json → Option String
  | .num t => if isUnsupportedNumber t then some t else none
  | .arr xs => firstUnsupportedIn xs
  | .obj ms => firstUnsupportedMember ms
  | _ => none

/-- The first float JSON cannot hold in a list. -/
def firstUnsupportedIn : List Json → Option String
  | [] => none
  | x :: rest => (firstUnsupported x).orElse fun _ => firstUnsupportedIn rest

/-- The first float JSON cannot hold in members. -/
def firstUnsupportedMember : List (String × Json) → Option String
  | [] => none
  | (_, x) :: rest => (firstUnsupported x).orElse fun _ => firstUnsupportedMember rest
end

/-! ### Decoding -/

/-- Decoding: the first recorded error, and stopping errors. -/
abbrev BindM := StateT (Option String) (Except String)

/-- Records an error, unless one was recorded before. -/
def recordError (msg : String) : BindM Unit := modify fun s => s.orElse fun _ => some msg

/-- The JSON kind of a value in errors. -/
def jsonKind : Json → String
  | .null => "null"
  | .bool _ => "bool"
  | .num _ => "number"
  | .str _ => "string"
  | .arr _ => "array"
  | .obj _ => "object"

/-- **The error of a value of the wrong kind**, naming the path of the field it was read into. -/
def typeError (what : String) (shape : Shape) (path : List String) : String :=
  "json: cannot unmarshal " ++ what ++ " into Go " ++
    (if path.isEmpty then "value" else "struct field ." ++ ".".intercalate path) ++ " of type " ++ shape.typeName

/-- An integer of 64 bits written in JSON: digits with an optional minus sign. -/
def parseJsonInt (t : String) : Option Int :=
  let cs := Text.chars t
  let (neg, ds) := match cs with
    | '-' :: r => (true, r)
    | r => (false, r)
  if ds.isEmpty || !ds.all Char.isDigit then none
  else
    let n := ds.foldl (fun acc c => acc * 10 + (c.toNat - 48)) (0 : Nat)
    if neg then (if n ≤ Nat.pow 2 63 then some (-(n : Int)) else none)
    else if n < Nat.pow 2 63 then some n else none

/-- **Reads a time** from the text of a JSON string: an RFC 3339 time, or the error of the
first part that does not match. -/
def parseTimeText (s : String) : Except String Unit :=
  match Time.parse? s 0 with
  | some _ => .ok ()
  | none => .error ("parsing time " ++ Text.quote s ++ " as \"2006-01-02T15:04:05Z07:00\": cannot parse " ++
      Text.quote s ++ " as \"2006\"")

/-- **Decodes a document into a shape** at a path; none leaves the value as it was. -/
def bind (strict : Bool) : Nat → Shape → List String → Json → BindM (Option Json)
  | 0, _, _, _ => throw "json: exceeded max depth"
  | fuel + 1, shape, path, j =>
    match shape, j with
    | .time, .null => pure none
    | .time, .str s =>
      match parseTimeText s with
      | .ok () => pure (some (.str s))
      | .error e => throw e
    | .time, _ => throw "Time.UnmarshalJSON: input is not a JSON string"
    | .list _, .null => pure (some .null)
    | .dict _, .null => pure (some .null)
    | _, .null => pure none
    | .text, .str s => pure (some (.str s))
    | .int, .num t =>
      match parseJsonInt t with
      | some n => pure (some (.num (toString n)))
      | none => do
        recordError (typeError ("number " ++ t) shape path)
        pure none
    | .list e, .arr items => do
      let mut out : Array Json := #[]
      for (x, i) in items.zipIdx do
        let r ← bind strict fuel e (path ++ [toString i]) x
        out := out.push (r.getD e.zero)
      pure (some (.arr out.toList))
    | .dict e, .obj members => do
      let mut out : List (String × Json) := []
      for (k, v) in members do
        let r ← bind strict fuel e (path ++ [k]) v
        out := setMember out k (r.getD e.zero)
      pure (some (.obj out))
    | .record n fs, .obj members => do
      let mut out : List (String × Json) := []
      for (k, v) in members do
        match (Shape.record n fs).field? k with
        | some (name, sub) =>
          if let some r ← bind strict fuel sub (path ++ [k]) v then out := setMember out name r
        | none => if strict then recordError ("json: unknown field " ++ Text.quote k)
      pure (some (.obj out))
    | _, _ => do
      recordError (typeError (jsonKind j) shape path)
      pure none

/-- The depth of settings read. -/
def bindDepth : Nat := 10000

/-- **Reads a YAML text into a shape**, strictly (repeated keys and unknown fields are errors)
when `strict`. Errors of reading YAML are those of converting to JSON; errors of decoding follow
`error unmarshaling JSON: while decoding JSON:`. -/
def readInto (text : String) (shape : Shape) (strict : Bool) : Except String Json := do
  let convert := fun (e : String) => "error converting YAML to JSON: " ++ e
  let item ← (readYaml text strict).mapError convert
  let json ← (toJson bindDepth item (some shape)).mapError convert
  if let some t := firstUnsupported json then throw (convert ("json: unsupported value: " ++ t))
  match (bind strict bindDepth shape [] json).run none with
  | .error e => throw ("error unmarshaling JSON: while decoding JSON: " ++ e)
  | .ok (r, saved) =>
    if let some e := saved then throw ("error unmarshaling JSON: while decoding JSON: " ++ e)
    return (r.getD shape.zero)

/-- The Go type of a list of texts. -/
theorem Shape.typeName_list : (Shape.list .text).typeName = "[]string" := rfl

end Accessors.Yaml
