import Accessors.Value.Format
import Accessors.Json.Basic

/-!
# Values as JSON

Values travel as JSON: `null`, booleans, texts, integers and arrays stand for themselves (an
array is a slice of any values), and every other value is an object with one tag, such as
`{"int8": 1}`, `{"strings": ["a"]}`, `{"ptr": 1}` or `{"time": "2020-01-01T00:00:00Z"}`. A tag
object may carry an `id`: the same id read again gives the same value, with the same addresses.

Reading allocates: each pointer, error, slice, map and zone of its own gets a number of its own,
drawn from the reader's counter. Addresses are numbered from `addressBase` in steps of 16.

Written, integers other than `int` and floats keep their tags, a float that is not finite is
written as `NaN`, `+Inf` or `-Inf`, and values the format has no tag for are written as
`{"other": type}`.

Types travel by name (`[]*time.Time`, `Label`); a type built from the scalars, the interfaces
and the declared types of the format by slices and pointers is read back from its short name
(`VType.ofName_shortName`).

Main statements: a scalar document is nested one deep (`nesting_null`), and short names read
back (`VType.ofName_shortName`).
-/

namespace Accessors

/-- **The state of a reader**: the next number to allocate, and the values read under ids. -/
structure DecodeState where
  next : Nat
  memo : List (String × Value)
  deriving Inhabited

/-- The starting state of a reader. -/
def DecodeState.initial : DecodeState := ⟨1, []⟩

/-- **A reader** of values: it allocates, and fails with a message. -/
abbrev Decoder := StateT DecodeState (Except String)

/-- The first address. -/
def addressBase : Nat := 0xc000010000

namespace Decoder

/-- A fresh number. -/
def fresh : Decoder Nat := do
  let s ← get
  set { s with next := s.next + 1 }
  return s.next

/-- A fresh address. -/
def address : Decoder Nat := do
  return addressBase + 16 * (← fresh)

/-- Fails with a message. -/
def fail {α : Type} (msg : String) : Decoder α := throw msg

end Decoder

mutual
/-- The depth of nesting of a document: one for scalars. -/
def Json.nesting : Json → Nat
  | .arr xs => nestingItems xs + 1
  | .obj ms => nestingMembers ms + 1
  | _ => 1

/-- The deepest nesting of items. -/
def nestingItems : List Json → Nat
  | [] => 0
  | x :: xs => max x.nesting (nestingItems xs)

/-- The deepest nesting of members. -/
def nestingMembers : List (String × Json) → Nat
  | [] => 0
  | (_, x) :: ms => max x.nesting (nestingMembers ms)
end

namespace Value

/-- The integer of a number or of a decimal text. -/
def integerOf? : Json → Option Int
  | .str s =>
    match s.toList with
    | '-' :: ds => if !ds.isEmpty && ds.all Char.isDigit then some (-(String.ofList ds).toNat!) else none
    | ds => if !ds.isEmpty && ds.all Char.isDigit then some (String.ofList ds).toNat! else none
  | j => j.int?

/-- The double of a number or of a text (`NaN`, `+Inf`, `-Inf` or a decimal). -/
def doubleOf? : Json → Option Float
  | .str "NaN" => some (0.0 / 0.0)
  | .str "+Inf" | .str "Inf" => some (1.0 / 0.0)
  | .str "-Inf" => some (-1.0 / 0.0)
  | .str s => (Number.DecimalLiteral.parse? s).map (·.toFloat)
  | j => j.decimal?.map (·.toFloat)

/-- The text of a number as written. -/
def numberText : Json → String
  | .num t => t
  | _ => ""

/-- An integer of a kind, refused outside its range. -/
def intOf (k : IntKind) (j : Json) : Decoder Value :=
  match integerOf? j with
  | some v => if k.holds v then pure (int k v) else Decoder.fail s!"{k.name} out of range: {numberText j}"
  | none => Decoder.fail s!"bad {k.name} value"

/-- The items of a JSON array, or none for null. -/
def listOf? : Json → Option (List Json)
  | .arr xs => some xs
  | _ => none

/-- A typed slice of items read one by one. -/
def typedSlice (elem : VType) (j : Json) (item : Json → Decoder Value) : Decoder Value := do
  match j with
  | .null => return slice elem none (← Decoder.fresh)
  | .arr xs => return slice elem (some (← xs.mapM item)) (← Decoder.fresh)
  | _ => Decoder.fail "expected a list"

/-- A text member. -/
def textOf (j : Json) : Decoder String :=
  match j with
  | .str s => pure s
  | _ => Decoder.fail "expected a string"

/-- A point of an object with `x` and `y`. -/
def pointOf (j : Json) : Decoder Value :=
  pure (point ((j.get "x").int?.getD 0) ((j.get "y").int?.getD 0))

/-- A time of a stamp, with a zone of its own numbered freshly. -/
def timeOf (j : Json) : Decoder Time := do
  let s ← textOf j
  match Time.parse? s (← Decoder.fresh) with
  | some t => pure t
  | none => Decoder.fail s!"bad time {Text.quote s}"

/-- **Reading a value**, allocating as needed, nested at most `fuel` deep. -/
def decodeWithin : Nat → Json → Decoder Value
  | 0, _ => Decoder.fail "value nested too deeply"
  | _ + 1, .null => pure null
  | _ + 1, .bool b => pure (bool b)
  | _ + 1, .str s => pure (str s)
  | _ + 1, .num t =>
    match (Json.num t).int? with
    | some v => pure (int .int v)
    | none => Decoder.fail s!"plain numbers must be integers: {t}"
  | fuel + 1, .arr xs => do
    let items ← xs.mapM (decodeWithin fuel)
    return slice .any (some items) (← Decoder.fresh)
  | fuel + 1, .obj ms => do
    let id? := (ms.find? (·.1 == "id")).bind fun (_, v) => match v with
      | .str s => some s
      | _ => none
    if let some id := id? then
      if let some v := (← get).memo.lookup id then return v
    let tagged := ms.filter fun m => m.1 != "id"
    let v ← match tagged with
      | (tag, payload) :: _ =>
        match tag with
        | "list" =>
          match payload with
          | .arr xs => do
            let items ← xs.mapM (decodeWithin fuel)
            pure (slice .any (some items) (← Decoder.fresh))
          | _ => Decoder.fail "expected a list"
        | "array" =>
          match payload with
          | .arr xs => do
            let items ← xs.mapM (decodeWithin fuel)
            pure (array .any items)
          | _ => Decoder.fail "expected a list"
        | "map" =>
          match payload with
          | .obj es => do
            let entries ← es.mapM fun (k, x) => do pure (k, ← decodeWithin fuel x)
            pure (map (some (Value.sortEntries entries)) (← Decoder.fresh))
          | _ => Decoder.fail "expected an object"
        | "ptr" => do
          let x ← decodeWithin fuel payload
          let t := x.typeOf.getD .any
          pure (pointer t (some (← Decoder.address, x)))
        | "float64" =>
          match doubleOf? payload with
          | some x => pure (double x)
          | none => Decoder.fail "bad float64 value"
        | "float32" =>
          match doubleOf? payload with
          | some x => pure (single x.toFloat32)
          | none => Decoder.fail "bad float32 value"
        | "strings" => typedSlice .string payload fun x => str <$> textOf x
        | "ints" => typedSlice (.int .int) payload (intOf .int)
        | "float64s" => typedSlice (.float .double) payload fun x =>
          match doubleOf? x with
          | some f => pure (double f)
          | none => Decoder.fail "bad float64 value"
        | "bools" => typedSlice .bool payload fun x =>
          match x with
          | .bool b => pure (bool b)
          | _ => Decoder.fail "expected a bool"
        | "nilmap" => pure (map none 0)
        | "nilslice" => pure (slice .any none 0)
        | "nilptr" => pure (pointer .string none)
        | "nilerror" => pure (pointer (.declared .pathError) none)
        | "time" => time <$> timeOf payload
        | "ptime" => do
          let t ← timeOf payload
          pure (pointer (.declared .time) (some (← Decoder.address, time t)))
        | "duration" =>
          match payload.int? with
          | some n => pure (duration n)
          | none => Decoder.fail "bad duration"
        | "error" => do
          let msg ← textOf payload
          pure (Value.error (← Decoder.address) msg)
        | "label" => label <$> textOf payload
        | "point" => pointOf payload
        | "ppoint" => do
          let p ← pointOf payload
          pure (pointer (.declared .point) (some (← Decoder.address, p)))
        | "bag" =>
          match payload with
          | .arr xs => do pure (bag (← xs.mapM textOf))
          | _ => Decoder.fail "expected a list"
        | _ =>
          match IntKind.ofName? tag with
          | some k => intOf k payload
          | none => Decoder.fail s!"unknown value tag {Text.quote tag}"
      | [] => Decoder.fail "empty value object"
    if let some id := id? then
      modify fun s => { s with memo := s.memo ++ [(id, v)] }
    return v

/-- A scalar document is nested one deep. -/
theorem nesting_null : Json.nesting .null = 1 := by simp [Json.nesting]

/-- **Reading a value**, allocating as needed. -/
def decode (j : Json) : Decoder Value := decodeWithin j.nesting j

/-! ### Writing -/

/-- A float as JSON: a number when finite, else its name. -/
def floatJson (x : Float) : Json :=
  if x.isNaN then .str "NaN"
  else if x.isInf then .str (if x > 0 then "+Inf" else "-Inf")
  else Json.float x

/-- The tag of a typed slice whose items are written plainly. -/
def sliceTag : VType → Option String
  | .string => some "strings"
  | .int .int => some "ints"
  | .float .double => some "float64s"
  | .bool => some "bools"
  | _ => none

mutual
/-- **Writing a value.** -/
def toJson : Value → Json
  | null => .null
  | bool b => .bool b
  | str s => .str s
  | int .int v => Json.int v
  | int k v => .obj [(k.name, Json.int v)]
  | double x => .obj [("float64", floatJson x)]
  | single x => .obj [("float32", floatJson x.toFloat)]
  | slice .any none _ => .obj [("nilslice", .null)]
  | slice .any (some items) _ => .arr (listJson items)
  | slice (.float .double) items _ => .obj [("float64s", .arr (optItemsJson items))]
  | slice e items _ =>
    match sliceTag e, items with
    | some tag, some xs => .obj [(tag, .arr (itemsJson xs))]
    | some tag, none => .obj [(tag, .null)]
    | none, _ => .obj [("other", .str (VType.slice e).text)]
  | array _ items => .obj [("array", .arr (listJson items))]
  | map none _ => .obj [("nilmap", .null)]
  | map (some es) _ => .obj [("map", .obj (entriesJson es))]
  | pointer (.declared .pathError) none => .obj [("nilerror", .null)]
  | pointer _ none => .obj [("nilptr", .null)]
  | pointer t (some cell) => cellJson t cell
  | time t => .obj [("time", .str t.stamp)]
  | duration d => .obj [("duration", Json.int d)]
  | label s => .obj [("label", .str s)]
  | point x y => .obj [("point", .obj [("x", Json.int x), ("y", Json.int y)])]
  | bag items => .obj [("bag", Json.strs items)]
  | v => .obj [("other", .str ((v.typeOf.map VType.text).getD ""))]

/-- A pointer to a cell: errors by message, times and points by their tags. -/
def cellJson (t : VType) : Nat × Value → Json
  | (_, x) =>
    match t, x with
    | .declared .errorRecord, errorRecord m => .obj [("error", .str m)]
    | .declared .time, time tm => .obj [("ptime", .str tm.stamp)]
    | .declared .point, point a b => .obj [("ppoint", .obj [("x", Json.int a), ("y", Json.int b)])]
    | _, _ => .obj [("ptr", toJson x)]

/-- Items written one by one. -/
def listJson : List Value → List Json
  | [] => []
  | x :: xs => toJson x :: listJson xs

/-- Items of a typed slice, written plainly: integers and floats as numbers. -/
def itemsJson : List Value → List Json
  | [] => []
  | int _ v :: xs => Json.int v :: itemsJson xs
  | double x :: xs => floatJson x :: itemsJson xs
  | x :: xs => toJson x :: itemsJson xs

/-- Items of a typed slice that may be absent, written plainly; none for an absent one. -/
def optItemsJson : Option (List Value) → List Json
  | none => []
  | some xs => itemsJson xs

/-- Entries written by key. -/
def entriesJson : List (String × Value) → List (String × Json)
  | [] => []
  | (k, x) :: es => (k, toJson x) :: entriesJson es
end

end Value

/-! ### Type names -/

namespace VType

/-- The type of a base name: scalars, the declared types and the interfaces by their short
names. -/
def ofBaseName? : String → Option VType
  | "string" => some .string
  | "bool" => some .bool
  | "float32" => some (.float .single)
  | "float64" => some (.float .double)
  | "any" => some .any
  | "error" => some (.iface .error)
  | "fmt.Stringer" => some (.iface .stringer)
  | "Shape" => some (.iface .shape)
  | "Label" => some (.declared .label)
  | "Point" => some (.declared .point)
  | "Bag" => some (.declared .bag)
  | "time.Time" => some (.declared .time)
  | "time.Duration" => some (.declared .duration)
  | s => (IntKind.ofName? s).map .int

/-- The type of a name made of `[]` and `*` marks before a base name. -/
def ofNameChars? : List Char → Option VType
  | '[' :: ']' :: rest => (ofNameChars? rest).map .slice
  | '*' :: rest => (ofNameChars? rest).map .pointer
  | cs => ofBaseName? (String.ofList cs)

/-- **The type of a name** such as `[]*time.Time` or `Label`. -/
def ofName? (s : String) : Option VType := ofNameChars? s.toList

/-- **The short name of a type**: the name `ofName?` reads back. -/
def shortName : VType → String
  | .slice e => "[]" ++ e.shortName
  | .pointer t => "*" ++ t.shortName
  | .iface .any => "any"
  | .iface .shape => "Shape"
  | .declared .label => "Label"
  | .declared .point => "Point"
  | .declared .bag => "Bag"
  | t => t.text

/-- Whether a type has a short name that `ofName?` reads: a scalar, an interface, a time, a
duration, a label, a point or a bag, or a slice of or a pointer to such a type. -/
def hasShortName : VType → Bool
  | .slice e | .pointer e => e.hasShortName
  | .bool | .string | .int _ | .float _ | .iface _ => true
  | .declared .time | .declared .duration | .declared .label | .declared .point
  | .declared .bag => true
  | _ => false

/-- **Short names read back**: every type that has a short name is the type its short name
names. -/
theorem ofName_shortName : ∀ t : VType, t.hasShortName = true → ofName? t.shortName = some t
  | .slice e, h => by
    have hmarks : ("[]" : String).toList = ['[', ']'] := by decide
    have ih : ofNameChars? e.shortName.toList = some e := ofName_shortName e h
    unfold ofName?
    rw [shortName, String.toList_append, hmarks, List.cons_append, List.cons_append,
      List.nil_append, ofNameChars?, ih]
    rfl
  | .pointer e, h => by
    have hmark : ("*" : String).toList = ['*'] := by decide
    have ih : ofNameChars? e.shortName.toList = some e := ofName_shortName e h
    unfold ofName?
    rw [shortName, String.toList_append, hmark, List.cons_append, List.nil_append, ofNameChars?, ih]
    rfl
  | .int k, _ => by cases k <;> rfl
  | .float k, _ => by cases k <;> rfl
  | .iface i, _ => by cases i <;> rfl
  | .bool, _ | .string, _ => rfl
  | .declared .time, _ | .declared .duration, _ | .declared .label, _ | .declared .point, _
  | .declared .bag, _ => rfl

example : ofName? (VType.slice (.pointer (.declared .time))).shortName =
    some (.slice (.pointer (.declared .time))) := by decide

end VType
end Accessors
