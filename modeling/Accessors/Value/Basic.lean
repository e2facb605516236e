import Accessors.Value.Type
import Accessors.Value.Time

/-!
# Dynamic values

The values that bound accessors store and return. Besides scalars, a value may be a slice (a
sequence that may be absent, with the identity of its storage), a fixed-length array, a map from
texts to values (which may be absent), a pointer (absent, or an address with the value it points
to), a channel or a function (absent, or its identity), or a value of a declared type. An error
is a pointer to an error record.

**Null** is what stands for no value: the missing value itself, an absent pointer, map, channel
or function. An absent slice is not null: it is an empty sequence.

Each value has a **type name** for messages: `null` for null values, `int` for every integer
kind, `float` for both float kinds, `array` for slices and arrays, the qualified name for
declared types, and the written type otherwise (`*string`, `map[string]interface {}`).

Main statements: null values are named `null` (`typeName_of_isNull`), and a slice is never null
(`isNull_slice`).
-/

namespace Accessors

/-- **A dynamic value.** -/
inductive Value where
  /-- The missing value. -/
  | null
  | bool (b : Bool)
  | str (s : String)
  | int (k : IntKind) (v : Int)
  | double (x : Float)
  | single (x : Float32)
  /-- A complex number, by its real and imaginary parts. -/
  | complex (re im : Float)
  /-- A slice of the element type: its items, or none when absent, and its storage. -/
  | slice (elem : VType) (items : Option (List Value)) (ref : Nat)
  /-- A fixed-length array of the element type. -/
  | array (elem : VType) (items : List Value)
  /-- A map from texts to values: its entries by key, or none when absent, and its storage. -/
  | map (entries : Option (List (String × Value))) (ref : Nat)
  /-- A pointer to the target type: its address and the value there, or none when absent. -/
  | pointer (target : VType) (cell : Option (Nat × Value))
  /-- A channel of the element type: its identity and the number of values waiting in it, or
  none when absent. -/
  | chan (elem : VType) (cell : Option (Nat × Nat))
  /-- A function: the address of its code, or none when absent. -/
  | func (code : Option Nat)
  | time (t : Time)
  /-- A duration in nanoseconds. -/
  | duration (ns : Int)
  | label (s : String)
  | point (x y : Int)
  | bag (items : List String)
  /-- A validation failure: the field, the value rejected (held in an interface) and the
  reason. -/
  | fieldError (field : String) (value : Value) (reason : String)
  /-- The record behind an error, holding its message. -/
  | errorRecord (msg : String)
  deriving Repr, Inhabited

namespace Value

/-- **The type of a value**; the missing value has none. -/
def typeOf : Value → Option VType
  | null => none
  | bool _ => some .bool
  | str _ => some .string
  | int k _ => some (.int k)
  | double _ => some (.float .double)
  | single _ => some (.float .single)
  | complex _ _ => some .complex
  | slice e _ _ => some (.slice e)
  | array e items => some (.array items.length e)
  | map _ _ => some (.map .string .any)
  | pointer t _ => some (.pointer t)
  | chan e _ => some (.chan e)
  | func _ => some .func
  | time _ => some (.declared .time)
  | duration _ => some (.declared .duration)
  | label _ => some (.declared .label)
  | point _ _ => some (.declared .point)
  | bag _ => some (.declared .bag)
  | fieldError .. => some (.declared .fieldError)
  | errorRecord _ => some (.declared .errorRecord)

/-- **Null**: the missing value, an absent pointer, map, channel or function. -/
def isNull : Value → Bool
  | null => true
  | pointer _ none => true
  | map none _ => true
  | chan _ none => true
  | func none => true
  | _ => false

/-- Whether the value is a sequence: a slice or an array. -/
def isSequence : Value → Bool
  | slice .. | array .. => true
  | _ => false

/-- The items of a sequence; an absent slice has none. -/
def items? : Value → Option (List Value)
  | slice _ items _ => some (items.getD [])
  | array _ items => some items
  | _ => none

/-- **The type name** of a value, as messages show it. -/
def typeName (v : Value) : String :=
  if v.isNull then "null"
  else match v.typeOf with
    | none => "null"
    | some t =>
      if t.isDeclared then t.text
      else match t with
        | .string => "string"
        | .bool => "bool"
        | .int _ => "int"
        | .float _ => "float"
        | .slice _ | .array _ _ => "array"
        | t => t.text

/-- An error value: a pointer to an error record at an address. -/
def error (addr : Nat) (msg : String) : Value := pointer (.declared .errorRecord) (some (addr, errorRecord msg))

/-- Null values are named `null`. -/
theorem typeName_of_isNull (v : Value) (h : v.isNull = true) : v.typeName = "null" := by
  simp [typeName, h]

/-- A slice is never null, even when absent. -/
theorem isNull_slice (e : VType) (items : Option (List Value)) (ref : Nat) :
    (slice e items ref).isNull = false := rfl

end Value
end Accessors
