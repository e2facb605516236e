/-!
# Types of dynamic values

Bound accessors hold values whose types are known only when they arrive. A type is a scalar
(a boolean, a text, an integer of a given width, a float of a given size, a complex number), a
composite (a slice, a fixed-length array, a map, a pointer, a channel), the type of functions
without arguments, one of the declared types of the program (times, durations, labels, points,
bags, validation failures, error records), or one of four interfaces.

The rules here are the ones the accessors apply to types:

* **assignability**: a value of type `v` may be stored where `t` is expected when the two are
  the same type, or when `t` is an interface that `v` implements;
* **implementation**: a type implements an interface when it has its methods. Labels, times and
  durations have a text form, points have an area, validation failures have a message, error
  records have one through a pointer only; a pointer has the methods of what it points to;
* **families**: integers (durations included), floats, texts (labels included) and booleans;
  a value converts to another type of its family;
* **comparability**: slices, maps, functions and records holding slices cannot be compared
  with `==`.

Main statements: every type is assignable to itself (`assignable_refl`) and to the empty
interface (`assignable_any`).
-/

namespace Accessors

/-! ### Integers and floats -/

/-- **An integer kind**: a width and a signedness. -/
inductive IntKind where
  | int
  | int8
  | int16
  | int32
  | int64
  | uint
  | uint8
  | uint16
  | uint32
  | uint64
  | uintptr
  deriving DecidableEq, Repr, Inhabited

namespace IntKind

/-- Every integer kind. -/
def all : List IntKind :=
  [int, int8, int16, int32, int64, uint, uint8, uint16, uint32, uint64, uintptr]

/-- The name of an integer kind. -/
def name : IntKind → String
  | int => "int"
  | int8 => "int8"
  | int16 => "int16"
  | int32 => "int32"
  | int64 => "int64"
  | uint => "uint"
  | uint8 => "uint8"
  | uint16 => "uint16"
  | uint32 => "uint32"
  | uint64 => "uint64"
  | uintptr => "uintptr"

/-- The integer kind of a name. -/
def ofName? (s : String) : Option IntKind := all.find? (·.name == s)

/-- The number of bits; words are 64 bits wide. -/
def width : IntKind → Nat
  | int8 | uint8 => 8
  | int16 | uint16 => 16
  | int32 | uint32 => 32
  | _ => 64

/-- Whether the kind holds negative numbers. -/
def signed : IntKind → Bool
  | int | int8 | int16 | int32 | int64 => true
  | _ => false

/-- The least value of the kind. -/
def least (k : IntKind) : Int := if k.signed then -(Nat.pow 2 (k.width - 1) : Nat) else 0

/-- The greatest value of the kind. -/
def greatest (k : IntKind) : Int :=
  if k.signed then (Nat.pow 2 (k.width - 1) - 1 : Nat) else (Nat.pow 2 k.width - 1 : Nat)

/-- Whether a number is a value of the kind. -/
def holds (k : IntKind) (v : Int) : Bool := k.least ≤ v && v ≤ k.greatest

/-- **Wrapping**: the value of the kind with the same low bits, in two's complement. -/
def wrap (k : IntKind) (v : Int) : Int :=
  let m : Int := (Nat.pow 2 k.width : Nat)
  let r := v % m
  if k.signed && r ≥ m / 2 then r - m else r

end IntKind

/-- **A float kind**: single or double precision. -/
inductive FloatKind where
  | single
  | double
  deriving DecidableEq, Repr, Inhabited

/-- The name of a float kind. -/
def FloatKind.name : FloatKind → String
  | .single => "float32"
  | .double => "float64"

/-! ### Declared types and interfaces -/

/-- **The declared types**: times, durations, labels (texts with a text form), points
(comparable pairs with an area), bags (records holding a slice of texts), validation failures
(records of a field, the value rejected held in an interface, and a reason, with a message), and
the two records behind errors. -/
inductive Declared where
  | time
  | duration
  | label
  | point
  | bag
  | fieldError
  | errorRecord
  | pathError
  deriving DecidableEq, Repr, Inhabited

/-- The qualified name of a declared type. -/
def Declared.name : Declared → String
  | .time => "time.Time"
  | .duration => "time.Duration"
  | .label => "main.Label"
  | .point => "main.Point"
  | .bag => "main.Bag"
  | .fieldError => "utils.FieldError"
  | .errorRecord => "errors.errorString"
  | .pathError => "fs.PathError"

/-- **The interfaces**: the empty one, errors, values with a text form, and shapes. -/
inductive Iface where
  | any
  | error
  | stringer
  | shape
  deriving DecidableEq, Repr, Inhabited

/-- The name of an interface. -/
def Iface.name : Iface → String
  | .any => "interface \x7b\x7d"
  | .error => "error"
  | .stringer => "fmt.Stringer"
  | .shape => "main.Shape"

/-! ### Types -/

/-- **A type** of dynamic values. -/
inductive VType where
  | bool
  | string
  | int (k : IntKind)
  | float (k : FloatKind)
  /-- Complex numbers of double precision. -/
  | complex
  | slice (elem : VType)
  | array (len : Nat) (elem : VType)
  | map (key val : VType)
  | pointer (target : VType)
  /-- Channels of the element type. -/
  | chan (elem : VType)
  /-- Functions without arguments or results. -/
  | func
  | declared (d : Declared)
  | iface (i : Iface)
  deriving DecidableEq, Repr, Inhabited

namespace VType

/-- The empty interface. -/
abbrev any : VType := .iface .any

/-- **The text of a type**, as the type is written. -/
def text : VType → String
  | bool => "bool"
  | string => "string"
  | int k => k.name
  | float k => k.name
  | complex => "complex128"
  | slice e => "[]" ++ e.text
  | array n e => "[" ++ toString n ++ "]" ++ e.text
  | map k v => "map[" ++ k.text ++ "]" ++ v.text
  | pointer t => "*" ++ t.text
  | chan e => "chan " ++ e.text
  | func => "func()"
  | declared d => d.name
  | iface i => i.name

/-- **The kind name** of a type: the shape of its values, as error texts name it. -/
def kindName : VType → String
  | bool => "bool"
  | string => "string"
  | int k => k.name
  | float k => k.name
  | complex => "complex128"
  | slice _ => "slice"
  | array _ _ => "array"
  | map _ _ => "map"
  | pointer _ => "ptr"
  | chan _ => "chan"
  | func => "func"
  | declared .duration => "int64"
  | declared .label => "string"
  | declared _ => "struct"
  | iface _ => "interface"

/-- Whether the type is declared by name in a package; such types are named by their text. -/
def isDeclared : VType → Bool
  | declared _ => true
  | _ => false

/-- The element type of a slice, an array, a pointer or a channel, and the value type of a
map. -/
def elem? : VType → Option VType
  | slice e | array _ e | pointer e | chan e | map _ e => some e
  | _ => none

/-- The family of a type for conversions: 1 integers, 2 floats, 3 texts, 4 booleans, 0 none. -/
def family : VType → Nat
  | int _ | declared .duration => 1
  | float _ => 2
  | string | declared .label => 3
  | bool => 4
  | _ => 0

/-- Whether values of the type have a text form. -/
def hasText : VType → Bool
  | declared .label | declared .time | declared .duration => true
  | pointer (declared .label) | pointer (declared .time) | pointer (declared .duration) => true
  | _ => false

/-- Whether values of the type are errors with a message. -/
def hasMessage : VType → Bool
  | declared .fieldError | pointer (declared .fieldError) => true
  | pointer (declared .errorRecord) | pointer (declared .pathError) => true
  | _ => false

/-- Whether values of the type have an area. -/
def hasArea : VType → Bool
  | declared .point | pointer (declared .point) => true
  | _ => false

/-- **Implementation**: whether the type has the methods of the interface. -/
def implements (t : VType) (i : Iface) : Bool :=
  match i with
  | .any => true
  | .error => t.hasMessage || t == iface .error
  | .stringer => t.hasText || t == iface .stringer
  | .shape => t.hasArea || t == iface .shape

/-- **Assignability**: the same type, or an interface the type implements. -/
def assignable (v t : VType) : Bool :=
  v == t || match t with
    | iface i => v.implements i
    | _ => false

/-- Whether `==` is defined on the type. -/
def comparable : VType → Bool
  | slice _ | map _ _ | func | declared .bag => false
  | array _ e => comparable e
  | _ => true

/-- Every type is assignable to itself. -/
theorem assignable_refl (t : VType) : assignable t t = true := by
  simp [assignable]

/-- Every type is assignable to the empty interface. -/
theorem assignable_any (t : VType) : assignable t any = true := by
  simp [assignable, implements]

end VType
end Accessors
