import Accessors.Value.Basic

/-!
# Converting values to a storage type

A value is stored as a given type when it is one already, converts to it, or is missing (which
stores the zero value of the type). In order:

1. a value of the type, or of a type that implements the interface asked for, is kept as it is;
2. a value assignable to what a pointer type points to is stored behind a new pointer;
3. a sequence converts item by item to a slice type, a missing item to the zero item;
4. a scalar converts within its family: integers wrap to the width of the target, doubles round
   to singles, labels and texts convert into each other;
5. anything else does not convert, and the zero value of the type is given with the failure.

Main statements: the missing value converts to the zero value (`convert_null`), and a value
converts to the empty interface as it is (`convert_any`).
-/

namespace Accessors

/-- **The zero value** of a type: false, zero, the empty text, an absent slice, map, pointer,
channel or function, the zero time, an empty record, or the missing value for interfaces. -/
def VType.zero : VType → Value
  | .bool => .bool false
  | .string => .str ""
  | .int k => .int k 0
  | .float .double => .double 0
  | .float .single => .single 0
  | .complex => .complex 0 0
  | .slice e => .slice e none 0
  | .array n e => .array e (List.replicate n e.zero)
  | .map _ _ => .map none 0
  | .pointer t => .pointer t none
  | .chan e => .chan e none
  | .func => .func none
  | .declared .time => .time Time.zero
  | .declared .duration => .duration 0
  | .declared .label => .label ""
  | .declared .point => .point 0 0
  | .declared .bag => .bag []
  | .declared .fieldError => .fieldError "" .null ""
  | .declared .errorRecord => .errorRecord ""
  | .declared .pathError => .errorRecord ""
  | .iface _ => .null

namespace Value

/-- The integer value of an integer or a duration. -/
def integer? : Value → Option Int
  | int _ v => some v
  | duration v => some v
  | _ => none

/-- The text of a text or a label. -/
def textValue? : Value → Option String
  | str s => some s
  | label s => some s
  | _ => none

/-- **Conversion within a family**: integers wrap, floats round, texts and labels change
type. -/
def convertScalar (v : Value) (t : VType) : Option Value :=
  match t, v with
  | .int k, _ => v.integer?.map fun x => int k (k.wrap x)
  | .declared .duration, _ => v.integer?.map fun x => duration (IntKind.int64.wrap x)
  | .float .single, double x => some (single x.toFloat32)
  | .float .single, single x => some (single x)
  | .float .double, double x => some (double x)
  | .float .double, single x => some (double x.toFloat)
  | .string, _ => v.textValue?.map str
  | .declared .label, _ => v.textValue?.map label
  | .bool, bool b => some (bool b)
  | _, _ => none

mutual
/-- **Conversion of a value held in an interface**, or of an item, to a type. -/
def convertTo (v : Value) (target : VType) : Option Value :=
  match v.typeOf with
  | none => some target.zero
  | some t =>
    if t.assignable target then some v
    else match target with
      | .pointer e =>
        if t.assignable e then some (pointer e (some (0, v)))
        else if t.family != 0 && t.family == target.family then convertScalar v target else none
      | .slice e =>
        match v with
        | slice _ (some items) _ => (convertItems items e).map fun xs => slice e (some xs) 0
        | slice _ none _ => some (slice e (some []) 0)
        | array _ items => (convertItems items e).map fun xs => slice e (some xs) 0
        | _ => none
      | _ => if t.family != 0 && t.family == target.family then convertScalar v target else none

/-- Conversion of items one by one; one failure fails them all. -/
def convertItems (items : List Value) (e : VType) : Option (List Value) :=
  match items with
  | [] => some []
  | x :: xs =>
    match convertTo x e with
    | some y => (convertItems xs e).map (y :: ·)
    | none => none
end

/-- **Conversion to a storage type**: the stored value, and whether the value could be
stored. -/
def convert (v : Value) (target : VType) : Value × Bool :=
  match v.typeOf with
  | none => (target.zero, true)
  | some t =>
    let held := match target with
      | .iface i => t.implements i
      | _ => t == target
    if held then (v, true)
    else match convertTo v target with
      | some out => (out, true)
      | none => (target.zero, false)

/-- The missing value converts to the zero value. -/
theorem convert_null (target : VType) : convert null target = (target.zero, true) := rfl

/-- A present value converts to the empty interface as it is. -/
theorem convert_any (v : Value) (t : VType) (h : v.typeOf = some t) :
    convert v VType.any = (v, true) := by
  simp [convert, h, VType.implements]

end Value
end Accessors
