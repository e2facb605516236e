import Accessors.Value.Format
import Accessors.Declared.Basic
import Accessors.Error.Basic

/-!
# Checking arguments against declared types

A checker holds a declared type and, for object types, the type its name resolves to. It checks
whole values, as a setter does, and single elements, as the sequence operations do:

* expressions kept for display are never checked;
* a null value passes as a whole value only when the type admits null, and never as an element;
* a scalar type is matched by type name (`integer` accepts every integer kind), `mixed` accepts
  anything and `array` any sequence;
* an object type accepts values assignable to the resolved type, or to what it points to, and
  anything when the name did not resolve;
* a sequence type accepts sequences whose items all pass as elements; the first item that does
  not pass is reported.

A failure names the value, its type name and the expected type: `string expected, 5 [int]
given`.

Main statements: display-only types accept everything (`checkValue_unvalidated`), and a null
element is always refused by validated types (`checkElement_null`).
-/

namespace Accessors

/-- **A checker**: the declared type, and the type an object name resolved to. -/
structure Checker where
  type : DeclaredType
  resolved : Option VType
  deriving Repr, Inhabited

namespace Checker

/-- The error of an argument of the wrong type. -/
def reject (v : Value) (valueType expected : String) : Error :=
  .invalidArgument v.argumentText valueType expected

/-- Whether a value matches a canonical scalar name. -/
def scalarMatches (canonical : String) (v : Value) : Bool :=
  if canonical == "mixed" then true
  else if canonical == arrayDisplay then v.isSequence
  else v.typeName == canonical

/-- Whether a value may be stored as the resolved object type, or behind it when it is a
pointer type. -/
def objectMatches (resolved : Option VType) (v : Value) : Bool :=
  match resolved, v.typeOf with
  | none, _ => true
  | some _, none => false
  | some d, some t =>
    t.assignable d || match d with
      | .pointer e => t.assignable e
      | _ => false

/-- **Matching** a value against the element type. -/
def accepts (c : Checker) (v : Value) : Bool :=
  match c.type.kind with
  | .scalar | .arrayOfScalar => scalarMatches c.type.scalarName v
  | .object | .arrayOfObject => objectMatches c.resolved v
  | _ => true

/-- **Checking an element** of a sequence. -/
def checkElement (c : Checker) (v : Value) : Except Error Unit :=
  if !c.type.isValidated then .ok ()
  else if v.isNull then .error (reject v nullDisplay c.type.elementDisplay)
  else if !c.accepts v then .error (reject v v.typeName c.type.elementDisplay)
  else .ok ()

/-- The first item that does not pass as an element. -/
def checkItems (c : Checker) : List Value → Except Error Unit
  | [] => .ok ()
  | x :: xs => do c.checkElement x; checkItems c xs

/-- **Checking a whole value.** -/
def checkValue (c : Checker) (v : Value) : Except Error Unit :=
  if !c.type.isValidated then .ok ()
  else if v.isNull then
    if c.type.nullable then .ok () else .error (reject v nullDisplay c.type.display)
  else if !c.type.isCollection then
    if c.accepts v then .ok () else .error (reject v v.typeName c.type.display)
  else match v.items? with
    | some items => c.checkItems items
    | none => .error (reject v v.typeName c.type.display)

/-- Types kept for display accept every value. -/
theorem checkValue_unvalidated (c : Checker) (v : Value) (h : c.type.isValidated = false) :
    c.checkValue v = .ok () := by
  simp [checkValue, h]

/-- Validated types refuse null elements. -/
theorem checkElement_null (c : Checker) (v : Value) (h : c.type.isValidated = true)
    (hv : v.isNull = true) :
    c.checkElement v = .error (reject v nullDisplay c.type.elementDisplay) := by
  simp [checkElement, h, hv]

end Checker
end Accessors
