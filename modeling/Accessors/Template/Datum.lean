import Accessors.Declared.Basic
import Accessors.Spec.Basic
import Accessors.Number.Decimal

/-!
# Data of templates

The values templates run on: texts, integers (plain or of a named kind), floats, booleans,
records with named fields, lists, a nil of some type, and the missing value.

* Every value has a type name, which messages show (`string`, `templates.methodData`,
  `[]templates.checkerData`).
* Some types have methods that templates may call: a declared type (`accessor.Type`) has
  `Display`, `ElementDisplay`, `ScalarName`, `IsCollection`, `IsValidated` and `String`; an
  operation and a kind have `String`, an operation also `RequiresCollection`.
* Values print the way the general format prints them: types with a `String` method through it,
  records as their fields between braces, lists as their items between brackets, separated by
  blanks.
* A value is true when it is not empty, zero, false or nil; records are always true.

Main statements: a text is true exactly when it is not empty (`truth_str`).
-/

namespace Accessors.Template

/-- **A value of template data.** -/
inductive Datum where
  /-- The missing value. -/
  | none
  | str (s : String)
  /-- An integer of a type: `int`, `uint8`, or a named kind such as `accessor.Operation`. -/
  | int (type : String) (n : Int)
  | float (x : Float)
  | bool (b : Bool)
  /-- A record of a type with its fields in order. -/
  | record (type : String) (fields : List (String × Datum))
  /-- A list of a type (`[]T`) with its items. -/
  | list (type : String) (items : List Datum)
  /-- The nil of a pointer or interface type. -/
  | nilOf (type : String)
  deriving Repr, Inhabited

namespace Datum

/-- **The type name** of a value. -/
def typeName : Datum → String
  | none => "<invalid reflect.Value>"
  | str _ => "string"
  | int t _ => t
  | float _ => "float64"
  | bool _ => "bool"
  | record t _ => t
  | list t _ => t
  | nilOf t => t

/-- The name of the type of declared types. -/
def declaredTypeName : String := "accessor.Type"

/-- The name of the type of operations. -/
def operationTypeName : String := "accessor.Operation"

/-- The name of the type of kinds. -/
def kindTypeName : String := "accessor.Kind"

/-- A declared type as a record. -/
def ofDeclared (t : DeclaredType) : Datum :=
  record declaredTypeName [("Kind", int kindTypeName t.kind.toInt), ("Nullable", bool t.nullable),
    ("ElementTypeName", str t.element), ("RawExpression", str t.raw)]

/-- The field of a record, or the missing value. -/
def fieldOf (d : Datum) (name : String) : Datum :=
  match d with
  | record _ fs => (fs.lookup name).getD none
  | _ => none

/-- The text a value holds, or empty. -/
def textOf : Datum → String
  | str s => s
  | _ => ""

/-- The declared type a record of declared types stands for. -/
def toDeclared (d : Datum) : DeclaredType :=
  ⟨match d.fieldOf "Kind" with
    | int _ n => TypeKind.ofInt n
    | _ => .scalar,
   match d.fieldOf "Nullable" with
    | bool b => b
    | _ => false,
   (d.fieldOf "ElementTypeName").textOf, (d.fieldOf "RawExpression").textOf⟩

/-- **The method** of a value by name: what calling it gives. -/
def method? (d : Datum) (name : String) : Option Datum :=
  match d with
  | record t _ =>
    if t != declaredTypeName then Option.none else
    let dt := d.toDeclared
    match name with
    | "IsCollection" => some (bool dt.isCollection)
    | "IsValidated" => some (bool dt.isValidated)
    | "ScalarName" => some (str dt.scalarName)
    | "Display" => some (str dt.display)
    | "ElementDisplay" => some (str dt.elementDisplay)
    | "String" => some (str dt.raw)
    | _ => Option.none
  | int t n =>
    if t == operationTypeName then
      match name with
      | "String" => some (str (Operation.ofInt n).verb)
      | "RequiresCollection" => some (bool (Operation.ofInt n).requiresCollection)
      | _ => Option.none
    else if t == kindTypeName then
      match name with
      | "String" => some (str (TypeKind.ofInt n).name)
      | _ => Option.none
    else Option.none
  | _ => Option.none

/-- **Truth**: whether a value counts as true, and whether truth applies to it at all. -/
def truth : Datum → Bool
  | none => false
  | str s => !s.isEmpty
  | int _ n => n != 0
  | float x => x != 0
  | bool b => b
  | record .. => true
  | list _ xs => !xs.isEmpty
  | nilOf _ => false

mutual
/-- **The printed form** of a value: through its `String` method when it has one. -/
def print : Datum → String
  | none => "<no value>"
  | str s => s
  | int t n =>
    if t == operationTypeName then (Operation.ofInt n).verb
    else if t == kindTypeName then (TypeKind.ofInt n).name
    else toString n
  | float x => Number.floatText x
  | bool b => if b then "true" else "false"
  | record t fs =>
    if t == declaredTypeName then ((fs.lookup "RawExpression").map textOf).getD ""
    else "\x7b" ++ printFields fs ++ "\x7d"
  | list _ xs => "[" ++ printItems xs ++ "]"
  | nilOf _ => "<nil>"

/-- Field values separated by blanks. -/
def printFields : List (String × Datum) → String
  | [] => ""
  | [(_, d)] => print d
  | (_, d) :: fs => print d ++ " " ++ printFields fs

/-- Items separated by blanks. -/
def printItems : List Datum → String
  | [] => ""
  | [d] => print d
  | d :: ds => print d ++ " " ++ printItems ds
end

/-- Texts are true exactly when they are not empty. -/
theorem truth_str (s : String) : (str s).truth = !s.isEmpty := rfl

end Datum

end Accessors.Template
