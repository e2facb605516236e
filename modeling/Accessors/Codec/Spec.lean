import Accessors.Spec.Basic
import Accessors.Codec.Tag
import Accessors.Declared.Expr

/-!
# Specifications as JSON

The JSON forms of class specifications: properties with their declared types, and methods with
their identifiers, operations named by verb and visibilities by keyword.

Specifications are also read from JSON: operations, visibilities and kinds by name or by number
(a missing visibility is public), and a property's type either as an expression (`var`) or
field by field (`type`).
-/

namespace Accessors

/-- The JSON form of a property specification. -/
def PropertySpec.toJson (p : PropertySpec) : Json :=
  .obj [("name", .str p.name), ("go_type", .str p.goType), ("type", p.type.toJson)]

/-- The JSON form of a method specification. -/
def MethodSpec.toJson (m : MethodSpec) : Json :=
  .obj [("name", .str m.name), ("identifier", .str m.identifier), ("operation", .str m.operation.verb),
    ("property", .str m.property), ("visibility", .str m.visibility.keyword),
    ("expected", .str m.expected)]

/-- The JSON form of a class specification. -/
def ClassSpec.toJson (c : ClassSpec) : Json :=
  .obj [("name", .str c.name), ("package", .str c.packageName), ("type_name", .str c.typeName),
    ("properties", .arr (c.properties.map PropertySpec.toJson)),
    ("methods", .arr (c.methods.map MethodSpec.toJson))]

/-! ### Reading -/

/-- The operation of a verb or a number; a missing one reads as `get`. -/
def Operation.ofJson? (j : Json) : Except String Operation :=
  match j with
  | .str s =>
    match Operation.parse s with
    | .ok o => .ok o
    | .error e => .error e.message
  | .null => .ok .get
  | j =>
    match j.int? with
    | some n => .ok (Operation.ofInt n)
    | none => .error "bad operation"

/-- The visibility of a keyword or a number; a missing one reads as public. -/
def Visibility.ofJson? (j : Json) : Except String Visibility :=
  match j with
  | .str s => Visibility.parse s
  | .null => .ok .publicAccess
  | j =>
    match j.int? with
    | some n => .ok (Visibility.ofInt n)
    | none => .error "bad visibility"

/-- The kind of a name or a number. -/
def TypeKind.ofJson? (j : Json) : Except String TypeKind :=
  match j with
  | .str s =>
    match TypeKind.ofName? s with
    | some k => .ok k
    | none => .error ("unknown kind " ++ Text.quote s)
  | .null => .ok .scalar
  | j =>
    match j.int? with
    | some n => .ok (TypeKind.ofInt n)
    | none => .error "bad kind"

/-- A declared type given field by field. -/
def DeclaredType.ofJson? (j : Json) : Except String DeclaredType := do
  let kind ← TypeKind.ofJson? (j.get "kind")
  return ⟨kind, j.boolD "nullable", j.strD "element", j.strD "raw"⟩

/-- A property specification: its type as an expression or field by field. -/
def PropertySpec.ofJson? (j : Json) : Except String PropertySpec := do
  let type ← match j.get? "var" with
    | some (.str e) => pure (DeclaredType.parse e)
    | _ => DeclaredType.ofJson? (j.get "type")
  return ⟨j.strD "name", j.strD "go_type", type⟩

/-- A method specification. -/
def MethodSpec.ofJson? (j : Json) : Except String MethodSpec := do
  let op ← Operation.ofJson? (j.get "operation")
  let vis ← Visibility.ofJson? (j.get "visibility")
  return ⟨j.strD "name", op, j.strD "property", vis, j.strD "expected"⟩

/-- **A class specification** read from JSON. -/
def ClassSpec.ofJson? (j : Json) : Except String ClassSpec := do
  let props ← (j.arrD "properties").mapM PropertySpec.ofJson?
  let methods ← (j.arrD "methods").mapM MethodSpec.ofJson?
  return ⟨j.strD "name", j.strD "package", j.strD "type_name", props, methods⟩

end Accessors
