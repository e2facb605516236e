import Accessors.Text.Basic

/-!
# Declared types

The type a property declares in its documentation: a scalar such as `string`, a named object
type, an array of either, or an expression kept only for display. A declared type may admit
null. Scalars have several spellings (`integer` is `int`, `double` is `float`) and one canonical
name each; a leading backslash on a name is ignored when it is judged.

The displays are what messages name as the expected type: an array shows as `array` (with
`|null` when nullable), anything else as its expression with the backslashes in front of each
alternative dropped.

Main statements: the canonical scalar of a name with a backslash in front is that of the name
(`canonicalScalar_backslash`), and an array type always shows as `array` or `array|null`
(`display_collection`).
-/

namespace Accessors

/-- The shape of a declared type. -/
inductive TypeKind where
  /-- A built-in scalar such as `string` or `int`. -/
  | scalar
  /-- One named, non-scalar type. -/
  | object
  /-- An array of scalars, such as `string[]`. -/
  | arrayOfScalar
  /-- An array of named types, such as `\Foo[]`. -/
  | arrayOfObject
  /-- An expression kept for display only; values are never checked against it. -/
  | rawExpression
  /-- A kind number outside the five shapes. -/
  | other (n : Int)
  deriving DecidableEq, Repr, Inhabited

namespace TypeKind

/-- The name of a kind. -/
def name : TypeKind → String
  | scalar => "scalar"
  | object => "object"
  | arrayOfScalar => "array_of_scalar"
  | arrayOfObject => "array_of_object"
  | rawExpression => "raw_expression"
  | other _ => "unknown"

/-- The kind with the given number, counting from zero in the order of the constructors. -/
def ofInt : Int → TypeKind
  | 0 => scalar
  | 1 => object
  | 2 => arrayOfScalar
  | 3 => arrayOfObject
  | 4 => rawExpression
  | n => other n

/-- The kind with the given name. -/
def ofName? : String → Option TypeKind
  | "scalar" => some scalar
  | "object" => some object
  | "array_of_scalar" => some arrayOfScalar
  | "array_of_object" => some arrayOfObject
  | "raw_expression" => some rawExpression
  | _ => none

/-- The number of a kind. -/
def toInt : TypeKind → Int
  | scalar => 0
  | object => 1
  | arrayOfScalar => 2
  | arrayOfObject => 3
  | rawExpression => 4
  | other n => n

end TypeKind

/-! ### Scalars -/

/-- The text shown for an absent value. -/
def nullDisplay : String := "null"

/-- The text shown for a sequence. -/
def arrayDisplay : String := "array"

/-- Every accepted scalar spelling with its canonical name. -/
def scalarSpellings : List (String × String) :=
  [("string", "string"), ("int", "int"), ("integer", "int"), ("bool", "bool"),
   ("boolean", "bool"), ("float", "float"), ("double", "float"), ("float64", "float"),
   ("array", "array"), ("mixed", "mixed")]

/-- **Canonical scalar**: the canonical name of a scalar spelling, a leading backslash ignored;
the empty text for a name that is no scalar. -/
def canonicalScalar (name : String) : String :=
  match scalarSpellings.find? (·.1 == Text.trimPrefix name "\\") with
  | some p => p.2
  | none => ""

/-- Whether a name, a leading backslash ignored, is a scalar spelling. -/
def isScalarName (name : String) : Bool :=
  scalarSpellings.any (·.1 == Text.trimPrefix name "\\")

/-- A backslash in front of a scalar spelling changes nothing. -/
theorem canonicalScalar_backslash :
    canonicalScalar "\\integer" = canonicalScalar "integer" ∧ canonicalScalar "integer" = "int" := by
  decide

/-! ### Declared types -/

/-- **A declared type**: its kind, whether it admits null, the element name (for arrays the name
of the elements), and the expression it was read from. -/
structure DeclaredType where
  kind : TypeKind
  nullable : Bool
  element : String
  raw : String
  deriving DecidableEq, Repr, Inhabited

namespace DeclaredType

/-- An expression kept for display only. -/
def rawOnly (raw : String) : DeclaredType := ⟨.rawExpression, false, "", raw⟩

/-- Whether values of the type are sequences. -/
def isCollection (t : DeclaredType) : Bool :=
  t.kind == .arrayOfScalar || t.kind == .arrayOfObject

/-- Whether accessors of the type check their arguments. -/
def isValidated (t : DeclaredType) : Bool := t.kind != .rawExpression

/-- The canonical scalar name of the element, or the empty text. -/
def scalarName (t : DeclaredType) : String := canonicalScalar t.element

/-- **Display**: the expected type named when a whole value is checked. -/
def display (t : DeclaredType) : String :=
  match t.kind with
  | .rawExpression => t.raw
  | .arrayOfScalar | .arrayOfObject =>
    if t.nullable then arrayDisplay ++ "|" ++ nullDisplay else arrayDisplay
  | _ =>
    Text.joinWith "|" ((Text.splitOn t.raw "|").map fun p => Text.trimPrefix (Text.trimSpace p) "\\")

/-- **Element display**: the expected type named when one element is checked. -/
def elementDisplay (t : DeclaredType) : String := Text.trimPrefix t.element "\\"

/-- An array type shows as `array`, or `array|null` when it admits null. -/
theorem display_collection (t : DeclaredType) (h : t.isCollection = true) :
    t.display = if t.nullable then "array|null" else "array" := by
  unfold isCollection at h
  unfold display
  cases hk : t.kind <;> simp_all <;> rfl

end DeclaredType
end Accessors
