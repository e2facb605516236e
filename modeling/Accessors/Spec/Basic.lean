import Accessors.Declared.Basic
import Accessors.Text.Basic
import Accessors.Error.Basic

/-!
# Accessor specifications

What is generated for a class, before it is written as source or bound to values: its
properties with their declared types, and its accessor methods. A method performs one of five
operations on one property: read it (`get`), replace it (`set`), or, for sequences only, add,
remove or look for an element. Its name is the operation's verb followed by the subject with a
capital first letter (`getTitle`); public methods are exported, so their identifier starts with
an upper-case letter, the others with a lower-case one.

Operations and visibilities also arrive as numbers; a number outside the known ones is kept and
shows as `unknown`.

Main statements: an exported identifier differs from the name only in its first letter
(`identifier_public`), and the verb of a default name is the operation's (`methodName_get`).
-/

namespace Accessors

/-! ### Operations -/

/-- **An operation** of an accessor. -/
inductive Operation where
  | get
  | set
  | add
  | remove
  | contains
  /-- A number that names no operation. -/
  | unknown (n : Int)
  deriving DecidableEq, Repr, Inhabited

namespace Operation

/-- The five operations in their canonical order. -/
def all : List Operation := [get, set, add, remove, contains]

/-- The verb of an operation. -/
def verb : Operation → String
  | get => "get"
  | set => "set"
  | add => "add"
  | remove => "remove"
  | contains => "contains"
  | unknown _ => "unknown"

/-- The operation with the given number, counting from zero in canonical order. -/
def ofInt : Int → Operation
  | 0 => get
  | 1 => set
  | 2 => add
  | 3 => remove
  | 4 => contains
  | n => unknown n

/-- The number of an operation. -/
def toInt : Operation → Int
  | get => 0
  | set => 1
  | add => 2
  | remove => 3
  | contains => 4
  | unknown n => n

/-- Whether the operation is only meaningful on sequences. -/
def requiresCollection (o : Operation) : Bool := o == add || o == remove || o == contains

/-- **Parsing a verb**: the operation it names. -/
def parse (s : String) : Except Error Operation :=
  match all.find? (·.verb == s) with
  | some o => .ok o
  | none => .error (.plain ("unknown accessor operation: " ++ s))

end Operation

/-! ### Visibility -/

/-- **The visibility** of an accessor. -/
inductive Visibility where
  | publicAccess
  | protectedAccess
  | privateAccess
  /-- A number that names no visibility. -/
  | unknown (n : Int)
  deriving DecidableEq, Repr, Inhabited

namespace Visibility

/-- The keyword of a visibility. -/
def keyword : Visibility → String
  | .publicAccess => "public"
  | .protectedAccess => "protected"
  | .privateAccess => "private"
  | unknown _ => "unknown"

/-- The visibility with the given number: public, protected, private from zero. -/
def ofInt : Int → Visibility
  | 0 => .publicAccess
  | 1 => .protectedAccess
  | 2 => .privateAccess
  | n => unknown n

/-- The number of a visibility. -/
def toInt : Visibility → Int
  | .publicAccess => 0
  | .protectedAccess => 1
  | .privateAccess => 2
  | unknown n => n

/-- The message for a keyword that names no visibility. -/
def unknownMessage (s : String) : String :=
  "unknown visibility " ++ Text.quote s ++ " (expected public, protected or private)"

/-- **Parsing a keyword**: the visibility it names. -/
def parse (s : String) : Except String Visibility :=
  match s with
  | "public" => .ok .publicAccess
  | "protected" => .ok .protectedAccess
  | "private" => .ok .privateAccess
  | _ => .error (unknownMessage s)

end Visibility

/-! ### Specifications -/

/-- **A property** of a class specification: the field name, the type of the field in source
(empty when there is none) and the declared type. -/
structure PropertySpec where
  name : String
  goType : String
  type : DeclaredType
  deriving DecidableEq, Repr, Inhabited

/-- **An accessor method**: its name, operation, property, visibility, and the expected type its
argument is checked against (empty for readers). -/
structure MethodSpec where
  name : String
  operation : Operation
  property : String
  visibility : Visibility
  expected : String
  deriving DecidableEq, Repr, Inhabited

/-- The default name of an accessor: the verb, then the subject, trimmed, with its first letter
in upper case. -/
def methodName (op : Operation) (subject : String) : String :=
  op.verb ++ Text.upperFirst (Text.trimSpace subject)

/-- **The identifier** of a method: exported (upper-case first letter) when public, unexported
otherwise. -/
def MethodSpec.identifier (m : MethodSpec) : String :=
  if m.visibility != .publicAccess then Text.lowerFirst m.name else Text.upperFirst m.name

/-- **A class specification**: the class name, the package name, the type name, and the
properties and methods in order. -/
structure ClassSpec where
  name : String
  packageName : String
  typeName : String
  properties : List PropertySpec
  methods : List MethodSpec
  deriving DecidableEq, Repr, Inhabited

namespace ClassSpec

/-- The property of the given name. -/
def property? (c : ClassSpec) (name : String) : Option PropertySpec :=
  c.properties.find? (·.name == name)

/-- The method of the given name. -/
def method? (c : ClassSpec) (name : String) : Option MethodSpec :=
  c.methods.find? (·.name == name)

end ClassSpec

/-- A public method's identifier is its name with the first letter in upper case. -/
theorem identifier_public (m : MethodSpec) (h : m.visibility = .publicAccess) :
    m.identifier = Text.upperFirst m.name := by
  simp [MethodSpec.identifier, h]

/-- The default name of a reader starts with `get`. -/
theorem methodName_get (subject : String) :
    methodName .get subject = "get" ++ Text.upperFirst (Text.trimSpace subject) := rfl

end Accessors
