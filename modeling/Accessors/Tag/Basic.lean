import Accessors.Error.Basic

/-!
# Annotations

An annotation is a line of documentation that starts with `@Name`. It carries either a bare
value (`@var string`) or a field list (`@Get(name="title")`). A field list that cannot be read
is kept as a malformed occurrence, with the syntax error that explains it, so that whoever asks
for its tag hears about it.

This module holds the occurrence and its errors: the syntax error of a field list, which names
the documentation line it starts on, and the failure of a look-up, which is either "not found"
or "malformed".
-/

namespace Accessors

/-- One `key="value"` pair of a field list. -/
structure Field where
  name : String
  value : String
  deriving DecidableEq, Repr, Inhabited

/-- **Syntax error** of a field list: the tag, the documentation line the list starts on
(counting from one), and what is wrong. -/
structure SyntaxError where
  tag : String
  line : Nat
  msg : String
  deriving DecidableEq, Repr, Inhabited

/-- The text of a syntax error. -/
def SyntaxError.message (e : SyntaxError) : String :=
  s!"line {e.line}: @{e.tag}: {e.msg}"

/-- **An occurrence** of a tag in documentation: its name, its bare value (empty when the field
form was used), its fields when a field list was written, and the syntax error of a field list
that could not be read. -/
structure Occurrence where
  name : String
  value : String
  fields : Option (List Field)
  error : Option SyntaxError
  deriving DecidableEq, Repr, Inhabited

namespace Occurrence

/-- Whether the occurrence carries a bare value. -/
def hasValue (o : Occurrence) : Bool := !o.value.isEmpty

/-- Whether the field list of the occurrence failed to read. -/
def malformed (o : Occurrence) : Bool := o.error.isSome

/-- The value of the first field with the given name. -/
def field? (o : Occurrence) (name : String) : Option String :=
  ((o.fields.getD []).find? (·.name == name)).map (·.value)

/-- The occurrence under another name. -/
def rename (o : Occurrence) (name : String) : Occurrence := { o with name }

end Occurrence

/-! ### Look-up failures -/

/-- The error of a syntax error. -/
def SyntaxError.toError (e : SyntaxError) : Error := .fieldListSyntax e.tag e.line e.msg

/-- **Not found**: the tag asked for is absent from the property (class and field name). -/
def notFoundError (property : Option (String × String)) (tag : String) : Error :=
  .lookup false property tag none

/-- **Malformed**: the tag asked for is present but its field list cannot be read. -/
def malformedError (property : Option (String × String)) (tag : String) (cause : SyntaxError) : Error :=
  .lookup true property tag (some cause.toError)

end Accessors
