import Accessors.Spec.Basic

/-!
# Templates of generated accessors

Generated files are written by named templates: `accessors-file` for the whole file, and one
template per operation (`get`, `set`, `add`, `remove`, `contains`) for each accessor, which the
file template reaches through its `accessor` function.

A set of templates maps names to texts. The standard set holds the six templates below; a text
set under a name replaces the one before it, and the empty set has none, so that rendering with
it fails to find the file template.

Main statements: a text set under a name is the text found under it (`get?_set`).
-/

namespace Accessors.Render

/-- The name of the template of a whole file. -/
def fileTemplate : String := "accessors-file"

/-- **The template of an operation**: readers use `get`. -/
def templateFor : Operation → String
  | .set => "set"
  | .add => "add"
  | .remove => "remove"
  | .contains => "contains"
  | _ => "get"

/-- The file: the header, the package clause, the imports, a checker per checked property, and
the accessors. -/
def fileText : String :=
  "\x7b\x7b.Header\x7d\x7d\n" ++
  "\n" ++
  "package \x7b\x7b.Package\x7d\x7d\n" ++
  "\n" ++
  "\x7b\x7b.Imports\x7d\x7d\n" ++
  "\x7b\x7b- if .Checkers\x7d\x7d\n" ++
  "var (\n" ++
  "\x7b\x7b- range .Checkers\x7d\x7d\n" ++
  "\t\x7b\x7b.Var\x7d\x7d = \x7b\x7b$.Runtime\x7d\x7d.NewChecker(\x7b\x7btypeLiteral $.Runtime .Type\x7d\x7d, \x7b\x7bif .Elem\x7d\x7d\x7b\x7b$.Reflect\x7d\x7d.TypeFor[\x7b\x7b.Elem\x7d\x7d]()\x7b\x7belse\x7d\x7dnil\x7b\x7bend\x7d\x7d)\n" ++
  "\x7b\x7b- end\x7d\x7d\n" ++
  ")\n" ++
  "\x7b\x7bend\x7d\x7d\n" ++
  "\x7b\x7b- range .Methods\x7d\x7d\n" ++
  "\x7b\x7baccessor .\x7d\x7d\n" ++
  "\x7b\x7bend\x7d\x7d"

/-- A reader: returns the field. -/
def getText : String :=
  "// \x7b\x7b.Identifier\x7d\x7d returns \x7b\x7b.Field\x7d\x7d.\n" ++
  "func (\x7b\x7b.Receiver\x7d\x7d *\x7b\x7b.TypeName\x7d\x7d) \x7b\x7b.Identifier\x7d\x7d() \x7b\x7b.GoType\x7d\x7d \x7b\n" ++
  "\treturn \x7b\x7b.Receiver\x7d\x7d.\x7b\x7b.Field\x7d\x7d\n" ++
  "\x7d"

/-- A writer: checks the value, converts it to the field's type and stores it. -/
def setText : String :=
  "// \x7b\x7b.Identifier\x7d\x7d stores value in \x7b\x7b.Field\x7d\x7d; value must be \x7b\x7b.Expected\x7d\x7d.\n" ++
  "func (\x7b\x7b.Receiver\x7d\x7d *\x7b\x7b.TypeName\x7d\x7d) \x7b\x7b.Identifier\x7d\x7d(value any) error \x7b\n" ++
  "\tif err := \x7b\x7b.Checker\x7d\x7d.CheckValue(value); err != nil \x7b\n" ++
  "\t\treturn err\n" ++
  "\t\x7d\n" ++
  "\tconverted, ok := \x7b\x7b.Runtime\x7d\x7d.Convert[\x7b\x7b.GoType\x7d\x7d](value)\n" ++
  "\tif !ok \x7b\n" ++
  "\t\treturn \x7b\x7b.Runtime\x7d\x7d.NewInvalidArgumentTypeError(value, \x7b\x7bquote .Expected\x7d\x7d)\n" ++
  "\t\x7d\n" ++
  "\t\x7b\x7b.Receiver\x7d\x7d.\x7b\x7b.Field\x7d\x7d = converted\n" ++
  "\treturn nil\n" ++
  "\x7d"

/-- An adder: checks an element, converts it and appends it to the field. -/
def addText : String :=
  "// \x7b\x7b.Identifier\x7d\x7d appends value to \x7b\x7b.Field\x7d\x7d.\n" ++
  "func (\x7b\x7b.Receiver\x7d\x7d *\x7b\x7b.TypeName\x7d\x7d) \x7b\x7b.Identifier\x7d\x7d(value any) error \x7b\n" ++
  "\tif err := \x7b\x7b.Checker\x7d\x7d.CheckElement(value); err != nil \x7b\n" ++
  "\t\treturn err\n" ++
  "\t\x7d\n" ++
  "\telem, ok := \x7b\x7b.Runtime\x7d\x7d.Convert[\x7b\x7b.ElemType\x7d\x7d](value)\n" ++
  "\tif !ok \x7b\n" ++
  "\t\treturn \x7b\x7b.Runtime\x7d\x7d.NewInvalidArgumentTypeError(value, \x7b\x7bquote .Expected\x7d\x7d)\n" ++
  "\t\x7d\n" ++
  "\t\x7b\x7b.Receiver\x7d\x7d.\x7b\x7b.Field\x7d\x7d = append(\x7b\x7b.Receiver\x7d\x7d.\x7b\x7b.Field\x7d\x7d, elem)\n" ++
  "\treturn nil\n" ++
  "\x7d"

/-- A remover: checks an element, converts it and removes the first equal element of the field. -/
def removeText : String :=
  "// \x7b\x7b.Identifier\x7d\x7d removes the first element of \x7b\x7b.Field\x7d\x7d equal to value.\n" ++
  "func (\x7b\x7b.Receiver\x7d\x7d *\x7b\x7b.TypeName\x7d\x7d) \x7b\x7b.Identifier\x7d\x7d(value any) error \x7b\n" ++
  "\tif err := \x7b\x7b.Checker\x7d\x7d.CheckElement(value); err != nil \x7b\n" ++
  "\t\treturn err\n" ++
  "\t\x7d\n" ++
  "\telem, ok := \x7b\x7b.Runtime\x7d\x7d.Convert[\x7b\x7b.ElemType\x7d\x7d](value)\n" ++
  "\tif !ok \x7b\n" ++
  "\t\treturn \x7b\x7b.Runtime\x7d\x7d.NewInvalidArgumentTypeError(value, \x7b\x7bquote .Expected\x7d\x7d)\n" ++
  "\t\x7d\n" ++
  "\t\x7b\x7b.Receiver\x7d\x7d.\x7b\x7b.Field\x7d\x7d = \x7b\x7b.Runtime\x7d\x7d.RemoveElement(\x7b\x7b.Receiver\x7d\x7d.\x7b\x7b.Field\x7d\x7d, elem)\n" ++
  "\treturn nil\n" ++
  "\x7d"

/-- A membership test: checks an element, converts it and reports whether the field holds an
equal one. -/
def containsText : String :=
  "// \x7b\x7b.Identifier\x7d\x7d reports whether \x7b\x7b.Field\x7d\x7d holds an element equal to value.\n" ++
  "func (\x7b\x7b.Receiver\x7d\x7d *\x7b\x7b.TypeName\x7d\x7d) \x7b\x7b.Identifier\x7d\x7d(value any) (bool, error) \x7b\n" ++
  "\tif err := \x7b\x7b.Checker\x7d\x7d.CheckElement(value); err != nil \x7b\n" ++
  "\t\treturn false, err\n" ++
  "\t\x7d\n" ++
  "\telem, ok := \x7b\x7b.Runtime\x7d\x7d.Convert[\x7b\x7b.ElemType\x7d\x7d](value)\n" ++
  "\tif !ok \x7b\n" ++
  "\t\treturn false, \x7b\x7b.Runtime\x7d\x7d.NewInvalidArgumentTypeError(value, \x7b\x7bquote .Expected\x7d\x7d)\n" ++
  "\t\x7d\n" ++
  "\treturn \x7b\x7b.Runtime\x7d\x7d.ContainsElement(\x7b\x7b.Receiver\x7d\x7d.\x7b\x7b.Field\x7d\x7d, elem), nil\n" ++
  "\x7d"

/-- **A set of templates**: texts by name, the latest first, each name once. -/
structure TemplateSet where
  entries : List (String × String)
  deriving Repr, Inhabited

namespace TemplateSet

/-- The set without templates. -/
def empty : TemplateSet := ⟨[]⟩

/-- The text of a template. -/
def get? (s : TemplateSet) (name : String) : Option String := s.entries.lookup name

/-- **Sets the text** of a template, replacing the one before it. -/
def set (s : TemplateSet) (name text : String) : TemplateSet :=
  ⟨(name, text) :: s.entries.filter (·.1 != name)⟩

/-- **The standard templates.** -/
def standard : TemplateSet :=
  ⟨[(fileTemplate, fileText), ("get", getText), ("set", setText), ("add", addText),
    ("remove", removeText), ("contains", containsText)]⟩

/-- A text set under a name is the text found under it. -/
theorem get?_set (s : TemplateSet) (name text : String) : (s.set name text).get? name = some text := by
  simp [set, get?]

end TemplateSet

end Accessors.Render
