import Accessors.Render.Imports
import Accessors.Render.Templates
import Accessors.Template.Exec
import Accessors.Source.Format
import Accessors.Error.Basic

/-!
# Generated accessor files

A class specification is rendered into one Go file of accessor methods for the struct it was
synthesized from:

* the file imports the packages of the struct's file, the runtime package and `reflect`, under
  the names `Accessors.Render.Imports` gives them;
* every property with an accessor other than a reader gets a **checker**, a package variable
  that checks values against the declared type; an object type, or an array of objects, also
  names its Go element type, which must be the declared one;
* every method is written by the template of its operation; adders, removers and membership
  tests need a slice field;
* a settable property that may be null needs a field that can hold nil;
* the text is formatted by `Accessors.Source.Format`, which also drops the imports the code
  does not use.

Each failure is a generation error of the class at the `render` stage, located at the struct.

Main statements: a receiver is one lower-case letter or `x` (`receiverName_ascii`).
-/

namespace Accessors.Render

open Template

/-- The first line of every generated file. -/
def header : String := "// Code generated by accessorgen. DO NOT EDIT."

/-- The import path of the runtime package generated code uses by default. -/
def defaultRuntime : String := "github.com/toyz/accessorgen/pkg/accessor"

/-- **The file name** of the accessors of a type. -/
def fileNameFor (typeName : String) : String :=
  "zz_generated." ++ String.ofList (typeName.toList.map Text.toLower) ++ ".accessors.go"

/-- **The receiver name** of a type's methods: its first letter in lower case, or `x` when it
does not start with a letter. -/
def receiverName (typeName : String) : String :=
  match typeName.toList with
  | c :: _ => if Text.isLetter c then String.singleton (Text.toLower c) else "x"
  | [] => "x"

/-- The element type of a slice type. -/
def sliceElem (goType : String) : Option String :=
  if goType.startsWith "[]" then some (String.ofList (goType.toList.drop 2)) else none

/-- The part of a type name after its last backslash or dot. -/
def lastSegment (name : String) : String :=
  String.ofList ((name.toList.reverse.takeWhile fun c => c != '\\' && c != '.').reverse)

/-- Whether a declared object name and a Go type name the same type, by their last segments. -/
def sameTypeName (declared goType : String) : Bool :=
  lastSegment declared == lastSegment (String.ofList (goType.toList.dropWhile (· == '*')))

/-- The constant of the runtime package for a kind. -/
def kindIdent : TypeKind → String
  | .object => "Object"
  | .arrayOfScalar => "ArrayOfScalar"
  | .arrayOfObject => "ArrayOfObject"
  | .rawExpression => "RawExpression"
  | _ => "Scalar"

/-- **The literal of a declared type** in generated code, for a runtime package name. -/
def typeLiteral (runtime : String) (t : DeclaredType) : String :=
  runtime ++ ".Type" ++ "\x7bKind: " ++ runtime ++ "." ++ kindIdent t.kind ++ ", Nullable: " ++
    (if t.nullable then "true" else "false") ++ ", ElementTypeName: " ++ Text.quote t.element ++
    ", RawExpression: " ++ Text.quote t.raw ++ "\x7d"

/-! ### Checkers -/

/-- **A checker** of a property: the property, its variable, the declared type, and the Go
element type it names (empty for none). -/
structure Checker where
  property : String
  var : String
  type : DeclaredType
  elem : String
  deriving Repr, Inhabited

/-- Whether a property has an accessor other than a reader. -/
def needsChecker (c : ClassSpec) (property : String) : Bool :=
  c.methods.any fun m => m.property == property && m.operation != .get

/-- Whether a property has an accessor of an operation. -/
def hasOperation (c : ClassSpec) (property : String) (op : Operation) : Bool :=
  c.methods.any fun m => m.property == property && m.operation == op

/-- **The checker of a property**, or why it cannot have one. -/
def checkerFor (typeName : String) (p : PropertySpec) : Except String Checker := do
  if p.goType.isEmpty then throw ("field " ++ p.name ++ " has no Go type")
  let var := Text.lowerFirst typeName ++ Text.upperFirst p.name ++ "Checker"
  let elem ← match p.type.kind with
    | .object => pure p.goType
    | .arrayOfObject =>
      match sliceElem p.goType with
      | some e => pure e
      | none => throw ("field " ++ p.name ++ " declares " ++ p.type.display ++ " but is " ++
          p.goType ++ ", not a slice")
    | _ => pure ""
  if !elem.isEmpty && !sameTypeName p.type.element elem then
    throw ("field " ++ p.name ++ " declares " ++ p.type.display ++ " but is " ++ p.goType)
  return ⟨p.name, var, p.type, elem⟩

/-- Why a settable property that may be null has a field that cannot hold nil, if it has. -/
def nullableProblem? (c : ClassSpec) (info : ClassInfo) (p : PropertySpec) : Option String :=
  if !p.type.nullable || !hasOperation c p.name .set then none
  else match info.property? p.name with
    | some f =>
      if f.nilable then none
      else some ("field " ++ p.name ++ " declares " ++ p.type.display ++ " but " ++ p.goType ++
        " cannot hold null")
    | none => none

/-! ### Template data -/

/-- The type name of the data of one accessor. -/
def methodDataType : String := "templates.methodData"

/-- The data of a checker. -/
def Checker.datum (k : Checker) : Datum :=
  .record "templates.checkerData" [("Var", .str k.var), ("Type", .ofDeclared k.type), ("Elem", .str k.elem)]

/-- **The data of one accessor**: what its template may use. -/
structure MethodData where
  op : Operation
  identifier : String
  receiver : String
  typeName : String
  field : String
  goType : String
  elemType : String
  checker : String
  expected : String
  runtime : String
  deriving Repr, Inhabited

/-- The data of an accessor as a template value. -/
def MethodData.datum (m : MethodData) : Datum :=
  .record methodDataType [("Op", .int Datum.operationTypeName m.op.toInt),
    ("Identifier", .str m.identifier), ("Receiver", .str m.receiver), ("TypeName", .str m.typeName),
    ("Field", .str m.field), ("GoType", .str m.goType), ("ElemType", .str m.elemType),
    ("Checker", .str m.checker), ("Expected", .str m.expected), ("Runtime", .str m.runtime)]

/-- The operation of accessor data. -/
def operationOf (d : Datum) : Operation :=
  match d.fieldOf "Op" with
  | .int _ n => Operation.ofInt n
  | _ => .get

/-! ### Running templates -/

/-- The function that quotes a text as a Go string literal. -/
def quoteFunc : Func := ⟨[.string], none, fun as => .ok (.str (Text.quote (as.headD .none).textOf))⟩

/-- The function that writes the literal of a declared type. -/
def typeLiteralFunc : Func :=
  ⟨[.string, .named Datum.declaredTypeName], none, fun as =>
    .ok (.str (typeLiteral (as.headD .none).textOf (as.getD 1 .none).toDeclared))⟩

/-- **Runs a template** of a set on data: its text, or a template error naming the step that
failed (`find`, `parse` or `execute`). Templates may call `quote`, `typeLiteral`, and
`accessor`, which runs the template of an accessor's operation on it. -/
def runTemplate (templates : TemplateSet) : Nat → String → Datum → Except Error String
  | 0, name, _ => .error (Error.template name "execute" (some (.plain "templates nest too deeply")))
  | fuel + 1, name, data =>
    match templates.get? name with
    | none => .error (Error.template name "find" (some (.plain "template not registered")))
    | some text =>
      let accessorFunc : Func := ⟨[.named methodDataType], none, fun as =>
        let m := as.headD .none
        match runTemplate templates fuel (templateFor (operationOf m)) m with
        | .ok s => .ok (.str s)
        | .error e => .error e.message⟩
      let funcs := [("quote", quoteFunc), ("typeLiteral", typeLiteralFunc), ("accessor", accessorFunc)]
      match Template.parse name text (builtinNames ++ funcs.map (·.1)) with
      | .error e => .error (Error.template name "parse" (some (.plain e)))
      | .ok trees =>
        match execute ⟨text, name, trees, funcs⟩ name data with
        | .error e => .error (Error.template name "execute" (some (.plain e)))
        | .ok out => .ok out

/-- The deepest nesting of templates run from the file template. -/
def templateDepth : Nat := 64

/-! ### Rendering -/

/-- **A generated file**: its name, the class, type and package it is for, the identifiers of
its accessors, and its text. -/
structure GeneratedFile where
  fileName : String
  className : String
  typeName : String
  packageName : String
  methods : List String
  content : String
  deriving Repr, Inhabited

/-- The stage name of rendering in generation errors. -/
def stage : String := "render"

/-- **A failure** of rendering a class, located at its struct, about a property when one is
named. -/
def fail (c : ClassSpec) (info : ClassInfo) (property msg : String) : Error :=
  let e := (Error.generationOf c.name stage msg).withLocation ⟨info.fileName, info.line, 0⟩
  if property.isEmpty then e else e.withProperty property

/-- The checkers of a class's properties, or the failure of the first property that cannot
have one. -/
def checkersOf (c : ClassSpec) (info : ClassInfo) : Except Error (List Checker) :=
  c.properties.foldlM (fun acc p => do
    if let some msg := nullableProblem? c info p then
      throw ((fail c info p.name msg).withSuggestions
        ["declare " ++ p.name ++ " as *" ++ p.goType ++ " or drop null from its @var type"])
    if !needsChecker c p.name then return acc
    match checkerFor c.typeName p with
    | .ok k => return acc ++ [k]
    | .error msg => throw (fail c info p.name msg)) []

/-- The data of each accessor of a class, or the failure of the first one that cannot be
written. -/
def methodsOf (c : ClassSpec) (info : ClassInfo) (runtime : String) (checkers : List (String × String)) :
    Except Error (List MethodData) :=
  c.methods.mapM fun m => do
    let some p := c.property? m.property
      | throw (fail c info m.property ("accessor " ++ m.name ++ " refers to an unknown property"))
    let elemType ← if m.operation.requiresCollection then
        match sliceElem p.goType with
        | some e => pure e
        | none => throw (fail c info p.name ("accessor " ++ m.name ++ " needs a slice field, " ++
            c.typeName ++ "." ++ p.name ++ " is " ++ p.goType))
      else pure ""
    return { op := m.operation, identifier := m.identifier, receiver := receiverName c.typeName,
             typeName := c.typeName, field := p.name, goType := p.goType, elemType,
             checker := (checkers.lookup p.name).getD "", expected := m.expected, runtime }

/-- A receiver of a type named in ASCII is its first letter in lower case. -/
theorem receiverName_ascii : receiverName "Article" = "a" ∧ receiverName "_x" = "x" := by
  decide

end Accessors.Render

namespace Accessors

open Render Template

/-- **Renders a class** synthesized from a struct with a set of templates, the generated code
using the runtime package at `runtimePath`. -/
def ClassSpec.render (templates : TemplateSet) (runtimePath : String) (c : ClassSpec) (info : ClassInfo) :
    Except Error GeneratedFile := do
  let fileName := fileNameFor c.typeName
  let im := ImportSet.empty.addImports info.imports
  let (runtime, im) := im.require runtimePath
  let (reflect, im) := im.require "reflect"
  let checkers ← checkersOf c info
  let methods ← methodsOf c info runtime (checkers.reverse.map fun k => (k.property, k.var))
  let data : Datum := .record "templates.fileData" [("Header", .str header), ("Package", .str c.packageName),
    ("Imports", .str im.block), ("Runtime", .str runtime), ("Reflect", .str reflect),
    ("Checkers", .list "[]templates.checkerData" (checkers.map Checker.datum)),
    ("Methods", .list "[]templates.methodData" (methods.map MethodData.datum))]
  let source ← match runTemplate templates templateDepth fileTemplate data with
    | .ok s => pure s
    | .error e => throw ((fail c info "" "cannot render accessors").withCause e)
  let content ← match Source.formatSource fileName source with
    | .ok s => pure s
    | .error msg =>
      throw (((fail c info "" "generated code does not compile").withCause
        (Error.template fileTemplate "format" (some (.plain msg)))).withSuggestions
        ["check the Go types of the annotated fields"])
  return ⟨fileName, c.name, c.typeName, c.packageName, methods.map (·.identifier), content⟩

end Accessors
