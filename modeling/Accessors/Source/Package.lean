import Accessors.Source.Parse.File
import Accessors.Error.Basic

/-!
# Classes of a Go package

What the generator needs to know about the struct types of a package, read from parsed files:
each struct type is a class, each named field a property, and the methods declared on a type
outside generated files are its methods.

* Generic structs and aliases are not classes. Embedded fields are not properties.
* A property's documentation is the raw text of its comment above and its comment after it on
  the same line, markers included, one comment per line.
* A property is nilable when nil is a value of its type: pointers, slices, maps, channels,
  functions, interfaces, `any` and `error`, and names declared in the package whose definition is
  one of these (followed through other names, a cycle counting as not nilable). Types of other
  packages cannot be inspected and count as not nilable.
* A class is named by its import path and type name, or by its package name and type name while
  the import path is unknown.
-/

namespace Accessors

/-- An import of a source file: its local name (empty for the default) and its path. -/
structure SourceImport where
  name : String
  path : String
  deriving DecidableEq, Repr, Inhabited

/-- **A property**: a named field of a struct. -/
structure PropertyInfo where
  /-- The name of the declaring class. -/
  className : String
  fieldName : String
  goType : String
  nilable : Bool
  doc : String
  fileName : String
  line : Nat
  deriving DecidableEq, Repr, Inhabited

/-- **A class**: a struct type with its properties and methods. -/
structure ClassInfo where
  typeName : String
  packageName : String
  importPath : String
  fileName : String
  line : Nat
  properties : List PropertyInfo
  methods : List String
  imports : List SourceImport
  deriving DecidableEq, Repr, Inhabited

/-- The name of a class: import path or package name, a dot, and the type name. -/
def classNameOf (importPath packageName typeName : String) : String :=
  (if importPath.isEmpty then packageName else importPath) ++ "." ++ typeName

namespace ClassInfo

/-- The name of the class. -/
def name (c : ClassInfo) : String := classNameOf c.importPath c.packageName c.typeName

/-- Whether a method of the name is declared on the type. -/
def hasMethod (c : ClassInfo) (m : String) : Bool := c.methods.contains m

/-- The property of a field. -/
def property? (c : ClassInfo) (field : String) : Option PropertyInfo :=
  c.properties.find? (·.fieldName == field)

/-- Whether some property is documented. -/
def documented (c : ClassInfo) : Bool := c.properties.any (!·.doc.isEmpty)

/-- The class under an import path, its properties renamed with it. -/
def withImportPath (c : ClassInfo) (path : String) : ClassInfo :=
  let c := { c with importPath := path }
  { c with properties := c.properties.map fun p => { p with className := c.name } }

end ClassInfo

/-- **A package**: its name, its directory, its import path and its classes in source order. -/
structure PackageInfo where
  packageName : String
  packagePath : String
  importPath : String
  classes : List ClassInfo
  deriving DecidableEq, Repr, Inhabited

namespace PackageInfo

/-- The package under an import path, with its classes and properties. -/
def withImportPath (p : PackageInfo) (path : String) : PackageInfo :=
  { p with importPath := path, classes := p.classes.map (·.withImportPath path) }

/-- The classes with at least one documented property. -/
def annotatedClasses (p : PackageInfo) : List ClassInfo := p.classes.filter (·.documented)

/-- The class of a type name. -/
def class? (p : PackageInfo) (typeName : String) : Option ClassInfo :=
  p.classes.find? (·.typeName == typeName)

end PackageInfo

namespace Source

/-- A parsed file with its line table. -/
structure ParsedFile where
  name : String
  file : SourceFile
  imports : List ImportSpec
  starts : List Nat

/-- The type declared for each name, a later declaration of a name replacing an earlier one. -/
def localTypes (files : List ParsedFile) : List (String × Expr) :=
  (files.flatMap fun f => f.file.typeSpecs.map fun t => (t.name, t.type)).reverse

/-- **Whether nil is a value of a type**, following names declared in the package at most
`fuel` times and never twice. -/
def nilable (locals : List (String × Expr)) : Nat → List String → Expr → Bool
  | fuel, seen, e =>
    match e with
    | .star .. | .mapType .. | .chanType .. | .funcType .. | .interfaceType .. => true
    | .arrayType _ len _ => len.isNone
    | .paren _ x _ => nilable locals fuel seen x
    | .index x .. => nilable locals fuel seen x
    | .ident _ n =>
      match locals.lookup n with
      | some d =>
        if seen.contains n then false
        else match fuel with
          | 0 => false
          | k + 1 => nilable locals k (n :: seen) d
      | none => n == "any" || n == "error"
    | _ => false
termination_by fuel _ e => (fuel, sizeOf e)

/-- The text of a field's comments, one per line. -/
def commentText (f : Field) : String := "\n".intercalate (f.doc ++ f.comment)

/-- The properties of a struct's fields. -/
def propertiesOf (locals : List (String × Expr)) (pf : ParsedFile) (fields : List Field) :
    List PropertyInfo :=
  fields.flatMap fun f =>
    f.names.map fun (pos, n) =>
      { className := "", fieldName := n, goType := f.type.typeString,
        nilable := nilable locals (locals.length + 1) [] f.type, doc := commentText f,
        fileName := pf.name, line := (lineColumn pf.starts pos).1 }

/-- The imports of a file that generated code can refer to: blank and dot imports are left out,
as are paths that are not valid string literals. -/
def importsOf (pf : ParsedFile) : List SourceImport :=
  pf.imports.filterMap fun i =>
    let path? : Option String := match i.path.toList with
      | '\x60' :: rest =>
        match rest.reverse with
        | '\x60' :: body => some (String.ofList body.reverse)
        | _ => none
      | _ => Text.unquote? i.path
    match path?, i.name with
    | none, _ => none
    | some _, some "_" | some _, some "." => none
    | some p, n => some ⟨n.getD "", p⟩

/-- The classes of a file: its non-generic struct types that are not aliases. -/
def classesOf (locals : List (String × Expr)) (pf : ParsedFile) : List ClassInfo :=
  let imports := importsOf pf
  pf.file.typeSpecs.filterMap fun t =>
    if t.generic || t.isAlias then none
    else match t.type with
      | .structType _ (.mk _ fields _) =>
        some { typeName := t.name, packageName := pf.file.packageName, importPath := "",
               fileName := pf.name, line := (lineColumn pf.starts t.pos).1,
               properties := propertiesOf locals pf fields, methods := [], imports }
      | _ => none

/-- The type name of a method receiver, through pointers, type arguments and parentheses. -/
def receiverTypeName : Expr → String
  | .ident _ n => n
  | .star _ x | .index x .. | .paren _ x _ => receiverTypeName x
  | _ => ""

/-- The methods of a file with their receiver type names, in order. -/
def methodsOf (pf : ParsedFile) : List (String × String) :=
  pf.file.decls.filterMap fun
    | .func _ _ (some (.mk _ (f :: _) _)) (_, name) _ _ =>
      let t := receiverTypeName f.type
      if t.isEmpty then none else some (t, name)
    | _ => none

/-- **The package of parsed files**, in file name order. -/
def collect (packageName packagePath : String) (files : List ParsedFile) : PackageInfo :=
  let locals := localTypes files
  let classes := files.flatMap (classesOf locals)
  let methods := files.flatMap methodsOf
  let classes := classes.map fun c =>
    { c with methods := methods.filterMap fun (t, m) => if t == c.typeName then some m else none }
  PackageInfo.withImportPath ⟨packageName, packagePath, "", classes⟩ ""

/-- Parses one file, or gives the text of its errors. -/
def parseFile (fileName source : String) : Except String ParsedFile :=
  match parseSource source with
  | .ok (f, imports) => .ok ⟨fileName, f, imports, lineStarts source⟩
  | .error errs => .error (errorsText fileName errs)

end Source

/-- **The package of one source text**, with the directory `./`, or the syntax error of the
file. -/
def parsePackageSource (fileName source : String) : Except Error PackageInfo :=
  match Source.parseFile fileName source with
  | .ok pf => .ok (Source.collect pf.file.packageName "./" [pf])
  | .error text => .error (.model 0 fileName 0 "failed to parse source" (some (.plain text)))

end Accessors
