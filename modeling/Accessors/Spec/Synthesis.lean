import Accessors.Spec.Basic
import Accessors.Tag.Provider
import Accessors.Source.Package

/-!
# Synthesis of class specifications

A class's specification is read off the documentation of its properties. For each property, in
order, the method provider is asked for the occurrences of each operation, in canonical order; a
property with none is left out. A property with some must declare its type with `@var`. Each
occurrence then becomes one method:

* an occurrence takes a field list, never a bare value, with the fields `name` (the subject of
  the method's name, the property by default; never empty) and `visibility` (a keyword, public
  by default); the first field of a name counts;
* `add`, `remove` and `contains` need a sequence type;
* the identifier must be a valid name.

A method must not clash with what is already there: a method of the same name, one of the same
identifier, a hand-written method of that identifier, or a field of that name. The first
failure fails the whole class, with the property and its source line; no partial specification
is given.

All documentation is read through the memo table, when there is one, so its counts show every
read up to the failure.
-/

namespace Accessors

open Tag

/-- A computation that reads documentation through the shared memo table, and may fail. -/
abbrev Reading := ExceptT Error (StateM (Option OccurrenceCache))

/-- A read of the memo table as a computation. -/
def Reading.of {α : Type}
    (f : Option OccurrenceCache → Except Error α × Option OccurrenceCache) : Reading α :=
  ExceptT.mk (StateT.mk fun c => pure (f c))

/-- The handle of a property for the providers: its class, field name and documentation. -/
def PropertyInfo.handle (p : PropertyInfo) : Tag.Property := ⟨p.className, p.fieldName, p.doc⟩

namespace Synthesis

/-- The stage name of synthesis in generation errors. -/
def stage : String := "synthesize"

/-- The field that names a method's subject. -/
def nameField : String := "name"

/-- The field that sets a method's visibility. -/
def visibilityField : String := "visibility"

/-- **A failure** of a class at a property, located at the property's source line. -/
def fail (c : ClassInfo) (p : PropertyInfo) (msg : String) : Error :=
  ((Error.generationOf c.name stage s!"property {p.fieldName}: {msg}").withProperty p.fieldName).withLocation
    ⟨p.fileName, p.line, 0⟩

/-- The occurrences of each operation on a property, in canonical order. -/
def occurrencesOf (m : MethodProvider) (p : PropertyInfo) :
    Reading (List (Operation × List Occurrence)) :=
  Operation.all.mapM fun op => do
    let os ← Reading.of fun c => m.occurrences c p.handle op.verb
    pure (op, os)

/-- The expected type of an accessor's argument: nothing for readers, the whole type for
writers, the element type for the sequence operations. -/
def expectedType (op : Operation) (t : DeclaredType) : String :=
  match op with
  | .get => ""
  | .set => t.display
  | _ => t.elementDisplay

/-- The subject of a method's name: its `name` field, which must not be empty, or else the
property's field name. -/
def subjectOf (tag : String) (p : PropertyInfo) (o : Occurrence) : Except String String :=
  match o.field? nameField with
  | some "" => throw s!"{tag} has an empty name field"
  | some n => pure n
  | none => pure p.fieldName

/-- The visibility of a method: its `visibility` field as a keyword, public when there is
none. -/
def visibilityOf (tag : String) (o : Occurrence) : Except String Visibility :=
  match o.field? visibilityField with
  | some v =>
    match Visibility.parse v with
    | .ok vis => pure vis
    | .error e => throw s!"{tag}: {e}"
  | none => pure .publicAccess

/-- **The method of one occurrence**, or the reason it cannot be one. -/
def method (op : Operation) (p : PropertyInfo) (t : DeclaredType) (o : Occurrence) :
    Except String MethodSpec := do
  let tag := "@" ++ op.verb
  if o.hasValue then
    throw s!"{tag} takes a field list, not the value {Text.quote o.value}"
  for f in o.fields.getD [] do
    if f.name != nameField && f.name != visibilityField then
      throw s!"{tag} has unknown field {Text.quote f.name} (expected {nameField} or {visibilityField})"
  if op.requiresCollection && !t.isCollection then
    throw s!"{tag} requires an array type, {Text.quote t.raw} declared"
  let subject ← subjectOf tag p o
  let visibility ← visibilityOf tag o
  let m : MethodSpec := ⟨methodName op subject, op, p.fieldName, visibility, expectedType op t⟩
  if !Text.isIdentifier m.identifier then
    throw s!"{tag}: {Text.quote m.name} is not a valid method name"
  return m

/-- The methods accepted so far, as name and identifier. -/
abbrev Taken := List (String × String)

/-- **The clash** of a new method with what the class already has, as a message and
suggestions. -/
def clash? (c : ClassInfo) (taken : Taken) (m : MethodSpec) : Option (String × List String) :=
  let id := m.identifier
  if taken.any (·.1 == m.name) then
    some (s!"accessor {m.name} is declared more than once", [])
  else match taken.find? (·.2 == id) with
  | some (other, _) => some (s!"accessor {m.name} conflicts with accessor {other} (both become {id})", [])
  | none =>
    if c.hasMethod id then
      some (s!"accessor {m.name} conflicts with the hand-written method {c.typeName}.{id}",
        ["rename the accessor with a name field or remove the method"])
    else if c.properties.any (·.fieldName == id) then
      some (s!"accessor {m.name} conflicts with the field {c.typeName}.{id}", [])
    else none

/-- The suggestion for a property with accessors and no declared type. -/
def typeSuggestion (p : PropertyInfo) : String :=
  s!"add a type annotation such as // @var string to field {p.fieldName}"

/-- **What synthesis has accepted** so far: the properties and methods, in order, and the name
and identifier of each method. -/
structure Accepted where
  props : List PropertySpec
  methods : List MethodSpec
  taken : Taken
  deriving Repr, Inhabited

/-- Nothing accepted. -/
def Accepted.empty : Accepted := ⟨[], [], []⟩

/-- The occurrences of a property, each with its operation: operation by operation, and the
occurrences of one operation in document order. -/
def pairs (occs : List (Operation × List Occurrence)) : List (Operation × Occurrence) :=
  occs.flatMap fun (op, os) => os.map (op, ·)

/-- **The methods of one property**: each occurrence in turn becomes a method, which must not
clash with what was accepted before it. -/
def acceptAll (c : ClassInfo) (p : PropertyInfo) (t : DeclaredType) :
    List (Operation × Occurrence) → Accepted → Except Error Accepted
  | [], acc => .ok acc
  | (op, o) :: rest, acc =>
    match method op p t o with
    | .error msg => .error (fail c p msg)
    | .ok spec =>
      match clash? c acc.taken spec with
      | some (msg, hints) => .error ((fail c p msg).withSuggestions hints)
      | none =>
        acceptAll c p t rest
          { acc with methods := acc.methods ++ [spec], taken := acc.taken ++ [(spec.name, spec.identifier)] }

/-- **The properties of a class**, in order: a property without method tags is left out; one
with some needs a declared type, and then each of its occurrences becomes a method. -/
def acceptProperties (m : MethodProvider) (c : ClassInfo) :
    List PropertyInfo → Accepted → Reading Accepted
  | [], acc => pure acc
  | p :: ps, acc => do
    let occs ← ExceptT.adapt (fun e => (fail c p "cannot read accessor annotations").withCause e)
      (occurrencesOf m p)
    if occs.all (·.2.isEmpty) then acceptProperties m c ps acc
    else
      let t ← ExceptT.adapt
        (fun e => ((fail c p "declares accessors but has no resolvable @var type").withCause e).withSuggestions
          [typeSuggestion p])
        (Reading.of fun cache => declaredType cache p.handle)
      let acc ← Reading.of fun cache =>
        (acceptAll c p t (pairs occs) { acc with props := acc.props ++ [⟨p.fieldName, p.goType, t⟩] }, cache)
      acceptProperties m c ps acc

end Synthesis

open Synthesis in
/-- **Synthesis** of a class's specification, reading method tags through the method provider
and declared types through the type provider, both sharing the memo table. -/
def ClassInfo.synthesize (m : MethodProvider) (c : ClassInfo) : Reading ClassSpec := do
  let acc ← acceptProperties m c c.properties .empty
  return ⟨c.name, c.packageName, c.typeName, acc.props, acc.methods⟩

/-- Runs a reading from a memo table: the outcome and the table after it. -/
def Reading.run' {α : Type} (r : Reading α) (cache : Option OccurrenceCache) :
    Except Error α × Option OccurrenceCache :=
  (ExceptT.run r).run cache

end Accessors
