import Accessors.Tag.Doc
import Accessors.Declared.Expr
import Accessors.Cache

/-!
# Annotation providers

A provider answers which occurrences of a tag a property's documentation holds. There are two:

* the **type provider** answers only for the reserved tag `var`: the first `@var` occurrence
  with a non-empty value declares the type, whose expression is the first word of the value. A
  `@var` without a value (or with a field list) ends the search: the type is not found;
* the **method provider** answers for logical names such as `get`, through a map from tags to
  logical names (`@Read` may mean `get`). A tag that the map does not name never answers. A
  malformed occurrence of a matching tag fails the look-up. Questions about `var` are handed to
  the type provider, unless the method provider was built without one.

The singular question (`occurrence`) fails with "not found" when nothing matches; the plural
question (`occurrences`) gives the empty list instead. Both providers may share a memo table
keyed by the property, so that each documentation text is read once.

Main statement: the type provider answers the singular question only for `var` (`typeOccurrence_other`).
-/

namespace Accessors.Tag

/-! ### Properties -/

/-- **A property**: the field of a class, and its documentation text. -/
structure Property where
  /-- The class declaring the field. -/
  declaringClass : String
  name : String
  doc : String
  deriving DecidableEq, Repr, Inhabited

/-- The key of a property: its class and name, joined by a dot. -/
def Property.key (p : Property) : String := p.declaringClass ++ "." ++ p.name

/-- The class and field name of a property, as named in look-up errors. -/
def Property.target (p : Property) : Option (String × String) := some (p.declaringClass, p.name)

/-- The memo table of parsed documentation, keyed by property. -/
abbrev OccurrenceCache := Cache (List Occurrence)

/-- **Reading** the occurrences of a property's documentation, through the memo table when
there is one. -/
def readOccurrences (cache : Option OccurrenceCache) (p : Property) :
    List Occurrence × Option OccurrenceCache :=
  match cache with
  | none => ((parseText p.doc).1, none)
  | some c =>
    let (out, c') := c.getOrCompute p.key fun _ => ((parseText p.doc).1, (none : Option Unit))
    (out.value, some c')

/-! ### The type provider -/

/-- The reserved tag of type declarations. -/
def varTag : String := "var"

/-- The first word of a text, or the empty text. -/
def firstWord (s : String) : String := (Text.fields s).headD ""

/-- The type expression of the first `@var` occurrence, when it has one. -/
def declaredExpression : List Occurrence → Option String
  | [] => none
  | o :: os =>
    if o.name != varTag then declaredExpression os
    else
      let w := firstWord o.value
      if w.isEmpty then none else some w

/-- **The type provider's answer** to the singular question: the `@var` occurrence with the expression
as its value. -/
def typeOccurrence (cache : Option OccurrenceCache) (p : Property) (name : String) :
    Except Error Occurrence × Option OccurrenceCache :=
  if name != varTag then (.error (notFoundError p.target name), cache)
  else
    let (occs, cache) := readOccurrences cache p
    match declaredExpression occs with
    | some w => (.ok ⟨varTag, w, none, none⟩, cache)
    | none => (.error (notFoundError p.target name), cache)

/-- The type provider's answer to the plural question: always the empty list. -/
def typeOccurrences : List Occurrence := []

/-- **The declared type** of a property. -/
def declaredType (cache : Option OccurrenceCache) (p : Property) :
    Except Error DeclaredType × Option OccurrenceCache :=
  let (r, cache) := typeOccurrence cache p varTag
  (r.map fun o => DeclaredType.parse o.value, cache)

/-- The type provider answers the singular question only for `var`, and without reading. -/
theorem typeOccurrence_other (cache : Option OccurrenceCache) (p : Property) (name : String)
    (h : name ≠ varTag) :
    typeOccurrence cache p name = (.error (notFoundError p.target name), cache) := by
  simp [typeOccurrence, h]

/-! ### The method provider -/

/-- The tags that generate methods, with their logical names. -/
def defaultMethodTags : List (String × String) :=
  [("Add", "add"), ("Contains", "contains"), ("Get", "get"), ("Remove", "remove"), ("Set", "set")]

/-- **A method provider**: its map from tags to logical names, and whether it hands `var` to the
type provider. -/
structure MethodProvider where
  tags : List (String × String)
  delegatesTypes : Bool
  deriving Repr

/-- Whether a tag means the logical name. -/
def MethodProvider.resolves (m : MethodProvider) (tag name : String) : Bool :=
  m.tags.lookup tag == some name

/-- The occurrences whose tag means the logical name, renamed to it; the first malformed one
fails. -/
def MethodProvider.matching (m : MethodProvider) (p : Property) (name : String) :
    List Occurrence → Except Error (List Occurrence)
  | [] => .ok []
  | o :: os =>
    if !m.resolves o.name name then m.matching p name os
    else match o.error with
      | some e => .error (malformedError p.target name e)
      | none => (o.rename name :: ·) <$> m.matching p name os

/-- **The method provider's answer** to the plural question. -/
def MethodProvider.occurrences (m : MethodProvider) (cache : Option OccurrenceCache)
    (p : Property) (name : String) : Except Error (List Occurrence) × Option OccurrenceCache :=
  if name == varTag && m.delegatesTypes then (.ok typeOccurrences, cache)
  else
    let (occs, cache) := readOccurrences cache p
    (m.matching p name occs, cache)

/-- **The method provider's answer** to the singular question: the first matching occurrence. -/
def MethodProvider.occurrence (m : MethodProvider) (cache : Option OccurrenceCache)
    (p : Property) (name : String) : Except Error Occurrence × Option OccurrenceCache :=
  if name == varTag && m.delegatesTypes then typeOccurrence cache p name
  else
    match m.occurrences cache p name with
    | (.error e, cache) => (.error e, cache)
    | (.ok [], cache) => (.error (notFoundError p.target name), cache)
    | (.ok (o :: _), cache) => (.ok o, cache)

end Accessors.Tag
