import Accessors.Tag.Provider

/-!
# Annotations as JSON

The JSON forms of occurrences and declared types. An occurrence shows its fields as `[key,
value]` pairs, `null` when no field list was written, and the text of its syntax error under
`malformed` when its field list could not be read.
-/

namespace Accessors

/-- The JSON form of an occurrence. -/
def Occurrence.toJson (o : Occurrence) : Json :=
  .obj ([("name", .str o.name), ("value", .str o.value),
    ("fields", match o.fields with
      | none => .null
      | some fs => .arr (fs.map fun f => .arr [.str f.name, .str f.value])),
    ("has_value", .bool o.hasValue)] ++
    (match o.error with
     | some e => [("malformed", .str e.message)]
     | none => []))

/-- The JSON form of a declared type: kind, nullability, element and expression. -/
def DeclaredType.toJson (t : DeclaredType) : Json :=
  .obj [("kind", .str t.kind.name), ("nullable", .bool t.nullable), ("element", .str t.element),
    ("raw", .str t.raw)]

/-- The JSON form of a declared type with everything derived from it. -/
def DeclaredType.summaryJson (t : DeclaredType) : Json :=
  match t.toJson with
  | .obj ms => .obj (ms ++ [("display", .str t.display), ("element_display", .str t.elementDisplay),
      ("is_collection", .bool t.isCollection), ("is_validated", .bool t.isValidated),
      ("scalar_name", .str t.scalarName), ("string", .str t.raw)])
  | j => j

/-- The JSON form of memo table counts. -/
def Cache.statsJson {α : Type} (c : Cache α) : Json :=
  .obj [("size", Json.nat c.size), ("hits", Json.nat c.hits), ("misses", Json.nat c.misses)]

end Accessors
