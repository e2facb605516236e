import Accessors.Error.Basic

/-!
# Describing errors

An error is described by a kind, its message and, for the kinds that carry fields, those
fields. The kind is the most specific one found on the walk through the error's causes, the
kinds taken in this order of precedence:

1. a list of errors;
2. a generation error;
3. a coded error, named by its code;
4. a model error about a source file;
5. a failed look-up, "not found" or "malformed";
6. the syntax error of a field list;
7. an argument of the wrong type;
8. a call fault;
9. a rejected setting;
10. any other error.

The fields are read from the error that gave the kind; the codes an error has and whether it is
a generation failure are read from the whole error.
-/

namespace Accessors.Error

/-- The kind of the error itself, when it is one of the first nine. -/
def ownKind : Error → Option (Nat × String)
  | multiple _ => some (1, "MultipleErrors")
  | generation .. => some (2, "GenerationError")
  | coded c _ => some (3, errorCodeName c.code)
  | model .. => some (4, "GeneratorError")
  | lookup found .. => some (5, if found then "Malformed" else "NotFound")
  | fieldListSyntax .. => some (6, "SyntaxError")
  | invalidArgument .. => some (7, "InvalidArgumentType")
  | fault f => some (8, f.kindName)
  | field .. => some (9, "FieldError")
  | _ => none

/-- The first error reached from `e` whose kind has the given rank. -/
def findRank (rank : Nat) (e : Error) : Option Error :=
  e.findFirst fun x => match x.ownKind with
    | some (r, _) => if r == rank then some x else none
    | none => none

/-- **The kind** of an error: the best ranked kind reached from it, `Error` when none is. -/
def kindName (e : Error) : String :=
  match (List.range 9).findSome? (fun r => findRank (r + 1) e) with
  | some x => (x.ownKind.map (·.2)).getD "Error"
  | none => "Error"

/-- The error that gives an error its kind. -/
def kindSource (e : Error) : Option Error :=
  (List.range 9).findSome? fun r => findRank (r + 1) e

/-- The cause of an error as a kind and a message. -/
def causeJson (cause : Option Error) : List (String × Json) :=
  match cause with
  | some c => [("cause", .obj [("kind", .str c.kindName), ("message", .str c.message)])]
  | none => []

/-- The fields of a coded error, the codes and generation failure read from `top`. -/
def codedFields (top : Error) (c : Coded) (cause : Option Error) : List (String × Json) :=
  [("code", .str (errorCodeName c.code)), ("location", .str c.location.textOrEmpty),
   ("suggestions", Json.strs c.suggestions), ("context", .obj c.context)] ++ causeJson cause ++
  [("has_codes", Json.strs top.codeNames), ("generation_failure", .bool top.isGenerationFailure)]

/-- The fields of the error that gave a kind, other than a list of errors. -/
def singleFields (top : Error) : Error → Option Json
  | generation c cause cls p st =>
    some (.obj (codedFields top c cause ++
      [("class", .str cls), ("property", .str p), ("stage", .str st)]))
  | coded c cause => some (.obj (codedFields top c cause))
  | model kind file line msg cause =>
    some (.obj ([("type", .str (modelKindName kind)), ("file", .str file), ("line", Json.int line),
      ("text", .str msg)] ++ (match cause with
        | some c => [("cause", .str c.message)]
        | none => [])))
  | lookup found _ tag cause =>
    some (.obj ([("name", .str tag)] ++ (match cause with
        | some c => [("cause", .str c.message)]
        | none => []) ++
      [("not_found", .bool !found), ("malformed", .bool found)]))
  | fieldListSyntax tag line msg =>
    some (.obj [("tag", .str tag), ("line", Json.int line), ("msg", .str msg)])
  | invalidArgument _ valueType expected =>
    some (.obj [("value_type", .str valueType), ("expected", .str expected),
      ("is_invalid_argument_type", .bool true)])
  | _ => none

/-- One member of a list of errors: kind, message and fields. -/
def memberJson (m : Error) : Json :=
  .obj ([("kind", .str m.kindName), ("message", .str m.message)] ++
    (match m.kindSource.bind (singleFields m) with
     | some d => [("details", d)]
     | none => []))

/-- **The fields** of an error, read from the error that gave its kind. -/
def details (e : Error) : Option Json :=
  match e.kindSource with
  | some (multiple errs) =>
    some (.obj [("errors", .arr (errs.map memberJson)), ("count", Json.nat errs.length),
      ("has_codes", Json.strs e.codeNames), ("generation_failure", .bool e.isGenerationFailure)])
  | some x => singleFields e x
  | none => none

/-- **The description** of an error: its kind, its message and its fields. -/
def describe (e : Error) : Json :=
  .obj ([("error", .str e.kindName), ("message", .str e.message)] ++
    (match e.details with
     | some d => [("details", d)]
     | none => []))

/-- The location of the first coded error reached from an error. -/
def codedLocation? (e : Error) : Option SourceLocation :=
  e.findFirst fun
    | coded c _ => some c.location
    | generation c .. => some c.location
    | _ => none

end Accessors.Error
