import Accessors.Json.Basic

/-!
# Errors

Every failure of the generator is an `Error`. An error has a message, and may stand on other
errors, its causes: one cause for an error that wraps another, several for a list of errors.
Walking from an error to its causes, depth first, finds the most specific error of a kind
(`Error.findFirst`); this is how an error is classified and how its error codes are collected.

The kinds:

* a plain message, and a message built around a cause;
* a coded error, with a location in a source file, a context of named values and suggestions;
  a generation error is a coded error about one class, with the stage it failed in;
* a list of errors gathered over a run;
* a model error about one source file (reading or validating it);
* a rejected value of a setting;
* a failed annotation look-up, and the syntax error of a field list;
* an argument of the wrong type, and the four errors of calling an accessor by name.
-/

namespace Accessors

/-! ### Codes and locations -/

/-- The error codes, counted from zero in this order. -/
def errorCodeNames : List String :=
  ["UnknownError", "SyntaxError", "ValidationError", "GenerationError", "TemplateError",
   "FileSystemError", "ClassMapError", "ConfigurationError"]

/-- The name of an error code; a number outside the list names the unknown code. -/
def errorCodeName (code : Int) : String :=
  if code < 0 then "UnknownError" else errorCodeNames.getD code.toNat "UnknownError"

/-- Code numbers of the named codes. -/
def ErrorCode.unknown : Int := 0
def ErrorCode.syntax : Int := 1
def ErrorCode.validation : Int := 2
def ErrorCode.generation : Int := 3
def ErrorCode.template : Int := 4
def ErrorCode.fileSystem : Int := 5
def ErrorCode.classMap : Int := 6
def ErrorCode.configuration : Int := 7

/-- A place in a source file; the line and column count when positive. -/
structure SourceLocation where
  file : String
  line : Int
  column : Int
  deriving DecidableEq, Repr, Inhabited

/-- The empty location. -/
def SourceLocation.none : SourceLocation := ⟨"", 0, 0⟩

/-- Whether the location names no file. -/
def SourceLocation.isEmpty (l : SourceLocation) : Bool := l.file.isEmpty

/-- The text of a location: the file, then the line and the column when they count. -/
def SourceLocation.text (l : SourceLocation) : String :=
  if l.isEmpty then "unknown location"
  else if l.line > 0 then
    if l.column > 0 then s!"{l.file}:{l.line}:{l.column}" else s!"{l.file}:{l.line}"
  else l.file

/-- The text of a location, or the empty text when it names no file. -/
def SourceLocation.textOrEmpty (l : SourceLocation) : String :=
  if l.isEmpty then "" else l.text

/-- The fields of a coded error. -/
structure Coded where
  code : Int
  message : String
  location : SourceLocation
  /-- Named values, each key once, in the order they were first set. -/
  context : List (String × Json)
  suggestions : List String
  deriving Repr, Inhabited

/-- Sets a named value of the context, replacing an earlier value of the key. -/
def Coded.withContext (c : Coded) (key : String) (v : Json) : Coded :=
  if c.context.any (·.1 == key) then
    { c with context := c.context.map fun kv => if kv.1 == key then (key, v) else kv }
  else { c with context := c.context ++ [(key, v)] }

/-! ### Errors of calling accessors -/

/-- The errors of calling an accessor by name, which callers tell apart by identity. -/
inductive CallFault where
  | unknownMethod
  | methodNotVisible
  | argumentCount
  | unresolvedType
  deriving DecidableEq, Repr

/-- The text of a call fault. -/
def CallFault.text : CallFault → String
  | .unknownMethod => "unknown accessor method"
  | .methodNotVisible => "accessor method is not public"
  | .argumentCount => "wrong number of arguments"
  | .unresolvedType => "unresolved object type"

/-- The name under which a call fault is reported. -/
def CallFault.kindName : CallFault → String
  | .unknownMethod => "UnknownMethod"
  | .methodNotVisible => "MethodNotVisible"
  | .argumentCount => "ArgumentCount"
  | .unresolvedType => "UnresolvedType"

/-! ### The error tree -/

/-- **An error** of the generator, with its causes. -/
inductive Error where
  /-- A bare message. -/
  | plain (msg : String)
  /-- A message built around a cause; the text already holds the cause's message. -/
  | wrapped (msg : String) (cause : Error)
  /-- A coded error and its cause. -/
  | coded (c : Coded) (cause : Option Error)
  /-- A coded error about generating one class, and the stage it failed in. -/
  | generation (c : Coded) (cause : Option Error) (cls property stage : String)
  /-- Errors gathered over a run, in the order they were added. -/
  | multiple (errs : List Error)
  /-- An error about a source file: its kind number (0 syntax, 1 validation, 2 file system),
  file, line and message. -/
  | model (kind : Int) (file : String) (line : Int) (msg : String) (cause : Option Error)
  /-- A rejected value of a setting: the setting, the value as text, and why. -/
  | field (name : String) (valueText : String) (reason : String)
  /-- A failed annotation look-up: whether the tag was found (but malformed), the property as
  class and field name, the tag, and the cause. -/
  | lookup (found : Bool) (property : Option (String × String)) (tag : String) (cause : Option Error)
  /-- The syntax error of a field list. -/
  | fieldListSyntax (tag : String) (line : Int) (msg : String)
  /-- An argument of the wrong type: the value as text, its type name and the expected type. -/
  | invalidArgument (valueText valueType expected : String)
  /-- A call fault, recognised by identity. -/
  | fault (f : CallFault)
  /-- Several errors joined, their messages on separate lines. -/
  | joined (errs : List Error)
  deriving Repr, Inhabited

namespace Error

/-- The name of a model error kind. -/
def modelKindName : Int → String
  | 0 => "syntax"
  | 1 => "validation"
  | 2 => "filesystem"
  | _ => "unknown"

/-- The numbered lines of a list of messages, from `i` on. -/
def numberedLines (i : Nat) : List String → String
  | [] => ""
  | m :: ms => s!"\n  {i}. " ++ m ++ numberedLines (i + 1) ms

/-- The text of a location followed by a colon, or nothing for no location. -/
def locationPrefix (c : Coded) : String :=
  if c.location.isEmpty then "" else c.location.text ++ ": "

mutual
/-- **The message** of an error. -/
def message : Error → String
  | plain msg => msg
  | wrapped msg _ => msg
  | coded c cause => locationPrefix c ++ c.message ++ causeSuffix cause
  | generation c cause _ _ _ => locationPrefix c ++ c.message ++ causeSuffix cause
  | multiple errs =>
    match messages errs with
    | [] => "no errors"
    | [m] => m
    | ms => s!"multiple errors ({ms.length} total):" ++ numberedLines 1 ms
  | model _ file line msg _ =>
    if !file.isEmpty && line > 0 then s!"{file}:{line}: {msg}"
    else if !file.isEmpty then s!"{file}: {msg}" else msg
  | field name valueText reason =>
    if name.isEmpty then "validation error: " ++ reason else s!"invalid {name} {valueText}: {reason}"
  | lookup found property tag cause =>
    let target := match property with
      | some (cls, f) => cls ++ "." ++ f
      | none => "<unknown property>"
    if found then s!"annotation @{tag} on {target} is malformed: " ++ causeText cause
    else s!"annotation @{tag} not found on {target}"
  | fieldListSyntax tag line msg => s!"line {line}: @{tag}: {msg}"
  | invalidArgument valueText valueType expected => s!"{expected} expected, {valueText} [{valueType}] given"
  | fault f => f.text
  | joined errs => "\n".intercalate (messages errs)

/-- A colon and the message of the cause, or nothing without a cause. -/
def causeSuffix : Option Error → String
  | some e => ": " ++ message e
  | none => ""

/-- The message of a cause, or the text of an absent one. -/
def causeText : Option Error → String
  | some e => message e
  | none => "<nil>"

/-- The messages of a list of errors. -/
def messages : List Error → List String
  | [] => []
  | e :: es => message e :: messages es
end

/-- The causes of an error, in order. -/
def causes : Error → List Error
  | wrapped _ c => [c]
  | coded _ (some c) => [c]
  | generation _ (some c) _ _ _ => [c]
  | multiple errs => errs
  | model _ _ _ _ (some c) => [c]
  | lookup _ _ _ (some c) => [c]
  | joined errs => errs
  | _ => []

/-- The single cause of an error that wraps one; none for lists of errors. -/
def unwrap? : Error → Option Error
  | wrapped _ c => some c
  | coded _ c => c
  | generation _ c _ _ _ => c
  | model _ _ _ _ c => c
  | lookup _ _ _ c => c
  | _ => none

mutual
/-- **The first error** on the walk from an error through its causes, depth first, that `p`
picks out, with what `p` found there. -/
def findFirst {α : Type} (p : Error → Option α) (e : Error) : Option α :=
  match p e with
  | some a => some a
  | none =>
    match e with
    | wrapped _ c => findFirst p c
    | coded _ (some c) => findFirst p c
    | generation _ (some c) _ _ _ => findFirst p c
    | multiple errs => findFirstIn p errs
    | model _ _ _ _ (some c) => findFirst p c
    | lookup _ _ _ (some c) => findFirst p c
    | joined errs => findFirstIn p errs
    | _ => none

/-- The first error in a list of errors, each walked in turn. -/
def findFirstIn {α : Type} (p : Error → Option α) : List Error → Option α
  | [] => none
  | e :: es =>
    match findFirst p e with
    | some a => some a
    | none => findFirstIn p es
end

/-- The code of a coded or generation error. -/
def code? : Error → Option Int
  | coded c _ => some c.code
  | generation c _ _ _ _ => some c.code
  | _ => none

mutual
/-- **Has code**: whether the error, or a cause reached from it, carries the code. A coded
error that does not carry it is looked through to its cause. -/
def hasCode (code : Int) : Error → Bool
  | coded c cause => c.code == code || (match cause with | some e => hasCode code e | none => false)
  | generation c cause _ _ _ =>
    c.code == code || (match cause with | some e => hasCode code e | none => false)
  | multiple errs => hasCodeIn code errs
  | joined errs => hasCodeIn code errs
  | wrapped _ c => hasCode code c
  | model _ _ _ _ (some c) => hasCode code c
  | lookup _ _ _ (some c) => hasCode code c
  | _ => false

/-- Whether some error of the list has the code. -/
def hasCodeIn (code : Int) : List Error → Bool
  | [] => false
  | e :: es => hasCode code e || hasCodeIn code es
end

/-- The names of the codes the error has, in code order. -/
def codeNames (e : Error) : List String :=
  (List.range 8).filterMap fun (i : Nat) => if e.hasCode (i : Int) then errorCodeNames[i]? else none

/-- Whether a generation error is reached from the error. -/
def isGenerationFailure (e : Error) : Bool :=
  (e.findFirst fun
    | generation .. => some ()
    | _ => none).isSome

/-- Whether the error is, or wraps, the given call fault. -/
def isFault (f : CallFault) (e : Error) : Bool :=
  (e.findFirst fun
    | fault g => if g == f then some () else none
    | _ => none).isSome

/-! ### Building -/

/-- A coded error with a message and an optional cause. -/
def wrap (code : Int) (msg : String) (cause : Option Error) : Error :=
  .coded ⟨code, msg, .none, [], []⟩ cause

/-- Changes the coded part of a coded or generation error. -/
def mapCoded (f : Coded → Coded) : Error → Error
  | coded c cause => coded (f c) cause
  | generation c cause cls p st => generation (f c) cause cls p st
  | e => e

/-- Sets the location of a coded error. -/
def withLocation (loc : SourceLocation) (e : Error) : Error := e.mapCoded ({ · with location := loc })

/-- Sets a named value of the context of a coded error. -/
def withContext (key : String) (v : Json) (e : Error) : Error := e.mapCoded (·.withContext key v)

/-- Adds suggestions to a coded error. -/
def withSuggestions (xs : List String) (e : Error) : Error :=
  e.mapCoded fun c => { c with suggestions := c.suggestions ++ xs }

/-- A coded error `failed to <operation> <subject>` with the operation in its context. -/
def failedTo (code : Int) (operation subject : String) (cause : Option Error) : Error :=
  (wrap code s!"failed to {operation} {subject}" cause).withContext "operation" (.str operation)

/-- A syntax-coded error about an item that failed to parse. -/
def parseFailure (item : String) (cause : Option Error) : Error :=
  wrap ErrorCode.syntax ("failed to parse " ++ item) cause

/-- A file system error about a path. -/
def fileSystem (operation path : String) (cause : Option Error) : Error :=
  (failedTo ErrorCode.fileSystem operation s!"'{path}'" cause).withContext "path" (.str path)

/-- A template error about a named template. -/
def template (name operation : String) (cause : Option Error) : Error :=
  (failedTo ErrorCode.template operation s!"template '{name}'" cause).withContext "template" (.str name)

/-- A configuration error about a kind of configuration. -/
def configuration (configType operation : String) (cause : Option Error) : Error :=
  (failedTo ErrorCode.configuration operation s!"configuration '{configType}'" cause).withContext
    "config_type" (.str configType)

/-- A class map error about a path. -/
def classMap (operation path : String) (cause : Option Error) : Error :=
  (failedTo ErrorCode.classMap operation s!"class map '{path}'" cause).withContext "path" (.str path)

/-- **A generation error** about a class at a stage. -/
def generationOf (cls stage msg : String) : Error :=
  .generation ⟨ErrorCode.generation, s!"cannot generate {cls}: {msg}", .none, [], []⟩ none cls "" stage

/-- Names the property a generation error is about, also in its context. -/
def withProperty (p : String) : Error → Error
  | generation c cause cls _ st => generation (c.withContext "property" (.str p)) cause cls p st
  | e => e

/-- Sets the cause of a coded or generation error. -/
def withCause (e cause : Error) : Error :=
  match e with
  | coded c _ => coded c (some cause)
  | generation c _ cls p st => generation c (some cause) cls p st
  | e => e

/-- The number of errors of a list of errors. -/
def count : Error → Nat
  | multiple errs => errs.length
  | _ => 1

/-- A message around a call fault: the fault's text, a colon and the detail. -/
def ofFault (f : CallFault) (detail : String) : Error :=
  .wrapped (f.text ++ ": " ++ detail) (.fault f)

end Error
end Accessors
