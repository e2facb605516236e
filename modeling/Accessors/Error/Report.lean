import Accessors.Error.Describe
import Accessors.Number.Decimal

/-!
# Error reports

When generation fails, the user reads a report of the error:

* a title, `ERROR: Code generation failed`, ruled off;
* for a list of errors reached from the error, the title counts them and each is reported in
  turn, numbered;
* otherwise the first coded error reached from the error is reported: its code, its message
  with its cause, its location, in verbose reports the messages of its chain of causes, its
  context sorted by key (keys written `Title Case`), and its numbered suggestions;
* an error without a coded one is reported by its message alone.

Context values are written in their plain form: texts as they are, numbers in their shortest
general form, lists in brackets and objects as `map[key:value ...]` by key.

Main statements: a key's words are capitalised and joined with blanks (`contextKey_words`).
-/

namespace Accessors

mutual
/-- **The plain form** of a JSON value in a report. -/
def Json.plainText : Json → String
  | .null => "<nil>"
  | .bool b => if b then "true" else "false"
  | .num t => ((Json.num t).decimal?.map fun d => Number.floatText d.toFloat).getD t
  | .str s => s
  | .arr xs => "[" ++ " ".intercalate (Json.plainTexts xs) ++ "]"
  | .obj kvs =>
    let sorted := (Json.memberTexts kvs).mergeSort fun a b => decide (a.1 ≤ b.1)
    "map[" ++ " ".intercalate (sorted.map fun (k, v) => k ++ ":" ++ v) ++ "]"

/-- The plain forms of JSON values. -/
def Json.plainTexts : List Json → List String
  | [] => []
  | x :: xs => x.plainText :: Json.plainTexts xs

/-- The keys and plain forms of the values of JSON members. -/
def Json.memberTexts : List (String × Json) → List (String × String)
  | [] => []
  | (k, v) :: rest => (k, v.plainText) :: Json.memberTexts rest
end

namespace Error

/-- The first list of errors reached from an error. -/
def asMultiple? (e : Error) : Option (List Error) :=
  e.findFirst fun
    | multiple errs => some errs
    | _ => none

/-- The first coded error reached from an error: its fields and cause. -/
def asCoded? (e : Error) : Option (Coded × Option Error) :=
  e.findFirst fun
    | coded c cause => some (c, cause)
    | generation c cause .. => some (c, cause)
    | _ => none

/-- The messages of an error and of the causes it wraps one by one. -/
def causeChain : Error → List String
  | e@(wrapped _ c) => e.message :: causeChain c
  | e@(coded _ (some c)) => e.message :: causeChain c
  | e@(generation _ (some c) ..) => e.message :: causeChain c
  | e@(model _ _ _ _ (some c)) => e.message :: causeChain c
  | e@(lookup _ _ _ (some c)) => e.message :: causeChain c
  | e => [e.message]

/-- **A context key** in a report: its words, split at underscores, capitalised and joined with
blanks. Only a first byte is capitalised, so a word that starts with a character beyond ASCII
has each byte of that character replaced. -/
def contextKey (key : String) : String :=
  " ".intercalate ((Text.splitOn key "_").map fun w =>
    match w.toList with
    | c :: cs =>
      if c.toNat < 128 then String.ofList (c.toUpper :: cs)
      else String.ofList (List.replicate (Text.utf8Width c) '\uFFFD' ++ cs)
    | [] => "")

/-- The lines of a ruled title. -/
def ruled (title : String) (width : Nat) : String :=
  "\n" ++ title ++ "\n" ++ String.ofList (List.replicate width '=') ++ "\n"

/-- The title of every report. -/
def reportTitle : String := "ERROR: Code generation failed"

/-- **The report of one coded error**: code and message, location, causes when `verbose`,
context and suggestions. -/
def codedReport (verbose : Bool) (c : Coded) (cause : Option Error) : String :=
  let headline := c.message ++ causeSuffix cause
  let location := if c.location.isEmpty then "" else "   Location: " ++ c.location.text ++ "\n"
  let causes := if verbose then
      match cause with
      | some e => String.join (e.causeChain.map fun m => "   Caused by: " ++ m ++ "\n")
      | none => ""
    else ""
  let context := (c.context.mergeSort fun a b => decide (a.1 ≤ b.1)).map fun (k, v) =>
    "   " ++ contextKey k ++ ": " ++ v.plainText ++ "\n"
  let suggestions := if c.suggestions.isEmpty then "" else
    "   Suggestions:\n" ++ String.join (c.suggestions.zipIdx.map fun (s, i) =>
      "      " ++ toString (i + 1) ++ ". " ++ s ++ "\n")
  "[" ++ errorCodeName c.code ++ "] " ++ headline ++ "\n" ++ location ++ causes ++
    String.join context ++ suggestions

/-- The report of a member of a list of errors: a coded one in full, another by its message. -/
def memberReport (verbose : Bool) (e : Error) : String :=
  match e with
  | coded c cause | generation c cause .. => codedReport verbose c cause
  | _ => "[" ++ errorCodeName 0 ++ "] " ++ e.message ++ "\n"

/-- **The report of an error**, with the chains of causes when `verbose`. -/
def report (verbose : Bool) (e : Error) : String :=
  match e.asMultiple? with
  | some (m :: ms) =>
    let errs := m :: ms
    ruled (reportTitle ++ " (" ++ toString errs.length ++ " errors)") 40 ++
      String.join (errs.zipIdx.map fun (x, i) => "\n" ++ toString (i + 1) ++ ". " ++ memberReport verbose x) ++
      "\n"
  | _ =>
    ruled reportTitle 29 ++ "\n" ++
      (match e.asCoded? with
       | some (c, cause) => codedReport verbose c cause
       | none => "Message: " ++ e.message ++ "\n") ++ "\n"

/-- A key's words are capitalised and joined with blanks. -/
theorem contextKey_words : contextKey "config_type" = "Config Type" := by
  decide +kernel

end Error

end Accessors
