import Accessors.Value.Basic
import Accessors.Number.Decimal
import Accessors.Text.Quote

/-!
# The text of values

Values are shown the way messages name them:

* scalars plainly, floats in their shortest general form (`1e+21`, `0.0001`), complex numbers
  as `(1+2i)`;
* sequences in brackets and maps as `map[k:v ...]` by key, items separated by blanks;
* records in braces (`{1 2}`, `{[a b]}`);
* values with a text form by it (labels as `label:x`, times, durations), errors and validation
  failures by their message, also through a pointer;
* a pointer at the top to a sequence, map or record as `&` and that value; any other pointer, a
  channel and a function as its address, and an absent one as `<nil>`, as is a missing item.

An argument named in a message is shown as `null` when missing, quoted when a text, and otherwise
by its text cut to 61 bytes and `...` when longer than 64 bytes (`argumentText`).

Main statement: a short text is shown whole (`argumentText_str`).
-/

namespace Accessors
namespace Value

/-- Whether a value is a sequence, a map or a record, which a pointer at the top shows whole. -/
def isAggregate : Value → Bool
  | slice .. | array .. | map .. | point .. | bag .. | fieldError .. | errorRecord .. | time .. => true
  | _ => false

/-- The text of an address. -/
def addressText (addr : Nat) : String := "0x" ++ Text.hexDigits addr

/-- Inserts an entry into a list sorted by key. -/
def insertEntry (e : String × Value) : List (String × Value) → List (String × Value)
  | [] => [e]
  | x :: xs => if decide (e.1 < x.1) then e :: x :: xs else x :: insertEntry e xs

/-- Entries sorted by key. -/
def sortEntries (es : List (String × Value)) : List (String × Value) :=
  es.foldl (fun acc e => insertEntry e acc) []

/-- The text of a part of a complex number after the first: always signed. -/
def signedText (x : Float) : String :=
  let t := Number.floatText x
  if t.startsWith "-" || t.startsWith "+" then t else "+" ++ t

/-- **The message of a validation failure**, given the text of the value it holds: a text
value is quoted, and a failure of no field gives only its reason. -/
def fieldErrorMessage (field : String) (value : Value) (valueText reason : String) : String :=
  if field.isEmpty then "validation error: " ++ reason
  else match value with
    | str s => "invalid " ++ field ++ " " ++ Text.quote s ++ ": " ++ reason
    | _ => "invalid " ++ field ++ " " ++ valueText ++ ": " ++ reason

mutual
/-- **The text of a value** at a nesting depth; pointers at depth zero show what they point
to. -/
def text (depth : Nat) : Value → String
  | null => "<nil>"
  | bool b => toString b
  | str s => s
  | int _ v => toString v
  | double x => Number.floatText x
  | single x => Number.float32Text x
  | complex re im => "(" ++ Number.floatText re ++ signedText im ++ "i)"
  | slice _ items _ => "[" ++ optListText (depth + 1) items ++ "]"
  | array _ items => "[" ++ listText (depth + 1) items ++ "]"
  | map entries _ => "map[" ++ optEntriesText (depth + 1) entries ++ "]"
  | pointer _ none => "<nil>"
  | pointer (.declared .fieldError) (some (_, fieldError f x r)) => fieldErrorMessage f x (text 0 x) r
  | pointer t (some cell) => cellText depth t cell
  | chan _ none | func none => "<nil>"
  | chan _ (some (addr, _)) | func (some addr) => addressText addr
  | time t => t.text
  | duration d => Duration.text d
  | label s => "label:" ++ s
  | point x y => "\x7b" ++ toString x ++ " " ++ toString y ++ "\x7d"
  | bag items => "\x7b[" ++ " ".intercalate items ++ "]\x7d"
  | fieldError f x r => fieldErrorMessage f x (text 0 x) r
  | errorRecord m => "\x7b" ++ m ++ "\x7d"

/-- The text of a pointer to a cell: the method text of the target, the target itself at depth
zero, or the address. -/
def cellText (depth : Nat) (t : VType) : Nat × Value → String
  | (addr, x) =>
    match t, x with
    | .declared .label, label s => "label:" ++ s
    | .declared .time, time tm => tm.text
    | .declared .duration, duration d => Duration.text d
    | .declared .errorRecord, errorRecord m => m
    | _, _ => if depth == 0 && x.isAggregate then "&" ++ text (depth + 1) x else addressText addr

/-- The texts of items, separated by blanks. -/
def listText (depth : Nat) : List Value → String
  | [] => ""
  | [x] => text depth x
  | x :: xs => text depth x ++ " " ++ listText depth xs

/-- The texts of the items of a slice that may be absent. -/
def optListText (depth : Nat) : Option (List Value) → String
  | none => ""
  | some xs => listText depth xs

/-- The texts of entries as `key:value`, separated by blanks. -/
def entriesText (depth : Nat) : List (String × Value) → String
  | [] => ""
  | [(k, v)] => k ++ ":" ++ text depth v
  | (k, v) :: es => k ++ ":" ++ text depth v ++ " " ++ entriesText depth es

/-- The texts of the entries of a map that may be absent. -/
def optEntriesText (depth : Nat) : Option (List (String × Value)) → String
  | none => ""
  | some es => entriesText depth es
end

/-- The longest argument text shown whole, in bytes. -/
def argumentLimit : Nat := 64

/-- **The text of an argument** in a message. -/
def argumentText (v : Value) : String :=
  match v with
  | null => "null"
  | str s => Text.quote s
  | _ =>
    let s := v.text 0
    if Text.byteLength s > argumentLimit then Text.cutBytes s (argumentLimit - 3) ++ "..." else s

/-- A text argument is shown quoted. -/
theorem argumentText_str (s : String) : argumentText (str s) = Text.quote s := rfl

end Value
end Accessors
