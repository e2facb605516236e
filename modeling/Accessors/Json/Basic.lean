import Accessors.Number.Decimal
import Accessors.Text.Quote

/-!
# JSON documents

The data format that configuration passes through on its way to typed settings, and that
reports are written in. A number keeps the text it was written with, so that an integer of any
size reads back exactly and a decimal is rounded only when a float is asked for. An object keeps
its members in the order they were written; `Json.sortKeys` puts them in key order.

Main statement: the reader refuses text after the document (`parse?_trailing`).
-/

namespace Accessors

/-- A JSON document. -/
inductive Json where
  | null
  | bool (b : Bool)
  | num (text : String)
  | str (s : String)
  | arr (items : List Json)
  | obj (members : List (String × Json))
  deriving Inhabited, Repr

namespace Json

/-! ### Building -/

/-- An integer. -/
def int (i : Int) : Json := .num (toString i)

/-- A natural number. -/
def nat (n : Nat) : Json := .num (toString n)

/-- A 64-bit float as a number: finite values only, as the format has no others. -/
def float (x : Float) : Json := .num (Number.floatDataText x)

/-- A list of strings. -/
def strs (xs : List String) : Json := .arr (xs.map .str)

/-- A string or null. -/
def optStr : Option String → Json
  | some s => .str s
  | none => .null

/-! ### Reading members -/

/-- The member of an object with the given key; null when there is none. -/
def get (j : Json) (key : String) : Json :=
  match j with
  | .obj ms => (ms.find? (·.1 == key)).map (·.2) |>.getD .null
  | _ => .null

/-- The member of an object with the given key, when the key is present. -/
def get? (j : Json) (key : String) : Option Json :=
  match j with
  | .obj ms => (ms.find? (·.1 == key)).map (·.2)
  | _ => none

/-- Whether the document is null. -/
def isNull : Json → Bool
  | .null => true
  | _ => false

/-- The text of a string. -/
def str? : Json → Option String
  | .str s => some s
  | _ => none

/-- The value of a boolean. -/
def bool? : Json → Option Bool
  | .bool b => some b
  | _ => none

/-- The items of an array. -/
def arr? : Json → Option (List Json)
  | .arr xs => some xs
  | _ => none

/-- The members of an object. -/
def obj? : Json → Option (List (String × Json))
  | .obj ms => some ms
  | _ => none

/-- The value of a number written as an integer, without fraction or exponent. -/
def int? : Json → Option Int
  | .num t =>
    match t.toList with
    | '-' :: ds => if !ds.isEmpty && ds.all Char.isDigit then some (-(String.ofList ds).toNat!) else none
    | ds => if !ds.isEmpty && ds.all Char.isDigit then some (String.ofList ds).toNat! else none
  | _ => none

/-- The decimal of a number. -/
def decimal? : Json → Option Number.DecimalLiteral
  | .num t => Number.DecimalLiteral.parse? t
  | _ => none

/-- A string member, or the empty text when it is missing or no string. -/
def strD (j : Json) (key : String) : String := (j.get key).str?.getD ""

/-- A boolean member, false when it is missing or no boolean. -/
def boolD (j : Json) (key : String) : Bool := (j.get key).bool?.getD false

/-- An array member, or the empty list when it is missing or no array. -/
def arrD (j : Json) (key : String) : List Json := (j.get key).arr?.getD []

/-! ### Key order -/

mutual
/-- Members in ascending order of their keys, recursively. -/
def sortKeys : Json → Json
  | .arr xs => .arr (sortItems xs)
  | .obj ms => .obj ((sortMembers ms).mergeSort (fun a b => decide (a.1 ≤ b.1)))
  | j => j

/-- Items with their members sorted. -/
def sortItems : List Json → List Json
  | [] => []
  | x :: xs => sortKeys x :: sortItems xs

/-- Members with their values sorted, in their order. -/
def sortMembers : List (String × Json) → List (String × Json)
  | [] => []
  | (k, v) :: ms => (k, sortKeys v) :: sortMembers ms
end

/-! ### Writing -/

/-- The escaped form of a character inside a JSON string. -/
def escapeChar (c : Char) : String :=
  match c with
  | '"' => "\\\""
  | '\\' => "\\\\"
  | '\n' => "\\n"
  | '\r' => "\\r"
  | '\t' => "\\t"
  | _ =>
    let n := c.toNat
    if n < 0x20 || n == 0x2028 || n == 0x2029 then "\\u" ++ Text.padLeft (Text.hexDigits n) 4 '0'
    else String.singleton c

/-- A string in JSON quotes. -/
def quoteString (s : String) : String :=
  "\"" ++ String.join (s.toList.map escapeChar) ++ "\""

mutual
/-- **Render** a document compactly, members in their order. -/
def render : Json → String
  | .null => "null"
  | .bool b => if b then "true" else "false"
  | .num t => t
  | .str s => quoteString s
  | .arr xs => "[" ++ renderItems xs ++ "]"
  | .obj ms => "\x7b" ++ renderMembers ms ++ "\x7d"

/-- Items separated by commas. -/
def renderItems : List Json → String
  | [] => ""
  | [x] => render x
  | x :: xs => render x ++ "," ++ renderItems xs

/-- Members separated by commas. -/
def renderMembers : List (String × Json) → String
  | [] => ""
  | [(k, v)] => quoteString k ++ ":" ++ render v
  | (k, v) :: ms => quoteString k ++ ":" ++ render v ++ "," ++ renderMembers ms
end

/-! ### Reading -/

/-- Drops JSON white space. -/
def skipWs (cs : List Char) : List Char :=
  cs.dropWhile fun c => c == ' ' || c == '\t' || c == '\n' || c == '\r'

/-- Joins escaped UTF-16 units: a high surrogate followed by a low one is one character, a
lone surrogate is the replacement character. -/
def joinUnits : List Nat → List Char
  | [] => []
  | hi :: lo :: rest =>
    if 0xD800 ≤ hi && hi < 0xDC00 && 0xDC00 ≤ lo && lo < 0xE000 then
      Char.ofNat (0x10000 + (hi - 0xD800) * 0x400 + (lo - 0xDC00)) :: joinUnits rest
    else if 0xD800 ≤ hi && hi < 0xE000 then Char.ofNat 0xFFFD :: joinUnits (lo :: rest)
    else Char.ofNat hi :: joinUnits (lo :: rest)
  | [u] => [if 0xD800 ≤ u && u < 0xE000 then Char.ofNat 0xFFFD else Char.ofNat u]

/-- Reads the body of a string after its opening quote as code units: the units and the rest
after the closing quote. -/
def parseStringUnits : List Char → List Nat → Option (List Nat × List Char)
  | [], _ => none
  | '"' :: rest, acc => some (acc.reverse, rest)
  | '\\' :: '"' :: r, acc => parseStringUnits r ('"'.toNat :: acc)
  | '\\' :: '\\' :: r, acc => parseStringUnits r ('\\'.toNat :: acc)
  | '\\' :: '/' :: r, acc => parseStringUnits r ('/'.toNat :: acc)
  | '\\' :: 'b' :: r, acc => parseStringUnits r (8 :: acc)
  | '\\' :: 'f' :: r, acc => parseStringUnits r (12 :: acc)
  | '\\' :: 'n' :: r, acc => parseStringUnits r (10 :: acc)
  | '\\' :: 'r' :: r, acc => parseStringUnits r (13 :: acc)
  | '\\' :: 't' :: r, acc => parseStringUnits r (9 :: acc)
  | '\\' :: 'u' :: a :: b :: c :: d :: r, acc =>
    match Text.takeHex 4 [a, b, c, d] with
    | some (n, _) => parseStringUnits r (n :: acc)
    | none => none
  | '\\' :: _, _ => none
  | c :: rest, acc => parseStringUnits rest (c.toNat :: acc)

/-- Reads the body of a string after its opening quote: the text and the rest after the
closing quote. -/
def parseStringBody (cs : List Char) : Option (String × List Char) :=
  (parseStringUnits cs []).map fun (us, r) => (String.ofList (joinUnits us), r)

/-- Reads the characters of a number: the text and the rest. -/
def spanNumber (cs : List Char) : List Char × List Char :=
  cs.span fun c => c.isDigit || c == '-' || c == '+' || c == '.' || c == 'e' || c == 'E'

/-- Reads a literal word such as `true`. -/
def expectWord (w : List Char) (cs : List Char) : Option (List Char) := Text.dropPrefix? w cs

mutual
/-- Reads one document at the front, with at most `fuel` levels of nesting and items. -/
def parseValue : Nat → List Char → Option (Json × List Char)
  | 0, _ => none
  | fuel + 1, cs =>
    match skipWs cs with
    | '{' :: rest => parseMembers fuel (skipWs rest) []
    | '[' :: rest => parseItems fuel (skipWs rest) []
    | '"' :: rest => (parseStringBody rest).map fun (s, r) => (.str s, r)
    | 't' :: rest => (expectWord "rue".toList rest).map (.bool true, ·)
    | 'f' :: rest => (expectWord "alse".toList rest).map (.bool false, ·)
    | 'n' :: rest => (expectWord "ull".toList rest).map (.null, ·)
    | c :: rest =>
      if c.isDigit || c == '-' then
        let (t, r) := spanNumber (c :: rest)
        match Number.DecimalLiteral.parse? (String.ofList t) with
        | some _ => some (.num (String.ofList t), r)
        | none => none
      else none
    | [] => none

/-- Reads the members of an object after its opening brace. -/
def parseMembers : Nat → List Char → List (String × Json) → Option (Json × List Char)
  | 0, _, _ => none
  | fuel + 1, cs, acc =>
    match cs with
    | '}' :: rest => if acc.isEmpty then some (.obj [], rest) else none
    | '"' :: rest =>
      match parseStringBody rest with
      | some (k, r) =>
        match skipWs r with
        | ':' :: r =>
          match parseValue fuel r with
          | some (v, r) =>
            match skipWs r with
            | ',' :: r => parseMembers fuel (skipWs r) ((k, v) :: acc)
            | '}' :: r => some (.obj ((k, v) :: acc).reverse, r)
            | _ => none
          | none => none
        | _ => none
      | none => none
    | _ => none

/-- Reads the items of an array after its opening bracket. -/
def parseItems : Nat → List Char → List Json → Option (Json × List Char)
  | 0, _, _ => none
  | fuel + 1, cs, acc =>
    match cs with
    | ']' :: rest => if acc.isEmpty then some (.arr [], rest) else none
    | _ =>
      match parseValue fuel cs with
      | some (v, r) =>
        match skipWs r with
        | ',' :: r => parseItems fuel (skipWs r) (v :: acc)
        | ']' :: r => some (.arr (v :: acc).reverse, r)
        | _ => none
      | none => none
end

/-- **Parse** a whole text as one document; white space may surround it. -/
def parse? (s : String) : Option Json :=
  let cs := s.toList
  match parseValue (2 * cs.length + 2) cs with
  | some (j, rest) => if (skipWs rest).isEmpty then some j else none
  | none => none

/-- Text after the document is refused. -/
theorem parse?_trailing : parse? "1 2" = none := by decide

end Json
end Accessors
