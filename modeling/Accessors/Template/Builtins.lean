import Accessors.Template.Datum
import Accessors.Text.Quote

/-!
# Functions every template may call

The functions templates have without being given any: printing (`print`, `println`, `printf`),
escaping for HTML, JavaScript and URL queries (`html`, `js`, `urlquery`), lengths and indexing
(`len`, `index`, `slice`), and comparisons (`eq`, `ne`, `lt`, `le`, `gt`, `ge`). The logical
functions `and`, `or` and `not` work on truth and live with the executor, which evaluates their
arguments lazily.

* `print` separates two operands by a blank when neither is a text; `println` always does and
  ends with a newline.
* `printf` knows the verbs `v`, `s`, `d`, `q`, `t`, `x`, `X`, `c` and `%%`, with a width and the
  flags `-` and `0`; a verb that does not fit its operand prints as `%!d(string=x)`, a missing
  operand as `%!d(MISSING)`, operands left over as `%!(EXTRA type=value, ...)`.
* Comparisons work on booleans, integers, floats and texts; integers of different types
  compare by value; `eq` is true when the first operand equals any of the others.

Main statements: `print` of two texts puts nothing between them (`sprint_texts`).
-/

namespace Accessors.Template

/-! ### Printing -/

/-- Whether a value is a text, for the blank rule of `print`. -/
def isTextDatum : Datum → Bool
  | .str _ => true
  | _ => false

/-- **Print**: operands printed one after another, a blank between two that are not texts. -/
def sprint : List Datum → String
  | [] => ""
  | [d] => d.print
  | d :: e :: ds => d.print ++ (if !isTextDatum d && !isTextDatum e then " " else "") ++ sprint (e :: ds)

/-- **Println**: operands separated by blanks, and a newline. -/
def sprintln (ds : List Datum) : String := " ".intercalate (ds.map Datum.print) ++ "\n"

/-- Pads a text to a width, on the left unless `left`, with zeros when asked. -/
def pad (s : String) (width : Nat) (left zero : Bool) : String :=
  let n := s.length
  if n ≥ width then s
  else if left then s ++ String.ofList (List.replicate (width - n) ' ')
  else if zero then
    match s.toList with
    | '-' :: rest => "-" ++ String.ofList (List.replicate (width - n) '0') ++ String.ofList rest
    | cs => String.ofList (List.replicate (width - n) '0') ++ String.ofList cs
  else String.ofList (List.replicate (width - n) ' ') ++ s

/-- The lowercase hexadecimal digits of a natural number. -/
def hexText (n : Nat) : String := Text.hexDigits n

/-- The text of an operand under a verb, or none when the verb does not fit it. -/
def verbText (verb : Char) (d : Datum) : Option String :=
  match verb, d with
  | 'v', d => some d.print
  | 's', .str s => some s
  | 's', d => if (d.method? "String").isSome then some d.print else Option.none
  | 'q', .str s => some (Text.quote s)
  | 'q', d => if (d.method? "String").isSome then some (Text.quote d.print) else Option.none
  | 'd', .int _ n => some (toString n)
  | 't', .bool b => some (if b then "true" else "false")
  | 'x', .int _ n => some ((if n < 0 then "-" else "") ++ hexText n.natAbs)
  | 'X', .int _ n => some ((if n < 0 then "-" else "") ++ (hexText n.natAbs).toUpper)
  | 'x', .str s => some (String.join (s.toUTF8.toList.map fun b => Text.hexPadded b.toNat 2))
  | 'X', .str s => some (String.join (s.toUTF8.toList.map fun b => (Text.hexPadded b.toNat 2).toUpper))
  | 'c', .int _ n => some (String.singleton (Char.ofNat n.toNat))
  | _, _ => Option.none

/-- The text of an operand that a verb does not fit: `%!d(string=x)`. -/
def badVerb (verb : Char) (d : Datum) : String :=
  match d with
  | .none => "%!" ++ String.singleton verb ++ "(<nil>)"
  | d => "%!" ++ String.singleton verb ++ "(" ++ d.typeName ++ "=" ++ d.print ++ ")"

/-- The flags, width and verb of a directive after the percent sign, and the rest. -/
def directive (cs : List Char) : Bool × Bool × Nat × Option Char × List Char :=
  let flags := cs.takeWhile fun c => c == '-' || c == '0' || c == '+' || c == '#' || c == ' '
  let rest := cs.drop flags.length
  let digits := rest.takeWhile Char.isDigit
  let width := digits.foldl (fun n c => n * 10 + (c.toNat - 48)) 0
  let rest := rest.drop digits.length
  (flags.contains '-', flags.contains '0', width, rest.head?, rest.drop 1)

/-- **Printf**: the format with each directive replaced by its operand. -/
def sprintfChars (args : List Datum) : Nat → List Char → String × List Datum
  | 0, _ => ("", args)
  | _, [] => ("", args)
  | fuel + 1, '%' :: cs =>
    let (left, zero, width, verb, rest) := directive cs
    match verb with
    | Option.none => ("%!(NOVERB)", args)
    | some '%' =>
      let (t, r) := sprintfChars args fuel rest
      ("%" ++ t, r)
    | some v =>
      match args with
      | [] =>
        let (t, r) := sprintfChars [] fuel rest
        ("%!" ++ String.singleton v ++ "(MISSING)" ++ t, r)
      | a :: as =>
        let piece := match verbText v a with
          | some s => pad s width left (zero && !left)
          | Option.none => badVerb v a
        let (t, r) := sprintfChars as fuel rest
        (piece ++ t, r)
  | fuel + 1, c :: cs =>
    let (t, r) := sprintfChars args fuel cs
    (String.singleton c ++ t, r)

/-- **Printf**, with operands left over listed at the end. -/
def sprintf (format : String) (args : List Datum) : String :=
  let (t, extra) := sprintfChars args (format.length + 1) format.toList
  if extra.isEmpty then t
  else t ++ "%!(EXTRA " ++ ", ".intercalate (extra.map fun d => d.typeName ++ "=" ++ d.print) ++ ")"

/-! ### Escaping -/

/-- The text an escaper works on: a single text operand as it is, anything else printed. -/
def escaperInput : List Datum → String
  | [.str s] => s
  | ds => sprint ds

/-- **HTML escaping** of the characters that are special in HTML. -/
def htmlEscape (s : String) : String :=
  String.join (s.toList.map fun c =>
    match c with
    | '<' => "&lt;"
    | '>' => "&gt;"
    | '&' => "&amp;"
    | '\'' => "&#39;"
    | '"' => "&#34;"
    | '\x00' => "�"
    | c => String.singleton c)

/-- **JavaScript escaping** of quotes, backslashes, markup characters and controls. -/
def jsEscape (s : String) : String :=
  String.join (s.toList.map fun c =>
    match c with
    | '\\' => "\\\\"
    | '\'' => "\\'"
    | '"' => "\\\""
    | '<' => "\\u003C"
    | '>' => "\\u003E"
    | '&' => "\\u0026"
    | '=' => "\\u003D"
    | c =>
      if c.toNat < 0x20 then "\\u00" ++ (Text.hexPadded c.toNat 2).toUpper
      else if c.toNat ≥ 0x80 && !Text.isPrint c then "\\u" ++ (Text.hexPadded c.toNat 4).toUpper
      else String.singleton c)

/-- **Query escaping**: letters, digits and `-_.~` stay, a blank becomes `+`, any other byte
`%XX`. -/
def queryEscape (s : String) : String :=
  String.join (s.toUTF8.toList.map fun b =>
    let c := Char.ofNat b.toNat
    if c.isAlphanum || c == '-' || c == '_' || c == '.' || c == '~' then String.singleton c
    else if c == ' ' then "+"
    else "%" ++ (Text.hexPadded b.toNat 2).toUpper)

/-! ### Lengths and indexing -/

/-- **The length** of a value: bytes of a text, items of a list. -/
def lengthOf (d : Datum) : Except String Datum :=
  match d with
  | .str s => .ok (.int "int" (Text.byteLength s))
  | .list _ xs => .ok (.int "int" xs.length)
  | .nilOf _ => .error "len of nil pointer"
  | .none => .error "reflect: call of reflect.Value.Type on zero Value"
  | d => .error ("len of type " ++ d.typeName)

/-- An index operand as a position in a sequence of a length. -/
def indexArg (d : Datum) (cap : Nat) : Except String Nat :=
  match d with
  | .int _ n => if n < 0 || n > cap then .error s!"index out of range: {n}" else .ok n.toNat
  | .none => .error "cannot index slice/array with nil"
  | d => .error ("cannot index slice/array with type " ++ d.typeName)

/-- The element type of a list type name. -/
def elementTypeName (t : String) : String := Text.trimPrefix t "[]"

/-- **Indexing** a value by the operands in turn. -/
def indexInto (item : Datum) : List Datum → Except String Datum
  | [] => .ok item
  | i :: is =>
    match item with
    | .none => .error "index of untyped nil"
    | .nilOf _ => .error "index of nil pointer"
    | .list _ xs => do
      let k ← indexArg i xs.length
      match xs[k]? with
      | some x => indexInto x is
      | Option.none => .error "reflect: slice index out of range"
    | .str s => do
      let bytes := s.toUTF8.toList
      let k ← indexArg i bytes.length
      match bytes[k]? with
      | some b => indexInto (.int "uint8" b.toNat) is
      | Option.none => .error "reflect: string index out of range"
    | d => .error ("can't index item of type " ++ d.typeName)

/-- **Slicing** a list or text by up to three indexes. -/
def sliceOf (item : Datum) (idx : List Datum) : Except String Datum :=
  match item with
  | .none => .error "slice of untyped nil"
  | .list t xs => do
    if idx.length > 3 then throw s!"too many slice indexes: {idx.length}"
    let ks ← idx.mapM (indexArg · xs.length)
    match ks with
    | [] => .ok item
    | [i] => .ok (.list t (xs.drop i))
    | i :: j :: _ =>
      if j < i then .error s!"invalid slice index: {i} > {j}" else .ok (.list t ((xs.take j).drop i))
  | .str s => do
    if idx.length > 2 then throw "cannot 3-index slice a string"
    let bytes := s.toUTF8.toList
    let ks ← idx.mapM (indexArg · bytes.length)
    let cut (i j : Nat) : String :=
      String.fromUTF8! ⟨((bytes.take j).drop i).toArray⟩
    match ks with
    | [] => .ok item
    | [i] => .ok (.str (cut i bytes.length))
    | i :: j :: _ => if j < i then .error s!"invalid slice index: {i} > {j}" else .ok (.str (cut i j))
  | d => .error ("can't slice item of type " ++ d.typeName)

/-! ### Comparisons -/

/-- The basic kind of a value for comparisons. -/
inductive BasicKind where
  | boolKind
  | intKind
  | floatKind
  | stringKind
  | other
  deriving DecidableEq, Repr

/-- The basic kind of a value. -/
def basicKind : Datum → BasicKind
  | .bool _ => .boolKind
  | .int .. => .intKind
  | .float _ => .floatKind
  | .str _ => .stringKind
  | _ => .other

mutual
/-- Structural equality of comparable values. -/
def sameDatum : Datum → Datum → Bool
  | .none, .none => true
  | .str a, .str b => a == b
  | .int _ a, .int _ b => a == b
  | .float a, .float b => a == b
  | .bool a, .bool b => a == b
  | .record t fs, .record u gs => t == u && sameFields fs gs
  | .nilOf t, .nilOf u => t == u
  | _, _ => false

/-- Field-by-field equality. -/
def sameFields : List (String × Datum) → List (String × Datum) → Bool
  | [], [] => true
  | (_, a) :: as, (_, b) :: bs => sameDatum a b && sameFields as bs
  | _, _ => false
end

/-- Whether a value may be compared for equality. -/
def comparableDatum : Datum → Bool
  | .list .. => false
  | _ => true

/-- Equality of two values, or why they cannot be compared. -/
def eqOne (a b : Datum) : Except String Bool :=
  let k1 := basicKind a
  let k2 := basicKind b
  if k1 != k2 then
    match a, b with
    | .none, _ | _, .none => .ok false
    | _, _ => .error "incompatible types for comparison"
  else if k1 != .other then .ok (sameDatum a b)
  else if a.typeName != b.typeName then .error "incompatible types for comparison"
  else if !comparableDatum b then .error ("non-comparable type " ++ b.print ++ ": " ++ b.typeName)
  else .ok (sameDatum a b)

/-- **eq**: whether the first value equals any of the others. -/
def eqAny (a : Datum) : List Datum → Except String Bool
  | [] => .error "missing argument for comparison"
  | bs => bs.foldlM (fun acc b => if acc then .ok true else eqOne a b) false

/-- **lt**: whether the first value is less than the second. -/
def lessThan (a b : Datum) : Except String Bool :=
  match a, b with
  | .int _ x, .int _ y => .ok (x < y)
  | .float x, .float y => .ok (x < y)
  | .str x, .str y => .ok (decide (x < y))
  | .bool _, .bool _ => .error "invalid type for comparison"
  | _, _ =>
    if basicKind a == .other || basicKind b == .other then .error "invalid type for comparison"
    else .error "incompatible types for comparison"

/-- `print` of two texts puts nothing between them. -/
theorem sprint_texts (a b : String) : sprint [.str a, .str b] = a ++ b := by
  simp [sprint, isTextDatum, Datum.print]

end Accessors.Template
