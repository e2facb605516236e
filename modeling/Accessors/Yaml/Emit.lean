import Accessors.Yaml.Resolve
import Accessors.Json.Basic
import Accessors.Text.Unicode
import Accessors.Sorting

/-!
# Writing YAML

Values are written as YAML in block style, the way settings files are conventionally laid out:

* mapping keys are sorted in **natural order**: letters compare as characters and before other
  characters, and runs of digits compare by their value;
* a mapping is one `key: value` line per pair, nested mappings indented by two blanks; a list is
  one `- item` line per item, not indented below a key; an empty mapping or list is `{}` or `[]`;
* a text is written plain when it would read back as the same text, in double quotes when it would
  read as another type (a number, a boolean, null, a timestamp) or as a base-60 float, and with
  a `|` block when it has line breaks;
* a plain text that starts with an indicator or holds `: ` or ` #`, or has blanks at its ends, is
  single-quoted; one with characters that must be escaped is double-quoted;
* long plain and quoted texts are folded at blanks beyond the eightieth column.

Main statements: `k2` sorts before `k10` (`naturalLess_digits`).
-/

namespace Accessors.Yaml

/-! ### Natural order of keys -/

/-- The value of a run of digits from `i`, with the index after it. -/
def digitRun (cs : Array Char) (i : Nat) (start : Int) : Int × Nat := Id.run do
  let mut n := start
  let mut j := i
  for _ in [0:cs.size] do
    match cs[j]? with
    | some c =>
      if Text.isDigit c then
        n := n * 10 + ((c.toNat : Int) - 48)
        j := j + 1
      else break
    | none => break
  return (n, j)

/-- **Natural order of texts**: at the first difference, letters compare as characters and
before anything else, and runs of digits compare by value, then by length. A prefix comes first. -/
def naturalLess (a b : String) : Bool := Id.run do
  let ar := (Text.chars a).toArray
  let br := (Text.chars b).toArray
  for i in [0:min ar.size br.size] do
    let x := ar.getD i ' '
    let y := br.getD i ' '
    if x == y then continue
    let xl := Text.isLetter x
    let yl := Text.isLetter y
    if xl && yl then return x < y
    if xl || yl then return yl
    -- a run of digits continuing non-zero digits before it counts from one
    let mut start : Int := 0
    if x == '0' || y == '0' then
      for k in [0:i] do
        let c := ar.getD (i - 1 - k) ' '
        if !Text.isDigit c then break
        if c != '0' then
          start := 1
          break
    let (an, ai) := digitRun ar i start
    let (bn, bi) := digitRun br i start
    if an != bn then return an < bn
    if ai != bi then return ai < bi
    return x < y
  return ar.size < br.size

/-! ### Analysing texts -/

/-- A character that may be written as it is in a YAML text. -/
def isPrintable (c : Char) : Bool :=
  let n := c.toNat
  n == 0x0A || (0x20 ≤ n && n ≤ 0x7E) || (0xA0 ≤ n && n ≤ 0xD7FF) ||
    (0xE000 ≤ n && n ≤ 0xFFFD && n != 0xFEFF)

/-- The ways a text may be written, as its characters allow. -/
structure TextStyles where
  multiline : Bool
  blockPlain : Bool
  flowPlain : Bool
  singleQuoted : Bool
  block : Bool

/-- **Which styles a text allows**: plain unless it has indicators where they matter, blanks or
breaks at its ends, breaks or special characters; single quotes unless a break meets a blank or
it has special characters. -/
def analyzeText (s : String) : TextStyles := Id.run do
  let cs := (Text.chars s).toArray
  if cs.isEmpty then return ⟨false, true, false, true, false⟩
  let mut blockInd := false
  let mut flowInd := false
  let mut lineBreaks := false
  let mut special := false
  let mut leadingSpace := false
  let mut leadingBreak := false
  let mut trailingSpace := false
  let mut trailingBreak := false
  let mut breakSpace := false
  let mut spaceBreak := false
  let mut precededByWhitespace := true
  let mut previousSpace := false
  let mut previousBreak := false
  let c0 := cs.getD 0 ' '
  let c1 := cs.getD 1 ' '
  let c2 := cs.getD 2 ' '
  if cs.size ≥ 3 && ((c0 == '-' && c1 == '-' && c2 == '-') || (c0 == '.' && c1 == '.' && c2 == '.')) then
    blockInd := true
    flowInd := true
  for i in [0:cs.size] do
    let c := cs.getD i ' '
    let followedByWhitespace := i + 1 ≥ cs.size || isBlank (cs.getD (i + 1) ' ')
    if i == 0 then
      if (Text.chars "#,[]\x7b\x7d&*!|>'\"%@`").contains c then
        flowInd := true
        blockInd := true
      else if c == '?' || c == ':' then
        flowInd := true
        if followedByWhitespace then blockInd := true
      else if c == '-' && followedByWhitespace then
        flowInd := true
        blockInd := true
    else
      if (Text.chars ",?[]\x7b\x7d").contains c then flowInd := true
      else if c == ':' then
        flowInd := true
        if followedByWhitespace then blockInd := true
      else if c == '#' && precededByWhitespace then
        flowInd := true
        blockInd := true
    if !isPrintable c then special := true
    if c == ' ' then
      if i == 0 then leadingSpace := true
      if i + 1 == cs.size then trailingSpace := true
      if previousBreak then breakSpace := true
      previousSpace := true
      previousBreak := false
    else if isBreak c then
      lineBreaks := true
      if i == 0 then leadingBreak := true
      if i + 1 == cs.size then trailingBreak := true
      if previousSpace then spaceBreak := true
      previousSpace := false
      previousBreak := true
    else
      previousSpace := false
      previousBreak := false
    precededByWhitespace := isBlankOrEnd c
  let mut flowPlain := true
  let mut blockPlain := true
  let mut singleQuoted := true
  let mut block := true
  if leadingSpace || leadingBreak || trailingSpace || trailingBreak then
    flowPlain := false
    blockPlain := false
  if trailingSpace then block := false
  if breakSpace then
    flowPlain := false
    blockPlain := false
    singleQuoted := false
  if spaceBreak || special then
    flowPlain := false
    blockPlain := false
    singleQuoted := false
    block := false
  if lineBreaks then
    flowPlain := false
    blockPlain := false
  if flowInd then flowPlain := false
  if blockInd then blockPlain := false
  return ⟨lineBreaks, blockPlain, flowPlain, singleQuoted, block⟩

/-- The groups `:M` or `:MM` (minutes or seconds below 60) of a base-60 float, then an optional
fraction, to the end of the text. -/
def base60Groups : Nat → List Char → Bool
  | 0, _ => false
  | fuel + 1, ':' :: rest =>
    let after : List Char → Bool := fun r =>
      match r with
      | [] => true
      | ':' :: _ => base60Groups fuel r
      | '.' :: frac => frac.all fun x => x.isDigit || x == '_'
      | _ => false
    (match rest with
     | a :: b :: r => a.isDigit && a ≤ '5' && b.isDigit && after r
     | _ => false) ||
    (match rest with
     | a :: r => a.isDigit && after r
     | [] => false)
  | _, _ => false

/-- **Whether a text looks like a float of base 60**, such as `1:20` or `-3:25:45.5`: a sign,
digits, and groups of one or two digits after colons. -/
def isBase60Float (s : String) : Bool :=
  let cs := match Text.chars s with
    | '+' :: r | '-' :: r => r
    | r => r
  match cs with
  | d :: rest =>
    d.isDigit && base60Groups (rest.length + 1) (rest.dropWhile fun x => x.isDigit || x == '_')
  | [] => false

/-! ### The writer -/

/-- The state of writing: the text so far, the column, and whether the last character was a blank
(or the start) and the line holds only indentation. -/
structure Writer where
  out : String
  column : Nat
  whitespace : Bool
  indention : Bool

/-- The widest column before texts are folded. -/
def bestWidth : Nat := 80

/-- The indentation of nested blocks. -/
def bestIndent : Nat := 2

namespace Writer

/-- A fresh writer. -/
def fresh : Writer := ⟨"", 0, true, true⟩

/-- Writes a character of a line. -/
def put (w : Writer) (c : Char) : Writer := { w with out := w.out.push c, column := w.column + 1 }

/-- Writes characters of a line. -/
def putAll (w : Writer) (s : String) : Writer := (Text.chars s).foldl put w

/-- Ends the line. -/
def newline (w : Writer) : Writer := { w with out := w.out.push '\n', column := 0 }

/-- **Goes to the indentation** of a block: a new line unless the line holds only indentation
up to it, then blanks up to it. -/
def indentTo (w : Writer) (indent : Nat) : Writer := Id.run do
  let mut w := w
  if !w.indention || w.column > indent || (w.column == indent && !w.whitespace) then w := w.newline
  for _ in [0:indent] do
    if w.column < indent then w := w.put ' '
  return { w with whitespace := true, indention := true }

/-- **Writes an indicator**, after a blank when one is needed. -/
def indicator (w : Writer) (s : String) (needWhitespace isWhitespace isIndention : Bool) : Writer :=
  let w := if needWhitespace && !w.whitespace then w.put ' ' else w
  let w := w.putAll s
  { w with whitespace := isWhitespace, indention := w.indention && isIndention }

/-- **Writes a plain text**, folding at single blanks past the widest column when `breaks`. -/
def plain (w : Writer) (s : String) (indent : Nat) (breaks : Bool) : Writer := Id.run do
  let mut w := if !w.whitespace then w.put ' ' else w
  let cs := (Text.chars s).toArray
  let mut spaces := false
  for i in [0:cs.size] do
    let c := cs.getD i ' '
    if c == ' ' then
      if breaks && !spaces && w.column > bestWidth && cs.getD (i + 1) 'x' != ' ' then
        w := w.indentTo indent
      else w := w.put c
      spaces := true
    else
      w := { w.put c with indention := false }
      spaces := false
  return { w with whitespace := false, indention := false }

/-- **Writes a single-quoted text**: quotes doubled, folding at single blanks past the widest
column when `breaks`. -/
def singleQuoted (w : Writer) (s : String) (indent : Nat) (breaks : Bool) : Writer := Id.run do
  let mut w := w.indicator "'" true false false
  let cs := (Text.chars s).toArray
  let mut spaces := false
  for i in [0:cs.size] do
    let c := cs.getD i ' '
    if c == ' ' then
      if breaks && !spaces && w.column > bestWidth && i > 0 && i + 1 < cs.size && cs.getD (i + 1) 'x' != ' ' then
        w := w.indentTo indent
      else w := w.put c
      spaces := true
    else
      if c == '\'' then w := w.put '\''
      w := { w.put c with indention := false }
      spaces := false
  w := w.indicator "'" false false false
  return { w with whitespace := false, indention := false }

/-- The escape of a character in a double-quoted text. -/
def escapeOf (c : Char) : String :=
  match c.toNat with
  | 0x00 => "0"
  | 0x07 => "a"
  | 0x08 => "b"
  | 0x09 => "t"
  | 0x0A => "n"
  | 0x0B => "v"
  | 0x0C => "f"
  | 0x0D => "r"
  | 0x1B => "e"
  | 0x22 => "\""
  | 0x5C => "\\"
  | 0x85 => "N"
  | 0xA0 => "_"
  | 0x2028 => "L"
  | 0x2029 => "P"
  | n =>
    let hex := fun (width : Nat) => String.ofList ((Text.chars (Text.padLeft (Text.hexDigits n) width '0')).map Char.toUpper)
    if n ≤ 0xFF then "x" ++ hex 2 else if n ≤ 0xFFFF then "u" ++ hex 4 else "U" ++ hex 8

/-- **Writes a double-quoted text** with escapes, folding at blanks past the widest column when
`breaks`. -/
def doubleQuoted (w : Writer) (s : String) (indent : Nat) (breaks : Bool) : Writer := Id.run do
  let mut w := w.indicator "\"" true false false
  let cs := (Text.chars s).toArray
  let mut spaces := false
  for i in [0:cs.size] do
    let c := cs.getD i ' '
    if !isPrintable c || c == '\uFEFF' || isBreak c || c == '"' || c == '\\' then
      w := (w.put '\\').putAll (escapeOf c)
      spaces := false
    else if c == ' ' then
      if breaks && !spaces && w.column > bestWidth && i > 0 && i + 1 < cs.size then
        w := w.indentTo indent
        if cs.getD (i + 1) 'x' == ' ' then w := w.put '\\'
      else w := w.put c
      spaces := true
    else
      w := w.put c
      spaces := false
  w := w.indicator "\"" false false false
  return { w with whitespace := false, indention := false }

/-- **Writes a literal block text**: `|` with the hints of indentation and chomping, then its
lines indented. -/
def literal (w : Writer) (s : String) (indent : Nat) : Writer := Id.run do
  let mut w := w.indicator "|" true false false
  let cs := Text.chars s
  match cs with
  | c :: _ => if c == ' ' || isBreak c then w := w.indicator (toString bestIndent) false false false
  | [] => pure ()
  let chomp := match cs.reverse with
    | [] => "-"
    | last :: before =>
      if !isBreak last then "-"
      else match before with
        | [] => "+"
        | prev :: _ => if isBreak prev then "+" else ""
  if !chomp.isEmpty then w := w.indicator chomp false false false
  w := { w.newline with indention := true, whitespace := true }
  let mut breaks := true
  for c in cs do
    if isBreak c then
      w := { w.newline with indention := true }
      breaks := true
    else
      if breaks then w := w.indentTo indent
      w := { w.put c with indention := false }
      breaks := false
  return w

end Writer

/-! ### Writing values -/

/-- How a text is written. -/
inductive TextStyle where
  | plain
  | singleQuoted
  | doubleQuoted
  | literal
  deriving BEq, Repr

/-- **The style of a text**, as a key (`simpleKey`) or a value: line breaks ask for a block, texts
that would read as another type for double quotes, and the characters decide the rest. -/
def textStyle (s : String) (simpleKey : Bool) : TextStyle :=
  let canPlain := (resolveText "" s).1 == strTag && !isBase60Float s
  let requested : TextStyle :=
    if (Text.chars s).contains '\n' then .literal else if canPlain then .plain else .doubleQuoted
  let a := analyzeText s
  let style := if simpleKey && a.multiline then .doubleQuoted else requested
  let style := if style == .plain && (!a.blockPlain || (s.isEmpty && simpleKey)) then .singleQuoted else style
  let style := if style == .singleQuoted && !a.singleQuoted then .doubleQuoted else style
  if style == .literal && (!a.block || simpleKey) then .doubleQuoted else style

/-- Writes a text in its style; continuation lines are indented to `indent`. -/
def Writer.text (w : Writer) (s : String) (simpleKey : Bool) (indent : Nat) : Writer :=
  match textStyle s simpleKey with
  | .plain => w.plain s indent (!simpleKey)
  | .singleQuoted => w.singleQuoted s indent (!simpleKey)
  | .doubleQuoted => w.doubleQuoted s indent (!simpleKey)
  | .literal => w.literal s indent

/-- The text of a scalar that is not a text. -/
def scalarText : Item → String
  | .null => "null"
  | .bool b => if b then "true" else "false"
  | .int n => toString n
  | .uint n => toString n
  | .float x =>
    let s := Number.floatText x
    if s == "+Inf" then ".inf" else if s == "-Inf" then "-.inf" else if s == "NaN" then ".nan" else s
  | _ => ""

/-- The text of a mapping key, for sorting. -/
def keySortText : Item → String
  | .str s => s
  | x => scalarText x

/-- Whether a value is an empty mapping or list. -/
def Item.isEmptyCollection : Item → Bool
  | .map [] | .seq [] => true
  | _ => false

/-- **Writes a value** whose block is indented to `indent`; `inMapping` when it is the value of a
key, where lists are not indented further. -/
def writeItem (w : Writer) (indent : Int) (inMapping : Bool) : Nat → Item → Writer
  | 0, _ => w
  | fuel + 1, item =>
    let inner : Nat := if indent < 0 then 0 else indent.toNat + bestIndent
    match item with
    | .map [] => w.indicator "\x7b\x7d" true false false
    | .seq [] => w.indicator "[]" true false false
    | .map entries =>
      let sorted := Sorting.sort (fun a b => naturalLess (keySortText a.1) (keySortText b.1)) entries
      sorted.foldl (fun w (k, v) =>
        let w := w.indentTo inner
        let w := match k with
          | .str s => w.text s true inner
          | x => w.plain (scalarText x) inner false
        let w := w.indicator ":" false false false
        writeItem w inner true fuel v) w
    | .seq items =>
      let seqIndent : Nat := if inMapping && !w.indention then (if indent < 0 then 0 else indent.toNat) else inner
      items.foldl (fun w x =>
        let w := w.indentTo seqIndent
        let w := w.indicator "-" true false true
        writeItem w seqIndent false fuel x) w
    | .str s => w.text s false inner
    | x => w.plain (scalarText x) inner true

/-- **The YAML text of a value**, ending with a line break. -/
def writeYaml (x : Item) : String :=
  let w := writeItem Writer.fresh (-1) false maxDepth x
  (w.indentTo 0).out

/-- `k2` sorts before `k10`. -/
theorem naturalLess_digits : naturalLess "k2" "k10" = true := by
  decide +kernel

end Accessors.Yaml
