import Accessors.Text.Basic

/-!
# Reading YAML: tokens

The first stage of reading a YAML document cuts its text into tokens: indicators of collections
and entries, keys and values, anchors, aliases, tags and scalars. Block structure is made
explicit: when a line is indented deeper than the enclosing collection a `blockSequenceStart` or
`blockMappingStart` token opens a collection, and when the indentation falls back `blockEnd`
tokens close it.

A mapping key without `?` is only known to be a key when the `:` after it is met. The scanner
therefore remembers, per level of flow nesting, the place where a **simple key** may start; at
the `:` it inserts the `key` token (and, in block context, the `blockMappingStart` token) in front
of the tokens already produced for the key. A simple key must end on its line and within 1024
characters; a key that was required there (it started at the indentation of its block mapping)
and was never finished is an error.

Tokens are produced **on demand**: the reader of tokens asks for the next one, and the scanner
reads on only as far as it must to know that no key will be inserted before it. Errors in text
beyond that point are found only when a later token is asked for, which decides which of two
problems a broken document reports.

The text must hold only the characters YAML allows; tabs, line ends and printable characters.

Main statements: a line break is never blank (`isBreak_not_blank`).
-/

namespace Accessors.Yaml

/-! ### Characters -/

/-- **A line break**: carriage return, line feed, next line, line or paragraph separator. -/
def isBreak (c : Char) : Bool :=
  c == '\r' || c == '\n' || c == '\x85' || c == '\u2028' || c == '\u2029'

/-- The character read beyond the end of the text. -/
def endChar : Char := '\x00'

/-- A line break or the end of the text. -/
def isBreakOrEnd (c : Char) : Bool := isBreak c || c == endChar

/-- A blank: space or tab. -/
def isBlank (c : Char) : Bool := c == ' ' || c == '\t'

/-- A blank, a line break or the end of the text. -/
def isBlankOrEnd (c : Char) : Bool := isBlank c || isBreakOrEnd c

/-- A character of an anchor name or a tag handle: an ASCII letter or digit, `_` or `-`. -/
def isWordChar (c : Char) : Bool := c.isAlphanum || c == '_' || c == '-'

/-- A hexadecimal digit. -/
def isHexChar (c : Char) : Bool := c.isDigit || ('a' ≤ c && c ≤ 'f') || ('A' ≤ c && c ≤ 'F')

/-- The value of a hexadecimal digit. -/
def hexValue (c : Char) : Nat :=
  if c.isDigit then c.toNat - 48 else if 'a' ≤ c && c ≤ 'f' then c.toNat - 87 else c.toNat - 55

/-- **A character YAML allows** in a stream: tab, line feed, carriage return, printable ASCII,
next line, and the printable planes beyond. -/
def isAllowedChar (c : Char) : Bool :=
  let n := c.toNat
  n == 0x09 || n == 0x0A || n == 0x0D || (0x20 ≤ n && n ≤ 0x7E) || n == 0x85 ||
    (0xA0 ≤ n && n ≤ 0xD7FF) || (0xE000 ≤ n && n ≤ 0xFFFD) || (0x10000 ≤ n && n ≤ 0x10FFFF)

/-- A character that may appear in a tag: word characters and the punctuation of URIs. -/
def isUriChar (c : Char) : Bool :=
  isWordChar c || (Text.chars ";/?:@&=+$,.!~*'()[]%").contains c

/-! ### Tokens -/

/-- **A place in the text**: the index of its character, its line and its column, all from 0. -/
structure Mark where
  index : Nat
  line : Nat
  column : Nat
  deriving Repr, Inhabited, BEq

/-- How a scalar was written. -/
inductive ScalarStyle where
  | plain
  | singleQuoted
  | doubleQuoted
  | literal
  | folded
  deriving Repr, Inhabited, BEq, DecidableEq

/-- **The kinds of token**, with what they carry. -/
inductive TokenKind where
  | streamStart
  | streamEnd
  | versionDirective (major minor : Nat)
  | tagDirective (handle pfx : String)
  | documentStart
  | documentEnd
  | blockSequenceStart
  | blockMappingStart
  | blockEnd
  | flowSequenceStart
  | flowSequenceEnd
  | flowMappingStart
  | flowMappingEnd
  | blockEntry
  | flowEntry
  | key
  | value
  | alias (name : String)
  | anchor (name : String)
  | tag (handle suffix : String)
  | scalar (text : String) (style : ScalarStyle)
  deriving Repr, Inhabited, BEq

/-- A token and where it starts and stops. -/
structure Token where
  kind : TokenKind
  start : Mark
  stop : Mark
  deriving Repr, Inhabited

/-- The stage of reading that found a problem. -/
inductive Stage where
  | reader
  | scanner
  | parser
  deriving Repr, Inhabited, BEq

/-- **A problem** with a document: what was being read and where it started, what went wrong
and where. -/
structure Problem where
  stage : Stage
  context : String
  contextMark : Mark
  problem : String
  problemMark : Mark
  deriving Repr, Inhabited

/-- **The message of a problem**: `yaml: line N: problem`. The line is that of the problem,
counted from 1 for problems of the scanner and from 0 for the others, or else that of its
context counted from 0; a line 0 is left out. -/
def Problem.message (p : Problem) : String :=
  let line :=
    if p.problemMark.line != 0 then
      if p.stage == .scanner then p.problemMark.line + 1 else p.problemMark.line
    else p.contextMark.line
  "yaml: " ++ (if line != 0 then "line " ++ toString line ++ ": " else "") ++ p.problem

/-! ### The scanner -/

/-- **A place where a simple key may start**: whether it still may, whether it must, the number
of the token it would be inserted before, and its place. The scanner also indexes the possible
keys by the number of their token, to know whether the next token may get a key before it. -/
structure SimpleKey where
  possible : Bool
  required : Bool
  tokenNumber : Nat
  mark : Mark
  deriving Repr, Inhabited

/-- **The state of a scanner**: the text from the current place on, the length of the whole text
and the current place, the tokens produced so far and how many of them were taken, the
indentation levels of the open block collections, the simple key of every flow level, and the flow
level. -/
structure Scanner where
  rest : List Char
  size : Nat
  mark : Mark
  tokens : Array Token
  parsed : Nat
  tokenAvailable : Bool
  streamStartProduced : Bool
  streamEndProduced : Bool
  indent : Int
  indents : List Int
  simpleKeyAllowed : Bool
  simpleKeys : Array SimpleKey
  keysByToken : List (Nat × Nat)
  flowLevel : Nat
  deriving Inhabited

/-- A scanner at the start of a text; a byte order mark at its start is dropped. -/
def Scanner.ofText (text : String) : Scanner :=
  let cs := match Text.chars text with
    | '\uFEFF' :: rest => rest
    | cs => cs
  { rest := cs, size := cs.length, mark := ⟨0, 0, 0⟩, tokens := #[], parsed := 0, tokenAvailable := false,
    streamStartProduced := false, streamEndProduced := false, indent := -1, indents := [],
    simpleKeyAllowed := false, simpleKeys := #[], keysByToken := [], flowLevel := 0 }

/-- Scanning, which may stop with a problem. -/
abbrev ScanM := StateT Scanner (Except Problem)

/-- The character `k` places ahead; the end character beyond the text. -/
def charAt (k : Nat) : ScanM Char := do
  let s ← get
  return s.rest.getD k endChar

/-- The current place. -/
def here : ScanM Mark := return (← get).mark

/-- A bound on the steps of a loop that consumes a character per step. -/
def budget : ScanM Nat := do
  let s ← get
  return s.rest.length + 2

/-- Steps over one character of a line. -/
def skipChar : ScanM Unit := modify fun s =>
  { s with rest := s.rest.drop 1, mark := ⟨s.mark.index + 1, s.mark.line, s.mark.column + 1⟩ }

/-- Steps over a line break; a carriage return and line feed count as one. -/
def skipBreak : ScanM Unit := do
  let c ← charAt 0
  let n ← charAt 1
  if c == '\r' && n == '\n' then
    modify fun s => { s with rest := s.rest.drop 2, mark := ⟨s.mark.index + 2, s.mark.line + 1, 0⟩ }
  else if isBreak c then
    modify fun s => { s with rest := s.rest.drop 1, mark := ⟨s.mark.index + 1, s.mark.line + 1, 0⟩ }

/-- Takes one character of a line. -/
def takeChar : ScanM Char := do
  let c ← charAt 0
  skipChar
  return c

/-- **Takes a line break**, giving the text it stands for: a line feed for a carriage return,
line feed or next line, and a line or paragraph separator as itself. -/
def takeBreak : ScanM String := do
  let c ← charAt 0
  if c == '\u2028' || c == '\u2029' then
    skipBreak
    return String.singleton c
  else if isBreak c then
    skipBreak
    return "\n"
  else return ""

/-- Stops with a problem of the scanner at the current place. -/
def fail {α : Type} (context : String) (contextMark : Mark) (problem : String) : ScanM α := do
  throw ⟨.scanner, context, contextMark, problem, (← get).mark⟩

/-- Skips blanks. -/
def skipBlanks : ScanM Unit := do
  for _ in [0:(← budget)] do
    if isBlank (← charAt 0) then skipChar else break

/-- Skips a comment up to the line break. -/
def skipComment : ScanM Unit := do
  if (← charAt 0) == '#' then
    for _ in [0:(← budget)] do
      if isBreakOrEnd (← charAt 0) then break
      skipChar

/-- Takes characters while they satisfy `p`. -/
def takeWhile (p : Char → Bool) : ScanM String := do
  let mut out := ""
  for _ in [0:(← budget)] do
    let c ← charAt 0
    if p c then
      out := out.push c
      skipChar
    else break
  return out

/-! ### The queue of tokens -/

/-- Appends a token. -/
def pushToken (kind : TokenKind) (start stop : Mark) : ScanM Unit :=
  modify fun s => { s with tokens := s.tokens.push ⟨kind, start, stop⟩ }

/-- **Inserts a token** before the token of number `n`, or appends it when that token was
already taken. -/
def insertToken (n : Nat) (t : Token) : ScanM Unit :=
  modify fun s =>
    if n < s.parsed then { s with tokens := s.tokens.push t }
    else { s with tokens := (s.tokens.toList.take n ++ t :: s.tokens.toList.drop n).toArray }

/-! ### Simple keys -/

/-- The simple key at a flow level. -/
def keyAt (i : Nat) : ScanM SimpleKey := return (← get).simpleKeys.getD i default

/-- Replaces the simple key at a flow level. -/
def setKey (i : Nat) (k : SimpleKey) : ScanM Unit :=
  modify fun s => { s with simpleKeys := s.simpleKeys.setIfInBounds i k }

/-- Records the flow level of the simple key before a token. -/
def indexKey (token i : Nat) : ScanM Unit :=
  modify fun s => { s with keysByToken := (token, i) :: s.keysByToken.filter (·.1 != token) }

/-- Forgets the simple key before a token. -/
def forgetKey (token : Nat) : ScanM Unit :=
  modify fun s => { s with keysByToken := s.keysByToken.filter (·.1 != token) }

/-- The index of the simple key of the current flow level. -/
def topKey : ScanM Nat := return (← get).simpleKeys.size - 1

/-- **Whether a simple key is still possible**: it is not once the scanner left its line or went
1024 characters past it, and a key that was required is then an error. -/
def keyIsValid (i : Nat) : ScanM Bool := do
  let k ← keyAt i
  if !k.possible then return false
  let m ← here
  if k.mark.line < m.line || k.mark.index + 1024 < m.index then
    if k.required then fail "while scanning a simple key" k.mark "could not find expected ':'"
    setKey i { k with possible := false }
    return false
  return true

/-- **Drops the simple key** of the current flow level; a required one is an error. -/
def removeSimpleKey : ScanM Unit := do
  let i ← topKey
  let k ← keyAt i
  if k.possible then
    if k.required then fail "while scanning a simple key" k.mark "could not find expected ':'"
    setKey i { k with possible := false }
    forgetKey k.tokenNumber

/-- **Remembers that a simple key may start here**, when one may; it is required when the
scanner is in block context at the indentation of the current block. -/
def saveSimpleKey : ScanM Unit := do
  let s ← get
  let required := s.flowLevel == 0 && s.indent == (s.mark.column : Int)
  if s.simpleKeyAllowed then
    let k : SimpleKey := ⟨true, required, s.tokens.size, s.mark⟩
    removeSimpleKey
    let i ← topKey
    setKey i k
    indexKey k.tokenNumber i

/-- Sets whether a simple key may start at the next token. -/
def allowSimpleKey (b : Bool) : ScanM Unit := modify fun s => { s with simpleKeyAllowed := b }

/-! ### Indentation and flow levels -/

/-- **Closes the block collections** indented deeper than `col`, with a `blockEnd` token each.
Nothing happens in flow context. -/
def unrollIndent (col : Int) : ScanM Unit := do
  if (← get).flowLevel > 0 then return
  for _ in [0:(← get).indents.length + 1] do
    let s ← get
    if s.indent ≤ col then break
    match s.indents with
    | i :: rest =>
      set { s with indent := i, indents := rest, tokens := s.tokens.push ⟨.blockEnd, s.mark, s.mark⟩ }
    | [] => break

/-- **Opens a block collection** at column `col` when it is deeper than the current one: the
token of `kind` is inserted before token `number`, or appended when there is none. Nothing
happens in flow context. -/
def rollIndent (col : Nat) (number : Option Nat) (kind : TokenKind) (mark : Mark) : ScanM Unit := do
  let s ← get
  if s.flowLevel > 0 then return
  if s.indent < col then
    set { s with indents := s.indent :: s.indents, indent := col }
    match number with
    | some n => insertToken n ⟨kind, mark, mark⟩
    | none => pushToken kind mark mark

/-- Enters a flow collection, with a fresh simple key. -/
def increaseFlowLevel : ScanM Unit := modify fun s =>
  { s with simpleKeys := s.simpleKeys.push default, flowLevel := s.flowLevel + 1 }

/-- Leaves a flow collection, dropping its simple key. -/
def decreaseFlowLevel : ScanM Unit := do
  let s ← get
  if s.flowLevel > 0 then
    forgetKey (s.simpleKeys.back?.map (·.tokenNumber) |>.getD 0)
    modify fun s => { s with flowLevel := s.flowLevel - 1, simpleKeys := s.simpleKeys.pop }

/-! ### Skipping to a token -/

/-- **Skips blanks, comments and line breaks** up to the next token. Tabs are skipped only in
flow context or where no simple key may start; a line break in block context allows a simple
key. -/
def scanToNextToken : ScanM Unit := do
  for _ in [0:(← budget)] do
    let m ← here
    if m.column == 0 then
      if (← charAt 0) == '\uFEFF' then skipChar
    for _ in [0:(← budget)] do
      let c ← charAt 0
      let s ← get
      if c == ' ' || ((s.flowLevel > 0 || !s.simpleKeyAllowed) && c == '\t') then skipChar else break
    skipComment
    if isBreak (← charAt 0) then
      skipBreak
      if (← get).flowLevel == 0 then allowSimpleKey true
    else break

/-! ### Directives -/

/-- **A tag handle**: `!`, then word characters, then `!` when there is one. In a directive the
handle must end with `!` unless it is `!` alone. -/
def scanTagHandle (directive : Bool) (start : Mark) : ScanM String := do
  let context := if directive then "while scanning a %TAG directive" else "while scanning a tag"
  if (← charAt 0) != '!' then fail context start "did not find expected '!'"
  let _ ← takeChar
  let word ← takeWhile isWordChar
  let s := "!" ++ word
  if (← charAt 0) == '!' then
    let _ ← takeChar
    return s ++ "!"
  if directive && s != "!" then fail context start "did not find expected '!'"
  return s

/-- The bytes an escape `%XX` of a tag stands for, checked to be a UTF-8 sequence, as text. -/
def scanUriEscapes (directive : Bool) (start : Mark) : ScanM String := do
  let context := if directive then "while scanning a %TAG directive" else "while scanning a tag"
  let mut bytes : Array UInt8 := #[]
  let mut width := 0
  for _ in [0:5] do
    let c0 ← charAt 0
    let c1 ← charAt 1
    let c2 ← charAt 2
    if !(c0 == '%' && isHexChar c1 && isHexChar c2) then
      fail context start "did not find URI escaped octet"
    let octet := hexValue c1 * 16 + hexValue c2
    if width == 0 then
      width := if octet &&& 0x80 == 0x00 then 1 else if octet &&& 0xE0 == 0xC0 then 2
        else if octet &&& 0xF0 == 0xE0 then 3 else if octet &&& 0xF8 == 0xF0 then 4 else 0
      if width == 0 then fail context start "found an incorrect leading UTF-8 octet"
    else if octet &&& 0xC0 != 0x80 then
      fail context start "found an incorrect trailing UTF-8 octet"
    bytes := bytes.push octet.toUInt8
    skipChar; skipChar; skipChar
    if bytes.size == width then break
  match String.fromUTF8? (ByteArray.mk bytes) with
  | some s => return s
  | none => fail context start "found an incorrect leading UTF-8 octet"

/-- **The URI of a tag**, after the text of `head` without its first character. An empty URI is
an error unless there was a head. -/
def scanTagUri (directive : Bool) (head : String) (start : Mark) : ScanM String := do
  let context := if directive then "while scanning a %TAG directive" else "while scanning a tag"
  let mut s := String.ofList ((Text.chars head).drop 1)
  let mut found := !head.isEmpty
  for _ in [0:(← budget)] do
    let c ← charAt 0
    if !isUriChar c then break
    if c == '%' then s := s ++ (← scanUriEscapes directive start)
    else s := s.push (← takeChar)
    found := true
  if !found then fail context start "did not find expected tag URI"
  return s

/-- One number of a `%YAML` directive: one or two digits. -/
def scanVersionNumber (start : Mark) : ScanM Nat := do
  let mut value := 0
  let mut length := 0
  for _ in [0:(← budget)] do
    let c ← charAt 0
    if !c.isDigit then break
    length := length + 1
    if length > 2 then fail "while scanning a %YAML directive" start "found extremely long version number"
    value := value * 10 + (c.toNat - 48)
    skipChar
  if length == 0 then fail "while scanning a %YAML directive" start "did not find expected version number"
  return value

/-- **A directive**: `%YAML major.minor` or `%TAG handle prefix`, then only a comment up to the
line end. -/
def scanDirective : ScanM Token := do
  let start ← here
  skipChar
  let name ← takeWhile isWordChar
  if name.isEmpty then fail "while scanning a directive" start "could not find expected directive name"
  if !isBlankOrEnd (← charAt 0) then
    fail "while scanning a directive" start "found unexpected non-alphabetical character"
  let kind ← if name == "YAML" then do
      skipBlanks
      let major ← scanVersionNumber start
      if (← charAt 0) != '.' then
        fail "while scanning a %YAML directive" start "did not find expected digit or '.' character"
      skipChar
      let minor ← scanVersionNumber start
      pure (TokenKind.versionDirective major minor)
    else if name == "TAG" then do
      skipBlanks
      let handle ← scanTagHandle true start
      if !isBlank (← charAt 0) then
        fail "while scanning a %TAG directive" start "did not find expected whitespace"
      skipBlanks
      let pfx ← scanTagUri true "" start
      if !isBlankOrEnd (← charAt 0) then
        fail "while scanning a %TAG directive" start "did not find expected whitespace or line break"
      pure (TokenKind.tagDirective handle pfx)
    else fail "while scanning a directive" start "found unknown directive name"
  let stop ← here
  skipBlanks
  skipComment
  if !isBreakOrEnd (← charAt 0) then
    fail "while scanning a directive" start "did not find expected comment or line break"
  skipBreak
  return ⟨kind, start, stop⟩

/-! ### Anchors, aliases and tags -/

/-- **An anchor `&name` or alias `*name`**: word characters, followed by a blank or one of
`?:,]}%@` and the backquote. -/
def scanAnchor (isAlias : Bool) : ScanM Token := do
  let start ← here
  skipChar
  let name ← takeWhile isWordChar
  let stop ← here
  let c ← charAt 0
  if name.isEmpty || !(isBlankOrEnd c || (Text.chars "?:,]\x7d%@`").contains c) then
    fail (if isAlias then "while scanning an alias" else "while scanning an anchor") start
      "did not find expected alphabetic or numeric character"
  return ⟨if isAlias then .alias name else .anchor name, start, stop⟩

/-- **A tag**: `!<uri>`, `!handle!suffix`, `!suffix` or `!` alone, followed by a blank (or a
comma in flow context). -/
def scanTag : ScanM Token := do
  let start ← here
  let (handle, suffix) ← if (← charAt 1) == '<' then do
      skipChar; skipChar
      let suffix ← scanTagUri false "" start
      if (← charAt 0) != '>' then fail "while scanning a tag" start "did not find the expected '>'"
      skipChar
      pure ("", suffix)
    else do
      let handle ← scanTagHandle false start
      if handle.length > 1 && handle.endsWith "!" then
        let suffix ← scanTagUri false "" start
        pure (handle, suffix)
      else
        let suffix ← scanTagUri false handle start
        if suffix.isEmpty then pure ("", "!") else pure ("!", suffix)
  let c ← charAt 0
  if !isBlankOrEnd c then
    if (← get).flowLevel == 0 || c != ',' then
      fail "while scanning a tag" start "did not find expected whitespace or line break"
  return ⟨.tag handle suffix, start, ← here⟩

/-! ### Block scalars -/

/-- **The blank lines before a line of a block scalar**: indentation spaces are skipped (up to
`indent` when it is known) and line breaks collected; a tab in the indentation is an error. When
the indentation was not known it becomes that of the first line, at least one deeper than the
enclosing block. Gives the indentation, the breaks and the place after the last break. -/
def scanBlockBreaks (indent : Nat) (start : Mark) : ScanM (Nat × String × Mark) := do
  let mut stop ← here
  let mut breaks := ""
  let mut maxIndent := 0
  for _ in [0:(← budget)] do
    for _ in [0:(← budget)] do
      let m ← here
      if (indent == 0 || m.column < indent) && (← charAt 0) == ' ' then skipChar else break
    let m ← here
    if m.column > maxIndent then maxIndent := m.column
    if (indent == 0 || m.column < indent) && (← charAt 0) == '\t' then
      fail "while scanning a block scalar" start "found a tab character where an indentation space is expected"
    if !isBreak (← charAt 0) then break
    breaks := breaks ++ (← takeBreak)
    stop ← here
  let mut indent := indent
  if indent == 0 then
    let blockIndent := (← get).indent
    indent := maxIndent
    if (indent : Int) < blockIndent + 1 then indent := (blockIndent + 1).toNat
    if indent < 1 then indent := 1
  return (indent, breaks, stop)

/-- **A block scalar**, literal (`|`) or folded (`>`): the indicators of chomping (`+`, `-`)
and indentation (a digit from 1), a comment, then the lines indented at least as deep as the
first. Folding joins lines that are not indented further with a space; chomping keeps the
final line break unless `-`, and the trailing empty lines only with `+`. -/
def scanBlockScalar (literal : Bool) : ScanM Token := do
  let start ← here
  skipChar
  let mut chomping : Int := 0
  let mut increment := 0
  let c ← charAt 0
  if c == '+' || c == '-' then
    chomping := if c == '+' then 1 else -1
    skipChar
    let d ← charAt 0
    if d.isDigit then
      if d == '0' then fail "while scanning a block scalar" start "found an indentation indicator equal to 0"
      increment := d.toNat - 48
      skipChar
  else if c.isDigit then
    if c == '0' then fail "while scanning a block scalar" start "found an indentation indicator equal to 0"
    increment := c.toNat - 48
    skipChar
    let d ← charAt 0
    if d == '+' || d == '-' then
      chomping := if d == '+' then 1 else -1
      skipChar
  skipBlanks
  skipComment
  if !isBreakOrEnd (← charAt 0) then
    fail "while scanning a block scalar" start "did not find expected comment or line break"
  skipBreak
  let blockIndent := (← get).indent
  let indent0 : Nat := if increment > 0 then
      (if blockIndent ≥ 0 then (blockIndent + increment).toNat else increment)
    else 0
  let (indent, breaks0, stop0) ← scanBlockBreaks indent0 start
  let mut stop := stop0
  let mut trailingBreaks := breaks0
  let mut text := ""
  let mut leadingBreak := ""
  let mut leadingBlank := false
  for _ in [0:(← budget)] do
    if (← here).column != indent || (← charAt 0) == endChar then break
    let trailingBlank := isBlank (← charAt 0)
    if !literal && !leadingBlank && !trailingBlank && leadingBreak.startsWith "\n" then
      if trailingBreaks.isEmpty then text := text.push ' '
    else text := text ++ leadingBreak
    leadingBreak := ""
    text := text ++ trailingBreaks
    trailingBreaks := ""
    leadingBlank := isBlank (← charAt 0)
    for _ in [0:(← budget)] do
      if isBreakOrEnd (← charAt 0) then break
      text := text.push (← takeChar)
    leadingBreak ← takeBreak
    let (_, more, stop') ← scanBlockBreaks indent start
    trailingBreaks := more
    stop := stop'
  if chomping != -1 then text := text ++ leadingBreak
  if chomping == 1 then text := text ++ trailingBreaks
  return ⟨.scalar text (if literal then .literal else .folded), start, stop⟩

/-! ### Quoted scalars -/

/-- Whether the text at the current place is a document marker `---` or `...` at the start of a
line, followed by a blank or line end. -/
def atDocumentMarker : ScanM Bool := do
  let m ← here
  let c0 ← charAt 0
  let c1 ← charAt 1
  let c2 ← charAt 2
  let c3 ← charAt 3
  return m.column == 0 && ((c0 == '-' && c1 == '-' && c2 == '-') || (c0 == '.' && c1 == '.' && c2 == '.')) &&
    isBlankOrEnd c3

/-- The character an escape of a double-quoted scalar stands for, or the number of hex digits
that follow it. -/
def escapeOf (c : Char) : Option (Sum Char Nat) :=
  match c with
  | '0' => some (.inl '\x00')
  | 'a' => some (.inl '\x07')
  | 'b' => some (.inl '\x08')
  | 't' | '\t' => some (.inl '\t')
  | 'n' => some (.inl '\n')
  | 'v' => some (.inl '\x0b')
  | 'f' => some (.inl '\x0c')
  | 'r' => some (.inl '\r')
  | 'e' => some (.inl '\x1b')
  | ' ' => some (.inl ' ')
  | '"' => some (.inl '"')
  | '\'' => some (.inl '\'')
  | '\\' => some (.inl '\\')
  | 'N' => some (.inl '\x85')
  | '_' => some (.inl '\xa0')
  | 'L' => some (.inl '\u2028')
  | 'P' => some (.inl '\u2029')
  | 'x' => some (.inr 2)
  | 'u' => some (.inr 4)
  | 'U' => some (.inr 8)
  | _ => none

/-- Joins the blanks between two parts of a flow or plain scalar: a single line break folds to a
space, further breaks stay; blanks without a break stay as they are. -/
def joinBlanks (leadingBlanks : Bool) (whitespace leadingBreak trailingBreaks : String) : String :=
  if leadingBlanks then
    if leadingBreak.startsWith "\n" then
      if trailingBreaks.isEmpty then " " else trailingBreaks
    else leadingBreak ++ trailingBreaks
  else whitespace

/-- **A quoted scalar**, single-quoted (where `''` is a quote) or double-quoted (with escapes
and escaped line breaks). Lines are folded; a document marker or the end of the text inside the
quotes is an error. -/
def scanFlowScalar (single : Bool) : ScanM Token := do
  let start ← here
  skipChar
  let mut text := ""
  for _ in [0:(← budget)] do
    if (← atDocumentMarker) then
      fail "while scanning a quoted scalar" start "found unexpected document indicator"
    if (← charAt 0) == endChar then
      fail "while scanning a quoted scalar" start "found unexpected end of stream"
    let mut leadingBlanks := false
    for _ in [0:(← budget)] do
      let c ← charAt 0
      let n ← charAt 1
      if isBlankOrEnd c then break
      if single && c == '\'' && n == '\'' then
        text := text.push '\''
        skipChar; skipChar
      else if single && c == '\'' then break
      else if !single && c == '"' then break
      else if !single && c == '\\' && isBreak n then
        skipChar
        skipBreak
        leadingBlanks := true
        break
      else if !single && c == '\\' then
        match escapeOf n with
        | none => fail "while parsing a quoted scalar" start "found unknown escape character"
        | some (.inl e) =>
          text := text.push e
          skipChar; skipChar
        | some (.inr len) =>
          skipChar; skipChar
          let mut value := 0
          for k in [0:len] do
            let h ← charAt k
            if !isHexChar h then
              fail "while parsing a quoted scalar" start "did not find expected hexdecimal number"
            value := value * 16 + hexValue h
          if (0xD800 ≤ value && value ≤ 0xDFFF) || value > 0x10FFFF then
            fail "while parsing a quoted scalar" start "found invalid Unicode character escape code"
          text := text.push (Char.ofNat value)
          for _ in [0:len] do skipChar
      else text := text.push (← takeChar)
    let c ← charAt 0
    if (single && c == '\'') || (!single && c == '"') then break
    let mut whitespace := ""
    let mut leadingBreak := ""
    let mut trailingBreaks := ""
    for _ in [0:(← budget)] do
      let c ← charAt 0
      if isBlank c then
        if !leadingBlanks then whitespace := whitespace.push (← takeChar) else skipChar
      else if isBreak c then
        if !leadingBlanks then
          whitespace := ""
          leadingBreak ← takeBreak
          leadingBlanks := true
        else trailingBreaks := trailingBreaks ++ (← takeBreak)
      else break
    text := text ++ joinBlanks leadingBlanks whitespace leadingBreak trailingBreaks
  skipChar
  return ⟨.scalar text (if single then .singleQuoted else .doubleQuoted), start, ← here⟩

/-! ### Plain scalars -/

/-- **A plain scalar**: runs of characters separated by blanks and folded line breaks, ending
before `: `, before ` #`, before a flow indicator in flow context, at a document marker, and in
block context at a line indented no deeper than the enclosing block. A tab in the indentation of
a continuation line is an error. After a line break a simple key may follow. -/
def scanPlainScalar : ScanM Token := do
  let start ← here
  let mut stop := start
  let indent := (← get).indent + 1
  let flow := (← get).flowLevel > 0
  let mut text := ""
  let mut leadingBlanks := false
  let mut whitespace := ""
  let mut leadingBreak := ""
  let mut trailingBreaks := ""
  for _ in [0:(← budget)] do
    if (← atDocumentMarker) then break
    if (← charAt 0) == '#' then break
    for _ in [0:(← budget)] do
      let c ← charAt 0
      let n ← charAt 1
      if isBlankOrEnd c then break
      if (c == ':' && isBlankOrEnd n) || (flow && (Text.chars ",?[]\x7b\x7d").contains c) then break
      if leadingBlanks || !whitespace.isEmpty then
        text := text ++ joinBlanks leadingBlanks whitespace leadingBreak trailingBreaks
        whitespace := ""
        leadingBreak := ""
        trailingBreaks := ""
        leadingBlanks := false
      text := text.push (← takeChar)
      stop ← here
    let c ← charAt 0
    if !(isBlank c || isBreak c) then break
    for _ in [0:(← budget)] do
      let c ← charAt 0
      if isBlank c then
        if leadingBlanks && ((← here).column : Int) < indent && c == '\t' then
          fail "while scanning a plain scalar" start "found a tab character that violates indentation"
        if !leadingBlanks then whitespace := whitespace.push (← takeChar) else skipChar
      else if isBreak c then
        if !leadingBlanks then
          whitespace := ""
          leadingBreak ← takeBreak
          leadingBlanks := true
        else trailingBreaks := trailingBreaks ++ (← takeBreak)
      else break
    if !flow && ((← here).column : Int) < indent then break
  if leadingBlanks then allowSimpleKey true
  return ⟨.scalar text .plain, start, stop⟩

/-! ### Fetching tokens -/

/-- The first token. -/
def fetchStreamStart : ScanM Unit := modify fun s =>
  { s with indent := -1, simpleKeys := s.simpleKeys.push default, simpleKeyAllowed := true,
           streamStartProduced := true, tokens := s.tokens.push ⟨.streamStart, s.mark, s.mark⟩ }

/-- **The last token**, on a line of its own: all blocks are closed. -/
def fetchStreamEnd : ScanM Unit := do
  modify fun s =>
    if s.mark.column != 0 then { s with mark := { s.mark with column := 0, line := s.mark.line + 1 } }
    else s
  unrollIndent (-1)
  removeSimpleKey
  allowSimpleKey false
  modify fun s => { s with streamEndProduced := true, tokens := s.tokens.push ⟨.streamEnd, s.mark, s.mark⟩ }

/-- A directive, which closes all blocks. -/
def fetchDirective : ScanM Unit := do
  unrollIndent (-1)
  removeSimpleKey
  allowSimpleKey false
  let t ← scanDirective
  modify fun s => { s with tokens := s.tokens.push t }

/-- A document marker, which closes all blocks. -/
def fetchDocumentIndicator (kind : TokenKind) : ScanM Unit := do
  unrollIndent (-1)
  removeSimpleKey
  allowSimpleKey false
  let start ← here
  skipChar; skipChar; skipChar
  pushToken kind start (← here)

/-- The start of a flow collection, which may be a simple key. -/
def fetchFlowCollectionStart (kind : TokenKind) : ScanM Unit := do
  saveSimpleKey
  increaseFlowLevel
  allowSimpleKey true
  let start ← here
  skipChar
  pushToken kind start (← here)

/-- The end of a flow collection. -/
def fetchFlowCollectionEnd (kind : TokenKind) : ScanM Unit := do
  removeSimpleKey
  decreaseFlowLevel
  allowSimpleKey false
  let start ← here
  skipChar
  pushToken kind start (← here)

/-- A comma between flow entries. -/
def fetchFlowEntry : ScanM Unit := do
  removeSimpleKey
  allowSimpleKey true
  let start ← here
  skipChar
  pushToken .flowEntry start (← here)

/-- **A block sequence entry** `- `, which may open a block sequence; in block context it is only
allowed where a simple key may start. -/
def fetchBlockEntry : ScanM Unit := do
  let s ← get
  if s.flowLevel == 0 then
    if !s.simpleKeyAllowed then
      fail "" s.mark "block sequence entries are not allowed in this context"
    rollIndent s.mark.column none .blockSequenceStart s.mark
  removeSimpleKey
  allowSimpleKey true
  let start ← here
  skipChar
  pushToken .blockEntry start (← here)

/-- **An explicit key** `? `, which may open a block mapping. -/
def fetchKey : ScanM Unit := do
  let s ← get
  if s.flowLevel == 0 then
    if !s.simpleKeyAllowed then
      fail "" s.mark "mapping keys are not allowed in this context"
    rollIndent s.mark.column none .blockMappingStart s.mark
  removeSimpleKey
  allowSimpleKey ((← get).flowLevel == 0)
  let start ← here
  skipChar
  pushToken .key start (← here)

/-- **A value indicator** `: `. After a simple key, the `key` token (and the start of a block
mapping) is inserted where the key started; otherwise it follows an explicit key, and in block
context it must be where a simple key may start. -/
def fetchValue : ScanM Unit := do
  let i ← topKey
  let k ← keyAt i
  if (← keyIsValid i) then
    insertToken k.tokenNumber ⟨.key, k.mark, k.mark⟩
    rollIndent k.mark.column (some k.tokenNumber) .blockMappingStart k.mark
    setKey i { k with possible := false }
    forgetKey k.tokenNumber
    allowSimpleKey false
  else
    let s ← get
    if s.flowLevel == 0 then
      if !s.simpleKeyAllowed then
        fail "" s.mark "mapping values are not allowed in this context"
      rollIndent s.mark.column none .blockMappingStart s.mark
    allowSimpleKey ((← get).flowLevel == 0)
  let start ← here
  skipChar
  pushToken .value start (← here)

/-- An anchor or alias, which may be a simple key. -/
def fetchAnchor (isAlias : Bool) : ScanM Unit := do
  saveSimpleKey
  allowSimpleKey false
  let t ← scanAnchor isAlias
  modify fun s => { s with tokens := s.tokens.push t }

/-- A tag, which may start a simple key. -/
def fetchTag : ScanM Unit := do
  saveSimpleKey
  allowSimpleKey false
  let t ← scanTag
  modify fun s => { s with tokens := s.tokens.push t }

/-- A block scalar, after which a simple key may follow. -/
def fetchBlockScalar (literal : Bool) : ScanM Unit := do
  removeSimpleKey
  allowSimpleKey true
  let t ← scanBlockScalar literal
  modify fun s => { s with tokens := s.tokens.push t }

/-- A quoted scalar, which may be a simple key. -/
def fetchFlowScalar (single : Bool) : ScanM Unit := do
  saveSimpleKey
  allowSimpleKey false
  let t ← scanFlowScalar single
  modify fun s => { s with tokens := s.tokens.push t }

/-- A plain scalar, which may be a simple key. -/
def fetchPlainScalar : ScanM Unit := do
  saveSimpleKey
  allowSimpleKey false
  let t ← scanPlainScalar
  modify fun s => { s with tokens := s.tokens.push t }

/-- **Whether a plain scalar starts** at `c`, followed by `n`: any character but blanks and
indicators, `-` before a non-blank, and in block context `?` or `:` before a non-blank. -/
def startsPlain (c n : Char) (flow : Bool) : Bool :=
  !(isBlankOrEnd c || (Text.chars "-?:,[]\x7b\x7d#&*!|>'\"%@`").contains c) ||
    (c == '-' && !isBlank n) ||
    (!flow && (c == '?' || c == ':') && !isBlankOrEnd n)

/-- **Fetches the next token**: blanks and comments are skipped, blocks indented deeper than the
current column closed, and the token chosen by its first characters. -/
def fetchNextToken : ScanM Unit := do
  if !(← get).streamStartProduced then
    fetchStreamStart
    return
  scanToNextToken
  unrollIndent (← here).column
  let c ← charAt 0
  let n ← charAt 1
  let marker ← atDocumentMarker
  let s ← get
  let col := s.mark.column
  let flow := s.flowLevel > 0
  if c == endChar then fetchStreamEnd
  else if col == 0 && c == '%' then fetchDirective
  else if marker && c == '-' then fetchDocumentIndicator .documentStart
  else if marker && c == '.' then fetchDocumentIndicator .documentEnd
  else if c == '[' then fetchFlowCollectionStart .flowSequenceStart
  else if c == '{' then fetchFlowCollectionStart .flowMappingStart
  else if c == ']' then fetchFlowCollectionEnd .flowSequenceEnd
  else if c == '}' then fetchFlowCollectionEnd .flowMappingEnd
  else if c == ',' then fetchFlowEntry
  else if c == '-' && isBlankOrEnd n then fetchBlockEntry
  else if c == '?' && (flow || isBlankOrEnd n) then fetchKey
  else if c == ':' && (flow || isBlankOrEnd n) then fetchValue
  else if c == '*' then fetchAnchor true
  else if c == '&' then fetchAnchor false
  else if c == '!' then fetchTag
  else if c == '|' && !flow then fetchBlockScalar true
  else if c == '>' && !flow then fetchBlockScalar false
  else if c == '\'' then fetchFlowScalar true
  else if c == '"' then fetchFlowScalar false
  else if startsPlain c n flow then fetchPlainScalar
  else fail "while scanning for the next token" s.mark "found character that cannot start any token"

/-- **Whether more tokens are needed** before the next one can be handed out: when there is none,
or when a simple key that is still possible would be inserted right before it. -/
def needMoreTokens : ScanM Bool := do
  let s ← get
  if s.parsed ≥ s.tokens.size then return true
  match s.keysByToken.lookup s.parsed with
  | none => return false
  | some i => keyIsValid i

/-- Fetches tokens until the next one can be handed out. -/
def fetchMoreTokens : ScanM Unit := do
  for _ in [0:(← budget) + 2] do
    if !(← needMoreTokens) then break
    if (← get).streamEndProduced then break
    fetchNextToken
  modify fun s => { s with tokenAvailable := true }

/-- **The next token**, without taking it. -/
def peekToken : ScanM Token := do
  if !(← get).tokenAvailable then fetchMoreTokens
  let s ← get
  return s.tokens.getD s.parsed ⟨.streamEnd, s.mark, s.mark⟩

/-- Takes the next token. -/
def skipToken : ScanM Unit :=
  modify fun s => { s with parsed := s.parsed + 1, tokenAvailable := false }

/-- A line break is never blank. -/
theorem isBreak_not_blank (c : Char) (h : isBreak c = true) : isBlank c = false := by
  simp only [isBreak, isBlank, Bool.or_eq_true, beq_iff_eq] at h ⊢
  rcases h with (((h | h) | h) | h) | h <;> subst h <;> decide

end Accessors.Yaml
