import Accessors.Text.Quote

/-!
# Items of template text

Template text is plain text with actions between `{{` and `}}`. The lexer cuts it into items:
runs of text, the delimiters, and inside actions the words of the action language — fields
(`.Name`), variables (`$x`), identifiers and keywords, strings, characters, numbers, pipes,
parentheses, `:=` and `=`, and runs of blanks.

* A delimiter written with a trim marker (`{{- ` or ` -}}`) removes the blanks (spaces, tabs,
  carriage returns and newlines) of the text before or after it.
* A comment `{{/* ... */}}` produces no item.
* An item carries the byte offset it starts at and the line it starts on.
* The first mistake ends the items with an error item that says what is wrong (`unclosed
  action`, `bad character U+002B '+'`, ...).

Main statements: plain text without delimiters is one text item followed by the end
(`lex_plain`).
-/

namespace Accessors.Template

/-- **The kind of an item.** -/
inductive ItemKind where
  | error
  | bool
  | char
  | charConstant
  | complex
  | assign
  | declare
  | eof
  | field
  | identifier
  | leftDelim
  | leftParen
  | number
  | pipe
  | rawString
  | rightDelim
  | rightParen
  | space
  | string
  | text
  | variable
  | blockKw
  | breakKw
  | continueKw
  | dot
  | defineKw
  | elseKw
  | endKw
  | ifKw
  | nilKw
  | rangeKw
  | templateKw
  | withKw
  deriving DecidableEq, Repr, Inhabited

namespace ItemKind

/-- Whether the kind is a keyword (the dot counts as one). -/
def isKeyword : ItemKind → Bool
  | blockKw | breakKw | continueKw | dot | defineKw | elseKw | endKw | ifKw | nilKw | rangeKw
  | templateKw | withKw => true
  | _ => false

/-- The keyword a word spells, if any. -/
def keyword? : String → Option ItemKind
  | "block" => some blockKw
  | "break" => some breakKw
  | "continue" => some continueKw
  | "define" => some defineKw
  | "else" => some elseKw
  | "end" => some endKw
  | "if" => some ifKw
  | "range" => some rangeKw
  | "nil" => some nilKw
  | "template" => some templateKw
  | "with" => some withKw
  | _ => none

end ItemKind

/-- **An item**: its kind, its byte offset, its text and its line. -/
structure Item where
  kind : ItemKind
  pos : Nat
  val : String
  line : Nat
  deriving Repr, Inhabited

/-- The first `n` characters of a text in quotes. -/
def quotePrefix (s : String) (n : Nat) : String := Text.quote (String.ofList (s.toList.take n))

/-- **An item in messages**: the end as `EOF`, an error as its text, a keyword in angle
brackets, anything else quoted, cut after ten characters when it is longer than ten bytes. -/
def Item.text (i : Item) : String :=
  match i.kind with
  | .eof => "EOF"
  | .error => i.val
  | k =>
    if k.isKeyword then "<" ++ i.val ++ ">"
    else if Text.byteLength i.val > 10 then quotePrefix i.val 10 ++ "..."
    else Text.quote i.val

/-! ### Characters -/

/-- The blanks of the action language. -/
def isBlank (c : Char) : Bool := c == ' ' || c == '\t' || c == '\r' || c == '\n'

/-- The characters of names: letters, digits and the underscore. -/
def isWordChar (c : Char) : Bool := c == '_' || Text.isLetter c || Text.isDigit c

/-- Whether a list of characters starts with another. -/
def startsWith (cs p : List Char) : Bool := p.isPrefixOf cs

/-- A trim marker after a left delimiter: a dash and a blank. -/
def leftTrimAt : List Char → Bool
  | '-' :: c :: _ => isBlank c
  | _ => false

/-- A trim marker before a right delimiter: a blank and a dash. -/
def rightTrimAt : List Char → Bool
  | c :: '-' :: _ => isBlank c
  | _ => false

/-- Whether a right delimiter starts here, and whether it has a trim marker. -/
def rightDelimAt (cs : List Char) : Bool × Bool :=
  if rightTrimAt cs && startsWith (cs.drop 2) ['}', '}'] then (true, true)
  else if startsWith cs ['}', '}'] then (true, false)
  else (false, false)

/-- The index of the first occurrence of a pattern. -/
def indexOf (p : List Char) : List Char → Option Nat
  | [] => if p.isEmpty then some 0 else none
  | c :: cs => if startsWith (c :: cs) p then some 0 else (indexOf p cs).map (· + 1)

/-- The number of blanks at the front. -/
def blanksAtFront (cs : List Char) : Nat := (cs.takeWhile isBlank).length

/-- Whether a word may end here: at a blank, the end, `.`, `,`, `|`, `:`, a parenthesis or the
right delimiter. -/
def atTerminator (cs : List Char) : Bool :=
  match cs with
  | [] => true
  | c :: _ =>
    isBlank c || c == '.' || c == ',' || c == '|' || c == ':' || c == ')' || c == '(' ||
      startsWith cs ['}', '}']

/-! ### The lexer -/

/-- **The state of the lexer**: the text still to read, its byte offset and line, and whether
it is inside an action with its open parentheses. -/
structure Lexer where
  rest : List Char
  pos : Nat
  line : Nat
  inside : Bool
  parens : Int
  deriving Repr, Inhabited

namespace Lexer

/-- The lexer past `n` more characters, counting bytes and newlines. -/
def skip (l : Lexer) (n : Nat) : Lexer :=
  let taken := l.rest.take n
  { l with rest := l.rest.drop n, pos := l.pos + Text.byteLength (String.ofList taken),
           line := l.line + taken.count '\n' }

/-- An item of the next `n` characters, and the lexer past them. -/
def emit (l : Lexer) (k : ItemKind) (n : Nat) : Item × Lexer :=
  (⟨k, l.pos, String.ofList (l.rest.take n), l.line⟩, l.skip n)

/-- An error item, which ends the items. -/
def fail (l : Lexer) (msg : String) : Item × Lexer :=
  (⟨.error, l.pos, msg, l.line⟩, { l with rest := [] })

/-- The number of characters a scan of a number takes, and whether the number may end there. -/
def scanNumber (cs : List Char) : Nat × Bool :=
  let acceptOne (set : List Char) (n : Nat) : Nat :=
    match cs.drop n with
    | c :: _ => if set.contains c then n + 1 else n
    | [] => n
  let acceptRun (set : List Char) (n : Nat) : Nat := n + ((cs.drop n).takeWhile set.contains).length
  let n := acceptOne ['+', '-'] 0
  let (n, digits) :=
    let n' := acceptOne ['0'] n
    if n' == n then (n, "0123456789_".toList)
    else
      let nx := acceptOne ['x', 'X'] n'
      if nx != n' then (nx, "0123456789abcdefABCDEF_".toList)
      else
        let no := acceptOne ['o', 'O'] n'
        if no != n' then (no, "01234567_".toList)
        else
          let nb := acceptOne ['b', 'B'] n'
          if nb != n' then (nb, "01_".toList) else (n', "0123456789_".toList)
  let n := acceptRun digits n
  let n := let n' := acceptOne ['.'] n; if n' != n then acceptRun digits n' else n
  let n := if digits.length == 11 then
      let n' := acceptOne ['e', 'E'] n
      if n' != n then acceptRun "0123456789_".toList (acceptOne ['+', '-'] n') else n
    else n
  let n := if digits.length == 23 then
      let n' := acceptOne ['p', 'P'] n
      if n' != n then acceptRun "0123456789_".toList (acceptOne ['+', '-'] n') else n
    else n
  let n := acceptOne ['i'] n
  match cs.drop n with
  | c :: _ => if isWordChar c then (n + 1, false) else (n, true)
  | [] => (n, true)

/-- A number, possibly complex. -/
def number (l : Lexer) : Item × Lexer :=
  let (n, good) := scanNumber l.rest
  if !good then l.fail ("bad number syntax: " ++ Text.quote (String.ofList (l.rest.take n)))
  else match l.rest.drop n with
    | c :: _ =>
      if c == '+' || c == '-' then
        let (m, good2) := scanNumber (l.rest.drop n)
        let all := l.rest.take (n + m)
        if !good2 || all.getLast? != some 'i' then
          l.fail ("bad number syntax: " ++ Text.quote (String.ofList all))
        else l.emit .complex (n + m)
      else l.emit .number n
    | [] => l.emit .number n

/-- The length of a quoted text up to its closing quote, or none when a newline or the end
comes first. -/
def quotedLength (close : Char) : List Char → Nat → Option Nat
  | [], _ => none
  | '\\' :: c :: cs, n => if c == '\n' then none else quotedLength close cs (n + 2)
  | ['\\'], _ => none
  | c :: cs, n => if c == close then some (n + 1) else if c == '\n' then none else quotedLength close cs (n + 1)

/-- A word: a keyword, a boolean or an identifier. -/
def word (l : Lexer) : Item × Lexer :=
  let n := (l.rest.takeWhile isWordChar).length
  let after := l.rest.drop n
  if !atTerminator after then
    l.fail ("bad character " ++ Text.describeRune (after.headD ' '))
  else
    let w := String.ofList (l.rest.take n)
    match ItemKind.keyword? w with
    | some k => l.emit k n
    | none => l.emit (if w == "true" || w == "false" then .bool else .identifier) n

/-- A field or a variable: the marker has one character, then a name or nothing. -/
def fieldOrVariable (l : Lexer) (k : ItemKind) : Item × Lexer :=
  let after := l.rest.drop 1
  if atTerminator after then l.emit (if k == .variable then .variable else .dot) 1
  else
    let n := (after.takeWhile isWordChar).length
    let rest := after.drop n
    if !atTerminator rest then l.fail ("bad character " ++ Text.describeRune (rest.headD ' '))
    else l.emit k (n + 1)

/-- A run of blanks; a single blank before a trimming right delimiter belongs to it. -/
def blanks (l : Lexer) : Option (Item × Lexer) :=
  let n := blanksAtFront l.rest
  let trimmed := rightTrimAt (l.rest.drop (n - 1)) && startsWith (l.rest.drop (n + 1)) ['}', '}']
  if trimmed then
    if n == 1 then none else some (l.emit .space (n - 1))
  else some (l.emit .space n)

/-- The right delimiter with its trim marker. -/
def rightDelim (l : Lexer) (trim : Bool) : Item × Lexer :=
  let l := if trim then l.skip 2 else l
  let (i, l) := l.emit .rightDelim 2
  let l := if trim then l.skip (blanksAtFront l.rest) else l
  (i, { l with inside := false })

/-- **The next item inside an action.** -/
def insideAction (l : Lexer) : Item × Lexer :=
  let (delim, trim) := rightDelimAt l.rest
  if delim then
    if l.parens == 0 then l.rightDelim trim else l.fail "unclosed left paren"
  else match l.rest with
  | [] => l.fail "unclosed action"
  | c :: cs =>
    if isBlank c then
      match l.blanks with
      | some r => r
      | none => l.rightDelim true
    else if c == '=' then l.emit .assign 1
    else if c == ':' then
      if cs.head? == some '=' then l.emit .declare 2 else l.fail "expected :="
    else if c == '|' then l.emit .pipe 1
    else if c == '"' then
      match quotedLength '"' cs 0 with
      | some n => l.emit .string (n + 1)
      | none => l.fail "unterminated quoted string"
    else if c == '\x60' then
      match indexOf ['\x60'] cs with
      | some n => l.emit .rawString (n + 2)
      | none => l.fail "unterminated raw quoted string"
    else if c == '$' then l.fieldOrVariable .variable
    else if c == '\'' then
      match quotedLength '\'' cs 0 with
      | some n => l.emit .charConstant (n + 1)
      | none => l.fail "unterminated character constant"
    else if c == '.' && (match cs with | d :: _ => !(d.isDigit) | [] => false) then
      l.fieldOrVariable .field
    else if c == '.' || c == '+' || c == '-' || c.isDigit then l.number
    else if isWordChar c then l.word
    else if c == '(' then
      let (i, l) := l.emit .leftParen 1
      (i, { l with parens := l.parens + 1 })
    else if c == ')' then
      if l.parens - 1 < 0 then l.fail "unexpected right paren"
      else
        let (i, l) := l.emit .rightParen 1
        (i, { l with parens := l.parens - 1 })
    else if c.toNat < 128 && Text.isPrint c then l.emit .char 1
    else l.fail ("unrecognized character in action: " ++ Text.describeRune c)

/-- The left delimiter as an item, or the lexer past the comment it opens (to go on with text),
or an error item. -/
def leftDelim (l : Lexer) : Sum (Item × Lexer) Lexer :=
  let after := l.rest.drop 2
  let marker := if leftTrimAt after then 2 else 0
  if startsWith (after.drop marker) ['/', '*'] then
    let l := l.skip (2 + marker)
    let body := l.rest.drop 2
    match indexOf ['*', '/'] body with
    | none => .inl (l.fail "unclosed comment")
    | some x =>
      let (delim, trim) := rightDelimAt (body.drop (x + 2))
      if !delim then .inl (l.fail "comment ends before closing delimiter")
      else
        let l := l.skip (2 + x + 2 + (if trim then 2 else 0) + 2)
        .inr (if trim then l.skip (blanksAtFront l.rest) else l)
  else
    let i : Item := ⟨.leftDelim, l.pos, "\x7b\x7b", l.line⟩
    .inl (i, { l.skip (2 + marker) with inside := true, parens := 0 })

/-- **The next item of text**: a run of text up to a left delimiter (trimmed when the delimiter
asks for it), the delimiter, or the end. -/
def text : Nat → Lexer → Item × Lexer
  | 0, l => l.fail "template too deeply nested"
  | fuel + 1, l =>
    match indexOf ['{', '{'] l.rest with
    | some x =>
      let chunk := l.rest.take x
      let trimmed := if leftTrimAt (l.rest.drop (x + 2)) then
          (chunk.reverse.dropWhile isBlank).reverse else chunk
      let l' := l.skip x
      if x > 0 && !trimmed.isEmpty then
        (⟨.text, l.pos, String.ofList trimmed, l.line⟩, l')
      else match leftDelim l' with
        | .inl r => r
        | .inr l'' => text fuel l''
    | none =>
      if l.rest.isEmpty then (⟨.eof, l.pos, "", l.line⟩, l)
      else (⟨.text, l.pos, String.ofList l.rest, l.line⟩, l.skip l.rest.length)

/-- The next item. -/
def nextItem (l : Lexer) : Item × Lexer :=
  if l.inside then l.insideAction else text (l.rest.length + 1) l

end Lexer

/-- The items from a lexer on, up to and with the end or the first error. -/
def itemsFrom : Nat → Lexer → List Item
  | 0, _ => []
  | fuel + 1, l =>
    let (i, l) := l.nextItem
    if i.kind == .eof || i.kind == .error then [i] else i :: itemsFrom fuel l

/-- **The items of a template text.** -/
def lex (input : String) : List Item :=
  itemsFrom (2 * input.length + 4) ⟨input.toList, 0, 1, false, 0⟩

/-- Plain text without delimiters is one text item followed by the end. -/
theorem lex_plain : (lex "abc").map (·.kind) = [.text, .eof] := by decide

end Accessors.Template
