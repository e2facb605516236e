import Accessors.Source.Token

/-!
# Scanning Go source

The scanner splits Go source text into tokens. Blanks separate tokens; a newline after a token
that may end a statement (a name, a literal, `break`, `continue`, `fallthrough`, `return`,
`++`, `--`, `)`, `]` or `}`) becomes a semicolon, and so does the end of the text after such a
token. A comment on such a line comes before the semicolon; a block comment that spans lines
ends the line at its first newline.

Malformed text is still scanned: an unknown character is an `ILLEGAL` token, an unterminated
literal ends at the line end. Each such problem is reported with its byte offset and the same
words as the Go toolchain uses.

Positions are byte offsets. The line table lists the offset each line starts at; a newline at
the very end of the text starts no line, so the end of the text belongs to the last line.
-/

namespace Accessors.Source

/-! ### Characters -/

/-- A letter that may start or continue a name. -/
def isNameLetter (c : Char) : Bool :=
  c.isAlpha || c == '_' || (c.toNat ≥ 0x80 && Text.isLetter c)

/-- A digit that may continue a name. -/
def isNameDigit (c : Char) : Bool :=
  c.isDigit || (c.toNat ≥ 0x80 && Text.isDigit c)

/-- A hexadecimal digit. -/
def isHexDigit (c : Char) : Bool :=
  c.isDigit || ('a' ≤ c && c ≤ 'f') || ('A' ≤ c && c ≤ 'F')

/-- The lower-case form of an ASCII letter. -/
def lowerAscii (c : Char) : Char := if 'A' ≤ c && c ≤ 'Z' then Char.ofNat (c.toNat + 32) else c

/-- The value of a digit in bases up to sixteen; sixteen for any other character. -/
def digitValue (c : Char) : Nat :=
  if c.isDigit then c.toNat - '0'.toNat
  else if 'a' ≤ c && c ≤ 'f' then c.toNat - 'a'.toNat + 10
  else if 'A' ≤ c && c ≤ 'F' then c.toNat - 'A'.toNat + 10
  else 16

/-- A character quoted as a Go rune literal. -/
def quoteRune (c : Char) : String :=
  if c == '\'' then "'\\''"
  else if c == '"' then "'\"'"
  else
    let q := Text.escapeChar c
    "'" ++ q ++ "'"

/-! ### The cursor -/

/-- **The scanner's cursor**: the rest of the text and the byte offset of its first character. -/
structure Cursor where
  cs : List Char
  off : Nat

namespace Cursor

/-- The current character. -/
def ch? (c : Cursor) : Option Char := c.cs.head?

/-- Whether the current character is `x`. -/
def isAt (c : Cursor) (x : Char) : Bool := c.cs.head? == some x

/-- The character after the current one. -/
def peek? (c : Cursor) : Option Char := c.cs.tail.head?

/-- The cursor one character further. -/
def next (c : Cursor) : Cursor :=
  match c.cs with
  | [] => c
  | x :: r => ⟨r, c.off + Text.utf8Width x⟩

/-- The cursor after the characters that satisfy `p`. -/
def skipWhile (p : Char → Bool) (c : Cursor) : Cursor :=
  let taken := c.cs.takeWhile p
  ⟨c.cs.drop taken.length, c.off + taken.foldl (fun n x => n + Text.utf8Width x) 0⟩

/-- The text between two cursors on the same text, `c` being the earlier. -/
def textTo (c d : Cursor) : String := String.ofList (c.cs.take (c.cs.length - d.cs.length))

end Cursor

/-! ### Numbers -/

/-- The digits of a number in a base, with underscores; whether a digit (bit 1) and an
underscore (bit 2) were seen, and the offset of the first digit too large for the base. -/
def scanDigits (base : Nat) : List Char → Nat → Nat → Option Nat → List Char × Nat × Nat × Option Nat
  | ch :: rest, off, digsep, invalid =>
    if base ≤ 10 then
      if ch.isDigit || ch == '_' then
        let ds := if ch == '_' then 2 else 1
        let invalid :=
          if ch != '_' && ch.toNat ≥ '0'.toNat + base && invalid.isNone then some off else invalid
        scanDigits base rest (off + 1) (digsep ||| ds) invalid
      else (ch :: rest, off, digsep, invalid)
    else if isHexDigit ch || ch == '_' then
      scanDigits base rest (off + 1) (digsep ||| (if ch == '_' then 2 else 1)) invalid
    else (ch :: rest, off, digsep, invalid)
  | [], off, digsep, invalid => ([], off, digsep, invalid)

/-- The index of the first misplaced underscore of a number literal. -/
def invalidSeparator (lit : List Char) : Option Nat :=
  let (x1, d, start) := match lit with
    | '0' :: c :: _ =>
      let l := lowerAscii c
      if l == 'x' || l == 'o' || l == 'b' then (l, '0', 2) else (l, '.', 0)
    | _ => (' ', '.', 0)
  let rec go : List Char → Nat → Char → Option Nat
    | [], i, d => if d == '_' then some (i - 1) else none
    | c :: rest, i, p =>
      if c == '_' then (if p != '0' then some i else go rest (i + 1) '_')
      else if c.isDigit || (x1 == 'x' && isHexDigit c) then go rest (i + 1) '0'
      else if p == '_' then some (i - 1)
      else go rest (i + 1) '.'
  go (lit.drop start) start d

/-- The name of a number literal with a prefix. -/
def literalName (pfx : Char) : String :=
  match pfx with
  | 'x' => "hexadecimal literal"
  | 'o' | '0' => "octal literal"
  | 'b' => "binary literal"
  | _ => "decimal literal"

/-- **A number literal** at the cursor: its kind, the cursor after it, and its errors. -/
def scanNumber (c0 : Cursor) : Tok × Cursor × List (Nat × String) :=
  -- integer part
  let (tok, base, pfx, digsep, invalid, c) : Tok × Nat × Char × Nat × Option Nat × Cursor :=
    if c0.isAt '.' then (.illegal, 10, ' ', 0, none, c0)
    else
      let (base, pfx, digsep, c) : Nat × Char × Nat × Cursor :=
        if c0.isAt '0' then
          let c := c0.next
          match c.ch?.map lowerAscii with
          | some 'x' => (16, 'x', 0, c.next)
          | some 'o' => (8, 'o', 0, c.next)
          | some 'b' => (2, 'b', 0, c.next)
          | _ => (8, '0', 1, c)
        else (10, ' ', 0, c0)
      let (cs, off, ds, invalid) := scanDigits base c.cs c.off 0 none
      (.int, base, pfx, digsep ||| ds, invalid, ⟨cs, off⟩)
  -- fractional part
  let (tok, digsep, invalid, c, errs) : Tok × Nat × Option Nat × Cursor × List (Nat × String) :=
    if c.isAt '.' then
      let errs := if pfx == 'o' || pfx == 'b' then [(c.off, "invalid radix point in " ++ literalName pfx)] else []
      let c := c.next
      let (cs, off, ds, invalid) := scanDigits base c.cs c.off 0 invalid
      (.float, digsep ||| ds, invalid, ⟨cs, off⟩, errs)
    else (tok, digsep, invalid, c, [])
  let errs := if digsep &&& 1 == 0 then errs ++ [(c.off, literalName pfx ++ " has no digits")] else errs
  -- exponent
  let (tok, digsep, c, errs) : Tok × Nat × Cursor × List (Nat × String) :=
    match c.ch? with
    | some e =>
      let le := lowerAscii e
      if le == 'e' || le == 'p' then
        let errs :=
          if le == 'e' && pfx != ' ' && pfx != '0' then
            errs ++ [(c.off, quoteRune e ++ " exponent requires decimal mantissa")]
          else if le == 'p' && pfx != 'x' then
            errs ++ [(c.off, quoteRune e ++ " exponent requires hexadecimal mantissa")]
          else errs
        let c := c.next
        let c := if c.isAt '+' || c.isAt '-' then c.next else c
        let (cs, off, ds, _) := scanDigits 10 c.cs c.off 0 none
        let c : Cursor := ⟨cs, off⟩
        let errs := if ds &&& 1 == 0 then errs ++ [(c.off, "exponent has no digits")] else errs
        (.float, digsep ||| ds, c, errs)
      else if pfx == 'x' && tok == .float then
        (tok, digsep, c, errs ++ [(c.off, "hexadecimal mantissa requires a 'p' exponent")])
      else (tok, digsep, c, errs)
    | none =>
      if pfx == 'x' && tok == .float then
        (tok, digsep, c, errs ++ [(c.off, "hexadecimal mantissa requires a 'p' exponent")])
      else (tok, digsep, c, errs)
  -- imaginary suffix
  let (tok, c) := if c.isAt 'i' then (Tok.imag, c.next) else (tok, c)
  let lit := c0.cs.take (c0.cs.length - c.cs.length)
  let errs := match tok, invalid with
    | .int, some i =>
      let d := (lit.drop (i - c0.off)).headD '?'
      errs ++ [(i, "invalid digit " ++ quoteRune d ++ " in " ++ literalName pfx)]
    | _, _ => errs
  let errs :=
    if digsep &&& 2 != 0 then
      match invalidSeparator lit with
      | some i => errs ++ [(c0.off + i, "'_' must separate successive digits")]
      | none => errs
    else errs
  (tok, c, errs)

/-! ### Literals and comments -/

/-- An escape sequence after a backslash in a literal quoted by `quote`: whether it is valid,
the cursor after it, and its errors. -/
def scanEscape (quote : Char) (c : Cursor) : Bool × Cursor × List (Nat × String) :=
  let offs := c.off
  match c.ch? with
  | none => (false, c, [(offs, "escape sequence not terminated")])
  | some ch =>
    if ch == 'a' || ch == 'b' || ch == 'f' || ch == 'n' || ch == 'r' || ch == 't' || ch == 'v' ||
        ch == '\\' || ch == quote then (true, c.next, [])
    else
      let spec : Option (Nat × Nat × Nat × Cursor) :=
        if '0' ≤ ch && ch ≤ '7' then some (3, 8, 255, c)
        else if ch == 'x' then some (2, 16, 255, c.next)
        else if ch == 'u' then some (4, 16, 0x10FFFF, c.next)
        else if ch == 'U' then some (8, 16, 0x10FFFF, c.next)
        else none
      match spec with
      | none => (false, c, [(offs, "unknown escape sequence")])
      | some (n, base, max, c) =>
        let rec digits : Nat → Cursor → Nat → Option (Nat × Cursor) × List (Nat × String)
          | 0, c, x => (some (x, c), [])
          | k + 1, c, x =>
            match c.ch? with
            | none => (none, [(c.off, "escape sequence not terminated")])
            | some d =>
              let v := digitValue d
              if v ≥ base then
                (none, [(c.off, "illegal character " ++ Text.describeRune d ++ " in escape sequence")])
              else digits k c.next (x * base + v)
        match digits n c 0 with
        | (none, errs) => (false, c, errs)
        | (some (x, c'), _) =>
          if x > max || (0xD800 ≤ x && x < 0xE000) then
            (false, c', [(offs, "escape sequence is invalid Unicode code point")])
          else (true, c', [])

/-- The body of an interpreted string after its opening quote: the cursor after the closing
quote (or at the line end) and the errors, `offs` being where the literal starts. -/
def scanStringBody (offs : Nat) : Nat → Cursor → List (Nat × String) → Cursor × List (Nat × String)
  | 0, c, errs => (c, errs)
  | fuel + 1, c, errs =>
    match c.ch? with
    | none => (c, errs ++ [(offs, "string literal not terminated")])
    | some '\n' => (c, errs ++ [(offs, "string literal not terminated")])
    | some '"' => (c.next, errs)
    | some '\\' =>
      let (_, c', e) := scanEscape '"' c.next
      scanStringBody offs fuel c' (errs ++ e)
    | some _ => scanStringBody offs fuel c.next errs

/-- The body of a rune literal after its opening quote: the cursor after it and the errors. -/
def scanRuneBody (offs : Nat) : Nat → Cursor → Bool → Nat → List (Nat × String) →
    Cursor × List (Nat × String)
  | 0, c, _, _, errs => (c, errs)
  | fuel + 1, c, valid, n, errs =>
    match c.ch? with
    | none | some '\n' =>
      (c, if valid then errs ++ [(offs, "rune literal not terminated")] else errs)
    | some '\'' =>
      (c.next, if valid && n != 1 then errs ++ [(offs, "illegal rune literal")] else errs)
    | some '\\' =>
      let (ok, c', e) := scanEscape '\'' c.next
      scanRuneBody offs fuel c' (valid && ok) (n + 1) (errs ++ e)
    | some _ => scanRuneBody offs fuel c.next valid (n + 1) errs

/-- A comment after its first slash: the cursor after it, the offset of the first newline in a
block comment, and whether it was terminated. -/
def scanCommentBody (c : Cursor) : Cursor × Option Nat × Bool :=
  if c.isAt '/' then (c.skipWhile (· != '\n'), none, true)
  else
    -- a block comment: find the closing star and slash
    let rec go : Nat → Cursor → Option Nat → Cursor × Option Nat × Bool
      | 0, c, nl => (c, nl, false)
      | fuel + 1, c, nl =>
        match c.cs with
        | [] => (c, nl, false)
        | '*' :: '/' :: _ => (c.next.next, nl, true)
        | '\n' :: _ => go fuel c.next (nl.orElse fun _ => some c.off)
        | _ :: _ => go fuel c.next nl
    go (c.cs.length + 1) c.next none

/-! ### Tokens -/

/-- The state of the scanner between tokens. -/
structure ScanState where
  cur : Cursor
  insertSemi : Bool
  /-- Where a semicolon is due after a block comment that spans lines. -/
  nlPos : Option Nat

/-- The operator at the cursor, longest spelling first, with the cursor after it. -/
def scanOperator (c : Cursor) : Option (String × Cursor) :=
  let ops := ["<<=", ">>=", "&^=", "...", "&&", "||", "<-", "++", "--", "==", "!=", "<=", ">=",
    ":=", "+=", "-=", "*=", "/=", "%=", "&=", "|=", "^=", "<<", ">>", "&^", "+", "-", "*", "/",
    "%", "&", "|", "^", "<", ">", "=", "!", "(", ")", "[", "]", "\x7b", "\x7d", ",", ";", ".", ":", "~"]
  (ops.find? fun o => (Text.dropPrefix? o.toList c.cs).isSome).map fun o =>
    (o, ⟨c.cs.drop o.length, c.off + o.length⟩)

/-- Operators after which a newline ends the statement. -/
def endsStatement (o : String) : Bool := o == ")" || o == "]" || o == "\x7d" || o == "++" || o == "--"

/-- **One token** from the scanner state, with the state after it. -/
def scanToken (st : ScanState) : Token × ScanState :=
  match st.nlPos with
  | some p => (⟨.op ";", "\n", p, []⟩, { st with nlPos := none })
  | none =>
  let c := st.cur.skipWhile fun ch =>
    ch == ' ' || ch == '\t' || ch == '\r' || (ch == '\n' && !st.insertSemi)
  let pos := c.off
  match c.ch? with
  | none =>
    if st.insertSemi then (⟨.op ";", "\n", pos, []⟩, { st with cur := c, insertSemi := false })
    else (⟨.eof, "", pos, []⟩, { st with cur := c })
  | some ch =>
    if isNameLetter ch then
      let d := c.skipWhile fun x => isNameLetter x || isNameDigit x
      let lit := c.textTo d
      let tok : Tok := if lit.length > 1 && goKeywords.contains lit then .kw lit else .ident
      let semi := tok == .ident || lit == "break" || lit == "continue" || lit == "fallthrough" ||
        lit == "return"
      (⟨tok, lit, pos, []⟩, { st with cur := d, insertSemi := semi })
    else if ch.isDigit || (ch == '.' && (c.peek?.map Char.isDigit).getD false) then
      let (tok, d, errs) := scanNumber c
      (⟨tok, c.textTo d, pos, errs⟩, { st with cur := d, insertSemi := true })
    else if ch == '\n' then
      (⟨.op ";", "\n", pos, []⟩, { st with cur := c.next, insertSemi := false })
    else if ch == '"' then
      let (d, errs) := scanStringBody pos (c.cs.length + 1) c.next []
      (⟨.string, c.textTo d, pos, errs⟩, { st with cur := d, insertSemi := true })
    else if ch == '\'' then
      let (d, errs) := scanRuneBody pos (c.cs.length + 1) c.next true 0 []
      (⟨.char, c.textTo d, pos, errs⟩, { st with cur := d, insertSemi := true })
    else if ch == '\x60' then
      let body := c.next.skipWhile (· != '\x60')
      match body.ch? with
      | some _ =>
        let d := body.next
        (⟨.string, String.ofList ((c.textTo d).toList.filter (· != '\r')), pos, []⟩,
          { st with cur := d, insertSemi := true })
      | none =>
        (⟨.string, String.ofList ((c.textTo body).toList.filter (· != '\r')), pos,
          [(pos, "raw string literal not terminated")]⟩, { st with cur := body, insertSemi := true })
    else if ch == '/' && (c.peek? == some '/' || c.peek? == some '*') then
      let (d, nl, ok) := scanCommentBody c.next
      let text := c.textTo d
      let lit := String.ofList (text.toList.filter (· != '\r'))
      let errs := if ok then [] else [(pos, "comment not terminated")]
      match nl with
      | some n =>
        if st.insertSemi then
          (⟨.comment, lit, pos, errs⟩, { st with cur := d, insertSemi := false, nlPos := some n })
        else (⟨.comment, lit, pos, errs⟩, { st with cur := d })
      | none => (⟨.comment, lit, pos, errs⟩, { st with cur := d })
    else
      match scanOperator c with
      | some (o, d) =>
        let lit := if o == ";" then ";" else ""
        (⟨.op o, lit, pos, []⟩, { st with cur := d, insertSemi := endsStatement o })
      | none =>
        let errs :=
          if ch.toNat == 0xFEFF then [(pos, "illegal byte order mark")]
          else if ch == '“' || ch == '”' then
            [(pos, "curly quotation mark " ++ quoteRune ch ++ " (use neutral '\"')")]
          else if ch.toNat == 0 then [(pos, "illegal character NUL"), (pos, "illegal character U+0000")]
          else [(pos, "illegal character " ++ Text.describeRune ch)]
        (⟨.illegal, String.singleton ch, pos, errs⟩, { st with cur := c.next })

/-- All tokens of the rest of the text, ending with the end token. -/
def scanAll : Nat → ScanState → List Token → List Token
  | 0, st, acc => (acc.reverse ++ [⟨.eof, "", st.cur.off, []⟩])
  | fuel + 1, st, acc =>
    let (t, st') := scanToken st
    if t.tok == .eof then (t :: acc).reverse else scanAll fuel st' (t :: acc)

/-- **The tokens of Go source text**, comments included, ending with the end token. A byte
order mark at the start is skipped. -/
def tokenize (src : String) : List Token :=
  let cs := src.toList
  let start : Cursor := match cs with
    | '﻿' :: rest => ⟨rest, 3⟩
    | _ => ⟨cs, 0⟩
  scanAll (2 * cs.length + 4) ⟨start, false, none⟩ []

/-! ### Lines -/

/-- The offsets lines start at. A newline that ends the text starts no line. -/
def lineStarts (src : String) : List Nat :=
  let size := Text.byteLength src
  let rec go : List Char → Nat → List Nat → List Nat
    | [], _, acc => acc.reverse
    | c :: rest, off, acc =>
      let off' := off + Text.utf8Width c
      if c == '\n' && off' < size then go rest off' (off' :: acc) else go rest off' acc
  go src.toList 0 [0]

/-- The line (from one) and column (in bytes, from one) of an offset. -/
def lineColumn (starts : List Nat) (off : Nat) : Nat × Nat :=
  let before := starts.filter (· ≤ off)
  (before.length, off - before.getLastD 0 + 1)

end Accessors.Source
