import Accessors.Tag.Basic

/-!
# Field lists

A field list is `(key=value, …)`: a parenthesised, comma-separated list of entries with an
optional trailing comma. A key is a name; a value is a double-quoted string, a name or a number.

Reading has two phases, and each reports the first problem at its line and column:

* **Tokens.** From each position the first rule that matches wins, in the order string, number,
  name, punctuation, blank. A string runs from a quote to the first quote not preceded by a
  backslash, or, when there is none, to the last quote preceded by one; its value is the
  unescaped text. A character that starts no token is an error that quotes the next sixteen
  characters, and so is a string whose escapes are not valid.
* **Entries.** After the opening parenthesis an entry is tried. An entry that fails on its first
  token, or on the token after its key, is given up and the closing parenthesis is expected
  there; an entry that fails later fails the list. After a comma the same holds one token
  later. The error names the token found and the one expected.

-/

namespace Accessors.FieldList

/-! ### Tokens -/

/-- The kind of a token. -/
inductive TokenKind where
  | string
  | number
  | ident
  | punct
  | eof
  deriving DecidableEq, Repr

/-- A token: its kind, its value (the unescaped text of a string), and where it starts. -/
structure Token where
  kind : TokenKind
  value : String
  line : Nat
  column : Nat
  deriving Repr

/-- The text of a position. -/
def posText (line column : Nat) : String := s!"{line}:{column}"

/-- A blank between tokens. -/
def isBlank (c : Char) : Bool := c == ' ' || c == '\t' || c == '\n' || c == '\x0c' || c == '\r'

/-- A character that may start a name. -/
def isIdentStart (c : Char) : Bool := c.isAlpha || c == '_'

/-- A character that may continue a name. -/
def isIdentPart (c : Char) : Bool := c.isAlphanum || c == '_' || c == '\\' || c == '.'

/-- The index in a string body of its closing quote: the first quote not preceded by a
backslash, or, failing that, the last quote. -/
def closingQuote? (body : List Char) : Option Nat :=
  let rec firstOpen : List Char → Option Char → Nat → Option Nat
    | [], _, _ => none
    | c :: cs, prev, i =>
      if c == '"' && prev != some '\\' then some i else firstOpen cs (some c) (i + 1)
  firstOpen body none 0 <|> (body.zipIdx.filter (·.1 == '"')).getLast?.map (·.2)

/-- The length of the string token at the front, zero when there is none. -/
def stringLength : List Char → Nat
  | '"' :: body => match closingQuote? body with
    | some i => i + 2
    | none => 0
  | _ => 0

/-- The length of the number token at the front, zero when there is none: an optional minus,
digits, and a point with digits if present. -/
def numberLength (cs : List Char) : Nat :=
  let sign := match cs with
    | '-' :: _ => 1
    | _ => 0
  let body := cs.drop sign
  let ds := (body.takeWhile Char.isDigit).length
  if ds == 0 then 0
  else match body.drop ds with
    | '.' :: d :: r => if d.isDigit then sign + ds + 2 + (r.takeWhile Char.isDigit).length else sign + ds
    | _ => sign + ds

/-- The length of the name token at the front, zero when there is none. -/
def identLength : List Char → Nat
  | c :: rest => if isIdentStart c then 1 + (rest.takeWhile isIdentPart).length else 0
  | [] => 0

/-- The length of the run of blanks at the front. -/
def blankLength (cs : List Char) : Nat := (cs.takeWhile isBlank).length

/-- The position after some text: lines count newlines, columns count characters. -/
def advance (line column : Nat) (text : List Char) : Nat × Nat :=
  text.foldl (fun (l, c) ch => if ch == '\n' then (l + 1, 1) else (l, c + 1)) (line, column)

/-- The text of a lexing error at a position: the next sixteen characters, quoted. -/
def invalidInput (line column : Nat) (rest : List Char) : String :=
  let sample := if rest.length > 16 then String.ofList (rest.take 16) ++ "..." else String.ofList rest
  posText line column ++ ": lexer: invalid input text " ++ Text.quote sample

/-- The first rule that matches at the front: its token kind and length; `none` when no rule
matches. Blanks have no kind. -/
def matchRule (cs : List Char) : Option (Option TokenKind × Nat) :=
  let k := stringLength cs
  if k > 0 then some (some .string, k) else
  let k := numberLength cs
  if k > 0 then some (some .number, k) else
  let k := identLength cs
  if k > 0 then some (some .ident, k) else
  match cs with
  | c :: _ =>
    if c == '(' || c == ')' || c == ',' || c == '=' then some (some .punct, 1)
    else if isBlank c then some (none, blankLength cs)
    else none
  | [] => none

/-- **Tokens** of a field list text from a position, ending in an end token, or the first
lexing error. -/
def tokenize (cs : List Char) (line column : Nat) (acc : List Token) : Except String (List Token) :=
  match cs with
  | [] => .ok (acc.reverse ++ [⟨.eof, "", line, column⟩])
  | c :: rest =>
    match matchRule (c :: rest) with
    | none => .error (invalidInput line column (c :: rest))
    | some (kind, k) =>
      let text := (c :: rest).take (max k 1)
      let after := (c :: rest).drop (max k 1)
      have : after.length < (c :: rest).length := by
        simp only [after, List.length_drop, List.length_cons]; omega
      let (l, col) := advance line column text
      match kind with
      | none => tokenize after l col acc
      | some .string =>
        match Text.unquote? (String.ofList text) with
        | some v => tokenize after l col (⟨.string, v, line, column⟩ :: acc)
        | none =>
          .error (posText line column ++ ": invalid quoted string " ++
            Text.quote (String.ofList text) ++ ": invalid syntax")
      | some kd => tokenize after l col (⟨kd, String.ofList text, line, column⟩ :: acc)
termination_by cs.length

/-! ### Entries -/

/-- The text of an unexpected token error: where, what was found and what was expected. -/
def unexpected (t : Token) (expected : Option String) : String :=
  let shown := if t.kind == .eof then "<EOF>" else t.value
  posText t.line t.column ++ ": unexpected token " ++ Text.quote shown ++
    (match expected with
     | some e => " (expected " ++ e ++ ")"
     | none => "")

/-- What a value may be. -/
def valueExpected : String := "(<string> | <ident> | <number>)"

/-- Whether a token is the punctuation `p`. -/
def Token.isPunct (t : Token) (p : String) : Bool := t.kind == .punct && t.value == p

/-- The outcome of reading one entry: read, given up (nothing taken), or failed. -/
inductive EntryResult where
  | read (f : Field) (rest : List Token)
  | givenUp
  | failed (msg : String)

/-- The first token, or an end token when there is none. -/
def headOrEnd : List Token → Token
  | t :: _ => t
  | [] => ⟨.eof, "", 0, 0⟩

/-- Reads `key = value` at the front. `committed` says how many tokens before the entry were
taken in the same attempt; an entry that fails after two taken tokens fails the list. -/
def readEntry (committed : Nat) (ts : List Token) : EntryResult :=
  match ts with
  | [] => .givenUp
  | k :: more =>
    if k.kind != .ident then .givenUp else
    let eq := headOrEnd more
    if !eq.isPunct "=" then
      (if committed + 1 ≥ 2 then .failed (unexpected eq (some "\"=\"")) else .givenUp)
    else
      let v := headOrEnd (more.drop 1)
      if v.kind == .string || v.kind == .ident || v.kind == .number then
        .read ⟨k.value, v.value⟩ (more.drop 2)
      else .failed (unexpected v (some valueExpected))

/-- An entry that is read leaves fewer tokens. -/
theorem readEntry_length {c : Nat} {ts : List Token} {f : Field} {r : List Token}
    (h : readEntry c ts = .read f r) : r.length < ts.length := by
  unfold readEntry at h
  split at h
  · cases h
  · rename_i k more
    simp only at h
    split at h
    · cases h
    · split at h
      · split at h <;> cases h
      · split at h
        · injection h with _ h2
          subst h2
          simp only [List.length_drop, List.length_cons]
          omega
        · cases h

/-- Reads further `, entry` pairs, stopping before a token that starts none. -/
def readMore (acc : List Field) : List Token → Except String (List Field × List Token)
  | [] => .ok (acc.reverse, [])
  | t :: rest =>
    if t.isPunct "," then
      match h : readEntry 1 rest with
      | .read f rest' =>
        have : rest'.length < rest.length := readEntry_length h
        readMore (f :: acc) rest'
      | .givenUp => .ok (acc.reverse, t :: rest)
      | .failed msg => .error msg
    else .ok (acc.reverse, t :: rest)
termination_by ts => ts.length

/-- **Entries** of a token list: `(`, entries, `)`, then the end. -/
def entries (ts : List Token) : Except String (List Field) :=
  match ts with
  | t :: rest =>
    if !t.isPunct "(" then .error (unexpected t none) else
    -- entries, then an optional trailing comma after at least one entry
    let afterEntries : Except String (List Field × List Token) :=
      match readEntry 0 rest with
      | .read f rest' =>
        (fun (fields, rest'') =>
          (fields, match rest'' with
            | c :: r => if c.isPunct "," then r else rest''
            | [] => [])) <$> readMore [f] rest'
      | .givenUp => .ok ([], rest)
      | .failed msg => .error msg
    match afterEntries with
    | .error msg => .error msg
    | .ok (fields, rest') =>
      match rest' with
      | c :: r =>
        if !c.isPunct ")" then .error (unexpected c (some "\")\"")) else
        match r with
        | e :: _ => if e.kind == .eof then .ok fields else .error (unexpected e none)
        | [] => .ok fields
      | [] => .ok fields
  | [] => .ok []

/-- **Read a field list** written from the start of a line. -/
def parse (text : String) : Except String (List Field) :=
  tokenize text.toList 1 1 [] >>= entries

end Accessors.FieldList
