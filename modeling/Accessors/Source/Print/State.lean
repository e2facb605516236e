import Accessors.Source.Span
import Accessors.Source.Print.Comment
import Accessors.Text.Columns

/-!
# The printer of Go source: tokens, white space and comments

Printing walks a syntax tree and hands the printer a stream of pieces: tokens, names,
literals, and requests for white space (a blank, a cell end, a line break, a section break, one
level of indentation more or less). White space is held back until the next token, so that
the comments of the source that come before that token can be put in between first, placed as
well as the pending white space allows:

* a comment on the line of the previous token stays on that line, after a tab (or a blank
  when the next token follows on the same line);
* a comment on a later line keeps the number of line breaks the source had (at most one blank
  line), and outside any indentation a comment right after a dropped line break keeps a blank
  line before it, as documentation comments of top-level declarations do;
* a line comment is always followed by a line break;
* a documentation comment in the first column right above a declaration is written in its
  normal form (`Accessors.Source.Print.docLines`).

The printer keeps two positions: where it is in the source (`pos`), which the tree updates
from the offsets of its tokens, and where it is in the output (`out`). Between two tokens it
keeps line breaks the source has, unless a line break there would end a statement.

Text that must pass the column layout unchanged (literals, comments) is written between
escape marks (`Accessors.Text.escapeMark`).

Main statements: a fresh printer's output is empty (`fresh_output`).
-/

namespace Accessors.Source.Print

/-- **Pending white space.** -/
inductive Space where
  | ignore
  | blank
  | vtab
  | newline
  | formfeed
  | indent
  | unindent
  deriving DecidableEq, Inhabited, Repr

/-- The character written for white space. -/
def Space.char : Space → Char
  | .blank => ' '
  | .vtab => '\x0b'
  | .newline => '\n'
  | .formfeed => '\x0c'
  | _ => ' '

/-- **A position** in the source or the output: byte offset, line and column (from one); line
zero is no position. -/
structure Position where
  offset : Nat
  line : Nat
  column : Nat
  deriving DecidableEq, Inhabited, Repr

/-- A position that lies after every other. -/
def Position.infinity : Position := ⟨1 <<< 30, 1 <<< 30, 0⟩

/-- The most line breaks kept between two tokens. -/
def maxNewlines : Nat := 2

/-- The line of an offset: the number of line starts at or before it. -/
def lineOfOffset (starts : Array Nat) (off : Nat) : Nat :=
  let rec search : Nat → Nat → Nat → Nat
    | 0, lo, _ => lo
    | fuel + 1, lo, hi =>
      if lo + 1 ≥ hi then lo
      else
        let mid := (lo + hi) / 2
        if (starts[mid]?.getD 0) ≤ off then search fuel mid hi else search fuel lo mid
  if starts.isEmpty then 1 else search (starts.size + 1) 0 starts.size + 1

/-- The position of an offset. -/
def positionOf (starts : Array Nat) (off : Nat) : Position :=
  let line := lineOfOffset starts off
  ⟨off, line, off - (starts[line - 1]?.getD 0) + 1⟩

/-- **A piece** handed to the printer. -/
inductive Piece where
  | space (s : Space)
  /-- Toggles the modes that suppress an extra blank or line break after a block comment. -/
  | toggle (noBlank noLinebreak : Bool)
  | name (s : String)
  | lit (kind : Tok) (value : String)
  | token (t : Tok)
  /-- Text of a malformed tree, written as it is. -/
  | text (s : String)
  deriving Inhabited

/-- **The printer's state.** -/
structure Printer where
  /-- The offsets the source's lines start at. -/
  starts : Array Nat
  /-- The comment groups of the source still to place, in order; none when measuring. -/
  comments : Array CommentGroup
  /-- Whether number literals are written in their normal form. -/
  normalize : Bool
  output : Array Char
  indent : Nat
  /-- The nesting of composite literals. -/
  level : Nat
  noExtraBlank : Bool
  noExtraLinebreak : Bool
  /-- Whether a multi-line literal was written and the alignment must end. -/
  endAlignment : Bool
  /-- Whether a line break here would end a statement. -/
  impliedSemi : Bool
  lastTok : Tok
  prevOpen : Tok
  wsbuf : Array Space
  pos : Position
  out : Position
  /-- The source position after the last text written. -/
  last : Position
  /-- The slot to record the output line of the next token in. -/
  linePtr : Option Nat
  slots : Array Nat
  cindex : Nat
  comment : Option CommentGroup
  commentOffset : Nat
  commentNewline : Bool
  deriving Inhabited

/-- A printer at the start of its output. -/
def Printer.fresh (starts : Array Nat) (comments : Array CommentGroup) (normalize : Bool) :
    Printer :=
  { starts, comments, normalize, output := #[], indent := 0, level := 0, noExtraBlank := false,
    noExtraLinebreak := false, endAlignment := false, impliedSemi := false, lastTok := .illegal,
    prevOpen := .illegal, wsbuf := #[], pos := ⟨0, 1, 1⟩, out := ⟨0, 1, 1⟩, last := ⟨0, 0, 0⟩,
    linePtr := none, slots := #[], cindex := 0, comment := none, commentOffset := 1 <<< 30,
    commentNewline := false }

/-- The printing monad. -/
abbrev PM := StateM Printer

/-- The position of an offset of the source. -/
def posFor (off : Nat) : PM Position := do return positionOf (← get).starts off

/-- The line of an offset of the source. -/
def lineFor (off : Nat) : PM Nat := do return lineOfOffset (← get).starts off

/-- The line of an optional offset; zero for none. -/
def lineFor? : Option Nat → PM Nat
  | some off => lineFor off
  | none => pure 0

/-- **Moves the source position** to an offset: the next token is there. -/
def setPos (off : Nat) : PM Unit := do
  let p ← posFor off
  modify fun s => { s with pos := p }

/-- Moves the source position to an offset when there is one. -/
def setPos? : Option Nat → PM Unit
  | some off => setPos off
  | none => pure ()

/-- Whether the text of a comment is a line comment. -/
def isLineComment (text : String) : Bool := (text.toList.drop 1).head? == some '/'

/-! ### Writing -/

/-- Writes the indentation. -/
def writeIndent : PM Unit := modify fun p =>
  let n := p.indent
  { p with output := p.output ++ (List.replicate n '\t').toArray,
           pos := { p.pos with offset := p.pos.offset + n, column := p.pos.column + n },
           out := { p.out with column := p.out.column + n } }

/-- **Writes white space** `n` times. -/
def writeByte (ch : Char) (n : Nat) : PM Unit := do
  let p ← get
  let mut ch := ch
  if p.endAlignment then
    if ch == '\t' || ch == '\x0b' then ch := ' '
    else if ch == '\n' || ch == '\x0c' then
      ch := '\x0c'
      modify fun p => { p with endAlignment := false }
  if (← get).out.column == 1 then writeIndent
  modify fun p =>
    let output := p.output ++ (List.replicate n ch).toArray
    if ch == '\n' || ch == '\x0c' then
      { p with output, pos := ⟨p.pos.offset + n, p.pos.line + n, 1⟩,
               out := ⟨p.out.offset, p.out.line + n, 1⟩ }
    else
      { p with output, pos := { p.pos with offset := p.pos.offset + n, column := p.pos.column + n },
               out := { p.out with column := p.out.column + n } }

/-- **Writes text** at a source position (when valid); literal text is escaped from the layout. -/
def writeString (pos : Position) (s : String) (isLit : Bool) : PM Unit := do
  if (← get).out.column == 1 then writeIndent
  let bytes := Text.byteLength s
  let cs := s.toList
  let breaks := cs.zipIdx.filter fun (c, _) => c == '\n' || c == '\x0c'
  -- the byte index of the last line break
  let lastBreak := match breaks.getLast? with
    | some (_, i) => Text.byteLength (String.ofList (cs.take i))
    | none => 0
  modify fun p =>
    let p := if pos.line > 0 then { p with pos } else p
    let output := if isLit then p.output.push Text.escapeMark else p.output
    let output := output ++ cs.toArray
    let output := if isLit then output.push Text.escapeMark else output
    let n := breaks.length
    let p := if n > 0 then
        let c := bytes - lastBreak
        { p with pos := ⟨p.pos.offset + bytes, p.pos.line + n, c⟩,
                 out := ⟨p.out.offset, p.out.line + n, c⟩, endAlignment := true }
      else
        { p with pos := { p.pos with offset := p.pos.offset + bytes,
                                     column := p.pos.column + bytes },
                 out := { p.out with column := p.out.column + bytes } }
    { p with output, last := p.pos }

/-- **Writes the first `n` pieces of pending white space** and drops them; a line break right
before a level of indentation less gives way to it and becomes a section break. -/
def writeWhitespace (n : Nat) : PM Unit := do
  let p ← get
  let rec go : List Space → PM Unit
    | [] => pure ()
    | .ignore :: rest => go rest
    | .indent :: rest => do
      modify fun p => { p with indent := p.indent + 1 }
      go rest
    | .unindent :: rest => do
      modify fun p => { p with indent := p.indent - 1 }
      go rest
    | .newline :: .unindent :: rest | .formfeed :: .unindent :: rest => do
      modify fun p => { p with indent := p.indent - 1 }
      go (.formfeed :: rest)
    | s :: rest => do
      writeByte s.char 1
      go rest
  termination_by l => l.length
  go (p.wsbuf.toList.take n)
  modify fun p => { p with wsbuf := p.wsbuf.extract n p.wsbuf.size }

/-! ### Comments -/

/-- Whether a group of comments spans lines or holds a line comment. -/
def commentsHaveNewline (g : CommentGroup) : PM Bool := do
  let line ← lineFor g.pos
  let mut i := 0
  for (off, text) in g.list do
    if i > 0 && (← lineFor off) != line then return true
    if text.length ≥ 2 && (isLineComment text || text.contains '\n') then return true
    i := i + 1
  return false

/-- **Moves to the next comment group** of the source. -/
def nextComment : PM Unit := do
  let p ← get
  match p.comments[p.cindex]? with
  | some g =>
    let nl ← commentsHaveNewline g
    modify fun p => { p with cindex := p.cindex + 1, comment := some g, commentOffset := g.pos,
                             commentNewline := nl }
  | none => modify fun p => { p with cindex := p.cindex + 1, commentOffset := 1 <<< 30 }

/-- **Whether the current comment group comes before** the next token, and printing it there
does not end a statement. -/
def commentBefore (next : Position) : PM Bool := do
  let p ← get
  return p.commentOffset < next.offset && (!p.impliedSemi || !p.commentNewline)

/-- The length of the comments before the next token. -/
def commentSizeBefore (next : Position) : PM Nat := do
  let saved ← get
  let mut size := 0
  for _ in [0:saved.comments.size + 1] do
    if !(← commentBefore next) then break
    if let some g := (← get).comment then
      size := size + g.list.foldl (fun n (_, t) => n + Text.byteLength t) 0
    nextComment
  modify fun p => { p with cindex := saved.cindex, comment := saved.comment,
                           commentOffset := saved.commentOffset,
                           commentNewline := saved.commentNewline }
  return size

/-- The index of the first pending white space that stops a scan, marking what the scan passes
over with `pass`: `none` to go on, `some true` to drop it, `some false` to keep it. -/
def scanSpaces (pass : Nat → Space → Option Bool) : PM Nat := do
  let p ← get
  let mut buf := p.wsbuf
  let mut j := 0
  for i in [0:buf.size] do
    match pass i (buf[i]?.getD .ignore) with
    | some true => buf := buf.set! i .ignore
    | some false => pure ()
    | none =>
      j := i
      break
  modify fun p => { p with wsbuf := buf }
  return j

/-- **The white space before a comment** at `pos`, when the next token is at `next`; `prev` is
the comment before it in its group. -/
def writeCommentPrefix (pos next : Position) (prev : Option String) (tok : Tok) : PM Unit := do
  let p ← get
  if p.output.isEmpty then return
  let prevIsLine := match prev with
    | some t => isLineComment t
    | none => false
  if pos.line == p.last.line && !prevIsLine then
    -- a comment on the line of the last token
    let mut hasSep := false
    if prev.isNone then
      hasSep := p.wsbuf.toList.takeWhile (fun s => s == .blank || s == .vtab || s == .indent)
        |>.contains .vtab
      let j ← scanSpaces fun _ s =>
        match s with
        | .blank => some true
        | .vtab | .indent => some false
        | _ => none
      writeWhitespace j
    if !hasSep then writeByte (if pos.line == next.line then ' ' else '\t') 1
  else
    -- a comment on a later line
    let buf := p.wsbuf
    let j ← scanSpaces fun i s =>
      match s with
      | .blank | .vtab => some true
      | .indent => some false
      | .unindent =>
        if buf[i + 1]? == some .unindent then some false
        else if tok != .op "\x7d" && pos.column == next.column then some false
        else none
      | _ => none
    -- a line break that stopped the scan is dropped
    let mut droppedLinebreak := false
    if j < buf.size && (buf[j]? == some .newline || buf[j]? == some .formfeed) then
      modify fun p => { p with wsbuf := p.wsbuf.set! j .ignore }
      droppedLinebreak := prev.isNone
    writeWhitespace j
    let p ← get
    let mut n : Nat := 0
    if pos.line > 0 && p.last.line > 0 then n := pos.line - p.last.line
    if p.indent == 0 && droppedLinebreak then n := n + 1
    if n == 0 && prevIsLine then n := 1
    if n > 0 then writeByte '\x0c' (min n maxNewlines)

/-- The text of a comment with trailing white space removed. -/
def trimRight (s : String) : String :=
  String.ofList (s.toList.reverse.dropWhile (fun c => c.isWhitespace || c == '\x0b' || c == '\x0c' ||
    c == '\x85' || c == '\xa0')).reverse

/-- **Writes a comment**; the lines of a block comment are written one by one, so that they
take the current indentation. -/
def writeComment (off : Nat) (text : String) : PM Unit := do
  let pos ← posFor off
  let savedIndent := (← get).indent
  let directive := text.startsWith "//line " && (pos.line == 0 || pos.column == 1)
  if directive then modify fun p => { p with indent := 0 }
  if isLineComment text then
    writeString pos (trimRight text) true
  else
    let lines := (text.splitOn "\n").map String.toList
    let lines := if pos.column == 1 && (← get).indent > 0 then
        match lines with
        | l :: ls => l :: ls.map ([' ', ' ', ' '] ++ ·)
        | [] => []
      else lines
    let lines := stripCommonPrefix lines
    let mut first := true
    let mut here := pos
    for line in lines do
      if !first then
        writeByte '\x0c' 1
        here := (← get).pos
      first := false
      if !line.isEmpty then writeString here (trimRight (String.ofList line)) true
  if directive then modify fun p => { p with indent := savedIndent }

/-- **The white space after a comment**: one line break when one is needed, pending line breaks
dropped otherwise; whether a line break was written and whether a section break was dropped. -/
def writeCommentSuffix (needsLinebreak : Bool) : PM (Bool × Bool) := do
  let p ← get
  let mut needs := needsLinebreak
  let mut wrote := false
  let mut droppedFF := false
  let mut buf := p.wsbuf
  for i in [0:buf.size] do
    match buf[i]?.getD .ignore with
    | .blank | .vtab => buf := buf.set! i .ignore
    | .newline | .formfeed =>
      if needs then
        needs := false
        wrote := true
      else
        if buf[i]? == some .formfeed then droppedFF := true
        buf := buf.set! i .ignore
    | _ => pure ()
  modify fun p => { p with wsbuf := buf }
  writeWhitespace buf.size
  if needs then
    writeByte '\n' 1
    wrote := true
  return (wrote, droppedFF)

/-- Whether pending white space holds a line break. -/
def containsLinebreak : PM Bool := do
  return (← get).wsbuf.any fun s => s == .newline || s == .formfeed

/-- The end of a comment group. -/
def groupEnd (g : CommentGroup) : Nat :=
  match g.list.getLast? with
  | some (off, t) => off + Text.byteLength t
  | none => 0

/-- **Writes the comments before the next token** with the pending white space; whether a line
break was written and whether a section break was dropped. -/
def intersperseComments (next : Position) (tok : Tok) : PM (Bool × Bool) := do
  let mut last : Option (Nat × String) := none
  for _ in [0:(← get).comments.size + 1] do
    if !(← commentBefore next) then break
    let some g := (← get).comment | break
    let mut list := g.list
    let mut changed := false
    if (← get).lastTok != .kw "import" && (← posFor g.pos).column == 1 &&
        (← posFor (groupEnd g + 1)) == next then
      changed := true
      if let some lines := docLines (g.list.map (·.2)) then
        list := lines.map fun l => (g.pos, l)
        if list.isEmpty then
          writeCommentPrefix (← posFor g.pos) next (last.map (·.2)) tok
          modify fun p => { p with pos := next, last := next }
          nextComment
          return ← writeCommentSuffix false
    for (off, text) in list do
      writeCommentPrefix (← posFor off) next (last.map (·.2)) tok
      writeComment off text
      last := some (off, text)
    if changed then
      if let some (off, t) := g.list.getLast? then
        last := some (off, t)
        let p ← posFor (off + Text.byteLength t)
        modify fun s => { s with pos := p, last := p }
    nextComment
  match last with
  | some (off, text) =>
    let mut needsLinebreak := false
    let p ← get
    if !p.noExtraBlank && !isLineComment text && (← lineFor off) == next.line &&
        tok != .op "," && (tok != .op ")" || p.prevOpen == .op "(") &&
        (tok != .op "]" || p.prevOpen == .op "[") then
      if (← containsLinebreak) && !p.noExtraLinebreak && p.level == 0 then needsLinebreak := true
      else writeByte ' ' 1
    if isLineComment text || tok == .eof || (tok == .op "\x7d" && !p.noExtraLinebreak) then
      needsLinebreak := true
    writeCommentSuffix needsLinebreak
  | none => return (false, false)

/-- **Writes what comes before the next token**: pending comments with the white space, or the
white space alone. -/
def flush (next : Position) (tok : Tok) : PM (Bool × Bool) := do
  if (← commentBefore next) then intersperseComments next tok
  else
    writeWhitespace (← get).wsbuf.size
    return (false, false)

/-! ### Pieces -/

/-- Whether a token followed by a character would read as another token. -/
def mayCombine (prev : Tok) (next : Char) : Bool :=
  match prev with
  | .int => next == '.'
  | .op "+" => next == '+'
  | .op "-" => next == '-'
  | .op "/" => next == '*'
  | .op "<" => next == '-' || next == '<'
  | .op "&" => next == '&' || next == '^'
  | _ => false

/-- Whether a line break after a token ends a statement. -/
def endsStatement : Tok → Bool
  | .kw "break" | .kw "continue" | .kw "fallthrough" | .kw "return" => true
  | .op "++" | .op "--" | .op ")" | .op "]" | .op "\x7d" => true
  | _ => false

/-- Writes a token's text after the comments and white space before it; `implied` says whether
a line break after it would end a statement. -/
def emit (data : String) (isLit implied : Bool) : PM Unit := do
  let next := (← get).pos
  let (wroteNewline, droppedFF) ← flush next (← get).lastTok
  let mut implied := implied
  let p ← get
  if !p.impliedSemi then
    let mut n := min (next.line - p.pos.line) maxNewlines
    if wroteNewline && n == maxNewlines then n := maxNewlines - 1
    if n > 0 then
      writeByte (if droppedFF then '\x0c' else '\n') n
      implied := false
  if let some slot := (← get).linePtr then
    modify fun p => { p with slots := p.slots.set! slot p.out.line, linePtr := none }
  writeString next data isLit
  modify fun p => { p with impliedSemi := implied }

/-- **Prints one piece.** -/
def print1 (piece : Piece) : PM Unit := do
  modify fun p =>
    match p.lastTok with
    | .illegal => p
    | .op "(" | .op "[" => { p with prevOpen := p.lastTok }
    | _ => { p with prevOpen := .illegal }
  match piece with
  | .toggle b l =>
    modify fun p => { p with noExtraBlank := p.noExtraBlank != b,
                             noExtraLinebreak := p.noExtraLinebreak != l }
  | .space s =>
    if s != .ignore then
      modify fun p => { p with wsbuf := p.wsbuf.push s, lastTok := .illegal,
                               impliedSemi := if s == .newline || s == .formfeed then false
                                              else p.impliedSemi }
  | .name n =>
    modify fun p => { p with lastTok := .ident }
    emit n false true
  | .lit k v =>
    modify fun p => { p with lastTok := k }
    emit v true true
  | .token t =>
    let s := t.text
    if mayCombine (← get).lastTok (s.toList.headD ' ') then
      modify fun p => { p with wsbuf := #[.blank] }
    modify fun p => { p with lastTok := t }
    emit s false (endsStatement t)
  | .text s =>
    modify fun p => { p with lastTok := .string }
    emit s true true

/-- **Prints pieces** in order. -/
def print (pieces : List Piece) : PM Unit := pieces.forM print1

/-- Prints white space. -/
def space (s : Space) : PM Unit := print1 (.space s)

/-- Prints a token. -/
def token (t : Tok) : PM Unit := print1 (.token t)

/-- Prints an operator or delimiter. -/
def op (s : String) : PM Unit := print1 (.token (.op s))

/-- Prints a keyword. -/
def kw (s : String) : PM Unit := print1 (.token (.kw s))

/-- A new slot for a recorded line; it holds zero until a line is recorded in it. -/
def newSlot : PM Nat := do
  let p ← get
  set { p with slots := p.slots.push 0 }
  return p.slots.size

/-- Records the output line of the next token in a slot. -/
def recordLine (slot : Nat) : PM Unit := modify fun p => { p with linePtr := some slot }

/-- The number of output lines since the line in a slot. -/
def linesFrom (slot : Nat) : PM Nat := do
  let p ← get
  return p.out.line - p.slots[slot]?.getD 0

/-- **Line breaks up to a source line**, at least `min` and at most two; a section break first
when `newSection`; `ws` before them. The number of breaks: more than one when a section break
or a blank line was written. -/
def linebreak (line min : Nat) (ws : Space) (newSection : Bool) : PM Nat := do
  let p ← get
  let n := max (Nat.min (line - p.pos.line) maxNewlines) min
  if n > 0 then
    space ws
    let mut n := n
    let mut breaks := 0
    if newSection then
      space .formfeed
      n := n - 1
      breaks := 2
    breaks := breaks + n
    for _ in [0:n] do space .newline
    return breaks
  return 0

/-- A fresh printer's output is empty. -/
theorem fresh_output (s : Array Nat) (c : Array CommentGroup) (b : Bool) :
    (Printer.fresh s c b).output = #[] := rfl

end Accessors.Source.Print
