import Accessors.Source.Scanner
import Accessors.Source.Ast

/-!
# The parser's state

The parser reads the token list one token at a time, with the current token in hand. Comments
never reach the grammar: on each step the comments after the current token are gathered into
groups of adjacent lines, and two of them are remembered for the grammar to attach to fields
and declarations:

* the **line comment**: the comment group that starts on the line of the previous token and is
  followed by a line end;
* the **lead comment**: the comment group that ends on the line right before the next token.

Errors are recorded with their offsets. A second error on the line of the last recorded one is
dropped, as it is most likely a consequence of the first, and after more than ten errors the
parser stops (`EStateM` failure) with the errors so far. Scanner errors travel with the token
they were found in and are recorded, without that filtering, when the token becomes current.

After an error the parser skips to a token where parsing can resume (`advance`). It skips only
when it made progress since the last such skip, or at most ten times at one place, so that
recovery always moves forward.

The grammar is split over several modules; the productions call each other through a record of
parsers (`Rec`), which `knot` ties with a depth budget.
-/

namespace Accessors.Source

/-- **The parser's state.** -/
structure PState where
  /-- The tokens after the current one. -/
  rest : List Token
  tok : Tok
  lit : String
  pos : Nat
  /-- Where the previous token ended. -/
  prevEnd : Nat
  /-- The errors recorded so far, with their offsets, in the order they were recorded. -/
  errors : Array (Nat × String)
  leadComment : Option CommentGroup
  lineComment : Option CommentGroup
  syncPos : Nat
  syncCnt : Nat
  /-- The nesting of brackets around the expression being read; negative in the header of a
  control statement, where a brace opens the block rather than a composite literal. -/
  exprLev : Int
  /-- Whether an expression on the right of an assignment is being read, where `=` reads as
  `==`. -/
  inRhs : Bool
  /-- The offsets lines start at. -/
  starts : List Nat
  /-- The imports of the file, in order. -/
  imports : Array ImportSpec
  /-- The comment groups read so far, in order. -/
  comments : Array CommentGroup

/-- The parser monad: state, and a failure that stops parsing. -/
abbrev P := EStateM Unit PState

namespace Parse

/-- The line of an offset. -/
def lineOf (off : Nat) : P Nat := do return (lineColumn (← get).starts off).1

/-- A bound on the steps of any loop: each step of a loop takes a token. -/
def bound : P Nat := do return (← get).rest.length + 2

/-- The length of a token's text, for the end of the previous token. -/
def tokenLength (t : Tok) (lit : String) : Nat :=
  match t with
  | .op ";" => if lit == ";" then 1 else 0
  | .op o => o.length
  | .eof => 0
  | _ => Text.byteLength lit

/-- Reads the next token, comments included; its scanner errors are recorded. -/
def next0 : P Unit := modify fun s =>
  let prevEnd := s.pos + tokenLength s.tok s.lit
  match s.rest with
  | t :: ts =>
    { s with rest := ts, tok := t.tok, lit := t.lit, pos := t.pos, prevEnd,
             errors := s.errors ++ t.errors.toArray }
  | [] => { s with tok := .eof, lit := "", prevEnd }

/-- Reads one comment: its offset and text, and the line it ends on. -/
def consumeComment : P ((Nat × String) × Nat) := do
  let s ← get
  let line ← lineOf s.pos
  let endline :=
    if (s.lit.toList.drop 1).head? == some '*' then line + (s.lit.toList.filter (· == '\n')).length
    else line
  next0
  return ((s.pos, s.lit), endline)

/-- Reads a group of comments, each starting at most `n` lines after the previous one ends,
and records it: the group and the line it ends on. -/
def consumeCommentGroup (n : Nat) : P (CommentGroup × Nat) := do
  let mut list : Array (Nat × String) := #[]
  let mut endline ← lineOf (← get).pos
  for _ in [0:(← bound)] do
    let s ← get
    if s.tok != .comment then break
    if (← lineOf s.pos) > endline + n then break
    let (c, e) ← consumeComment
    list := list.push c
    endline := e
  let g : CommentGroup := ⟨list.toList⟩
  modify fun s => { s with comments := s.comments.push g }
  return (g, endline)

/-- **The next token**, with the line and lead comments around it. -/
def next : P Unit := do
  modify fun s => { s with leadComment := none, lineComment := none }
  let prev := (← get).pos
  next0
  if (← get).tok == .comment then
    let mut comment : Option CommentGroup := none
    if (← lineOf (← get).pos) == (← lineOf prev) then
      let (c, e) ← consumeCommentGroup 0
      comment := some c
      let s ← get
      if (← lineOf s.pos) != e || s.tok == .op ";" || s.tok == .eof then
        modify fun s => { s with lineComment := some c }
    let mut endline : Int := -1
    for _ in [0:(← bound)] do
      if (← get).tok != .comment then break
      let (c, e) ← consumeCommentGroup 1
      comment := some c
      endline := e
    if endline + 1 == ((← lineOf (← get).pos) : Int) then
      modify fun s => { s with leadComment := comment }

/-! ### Errors -/

/-- **Records an error**, unless the last recorded error is on the same line; stops parsing after
more than ten errors. -/
def error (pos : Nat) (msg : String) : P Unit := do
  let s ← get
  let n := s.errors.size
  if let some (last, _) := s.errors.back? then
    if (← lineOf last) == (← lineOf pos) then return
  if n > 10 then throw ()
  modify fun s => { s with errors := s.errors.push (pos, msg) }

/-- Records that something else was expected; at the current token, the message names it. -/
def errorExpected (pos : Nat) (msg : String) : P Unit := do
  let s ← get
  let msg := "expected " ++ msg
  let msg :=
    if pos == s.pos then
      if s.tok == .op ";" && s.lit == "\n" then msg ++ ", found newline"
      else if s.tok.isLiteral then msg ++ ", found " ++ s.lit
      else msg ++ ", found '" ++ s.tok.text ++ "'"
    else msg
  error pos msg

/-- **Expects a token**: complains when it is another, and moves on either way. -/
def expect (t : Tok) : P Nat := do
  let s ← get
  if s.tok != t then errorExpected s.pos ("'" ++ t.text ++ "'")
  next
  return s.pos

/-- Expects a token; its offset when it was there. -/
def expect2 (t : Tok) : P (Option Nat) := do
  let s ← get
  let r := if s.tok == t then some s.pos else none
  if s.tok != t then errorExpected s.pos ("'" ++ t.text ++ "'")
  next
  return r

/-- Expects a closing token, naming a missing comma before a line end. -/
def expectClosing (t : Tok) (context : String) : P Nat := do
  let s ← get
  if s.tok != t && s.tok == .op ";" && s.lit == "\n" then
    error s.pos ("missing ',' before newline in " ++ context)
    next
  expect t

/-- Whether a token may start a statement, where recovery resumes. -/
def stmtStart (t : Tok) : Bool :=
  match t with
  | .kw k => ["break", "const", "continue", "defer", "fallthrough", "for", "go", "goto", "if",
      "return", "select", "switch", "type", "var"].contains k
  | _ => false

/-- Whether a token may start a declaration. -/
def declStart (t : Tok) : Bool :=
  match t with
  | .kw k => ["import", "const", "type", "var"].contains k
  | _ => false

/-- Whether a token may end an expression. -/
def exprEnd (t : Tok) : Bool :=
  match t with
  | .op o => [",", ":", ";", ")", "]", "\x7d"].contains o
  | _ => false

/-- **Skips** to a token in the set, or the end. -/
def advance (stop : Tok → Bool) : P Unit := do
  for _ in [0:(← bound)] do
    let s ← get
    if s.tok == .eof then return
    if stop s.tok then
      if s.pos == s.syncPos && s.syncCnt < 10 then
        set { s with syncCnt := s.syncCnt + 1 }
        return
      if s.pos > s.syncPos then
        set { s with syncPos := s.pos, syncCnt := 0 }
        return
    next

/-- Expects the end of a statement or declaration: the comments of its line. A semicolon may be
left out before a closing parenthesis or brace; a comma in its place is read with a complaint. -/
def expectSemi : P (Option CommentGroup) := do
  let s ← get
  if s.tok == .op ")" || s.tok == .op "\x7d" then return none
  if s.tok == .op "," || s.tok == .op ";" then
    if s.tok == .op "," then errorExpected s.pos "';'"
    let s ← get
    if s.tok == .op ";" && s.lit == ";" then
      next
      return (← get).lineComment
    else
      let c := s.lineComment
      next
      return c
  errorExpected s.pos "';'"
  advance stmtStart
  return none

/-- Whether a list goes on: at a comma, or, with a complaint, at anything but its end. -/
def atComma (context : String) (follow : Tok) : P Bool := do
  let s ← get
  if s.tok == .op "," then return true
  if s.tok != follow then
    let msg := "missing ','" ++ (if s.tok == .op ";" && s.lit == "\n" then " before newline" else "")
    error s.pos (msg ++ " in " ++ context)
    return true
  return false

/-- **A name**; `_` with a complaint when there is none. -/
def ident : P Expr := do
  let s ← get
  if s.tok == .ident then
    next
    return .ident s.pos s.lit
  else
    discard <| expect .ident
    return .ident s.pos "_"

/-- A list of names separated by commas. -/
def identList : P (List Expr) := do
  let mut list := #[← ident]
  for _ in [0:(← bound)] do
    if (← get).tok != .op "," then break
    next
    list := list.push (← ident)
  return list.toList

/-- Runs a parser with `exprLev` changed by `d`, restoring it afterwards. -/
def withLev {α : Type} (d : Int) (p : P α) : P α := do
  modify fun s => { s with exprLev := s.exprLev + d }
  let r ← p
  modify fun s => { s with exprLev := s.exprLev - d }
  return r

/-- Runs a parser with `inRhs` set as given, restoring it afterwards. -/
def withRhs {α : Type} (b : Bool) (p : P α) : P α := do
  let old := (← get).inRhs
  modify fun s => { s with inRhs := b }
  let r ← p
  modify fun s => { s with inRhs := old }
  return r

/-- The current token's kind. -/
def tok : P Tok := do return (← get).tok

/-- Whether the current token is the operator `o`. -/
def isOp (o : String) : P Bool := do return (← get).tok == .op o

/-- Whether the current token is the keyword `k`. -/
def isKw (k : String) : P Bool := do return (← get).tok == .kw k

/-- Raises the bracket nesting by one. -/
def incLev : P Unit := modify fun s => { s with exprLev := s.exprLev + 1 }

/-- Lowers the bracket nesting by one. -/
def decLev : P Unit := modify fun s => { s with exprLev := s.exprLev - 1 }

/-- The current token's offset. -/
def here : P Nat := do return (← get).pos

/-- The name of a name expression. -/
def nameOf : Expr → String
  | .ident _ n => n
  | _ => "_"

/-- An index expression of one index, or an instantiation of several. -/
def packIndex (x : Expr) (lbrack : Nat) (args : List Expr) (rbrack : Nat) : Expr :=
  .index x lbrack args rbrack

/-- The texts of an optional comment group. -/
def textsOf : Option CommentGroup → List String
  | some g => g.texts
  | none => []

end Parse

/-! ### The record of productions -/

/-- The parameters of a signature: the type parameters in brackets, when there are any, and the
parameters in parentheses. -/
structure Params where
  typeParams : Option FieldList
  params : FieldList

/-- **The productions** the grammar modules call each other through. -/
structure Rec where
  type : P Expr
  tryIdentOrType : P (Option Expr)
  typeInstance : Expr → P Expr
  qualifiedIdent : Option Expr → P Expr
  arrayType : Nat → Option Expr → P Expr
  arrayFieldOrTypeInstance : Expr → P (Option Expr × Expr)
  structType : P Expr
  fieldDecl : P Field
  pointerType : P Expr
  dotsType : P Expr
  paramDecl : Option Expr → Bool → P (Option Expr × Option Expr)
  parameterList : Option Expr → Option Expr → Tok → P (List Field)
  parameters : Bool → P Params
  result : P (Option FieldList)
  funcType : P Expr
  methodSpec : P Field
  embeddedElem : Option Expr → P Expr
  embeddedTerm : P Expr
  interfaceType : P Expr
  mapType : P Expr
  chanType : P Expr
  expr : P Expr
  rhs : P Expr
  list : Bool → P (List Expr)
  unaryExpr : P Expr
  binaryExpr : Option Expr → Nat → P Expr
  primaryExpr : Option Expr → P Expr
  operand : P Expr
  funcTypeOrLit : P Expr
  literalValue : Option Expr → P Expr
  indexOrSlice : Expr → P Expr
  callOrConversion : Expr → P Expr
  typeAssertion : Expr → P Expr
  element : P Expr
  body : P Block
  stmtList : P (List Stmt)
  stmt : P Stmt
  simpleStmt : Nat → P (Stmt × Bool)
  ifStmt : P Stmt
  switchStmt : P Stmt
  selectStmt : P Stmt
  forStmt : P Stmt
  caseClause : P Stmt
  commClause : P Stmt
  decl : (Tok → Bool) → P Decl

/-- The productions once the depth budget is spent: each stops parsing. -/
def Rec.exhausted : Rec where
  type := throw ()
  tryIdentOrType := throw ()
  typeInstance _ := throw ()
  qualifiedIdent _ := throw ()
  arrayType _ _ := throw ()
  arrayFieldOrTypeInstance _ := throw ()
  structType := throw ()
  fieldDecl := throw ()
  pointerType := throw ()
  dotsType := throw ()
  paramDecl _ _ := throw ()
  parameterList _ _ _ := throw ()
  parameters _ := throw ()
  result := throw ()
  funcType := throw ()
  methodSpec := throw ()
  embeddedElem _ := throw ()
  embeddedTerm := throw ()
  interfaceType := throw ()
  mapType := throw ()
  chanType := throw ()
  expr := throw ()
  rhs := throw ()
  list _ := throw ()
  unaryExpr := throw ()
  binaryExpr _ _ := throw ()
  primaryExpr _ := throw ()
  operand := throw ()
  funcTypeOrLit := throw ()
  literalValue _ := throw ()
  indexOrSlice _ := throw ()
  callOrConversion _ := throw ()
  typeAssertion _ := throw ()
  element := throw ()
  body := throw ()
  stmtList := throw ()
  stmt := throw ()
  simpleStmt _ := throw ()
  ifStmt := throw ()
  switchStmt := throw ()
  selectStmt := throw ()
  forStmt := throw ()
  caseClause := throw ()
  commClause := throw ()
  decl _ := throw ()

end Accessors.Source
