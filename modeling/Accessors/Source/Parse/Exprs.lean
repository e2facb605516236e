import Accessors.Source.Parse.Types

/-!
# Parsing expressions

The expression productions: operands (names, literals, parenthesised expressions, function
literals and types), the suffixes of primary expressions (selectors, type assertions, index and
slice expressions, calls, composite literals), unary operators and binary operators by
precedence.

A brace after a type name starts a composite literal, except in the header of a control
statement (`exprLev` negative), where it opens the statement's block. On the right of an
assignment `=` reads as `==`, so that the mistake is reported as one.
-/

namespace Accessors.Source.Parse

/-- **An expression**: a binary expression of any precedence. -/
def exprBody (r : Rec) : P Expr := r.binaryExpr none 1

/-- An expression on the right of an assignment. -/
def rhsBody (r : Rec) : P Expr := withRhs true r.expr

/-- A list of expressions separated by commas. -/
def listBody (r : Rec) (inRhs : Bool) : P (List Expr) := withRhs inRhs do
  let mut list : Array Expr := #[← r.expr]
  for _ in [0:(← bound)] do
    if !(← isOp ",") then break
    next
    list := list.push (← r.expr)
  return list.toList

/-- `<-` before a channel type moves into it: `<-chan T`. The result, whether the innermost
type reached still sent, and the offset to blame then. -/
def reassociate (arrow : Nat) : Expr → P (Expr × Bool × Nat)
  | .chanType _ a d v => do
    if d == .recv then errorExpected a "'chan'"
    if d == .send then
      match v with
      | .chanType .. =>
        let (v', sending, blame) ← reassociate a v
        return (.chanType arrow arrow .recv v', sending, blame)
      | _ => return (.chanType arrow arrow .recv v, true, a)
    return (.chanType arrow arrow .recv v, false, a)
  | e => return (e, false, arrow)

/-- **A unary expression.** -/
def unaryExprBody (r : Rec) : P Expr := do
  let s ← get
  match s.tok with
  | .op "+" | .op "-" | .op "!" | .op "^" | .op "&" | .op "~" =>
    next
    let x ← r.unaryExpr
    return .unary s.pos s.tok.text x
  | .op "<-" =>
    next
    let x ← r.unaryExpr
    match x with
    | .chanType .. =>
      let (x', sending, blame) ← reassociate s.pos x
      if sending then errorExpected blame "channel type"
      return x'
    | _ => return .unary s.pos "<-" x
  | .op "*" =>
    next
    let x ← r.unaryExpr
    return .star s.pos x
  | _ => r.primaryExpr none

/-- **A binary expression** whose operators bind at least as tightly as `prec1`, the left
operand read already when given. -/
def binaryExprBody (r : Rec) (given : Option Expr) (prec1 : Nat) : P Expr := do
  let mut x ← match given with
    | some x => pure x
    | none => r.unaryExpr
  for _ in [0:(← bound)] do
    let s ← get
    let op := if s.inRhs && s.tok == .op "=" then Tok.op "==" else s.tok
    let oprec := op.precedence
    if oprec < prec1 || oprec == 0 then return x
    let opPos ← expect op
    let y ← r.binaryExpr none (oprec + 1)
    x := .binary x opPos op.text y
  return x

/-- **A primary expression**: an operand and its suffixes. -/
def primaryExprBody (r : Rec) (given : Option Expr) : P Expr := do
  let mut x ← match given with
    | some x => pure x
    | none => r.operand
  for _ in [0:(← bound)] do
    match ← tok with
    | .op "." =>
      next
      match ← tok with
      | .ident =>
        let sel ← ident
        x := .selector x sel.pos (nameOf sel)
      | .op "(" => x ← r.typeAssertion x
      | _ =>
        let p ← here
        errorExpected p "selector or type assertion"
        if !(← isOp "\x7d") then next
        x := .selector x p "_"
    | .op "[" => x ← r.indexOrSlice x
    | .op "(" => x ← r.callOrConversion x
    | .op "\x7b" =>
      let t := x.unparen
      let lev := (← get).exprLev
      let literal := match t with
        | .bad _ | .ident .. | .selector .. | .index .. => lev ≥ 0
        | .arrayType .. | .structType .. | .mapType .. => true
        | _ => false
      if !literal then return x
      match x with
      | .paren .. => error t.pos "cannot parenthesize type in composite literal"
      | _ => pure ()
      x ← r.literalValue (some x)
    | _ => return x
  return x

/-- **An operand**: a name, a literal, an expression in parentheses, a function literal or a
type. -/
def operandBody (r : Rec) : P Expr := do
  let s ← get
  match s.tok with
  | .ident => ident
  | .int | .float | .imag | .char | .string =>
    next
    return .basicLit s.pos s.tok s.lit
  | .op "(" =>
    next
    let x ← withLev 1 r.rhs
    let rparen ← expect (.op ")")
    return .paren s.pos x rparen
  | .kw "func" => r.funcTypeOrLit
  | _ =>
    match ← r.tryIdentOrType with
    | some t => return t
    | none =>
      errorExpected s.pos "operand"
      advance stmtStart
      return .bad s.pos

/-- A function type, and its body when it is a literal. -/
def funcTypeOrLitBody (r : Rec) : P Expr := do
  let typ ← r.funcType
  if !(← isOp "\x7b") then return typ
  let body ← withLev 1 r.body
  return .funcLit typ body

/-- A type assertion after its dot; `.(type)` in a type switch. -/
def typeAssertionBody (r : Rec) (x : Expr) : P Expr := do
  let lparen ← expect (.op "(")
  let typ ← if (← isKw "type") then do
      next
      pure none
    else some <$> r.type
  let rparen ← expect (.op ")")
  return .typeAssert x lparen typ rparen

/-- **An index or slice expression**, or an instantiation. -/
def indexOrSliceBody (r : Rec) (x : Expr) : P Expr := do
  let lbrack ← expect (.op "[")
  if (← isOp "]") then
    let rb ← here
    errorExpected rb "operand"
    next
    return .index x lbrack [.bad rb] rb
  incLev
  let mut i0 : Option Expr := none
  let mut i1 : Option Expr := none
  let mut i2 : Option Expr := none
  let mut colon0 := 0
  let mut colon1 := 0
  let mut args : Array Expr := #[]
  if !(← isOp ":") then i0 := some (← r.rhs)
  let mut ncolons := 0
  match ← tok with
  | .op ":" =>
    for _ in [0:2] do
      if !(← isOp ":") then break
      let c ← here
      ncolons := ncolons + 1
      if ncolons == 1 then colon0 := c else colon1 := c
      next
      let t ← tok
      if t != .op ":" && t != .op "]" && t != .eof then
        let e ← r.rhs
        if ncolons == 1 then i1 := some e else i2 := some e
  | .op "," =>
    args := args.push (i0.getD (.bad 0))
    for _ in [0:(← bound)] do
      if !(← isOp ",") then break
      next
      let t ← tok
      if t != .op "]" && t != .eof then args := args.push (← r.type)
  | _ => pure ()
  decLev
  let rbrack ← expect (.op "]")
  if ncolons > 0 then
    if ncolons == 2 then
      if i1.isNone then
        error colon0 "middle index required in 3-index slice"
        i1 := some (.bad (colon0 + 1))
      if i2.isNone then
        error colon1 "final index required in 3-index slice"
        i2 := some (.bad (colon1 + 1))
    return .slice x lbrack i0 i1 i2 (ncolons == 2) rbrack
  if args.isEmpty then return .index x lbrack [i0.getD (.bad 0)] rbrack
  return packIndex x lbrack args.toList rbrack

/-- **A call or conversion**, with its arguments. -/
def callOrConversionBody (r : Rec) (fn : Expr) : P Expr := do
  let lparen ← expect (.op "(")
  incLev
  let mut list : Array Expr := #[]
  let mut dots : Option Nat := none
  for _ in [0:(← bound)] do
    let t ← tok
    if t == .op ")" || t == .eof || dots.isSome then break
    list := list.push (← r.rhs)
    if (← isOp "...") then
      dots := some (← here)
      next
    if !(← atComma "argument list" (.op ")")) then break
    next
  decLev
  let rparen ← expectClosing (.op ")") "argument list"
  return .call fn lparen list.toList dots rparen

/-- An element of a composite literal, with its key when one is written. -/
def elementBody (r : Rec) : P Expr := do
  let x ← if (← isOp "\x7b") then r.literalValue none else r.expr
  if (← isOp ":") then
    let colon ← here
    next
    let v ← if (← isOp "\x7b") then r.literalValue none else r.expr
    return .keyValue x colon v
  return x

/-- **A composite literal's value** in braces, after its type when one is written. -/
def literalValueBody (r : Rec) (typ : Option Expr) : P Expr := do
  let lbrace ← expect (.op "\x7b")
  incLev
  let mut elts : Array Expr := #[]
  if !(← isOp "\x7d") then
    for _ in [0:(← bound)] do
      let t ← tok
      if t == .op "\x7d" || t == .eof then break
      elts := elts.push (← r.element)
      if !(← atComma "composite literal" (.op "\x7d")) then break
      next
  decLev
  let rbrace ← expectClosing (.op "\x7d") "composite literal"
  return .compositeLit typ lbrace elts.toList rbrace

end Accessors.Source.Parse
