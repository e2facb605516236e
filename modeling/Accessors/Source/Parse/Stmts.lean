import Accessors.Source.Parse.Exprs

/-!
# Parsing statements

The statement productions: blocks, simple statements (expressions, sends, increments,
assignments, labels), `go`, `defer`, `return`, branches, `if`, `switch` and type switches,
`select` and `for` with its three forms.

In the header of a control statement the brace ends the header, so composite literals must be
parenthesised there; a header that is an assignment where a condition belongs is reported, with
that hint.
-/

namespace Accessors.Source.Parse

/-- **A block** in braces. -/
def bodyBody (r : Rec) : P Block := do
  let lbrace ← expect (.op "\x7b")
  let list ← r.stmtList
  let rbrace ← expect2 (.op "\x7d")
  return .mk lbrace list (rbrace.getD 0)

/-- Statements up to a closing brace or the next case. -/
def stmtListBody (r : Rec) : P (List Stmt) := do
  let mut list : Array Stmt := #[]
  for _ in [0:(← bound)] do
    let t ← tok
    if t == .kw "case" || t == .kw "default" || t == .op "\x7d" || t == .eof then break
    list := list.push (← r.stmt)
  return list.toList

/-- The assignment operators. -/
def assignOps : List String :=
  [":=", "=", "+=", "-=", "*=", "/=", "%=", "&=", "|=", "^=", "<<=", ">>=", "&^="]

/-- **A simple statement**; in mode 1 it may be labeled, in mode 2 it may be a range clause,
which the second result reports. -/
def simpleStmtBody (r : Rec) (mode : Nat) : P (Stmt × Bool) := do
  let x ← r.list false
  let x0 := x.headD (.bad 0)
  let s ← get
  match s.tok with
  | .op o =>
    if assignOps.contains o then
      next
      if mode == 2 && (← isKw "range") && (o == ":=" || o == "=") then
        let rp ← here
        next
        let y ← r.rhs
        return (.assign x s.pos o [.unary rp "range" y], true)
      let y ← r.list true
      return (.assign x s.pos o y, false)
  | _ => pure ()
  if x.length > 1 then errorExpected x0.pos "1 expression"
  let s ← get
  match s.tok with
  | .op ":" =>
    next
    match x0 with
    | .ident p name =>
      if mode == 1 then
        let st ← r.stmt
        return (.labeled p name s.pos st, false)
    | _ => pure ()
    error s.pos "illegal label declaration"
    return (.bad x0.pos, false)
  | .op "<-" =>
    next
    let y ← r.rhs
    return (.send x0 s.pos y, false)
  | .op "++" | .op "--" =>
    next
    return (.incDec x0 s.pos s.tok.text, false)
  | _ => return (.expr x0, false)

/-- The call after `go` or `defer`, when it is one. -/
def callStmtExpr (r : Rec) (callType : String) : P (Option Expr) := do
  let x ← r.rhs
  let t := x.unparen
  let x ← match x with
    | .paren .. => do
      error x.pos ("expression in " ++ callType ++ " must not be parenthesized")
      pure t
    | _ => pure x
  match x with
  | .call .. => return some x
  | .bad _ => return none
  | _ =>
    error (← get).prevEnd ("expression in " ++ callType ++ " must be function call")
    return none

/-- The expression a statement stands for; complains when a statement stands where an
expression belongs. -/
def makeExpr (s : Stmt) (want : String) : P Expr := do
  match s with
  | .expr x => return x
  | .assign lhs p .. =>
    let start := (lhs.head?.map Expr.pos).getD p
    error start ("expected " ++ want ++ ", found assignment (missing parentheses around composite literal?)")
    return .bad start
  | st =>
    error st.pos ("expected " ++ want ++ ", found simple statement (missing parentheses around composite literal?)")
    return .bad st.pos

/-- The header of an `if`: an optional initial statement and the condition. -/
def ifHeader (r : Rec) : P (Option Stmt × Expr) := do
  let s ← get
  if s.tok == .op "\x7b" then
    error s.pos "missing condition in if statement"
    return (none, .bad s.pos)
  let prevLev := s.exprLev
  modify fun s => { s with exprLev := -1 }
  let mut init : Option Stmt := none
  if !(← isOp ";") then
    if (← isKw "var") then
      next
      error (← here) "var declaration not allowed in if initializer"
    init := some (← r.simpleStmt 0).1
  let mut condStmt : Option Stmt := none
  let mut semi : Option (Nat × String) := none
  if !(← isOp "\x7b") then
    let s ← get
    if s.tok == .op ";" then
      semi := some (s.pos, s.lit)
      next
    else discard <| expect (.op ";")
    if !(← isOp "\x7b") then condStmt := some (← r.simpleStmt 0).1
  else
    condStmt := init
    init := none
  let mut cond : Option Expr := none
  match condStmt with
  | some cs => cond := some (← makeExpr cs "boolean expression")
  | none =>
    match semi with
    | some (p, l) =>
      if l == "\n" then error p "unexpected newline, expecting \x7b after if clause"
      else error p "missing condition in if statement"
    | none => pure ()
  let c ← match cond with
    | some c => pure c
    | none => do pure (Expr.bad (← here))
  modify fun s => { s with exprLev := prevLev }
  return (init, c)

/-- **An `if` statement** with its `else` branch. -/
def ifStmtBody (r : Rec) : P Stmt := do
  let pos ← expect (.kw "if")
  let (init, cond) ← ifHeader r
  let body ← r.body
  let mut els : Option Stmt := none
  if (← isKw "else") then
    next
    match ← tok with
    | .kw "if" => els := some (← r.ifStmt)
    | .op "\x7b" =>
      els := some (.block (← r.body))
      discard expectSemi
    | _ =>
      let p ← here
      errorExpected p "if statement or block"
      els := some (.bad p)
  else discard expectSemi
  return .ifStmt pos init cond body els

/-- One case of a switch. -/
def caseClauseBody (r : Rec) : P Stmt := do
  let pos ← here
  let mut list : Option (List Expr) := none
  if (← isKw "case") then
    next
    list := some (← r.list true)
  else discard <| expect (.kw "default")
  let colon ← expect (.op ":")
  let body ← r.stmtList
  return .caseClause pos list colon body

/-- Whether an expression is the `x.(type)` of a type switch. -/
def isTypeSwitchAssert : Expr → Bool
  | .typeAssert _ _ none _ => true
  | _ => false

/-- Whether a switch header is the guard of a type switch; `v = x.(type)` counts, with a
complaint. -/
def isTypeSwitchGuard : Option Stmt → P Bool
  | some (.expr x) => return isTypeSwitchAssert x
  | some (.assign [_] tokPos tok [y]) => do
    if !isTypeSwitchAssert y then return false
    if tok == "=" then
      error tokPos "expected ':=', found '='"
      return true
    return tok == ":="
  | _ => return false

/-- The clauses of a switch or select in braces, each read by `clause`. -/
def clauses (clause : P Stmt) : P Block := do
  let lbrace ← expect (.op "\x7b")
  let mut list : Array Stmt := #[]
  for _ in [0:(← bound)] do
    let t ← tok
    if !(t == .kw "case" || t == .kw "default") then break
    list := list.push (← clause)
  let rbrace ← expect (.op "\x7d")
  discard expectSemi
  return .mk lbrace list.toList rbrace

/-- **A `switch` or type switch statement.** -/
def switchStmtBody (r : Rec) : P Stmt := do
  let pos ← expect (.kw "switch")
  let mut s1 : Option Stmt := none
  let mut s2 : Option Stmt := none
  if !(← isOp "\x7b") then
    let prevLev := (← get).exprLev
    modify fun s => { s with exprLev := -1 }
    if !(← isOp ";") then s2 := some (← r.simpleStmt 0).1
    if (← isOp ";") then
      next
      s1 := s2
      s2 := none
      if !(← isOp "\x7b") then s2 := some (← r.simpleStmt 0).1
    modify fun s => { s with exprLev := prevLev }
  let typeSwitch ← isTypeSwitchGuard s2
  let body ← clauses r.caseClause
  if typeSwitch then
    return .typeSwitch pos s1 (s2.getD (.bad pos)) body
  let tag ← match s2 with
    | some s => some <$> makeExpr s "switch expression"
    | none => pure none
  return .switchStmt pos s1 tag body

/-- One case of a select: a send, a receive, or `default`. -/
def commClauseBody (r : Rec) : P Stmt := do
  let pos ← here
  let mut comm : Option Stmt := none
  if (← isKw "case") then
    next
    let lhs ← r.list false
    let l0 := lhs.headD (.bad 0)
    let s ← get
    if s.tok == .op "<-" then
      if lhs.length > 1 then errorExpected l0.pos "1 expression"
      next
      let rhs ← r.rhs
      comm := some (.send l0 s.pos rhs)
    else if s.tok == .op "=" || s.tok == .op ":=" then
      if lhs.length > 2 then errorExpected l0.pos "1 or 2 expressions"
      next
      let rhs ← r.rhs
      comm := some (.assign (lhs.take 2) s.pos s.tok.text [rhs])
    else
      if lhs.length > 1 then errorExpected l0.pos "1 expression"
      comm := some (.expr l0)
  else discard <| expect (.kw "default")
  let colon ← expect (.op ":")
  let body ← r.stmtList
  return .commClause pos comm colon body

/-- **A `select` statement.** -/
def selectStmtBody (r : Rec) : P Stmt := do
  let pos ← expect (.kw "select")
  let body ← clauses r.commClause
  return .select pos body

/-- **A `for` statement**: a loop with a condition, a three-clause loop, or a range loop. -/
def forStmtBody (r : Rec) : P Stmt := do
  let pos ← expect (.kw "for")
  let mut s1 : Option Stmt := none
  let mut s2 : Option Stmt := none
  let mut s3 : Option Stmt := none
  let mut isRange := false
  if !(← isOp "\x7b") then
    let prevLev := (← get).exprLev
    modify fun s => { s with exprLev := -1 }
    if !(← isOp ";") then
      if (← isKw "range") then
        let rp ← here
        next
        let y ← r.rhs
        s2 := some (.assign [] 0 "" [.unary rp "range" y])
        isRange := true
      else
        let (st, rg) ← r.simpleStmt 2
        s2 := some st
        isRange := rg
    if !isRange && (← isOp ";") then
      next
      s1 := s2
      s2 := none
      if !(← isOp ";") then s2 := some (← r.simpleStmt 0).1
      discard expectSemi
      if !(← isOp "\x7b") then s3 := some (← r.simpleStmt 0).1
    modify fun s => { s with exprLev := prevLev }
  let body ← r.body
  discard expectSemi
  if isRange then
    match s2 with
    | some (.assign lhs tokPos tok [.unary _ _ x]) =>
      match lhs with
      | [] => return .rangeStmt pos none none tokPos tok x body
      | [k] => return .rangeStmt pos (some k) none tokPos tok x body
      | [k, v] => return .rangeStmt pos (some k) (some v) tokPos tok x body
      | _ =>
        errorExpected (lhs.getLastD (.bad 0)).pos "at most 2 expressions"
        return .bad pos
    | _ => return .bad pos
  let cond ← match s2 with
    | some s => some <$> makeExpr s "boolean or range expression"
    | none => pure none
  return .forStmt pos s1 cond s3 body

/-- Whether a token may start an expression statement. -/
def startsSimpleStmt (t : Tok) : Bool :=
  match t with
  | .ident | .int | .float | .imag | .char | .string | .kw "func" | .op "(" | .op "["
  | .kw "struct" | .kw "map" | .kw "chan" | .kw "interface" | .op "+" | .op "-" | .op "*"
  | .op "&" | .op "^" | .op "<-" | .op "!" => true
  | _ => false

/-- **A statement.** -/
def stmtBody (r : Rec) : P Stmt := do
  let s ← get
  match s.tok with
  | .kw "const" | .kw "type" | .kw "var" =>
    match ← r.decl stmtStart with
    | .gen d => return .decl d
    | _ => return .bad s.pos
  | .kw "go" | .kw "defer" =>
    next
    let call ← callStmtExpr r s.lit
    discard expectSemi
    match call with
    | some c => return if s.tok == .kw "go" then .go s.pos c else .defer s.pos c
    | none => return .bad s.pos
  | .kw "return" =>
    next
    let t ← tok
    let mut results : List Expr := []
    if t != .op ";" && t != .op "\x7d" then results ← r.list true
    discard expectSemi
    return .ret s.pos results
  | .kw "break" | .kw "continue" | .kw "goto" | .kw "fallthrough" =>
    next
    let mut label : Option (Nat × String) := none
    if s.tok != .kw "fallthrough" && (← tok) == .ident then
      let l ← ident
      label := some (l.pos, nameOf l)
    discard expectSemi
    return .branch s.pos s.tok.text label
  | .op "\x7b" =>
    let b ← r.body
    discard expectSemi
    return .block b
  | .kw "if" => r.ifStmt
  | .kw "switch" => r.switchStmt
  | .kw "select" => r.selectStmt
  | .kw "for" => r.forStmt
  | .op ";" =>
    next
    return .empty s.pos (s.lit == "\n")
  | .op "\x7d" => return .empty s.pos true
  | t =>
    if startsSimpleStmt t then
      let (st, _) ← r.simpleStmt 1
      match st with
      | .labeled .. => pure ()
      | _ => discard expectSemi
      return st
    errorExpected s.pos "statement"
    advance stmtStart
    return .bad s.pos

end Accessors.Source.Parse
