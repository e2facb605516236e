import Accessors.Source.Parse.Stmts

/-!
# Parsing files

The declarations of a file (imports, constants, variables, types, functions and methods), the
file itself, and the parser entry point.

A file starts with its package clause; when that fails, nothing else is read, as the text is
most likely not Go at all. The result is the file, or every error recorded, sorted by position,
the first one with the count of the others: `models.go:4:4: expected type, found '...'`, or
`... (and 2 more errors)`.

Type parameters and array lengths look alike after `type T[`: the text in the brackets is read
as an expression first and then split into a parameter name and constraint when it can be.
-/

namespace Accessors.Source.Parse

/-- An import declaration's spec, with the documentation comments before it; it is also
recorded as an import of the file. -/
def importSpec (doc : Option CommentGroup) : P Spec := do
  let mut name : Option (Nat × String) := none
  let s ← get
  match s.tok with
  | .ident =>
    let i ← ident
    name := some (i.pos, nameOf i)
  | .op "." =>
    name := some (s.pos, ".")
    next
  | _ => pure ()
  let s ← get
  let mut path := ""
  if s.tok == .string then
    path := s.lit
    next
  else if s.tok.isLiteral then
    error s.pos "import path must be a string"
    next
  else
    error s.pos "missing import path"
    advance exprEnd
  let comment ← expectSemi
  let spec : ImportSpec := ⟨name.map (·.2), path⟩
  modify fun s => { s with imports := s.imports.push spec }
  return .importSpec (doc.map CommentGroup.pos) (comment.map CommentGroup.pos) name s.pos path

/-- The names with their offsets of a list of name expressions. -/
def identsOf (xs : List Expr) : List (Nat × String) := xs.map fun x => (x.pos, nameOf x)

/-- A constant or variable spec. -/
def valueSpec (r : Rec) (isConst : Bool) (_doc : Option CommentGroup) : P Spec := do
  let names ← identList
  let mut typ : Option Expr := none
  let mut values : List Expr := []
  if isConst then
    let t ← tok
    if t != .eof && t != .op ";" && t != .op ")" then
      typ ← r.tryIdentOrType
      if (← isOp "=") then
        next
        values ← r.list true
  else
    if !(← isOp "=") then typ := some (← r.type)
    if (← isOp "=") then
      next
      values ← r.list true
  let comment ← expectSemi
  return .valueSpec (identsOf names) typ values (textsOf comment)

/-- Whether an expression is certainly a type element and not a value. -/
def isTypeElem : Expr → Bool
  | .arrayType .. | .structType .. | .funcType .. | .interfaceType .. | .mapType .. | .chanType .. => true
  | .binary x _ _ y => isTypeElem x || isTypeElem y
  | .unary _ op _ => op == "~"
  | .paren _ x _ => isTypeElem x
  | _ => false

/-- Splits the expression after `type T[` into a type parameter name and its constraint, when
it reads as one; `force` when a comma follows. -/
def extractName (x : Expr) (force : Bool) : Option Expr × Option Expr :=
  match x with
  | .ident .. => (some x, none)
  | .binary (.ident p n) opPos "*" y =>
    if force || isTypeElem y then (some (.ident p n), some (.star opPos y)) else (none, none)
  | .binary lhs opPos "|" y =>
    match extractName lhs (force || isTypeElem y) with
    | (some name, some l) => (some name, some (.binary l opPos "|" y))
    | _ => (none, none)
  | .call (.ident p n) lparen [arg] none rparen =>
    if force || isTypeElem arg then (some (.ident p n), some (.paren lparen arg rparen))
    else (none, none)
  | _ => (none, none)

/-- **A type spec**: a name, type parameters or an array length in brackets, `=` for an alias,
and the type. -/
def typeSpec (r : Rec) (_doc : Option CommentGroup) : P Spec := do
  let name ← ident
  let s ← get
  let (tparams, assign, typ) ← if s.tok == .op "[" then do
      let lbrack := s.pos
      next
      if (← tok) == .ident then
        let mut x ← ident
        if !(← isOp "[") then
          incLev
          let lhs ← r.primaryExpr (some x)
          x ← r.binaryExpr (some lhs) 1
          decLev
        let (pname, ptype) := extractName x ((← tok) == .op ",")
        if pname.isSome && (ptype.isSome || (← tok) != .op "]") then
          let list ← r.parameterList pname ptype (.op "]")
          let rbrack ← expect (.op "]")
          let assign ← if (← isOp "=") then do
              let a ← here
              next
              pure (some a)
            else pure none
          pure (some (FieldList.mk (some lbrack) list (some rbrack)), assign, ← r.type)
        else pure (none, none, ← r.arrayType lbrack (some x))
      else pure (none, none, ← r.arrayType lbrack none)
    else do
      let assign := if s.tok == .op "=" then some s.pos else none
      if assign.isSome then next
      pure (none, assign, ← r.type)
  discard expectSemi
  return .typeSpec (name.pos, nameOf name) tparams assign typ

/-- **A declaration of specs**: one, or a list in parentheses, each spec read with the
documentation comments before it. -/
def genDecl (keyword : String) (spec : Option CommentGroup → P Spec) : P GenDecl := do
  let doc := (← get).leadComment
  let pos ← expect (.kw keyword)
  if (← isOp "(") then
    let lparen ← here
    next
    let mut list : Array Spec := #[]
    for _ in [0:(← bound)] do
      let t ← tok
      if t == .op ")" || t == .eof then break
      list := list.push (← spec (← get).leadComment)
    let rparen ← expect (.op ")")
    discard expectSemi
    return .mk doc.isSome pos keyword (some lparen) list.toList (some rparen)
  return .mk doc.isSome pos keyword none [← spec none] none

/-- **A function or method declaration.** -/
def funcDecl (r : Rec) : P Decl := do
  let doc := (← get).leadComment
  let pos ← expect (.kw "func")
  let mut recv : Option FieldList := none
  if (← isOp "(") then recv := some (← r.parameters false).params
  let name ← ident
  let ps ← r.parameters true
  let mut tparams := ps.typeParams
  if recv.isSome then
    if let some tp := ps.typeParams then
      error (tp.opening.getD 0) "method must have no type parameters"
      tparams := none
  let results ← r.result
  let s ← get
  let mut body : Option Block := none
  match s.tok with
  | .op "\x7b" =>
    body := some (← r.body)
    discard expectSemi
  | .op ";" =>
    next
    if (← isOp "\x7b") then
      error (← here) "unexpected semicolon or newline before \x7b"
      body := some (← r.body)
      discard expectSemi
  | _ => discard expectSemi
  return .func doc.isSome pos recv (name.pos, nameOf name)
    (.funcType (some pos) tparams ps.params results) body

/-- **A declaration**; `sync` says where to resume after a token that starts none. -/
def declBody (r : Rec) (sync : Tok → Bool) : P Decl := do
  let s ← get
  match s.tok with
  | .kw "import" => return .gen (← genDecl "import" importSpec)
  | .kw "const" => return .gen (← genDecl "const" (valueSpec r true))
  | .kw "var" => return .gen (← genDecl "var" (valueSpec r false))
  | .kw "type" => return .gen (← genDecl "type" (typeSpec r))
  | .kw "func" => funcDecl r
  | _ =>
    errorExpected s.pos "declaration"
    advance sync
    return .bad s.pos

/-! ### Tying the productions -/

/-- **The productions** with a depth budget: each call through the record spends one level. -/
def knot : Nat → Rec
  | 0 => Rec.exhausted
  | n + 1 => {
      type := fun s => typeBody (knot n) s
      tryIdentOrType := fun s => tryIdentOrTypeBody (knot n) s
      typeInstance := fun x s => typeInstanceBody (knot n) x s
      qualifiedIdent := fun x s => qualifiedIdentBody (knot n) x s
      arrayType := fun l x s => arrayTypeBody (knot n) l x s
      arrayFieldOrTypeInstance := fun x s => arrayFieldOrTypeInstanceBody (knot n) x s
      structType := fun s => structTypeBody (knot n) s
      fieldDecl := fun s => fieldDeclBody (knot n) s
      pointerType := fun s => pointerTypeBody (knot n) s
      dotsType := fun s => dotsTypeBody (knot n) s
      paramDecl := fun x b s => paramDeclBody (knot n) x b s
      parameterList := fun a b c s => parameterListBody (knot n) a b c s
      parameters := fun b s => parametersBody (knot n) b s
      result := fun s => resultBody (knot n) s
      funcType := fun s => funcTypeBody (knot n) s
      methodSpec := fun s => methodSpecBody (knot n) s
      embeddedElem := fun x s => embeddedElemBody (knot n) x s
      embeddedTerm := fun s => embeddedTermBody (knot n) s
      interfaceType := fun s => interfaceTypeBody (knot n) s
      mapType := fun s => mapTypeBody (knot n) s
      chanType := fun s => chanTypeBody (knot n) s
      expr := fun s => exprBody (knot n) s
      rhs := fun s => rhsBody (knot n) s
      list := fun b s => listBody (knot n) b s
      unaryExpr := fun s => unaryExprBody (knot n) s
      binaryExpr := fun x p s => binaryExprBody (knot n) x p s
      primaryExpr := fun x s => primaryExprBody (knot n) x s
      operand := fun s => operandBody (knot n) s
      funcTypeOrLit := fun s => funcTypeOrLitBody (knot n) s
      literalValue := fun x s => literalValueBody (knot n) x s
      indexOrSlice := fun x s => indexOrSliceBody (knot n) x s
      callOrConversion := fun x s => callOrConversionBody (knot n) x s
      typeAssertion := fun x s => typeAssertionBody (knot n) x s
      element := fun s => elementBody (knot n) s
      body := fun s => bodyBody (knot n) s
      stmtList := fun s => stmtListBody (knot n) s
      stmt := fun s => stmtBody (knot n) s
      simpleStmt := fun m s => simpleStmtBody (knot n) m s
      ifStmt := fun s => ifStmtBody (knot n) s
      switchStmt := fun s => switchStmtBody (knot n) s
      selectStmt := fun s => selectStmtBody (knot n) s
      forStmt := fun s => forStmtBody (knot n) s
      caseClause := fun s => caseClauseBody (knot n) s
      commClause := fun s => commClauseBody (knot n) s
      decl := fun f s => declBody (knot n) f s }

/-- **A file**: the package clause, imports, then the other declarations. Nothing after a
package clause with errors is read. -/
def fileBody (r : Rec) : P (Option SourceFile) := do
  if !(← get).errors.isEmpty then return none
  let pos ← expect (.kw "package")
  let name ← ident
  discard expectSemi
  if !(← get).errors.isEmpty then return none
  let mut decls : Array Decl := #[]
  for _ in [0:(← bound)] do
    if !(← isKw "import") then break
    decls := decls.push (.gen (← genDecl "import" importSpec))
  let mut prev : Tok := .kw "import"
  for _ in [0:(← bound)] do
    let s ← get
    if s.tok == .eof then break
    if s.tok == .kw "import" && prev != .kw "import" then
      error s.pos "imports must appear before other declarations"
    prev := s.tok
    decls := decls.push (← r.decl declStart)
  return some ⟨pos, name.pos, nameOf name, decls.toList, []⟩

end Parse

/-! ### Entry point -/

/-- An error of a source file: line, column and message. -/
structure SourceError where
  line : Nat
  column : Nat
  msg : String
  deriving Repr, Inhabited, DecidableEq

/-- Whether one error comes before another: by line, column, then message. -/
def SourceError.before (a b : SourceError) : Bool :=
  a.line < b.line || (a.line == b.line && (a.column < b.column ||
    (a.column == b.column && decide (a.msg < b.msg))))

/-- Errors sorted by position, earlier errors first among equals. -/
def sortErrors (errs : List SourceError) : List SourceError :=
  errs.foldl (fun acc e => insertSorted e acc) []
where
  /-- Puts an error after every error that does not come after it. -/
  insertSorted (e : SourceError) : List SourceError → List SourceError
    | [] => [e]
    | x :: xs => if e.before x then e :: x :: xs else x :: insertSorted e xs

/-- The text of the errors of a file: the first, with the number of the others. -/
def errorsText (file : String) (errs : List SourceError) : String :=
  match errs with
  | [] => "no errors"
  | [e] => s!"{file}:{e.line}:{e.column}: {e.msg}"
  | e :: more => s!"{file}:{e.line}:{e.column}: {e.msg} (and {more.length} more errors)"

/-- **Parses Go source**: the file and its imports, or the sorted errors. -/
def parseSource (src : String) : Except (List SourceError) (SourceFile × List ImportSpec) :=
  let toks := tokenize src
  let starts := lineStarts src
  let init : PState :=
    { rest := toks, tok := .illegal, lit := "", pos := 0, prevEnd := 0, errors := #[],
      leadComment := none, lineComment := none, syncPos := 0, syncCnt := 0, exprLev := 0,
      inRhs := false, starts, imports := #[], comments := #[] }
  let r := Parse.knot (64 * toks.length + 1000)
  let run : P (Option SourceFile) := do
    Parse.next
    Parse.fileBody r
  let (file, st) := match run.run init with
    | .ok f s => (f, s)
    | .error _ s => (none, s)
  let errs := st.errors.toList.map fun (off, msg) =>
    let (l, c) := lineColumn starts off
    SourceError.mk l c msg
  if errs.isEmpty then
    match file with
    | some f => .ok ({ f with comments := st.comments.toList }, st.imports.toList)
    | none => .error []
  else .error (sortErrors errs)

end Accessors.Source
