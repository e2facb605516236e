import Accessors.Source.Print.State

/-!
# Printing syntax trees as Go source

The layout rules of Go source, applied to a tree whose offsets say where the source broke its
lines:

* **lists** (arguments, elements, results) stay on one line when the source had them on one;
  otherwise the source's line breaks are kept, the lines after the first are indented, and a
  list whose closing bracket is on a line of its own ends with a comma. Keys of consecutive
  `key: value` lines are aligned unless their sizes differ too much (`exprList`);
* **binary operators** get blanks around them depending on the precedences mixed in the
  expression and on how deeply it is nested (`cutoff`): `a + b*c`, but `f(a+b, c)`;
* **declarations** in parentheses align their names, types, values and comments in columns,
  keeping the type column when some spec has a type (`keepTypeColumn`);
* **blocks** put each statement on a line of its own, keeping at most one blank line between
  them; a function whose body is small, on one line in the source, and at most 100 characters
  with its header stays on one line (`funcBody`);
* **struct and interface types** written on one line stay so when they have at most one small
  field (`isOneLineFieldList`);
* top-level declarations are separated by a blank line when their kind changes or they have
  documentation.

The size of a node on one line (`exprSize`, `stmtSize`) is found by printing it alone.

All printing functions take a budget of nested calls (`fuel`); `fileFuel` is enough for any
tree of the given source.

Main statements: the cutoff between spaced and unspaced operators is 6 for an expression of one
kind of operator at the top (`cutoff_plain`).
-/

namespace Accessors.Source.Print

/-- How a parameter list is written: parameters, type parameters of a function, or type
parameters of a type. -/
inductive ParamMode where
  | funcParam
  | funcTParam
  | typeTParam
  deriving DecidableEq

/-- The precedence of a binary operator. -/
def binaryPrec : String → Nat
  | "||" => 1
  | "&&" => 2
  | "==" | "!=" | "<" | "<=" | ">" | ">=" => 3
  | "+" | "-" | "|" | "^" => 4
  | "*" | "/" | "%" | "<<" | ">>" | "&" | "&^" => 5
  | _ => 0

/-- The precedence of unary operators. -/
def unaryPrec : Nat := 6

/-- The precedence of primary expressions. -/
def highestPrec : Nat := 7

/-- A size larger than any line. -/
def infiniteSize : Nat := 1000000

/-- Whether a binary expression and its operands mix precedences 4 and 5, and the largest
clash of an operator with a unary operand after it (`a / *p`, `a & ^b`, `a - -b`). -/
def walkBinary : Expr → Bool × Bool × Nat
  | .binary x _ op y =>
    let prec := binaryPrec op
    let has4 := prec == 4
    let has5 := prec == 5
    let (h4, h5, mp) := match x with
      | .binary _ _ xop _ =>
        if binaryPrec xop < prec then (false, false, 0) else walkBinary x
      | _ => (false, false, 0)
    let (has4, has5, maxProblem) := (has4 || h4, has5 || h5, mp)
    match y with
    | .binary _ _ yop _ =>
      if binaryPrec yop ≤ prec then (has4, has5, maxProblem)
      else
        let (h4, h5, mp) := walkBinary y
        (has4 || h4, has5 || h5, max maxProblem mp)
    | .star .. => (has4, has5, if op == "/" then 5 else maxProblem)
    | .unary _ uop _ =>
      match op ++ uop with
      | "/*" | "&&" | "&^" => (has4, has5, 5)
      | "++" | "--" => (has4, has5, max maxProblem 4)
      | _ => (has4, has5, maxProblem)
    | _ => (has4, has5, maxProblem)
  | _ => (false, false, 0)

/-- **The precedence below which binary operators get blanks** around them. -/
def cutoff (e : Expr) (depth : Nat) : Nat :=
  let (has4, has5, maxProblem) := walkBinary e
  if maxProblem > 0 then maxProblem + 1
  else if has4 && has5 then (if depth == 1 then 5 else 4)
  else if depth == 1 then 6 else 4

/-- One level of depth less, but at least one. -/
def reduceDepth (depth : Nat) : Nat := max (depth - 1) 1

/-- Whether an operand has the precedence of its binary expression. -/
def diffPrec (e : Expr) (prec : Nat) : Nat :=
  match e with
  | .binary _ _ op _ => if binaryPrec op == prec then 0 else 1
  | _ => 1

/-- Whether an expression is a type name, possibly qualified. -/
def isTypeName : Expr → Bool
  | .ident .. => true
  | .selector x .. => isTypeName x
  | _ => false

mutual
/-- Whether an expression holds a composite literal of a named type outside parentheses. -/
def hasNamedLiteral : Expr → Bool
  | .paren .. => false
  | .compositeLit t .. => match t with
    | some t => isTypeName t
    | none => false
  | .ellipsis _ (some e) | .star _ e | .unary _ _ e | .selector e .. => hasNamedLiteral e
  | .index x _ is _ => hasNamedLiteral x || hasNamedLiteralList is
  | .slice x _ lo hi mx _ _ =>
    hasNamedLiteral x || hasNamedLiteralOpt lo || hasNamedLiteralOpt hi || hasNamedLiteralOpt mx
  | .typeAssert x _ t _ => hasNamedLiteral x || hasNamedLiteralOpt t
  | .call fn _ args _ _ => hasNamedLiteral fn || hasNamedLiteralList args
  | .binary x _ _ y | .keyValue x _ y | .mapType _ x y => hasNamedLiteral x || hasNamedLiteral y
  | .arrayType _ len elt => hasNamedLiteralOpt len || hasNamedLiteral elt
  | .chanType _ _ _ v => hasNamedLiteral v
  | _ => false

/-- Whether some expression of a list holds a named composite literal. -/
def hasNamedLiteralList : List Expr → Bool
  | [] => false
  | e :: es => hasNamedLiteral e || hasNamedLiteralList es

/-- Whether an optional expression holds a named composite literal. -/
def hasNamedLiteralOpt : Option Expr → Bool
  | some e => hasNamedLiteral e
  | none => false
end

/-- An expression without the parentheses around it, unless they protect a composite literal
of a named type. -/
def stripParens : Expr → Expr
  | .paren p x r => if hasNamedLiteral x then .paren p x r else stripParens x
  | e => e

/-- An expression without any parentheses around it. -/
def stripParensAlways : Expr → Expr
  | .paren _ x _ => stripParensAlways x
  | e => e

/-- Whether an expression is certainly a type element and not a value. -/
def isTypeElem : Expr → Bool
  | .arrayType .. | .structType .. | .funcType .. | .interfaceType .. | .mapType ..
  | .chanType .. => true
  | .unary _ op _ => op == "~"
  | .binary x _ _ y => isTypeElem x || isTypeElem y
  | .paren _ x _ => isTypeElem x
  | _ => false

/-- Whether a type parameter's constraint would read as an expression with its name
(`[P *T]`), so that a comma must follow. -/
def combinesWithName : Expr → Bool
  | .star _ x => !isTypeElem x
  | .binary x _ _ y => combinesWithName x && !isTypeElem y
  | _ => false

/-- The size of a list of names on one line, counted up to `maxSize`. -/
def identListSize (names : List (Nat × String)) (maxSize : Nat) : Nat :=
  let rec go : List (Nat × String) → Nat → Bool → Nat
    | [], size, _ => size
    | (_, n) :: rest, size, first =>
      let size := (if first then size else size + 2) + n.length
      if size ≥ maxSize then size else go rest size false
  go names 0 true

/-- **The normal form of a number literal**: prefixes and exponent letters in lower case,
leading zeros of an integer imaginary literal dropped; hexadecimal digits keep their case. -/
def normalizedNumber (kind : Tok) (lit : String) : String :=
  if !(kind == .int || kind == .float || kind == .imag) || lit.length < 2 then lit else
  let cs := lit.toList
  let replaceLast (c r : Char) (cs : List Char) : List Char :=
    match (cs.zipIdx.filter (·.1 == c)).getLast? with
    | some (_, i) => cs.set i r
    | none => cs
  match cs.take 2 with
  | ['0', 'X'] => String.ofList (replaceLast 'P' 'p' ('0' :: 'x' :: cs.drop 2))
  | ['0', 'x'] => String.ofList (replaceLast 'P' 'p' cs)
  | ['0', 'O'] => String.ofList ('0' :: 'o' :: cs.drop 2)
  | ['0', 'o'] | ['0', 'b'] => lit
  | ['0', 'B'] => String.ofList ('0' :: 'b' :: cs.drop 2)
  | _ =>
    if cs.contains 'E' then String.ofList (replaceLast 'E' 'e' cs)
    else if cs.getLast? == some 'i' && !cs.contains '.' && !cs.contains 'e' then
      let t := cs.dropWhile fun c => c == '0' || c == '_'
      if t == ['i'] then "0i" else String.ofList t
    else lit

/-- Whether a character may appear in an import path. -/
def importPathChar (c : Char) : Bool :=
  c.toNat > 32 && c.toNat != 127 && !"!\"#$%&'()*,:;<=>?[\\]^\x7b|\x7d`\uFFFD".contains c &&
    !(c.toNat ≥ 0x80 && c.toNat < 0xA0)

/-- An import path in double quotes when it is a valid path written otherwise. -/
def sanitizeImportPath (lit : String) : String :=
  let body? : Option String := match lit.toList with
    | '\x60' :: rest =>
      match rest.reverse with
      | '\x60' :: body => some (String.ofList body.reverse)
      | _ => none
    | _ => Text.unquote? lit
  match body? with
  | some s => if s.isEmpty || !s.toList.all importPathChar then lit else Text.quote s
  | none => lit

/-- **Which specs of a grouped declaration keep a type column**: those in a run of specs with
values in which some spec has a type. -/
def keepTypeColumn (specs : List Spec) : List Bool :=
  let rec go : List Spec → Option Nat → Bool → Nat → List Bool → List Bool
    | [], run, keep, i, acc =>
      match run with
      | some i0 => acc ++ List.replicate (i - i0) keep
      | none => acc
    | s :: rest, run, keep, i, acc =>
      let (hasValues, hasType) := match s with
        | .valueSpec _ t vs _ => (!vs.isEmpty, t.isSome)
        | _ => (false, false)
      let (run, keep, acc) :=
        if hasValues then
          match run with
          | some i0 => (some i0, keep, acc)
          | none => (some i, false, acc)
        else
          match run with
          | some i0 => (none, keep, acc ++ List.replicate (i - i0) keep ++ [false])
          | none => (none, keep, acc ++ [false])
      go rest run (keep || hasType) (i + 1) acc
  go specs none false 0 []

/-- The start of an optional expression. -/
def Expr.optPos : Option Expr → Nat
  | some e => e.pos
  | none => 0

/-- The spelling of a unary operator as a token. -/
def unaryTok (op : String) : Tok := if op == "range" then .kw "range" else .op op

/-- The number of lines a declaration spans in the source. -/
def numLines (d : Decl) : PM Nat := do
  return (← lineFor d.endPos) + 1 - (← lineFor d.pos)

/-- The output column distance from `startCol` when the source position is still on the line
of `start`; infinite otherwise. -/
def distanceFrom (start startCol : Nat) : PM Nat := do
  let p ← get
  if p.pos.line > 0 && (← lineFor start) == p.pos.line then return p.out.column - startCol
  return 1 <<< 30

/-- The printed size of an action run alone, when it fits on one line: its length. -/
def measured (starts : Array Nat) (act : PM Unit) : Option Nat :=
  let run : PM Unit := do
    act
    modify fun p => { p with impliedSemi := false }
    discard <| flush Position.infinity .eof
  let ((), q) := run.run (Printer.fresh starts #[] false)
  let text := Text.trimLines q.output.toList
  if text.contains '\n' then none else some (Text.byteLength text)

/-- The number of labels in front of a statement. -/
def labelDepth (s : Stmt) : Nat :=
  match s with
  | .labeled _ _ _ st => labelDepth st + 1
  | _ => 0

/-- Whether a list of results reads better indented as a whole: it spans lines and either an
element starts on a later line than the previous one ends, or several elements span lines. -/
def indentList (list : List Expr) : PM Bool := do
  if list.length < 2 then return false
  let some first := list.head? | return false
  let b ← lineFor first.pos
  let e ← lineFor (list.getLast?.getD first).endPos
  if !(0 < b && b < e) then return false
  let mut n := 0
  let mut line := b
  for x in list do
    let xb ← lineFor x.pos
    let xe ← lineFor x.endPos
    if line < xb then return true
    if xb < xe then n := n + 1
    line := xe
  return n > 1

mutual
/-- **Prints a list of expressions**, keeping the source's line breaks between them when it
spans lines; `prev0` and `next0` are the tokens around the list. -/
def exprList (fuel : Nat) (prev0 : Option Nat) (list : List Expr) (depth : Nat)
    (commaTerm noIndent : Bool) (next0 : Option Nat) : PM Unit :=
  match fuel with
  | 0 => pure ()
  | f + 1 => do
  let some first := list.head? | return
  let prev ← match prev0 with
    | some o => posFor o
    | none => pure ⟨0, 0, 0⟩
  let next ← match next0 with
    | some o => posFor o
    | none => pure ⟨0, 0, 0⟩
  let line ← lineFor first.pos
  let endLine ← lineFor (list.getLast?.getD first).endPos
  if prev.line > 0 && prev.line == line && line == endLine then
    for (x, i) in list.zipIdx do
      if i > 0 then
        setPos x.pos
        op ","
        space .blank
      expr0 f x depth
    return
  let mut ws : Space := if noIndent then .ignore else .indent
  let mut prevBreak : Int := -1
  if prev.line > 0 && prev.line < line then
    if (← linebreak line 0 ws true) > 0 then
      ws := .ignore
      prevBreak := 0
  let mut size := 0
  let mut lnsum : Float := 0
  let mut count := 0
  let mut prevLine := prev.line
  for (x, i) in list.zipIdx do
    let line ← lineFor x.pos
    let mut useFF := true
    let prevSize := size
    size ← exprSize f x infiniteSize
    let pair := match x with
      | .keyValue k c v => some (k, c, v)
      | _ => none
    if size ≤ infiniteSize && prev.line > 0 && next.line > 0 then
      if let some (k, _, _) := pair then size ← exprSize f k infiniteSize
    else size := 0
    if prevSize > 0 && size > 0 then
      if count == 0 || (prevSize ≤ 40 && size ≤ 40) then useFF := false
      else
        let geomean := Float.exp (lnsum / count.toFloat)
        let ratio := size.toFloat / geomean
        useFF := 2.5 * ratio ≤ 1 || 2.5 ≤ ratio
    let needsLinebreak := 0 < prevLine && prevLine < line
    if i > 0 then
      if !needsLinebreak then setPos x.pos
      op ","
      let mut needsBlank := true
      if needsLinebreak then
        let nbreaks ← linebreak line 0 ws (useFF || prevBreak + 1 < (i : Int))
        if nbreaks > 0 then
          ws := .ignore
          prevBreak := i
          needsBlank := false
        if nbreaks > 1 then
          lnsum := 0
          count := 0
      if needsBlank then space .blank
    match pair with
    | some (k, c, v) =>
      if list.length > 1 && size > 0 && needsLinebreak then
        expr f k
        setPos c
        op ":"
        space .vtab
        expr f v
      else expr0 f x depth
    | none => expr0 f x depth
    if size > 0 then
      lnsum := lnsum + Float.log size.toFloat
      count := count + 1
    prevLine ← lineFor x.endPos
  if commaTerm && next.line > 0 && (← get).pos.line < next.line then
    op ","
    if ws == .ignore && !noIndent then space .unindent
    space .formfeed
    return
  if ws == .ignore && !noIndent then space .unindent
termination_by structural fuel

/-- Prints names separated by commas; a list over several lines is indented when asked. -/
def identList (fuel : Nat) (names : List (Nat × String)) (indent : Bool) : PM Unit :=
  match fuel with
  | 0 => pure ()
  | f + 1 => exprList f none (names.map fun (p, n) => Expr.ident p n) 1 false (!indent) none
termination_by structural fuel

/-- Prints an expression at the lowest precedence. -/
def expr0 (fuel : Nat) (e : Expr) (depth : Nat) : PM Unit :=
  match fuel with
  | 0 => pure ()
  | f + 1 => expr1 f e 0 depth
termination_by structural fuel

/-- Prints an expression at the top. -/
def expr (fuel : Nat) (e : Expr) : PM Unit :=
  match fuel with
  | 0 => pure ()
  | f + 1 => expr1 f e 0 1
termination_by structural fuel

/-- **Prints an expression** inside an operator of precedence `prec1`, at a nesting `depth`. -/
def expr1 (fuel : Nat) (e : Expr) (prec1 depth : Nat) : PM Unit :=
  match fuel with
  | 0 => pure ()
  | f + 1 => do
  setPos e.pos
  match e with
  | .bad _ => print1 (.text "BadExpr")
  | .ident _ n => print1 (.name n)
  | .binary .. => binaryExpr f e prec1 (cutoff e depth) depth
  | .keyValue k c v =>
    expr f k
    setPos c
    op ":"
    space .blank
    expr f v
  | .star _ x =>
    if unaryPrec < prec1 then
      op "("
      op "*"
      expr f x
      op ")"
    else
      op "*"
      expr f x
  | .unary _ o x =>
    if unaryPrec < prec1 then
      op "("
      expr f e
      op ")"
    else
      token (unaryTok o)
      if o == "range" then space .blank
      expr1 f x unaryPrec depth
  | .basicLit _ k v =>
    let v := if (← get).normalize then normalizedNumber k v else v
    print1 (.lit k v)
  | .funcLit t b =>
    setPos t.pos
    kw "func"
    let startCol := (← get).out.column - 4
    signature f t
    funcBody f (← distanceFrom t.pos startCol) .blank b
  | .paren _ x r =>
    match x with
    | .paren .. => expr0 f x depth
    | _ =>
      op "("
      expr0 f x (reduceDepth depth)
      setPos r
      op ")"
  | .selector .. => discard <| selectorExpr f e depth false
  | .typeAssert x l t r =>
    expr1 f x highestPrec depth
    op "."
    setPos l
    op "("
    match t with
    | some t => expr f t
    | none => kw "type"
    setPos r
    op ")"
  | .index x l [i] r =>
    expr1 f x highestPrec 1
    setPos l
    op "["
    expr0 f i (depth + 1)
    setPos r
    op "]"
  | .index x l is r =>
    expr1 f x highestPrec 1
    setPos l
    op "["
    exprList f (some l) is (depth + 1) true false (some r)
    setPos r
    op "]"
  | .slice x l lo hi mx s3 r =>
    expr1 f x highestPrec 1
    setPos l
    op "["
    let indices := [lo, hi] ++ (if s3 || mx.isSome then [mx] else [])
    let present := indices.filterMap id
    let isBinary (e : Expr) := match e with
      | .binary .. => true
      | _ => false
    let needsBlanks := depth ≤ 1 && present.length > 1 && present.any isBinary
    for (x?, i) in indices.zipIdx do
      if i > 0 then
        if (indices[i - 1]?.bind id).isSome && needsBlanks then space .blank
        op ":"
        if x?.isSome && needsBlanks then space .blank
      if let some x := x? then expr0 f x (depth + 1)
    setPos r
    op "]"
  | .call fn l args dots r =>
    let depth := if args.length > 1 then depth + 1 else depth
    let paren : Bool := match fn with
      | .funcType .. => true
      | .chanType _ _ d _ => d == .recv
      | _ => false
    if paren then op "("
    let wasIndented ← possibleSelectorExpr f fn highestPrec depth
    if paren then op ")"
    setPos l
    op "("
    match dots with
    | some d =>
      exprList f (some l) args depth false false (some d)
      setPos d
      op "..."
      if (← lineFor d) < (← lineFor r) then
        op ","
        space .formfeed
    | none => exprList f (some l) args depth true false (some r)
    setPos r
    op ")"
    if wasIndented then space .unindent
  | .compositeLit t l elts r =>
    if let some t := t then expr1 f t highestPrec depth
    modify fun p => { p with level := p.level + 1 }
    setPos l
    op "\x7b"
    exprList f (some l) elts 1 true false (some r)
    let noBlank := !elts.isEmpty
    print [.space .indent, .space .unindent, .toggle noBlank true]
    setPos r
    print [.token (.op "\x7d"), .toggle noBlank true]
    modify fun p => { p with level := p.level - 1 }
  | .ellipsis _ elt =>
    op "..."
    if let some t := elt then expr f t
  | .arrayType _ len elt =>
    op "["
    if let some n := len then expr f n
    op "]"
    expr f elt
  | .structType _ fl =>
    kw "struct"
    fieldList f fl true
  | .funcType .. =>
    kw "func"
    signature f e
  | .interfaceType _ fl =>
    kw "interface"
    fieldList f fl false
  | .mapType _ k v =>
    kw "map"
    op "["
    expr f k
    op "]"
    expr f v
  | .chanType _ a d v =>
    match d with
    | .both => kw "chan"
    | .recv =>
      op "<-"
      kw "chan"
    | .send =>
      kw "chan"
      setPos a
      op "<-"
    space .blank
    expr f v
termination_by structural fuel

/-- **Prints a binary expression** with blanks around operators of a precedence below
`cut`; a line break in the source after the operator is kept. -/
def binaryExpr (fuel : Nat) (e : Expr) (prec1 cut depth : Nat) : PM Unit :=
  match fuel with
  | 0 => pure ()
  | f + 1 => do
  let .binary x opPos o y := e | return
  let prec := binaryPrec o
  if prec < prec1 then
    op "("
    expr0 f e (reduceDepth depth)
    op ")"
    return
  let mut printBlank : Bool := prec < cut
  let mut ws : Space := .indent
  expr1 f x prec (depth + diffPrec x prec)
  if printBlank then space .blank
  let xline := (← get).pos.line
  let yline ← lineFor y.pos
  setPos opPos
  op o
  if xline != yline && xline > 0 && yline > 0 then
    if (← linebreak yline 1 ws true) > 0 then
      ws := .ignore
      printBlank := false
  if printBlank then space .blank
  expr1 f y (prec + 1) (depth + 1)
  if ws == .ignore then space .unindent
termination_by structural fuel

/-- Prints a selector, breaking the line before the name when the source did; whether it did
so. -/
def selectorExpr (fuel : Nat) (e : Expr) (depth : Nat) (isMethod : Bool) : PM Bool :=
  match fuel with
  | 0 => pure false
  | f + 1 => do
  let .selector x selPos sel := e | return false
  expr1 f x highestPrec depth
  op "."
  let line ← lineFor selPos
  let p ← get
  if p.pos.line > 0 && p.pos.line < line then
    space .indent
    space .newline
    setPos selPos
    print1 (.name sel)
    if !isMethod then space .unindent
    return true
  setPos selPos
  print1 (.name sel)
  return false
termination_by structural fuel

/-- Prints the function of a call; a selector may stay indented for the arguments. -/
def possibleSelectorExpr (fuel : Nat) (e : Expr) (prec1 depth : Nat) : PM Bool :=
  match fuel with
  | 0 => pure false
  | f + 1 =>
    match e with
    | .selector .. => selectorExpr f e depth true
    | _ => do
      expr1 f e prec1 depth
      return false
termination_by structural fuel

/-- **Prints a signature**: type parameters, parameters and results. -/
def signature (fuel : Nat) (t : Expr) : PM Unit :=
  match fuel with
  | 0 => pure ()
  | f + 1 => do
  let .funcType _ tps ps rs := t | return
  if let some tp := tps then parameters f tp .funcTParam
  parameters f ps .funcParam
  if let some rs := rs then
    let n := rs.count
    if n > 0 then
      space .blank
      match rs.fields with
      | [.mk _ [] ty _ _] =>
        if n == 1 then
          expr f (stripParensAlways ty)
          return
        parameters f rs .funcParam
      | _ => parameters f rs .funcParam
termination_by structural fuel

/-- **Prints a parameter list**, keeping the source's line breaks between parameters. -/
def parameters (fuel : Nat) (fl : FieldList) (mode : ParamMode) : PM Unit :=
  match fuel with
  | 0 => pure ()
  | f + 1 => do
  let (openTok, closeTok) := if mode == .funcParam then ("(", ")") else ("[", "]")
  setPos? fl.opening
  op openTok
  if !fl.fields.isEmpty then
    let mut prevLine ← lineFor? fl.opening
    let mut ws : Space := .indent
    for (par, i) in fl.fields.zipIdx do
      let parLineBeg ← lineFor par.pos
      let parLineEnd ← lineFor par.type.pos
      let needsLinebreak := 0 < prevLine && prevLine < parLineBeg
      if i > 0 then
        if !needsLinebreak then setPos par.pos
        op ","
      let broke : Bool ← if needsLinebreak then do pure ((← linebreak parLineBeg 0 ws true) > 0)
        else pure false
      if broke then ws := .ignore
      else if i > 0 then space .blank
      if !par.names.isEmpty then
        identList f par.names (ws == .indent)
        space .blank
      expr f (stripParensAlways par.type)
      prevLine := parLineEnd
    let closing ← lineFor? fl.closing
    if 0 < prevLine && prevLine < closing then
      op ","
      discard <| linebreak closing 0 .ignore true
    else if mode == .typeTParam && fl.count == 1 &&
        combinesWithName ((fl.fields.head?.map Field.type).getD (.bad 0)) then
      op ","
    if ws == .ignore then space .unindent
  setPos? fl.closing
  op closeTok
termination_by structural fuel

/-- Whether a struct or interface with these fields fits on one line: one field without tag
or comment, small enough. -/
def isOneLineFieldList (fuel : Nat) (fields : List Field) : PM Bool :=
  match fuel with
  | 0 => pure false
  | f + 1 =>
    match fields with
    | [fd] => do
      if fd.tag.isSome || !fd.comment.isEmpty then return false
      let namesSize := if identListSize fd.names 30 > 0 then 1 else 0
      let typeSize ← exprSize f fd.type 30
      return namesSize + typeSize ≤ 30
    | _ => pure false
termination_by structural fuel

/-- **Prints the fields of a struct or the elements of an interface** in braces, one per line
with names, types, tags and comments in columns, or on one line when small. -/
def fieldList (fuel : Nat) (fl : FieldList) (isStruct : Bool) : PM Unit :=
  match fuel with
  | 0 => pure ()
  | f + 1 => do
  let list := fl.fields
  let rbracePos ← match fl.closing with
    | some c => posFor c
    | none => pure ⟨0, 0, 0⟩
  let hasComments ← commentBefore rbracePos
  let srcIsOneLine : Bool ← match fl.opening, fl.closing with
    | some l, some r => do pure ((← lineFor l) == (← lineFor r))
    | _, _ => pure false
  if !hasComments && srcIsOneLine then
    if list.isEmpty then
      setPos? fl.opening
      op "\x7b"
      setPos? fl.closing
      op "\x7d"
      return
    else if (← isOneLineFieldList f list) then
      setPos? fl.opening
      op "\x7b"
      space .blank
      let fd := list.head?.getD (.mk [] [] (.bad 0) none [])
      if isStruct then
        for ((p, n), i) in fd.names.zipIdx do
          if i > 0 then
            op ","
            space .blank
          expr f (.ident p n)
        if !fd.names.isEmpty then space .blank
        expr f fd.type
      else
        match fd.names with
        | (p, n) :: _ =>
          expr f (.ident p n)
          signature f fd.type
        | [] => expr f fd.type
      space .blank
      setPos? fl.closing
      op "\x7d"
      return
  space .blank
  setPos? fl.opening
  op "\x7b"
  space .indent
  if hasComments || !list.isEmpty then space .formfeed
  let slot ← newSlot
  if isStruct then
    let sep : Space := if list.length == 1 then .blank else .vtab
    for (fd, i) in list.zipIdx do
      if i > 0 then discard <| linebreak (← lineFor fd.pos) 1 .ignore ((← linesFrom slot) > 0)
      let mut extraTabs := 0
      recordLine slot
      if !fd.names.isEmpty then
        identList f fd.names false
        space sep
        expr f fd.type
        extraTabs := 1
      else
        expr f fd.type
        extraTabs := 2
      if let some (tp, tag) := fd.tag then
        if !fd.names.isEmpty && sep == .vtab then space sep
        space sep
        expr f (.basicLit tp .string tag)
        extraTabs := 0
      if !fd.comment.isEmpty then
        for _ in [0:extraTabs] do space sep
  else
    for (fd, i) in list.zipIdx do
      if i > 0 then discard <| linebreak (← lineFor fd.pos) 1 .ignore ((← linesFrom slot) > 0)
      recordLine slot
      match fd.names.head? with
      | some (p, n) =>
        expr f (.ident p n)
        signature f fd.type
      | none => expr f fd.type
  print [.space .unindent, .space .formfeed]
  setPos? fl.closing
  op "\x7d"
termination_by structural fuel

/-- **The size of an expression on one line**, or more than `maxSize` when it does not fit. -/
def exprSize (fuel : Nat) (e : Expr) (maxSize : Nat) : PM Nat :=
  match fuel with
  | 0 => pure (maxSize + 1)
  | f + 1 => do
    match measured (← get).starts (expr f e) with
    | some n => return if n ≤ maxSize then n else maxSize + 1
    | none => return maxSize + 1
termination_by structural fuel

/-- The size of a statement on one line, or more than `maxSize` when it does not fit. -/
def stmtSize (fuel : Nat) (s : Stmt) (maxSize : Nat) : PM Nat :=
  match fuel with
  | 0 => pure (maxSize + 1)
  | f + 1 => do
    let act : PM Unit := do
      if let .labeled .. := s then modify fun p => { p with indent := 1 }
      stmt f s false
    match measured (← get).starts act with
    | some n => return if n ≤ maxSize then n else maxSize + 1
    | none => return maxSize + 1
termination_by structural fuel

/-- **Prints a function body**: on the line of the header when the body is on one line in the
source and short enough, as a block otherwise. -/
def funcBody (fuel : Nat) (headerSize : Nat) (sep : Space) (b : Block) : PM Unit :=
  match fuel with
  | 0 => pure ()
  | f + 1 => do
  let level := (← get).level
  modify fun p => { p with level := 0 }
  let maxSize := 100
  let size ← bodySize f b maxSize
  if headerSize + size ≤ maxSize then
    space sep
    setPos b.lbrace
    op "\x7b"
    if !b.stmts.isEmpty then
      space .blank
      for (s, i) in b.stmts.zipIdx do
        if i > 0 then
          op ";"
          space .blank
        stmt f s (i + 1 == b.stmts.length)
      space .blank
    print1 (.toggle false true)
    setPos b.rbrace
    print [.token (.op "\x7d"), .toggle false true]
  else
    if sep != .ignore then space .blank
    block f b 1
  modify fun p => { p with level }
termination_by structural fuel

/-- The size of a block on one line: too large when its braces are on different lines or it
has more than five statements. -/
def bodySize (fuel : Nat) (b : Block) (maxSize : Nat) : PM Nat :=
  match fuel with
  | 0 => pure (maxSize + 1)
  | f + 1 => do
  if (← lineFor b.lbrace) != (← lineFor b.rbrace) then return maxSize + 1
  if b.stmts.length > 5 then return maxSize + 1
  let mut size ← commentSizeBefore (← posFor b.rbrace)
  for (s, i) in b.stmts.zipIdx do
    if size > maxSize then break
    if i > 0 then size := size + 2
    size := size + (← stmtSize f s maxSize)
  return size
termination_by structural fuel

/-- **Prints a block** on lines of its own. -/
def block (fuel : Nat) (b : Block) (nindent : Nat) : PM Unit :=
  match fuel with
  | 0 => pure ()
  | f + 1 => do
  setPos b.lbrace
  op "\x7b"
  stmtList f b.stmts nindent true
  discard <| linebreak (← lineFor b.rbrace) 1 .ignore true
  setPos b.rbrace
  op "\x7d"
termination_by structural fuel

/-- **Prints statements** one per line, keeping at most one blank line between them; empty
statements are left out. -/
def stmtList (fuel : Nat) (list : List Stmt) (nindent : Nat) (nextIsRBrace : Bool) : PM Unit :=
  match fuel with
  | 0 => pure ()
  | f + 1 => do
  if nindent > 0 then space .indent
  let slot ← newSlot
  let mut i := 0
  for (s, k) in list.zipIdx do
    if let .empty .. := s then continue
    if !(← get).output.isEmpty then
      discard <| linebreak (← lineFor s.pos) 1 .ignore
        (i == 0 || nindent == 0 || (← linesFrom slot) > 0)
    recordLine slot
    stmt f s (nextIsRBrace && k + 1 == list.length)
    -- a label stands on a line of its own before its statement
    let labels := labelDepth s
    if labels > 0 then
      modify fun p => { p with slots := p.slots.modify slot (· + labels) }
    i := i + 1
  if nindent > 0 then space .unindent
termination_by structural fuel

/-- Prints the header of an `if`, `switch` or `for`: the initial statement, the condition or
tag, and the post statement, with the semicolons that are needed. -/
def controlClause (fuel : Nat) (isFor : Bool) (init : Option Stmt) (cond : Option Expr)
    (post : Option Stmt) : PM Unit :=
  match fuel with
  | 0 => pure ()
  | f + 1 => do
  space .blank
  let mut needsBlank := false
  if init.isNone && post.isNone then
    if let some c := cond then
      expr f (stripParens c)
      needsBlank := true
  else
    if let some s := init then stmt f s false
    op ";"
    space .blank
    if let some c := cond then
      expr f (stripParens c)
      needsBlank := true
    if isFor then
      op ";"
      space .blank
      needsBlank := false
      if let some s := post then
        stmt f s false
        needsBlank := true
  if needsBlank then space .blank
termination_by structural fuel

/-- **Prints a statement**; `nextIsRBrace` when a closing brace follows it. -/
def stmt (fuel : Nat) (s : Stmt) (nextIsRBrace : Bool) : PM Unit :=
  match fuel with
  | 0 => pure ()
  | f + 1 => do
  setPos s.pos
  match s with
  | .bad _ => print1 (.text "BadStmt")
  | .decl d => genDecl f d
  | .empty .. => pure ()
  | .labeled p label colon st =>
    space .unindent
    expr f (.ident p label)
    setPos colon
    op ":"
    space .indent
    match st with
    | .empty e _ =>
      if !nextIsRBrace then
        space .newline
        setPos e
        op ";"
        return
    | _ => discard <| linebreak (← lineFor st.pos) 1 .ignore true
    stmt f st nextIsRBrace
  | .expr x => expr0 f x 1
  | .send ch arrow v =>
    expr0 f ch 1
    space .blank
    setPos arrow
    op "<-"
    space .blank
    expr0 f v 1
  | .incDec x tokPos t =>
    expr0 f x 2
    setPos tokPos
    op t
  | .assign lhs tokPos t rhs =>
    let depth := if lhs.length > 1 && rhs.length > 1 then 2 else 1
    exprList f (some s.pos) lhs depth false false (some tokPos)
    space .blank
    setPos tokPos
    op t
    space .blank
    exprList f (some tokPos) rhs depth false false none
  | .go _ call =>
    kw "go"
    space .blank
    expr f call
  | .defer _ call =>
    kw "defer"
    space .blank
    expr f call
  | .ret _ results =>
    kw "return"
    if !results.isEmpty then
      space .blank
      if (← indentList results) then
        space .indent
        exprList f none results 1 false true none
        space .unindent
      else exprList f none results 1 false false none
  | .branch _ t label =>
    kw t
    if let some (p, l) := label then
      space .blank
      expr f (.ident p l)
  | .block b => block f b 1
  | .ifStmt _ init cond body els =>
    kw "if"
    controlClause f false init (some cond) none
    block f body 1
    if let some e := els then
      space .blank
      kw "else"
      space .blank
      match e with
      | .block _ | .ifStmt .. => stmt f e nextIsRBrace
      | _ =>
        op "\x7b"
        space .indent
        space .formfeed
        stmt f e true
        space .unindent
        space .formfeed
        op "\x7d"
  | .caseClause _ list colon body =>
    match list with
    | some l =>
      kw "case"
      space .blank
      exprList f (some s.pos) l 1 false false (some colon)
    | none => kw "default"
    setPos colon
    op ":"
    stmtList f body 1 nextIsRBrace
  | .switchStmt _ init tag body =>
    kw "switch"
    controlClause f false init tag none
    block f body 0
  | .typeSwitch _ init assign body =>
    kw "switch"
    if let some i := init then
      space .blank
      stmt f i false
      op ";"
    space .blank
    stmt f assign false
    space .blank
    block f body 0
  | .commClause _ comm colon body =>
    match comm with
    | some c =>
      kw "case"
      space .blank
      stmt f c false
    | none => kw "default"
    setPos colon
    op ":"
    stmtList f body 1 nextIsRBrace
  | .select _ body =>
    kw "select"
    space .blank
    if body.stmts.isEmpty && !(← commentBefore (← posFor body.rbrace)) then
      setPos body.lbrace
      op "\x7b"
      setPos body.rbrace
      op "\x7d"
    else block f body 0
  | .forStmt _ init cond post body =>
    kw "for"
    controlClause f true init cond post
    block f body 1
  | .rangeStmt _ key value tokPos t x body =>
    kw "for"
    space .blank
    if let some k := key then
      expr f k
      if let some v := value then
        setPos v.pos
        op ","
        space .blank
        expr f v
      space .blank
      setPos tokPos
      op t
      space .blank
    kw "range"
    space .blank
    expr f (stripParens x)
    space .blank
    block f body 1
termination_by structural fuel

/-- **Prints a declaration of specs**: one spec after the keyword, or specs in parentheses one
per line, constants and variables in columns. -/
def genDecl (fuel : Nat) (d : GenDecl) : PM Unit :=
  match fuel with
  | 0 => pure ()
  | f + 1 => do
  let .mk _ pos t lparen specs rparen := d
  setPos pos
  kw t
  space .blank
  if lparen.isSome || specs.length != 1 then
    setPos? lparen
    op "("
    let n := specs.length
    if n > 0 then
      space .indent
      space .formfeed
      let slot ← newSlot
      if n > 1 && (t == "const" || t == "var") then
        let keep := keepTypeColumn specs
        for (sp, i) in specs.zipIdx do
          if i > 0 then discard <| linebreak (← lineFor sp.pos) 1 .ignore ((← linesFrom slot) > 0)
          recordLine slot
          valueSpec f sp (keep[i]?.getD false)
      else
        for (sp, i) in specs.zipIdx do
          if i > 0 then discard <| linebreak (← lineFor sp.pos) 1 .ignore ((← linesFrom slot) > 0)
          recordLine slot
          spec f sp n false
      space .unindent
      space .formfeed
    setPos? rparen
    op ")"
  else if let some sp := specs.head? then spec f sp 1 true
termination_by structural fuel

/-- **Prints a spec**; `n` is the number of specs of its declaration. -/
def spec (fuel : Nat) (sp : Spec) (n : Nat) (doIndent : Bool) : PM Unit :=
  match fuel with
  | 0 => pure ()
  | f + 1 => do
  match sp with
  | .importSpec _ _ name pathPos path =>
    if let some (p, nm) := name then
      expr f (.ident p nm)
      space .blank
    expr f (.basicLit pathPos .string (sanitizeImportPath path))
  | .valueSpec names type values _ =>
    identList f names doIndent
    if let some t := type then
      space .blank
      expr f t
    if !values.isEmpty then
      space .blank
      op "="
      space .blank
      exprList f none values 1 false false none
  | .typeSpec (p, nm) tparams assign type =>
    expr f (.ident p nm)
    if let some tp := tparams then parameters f tp .typeTParam
    space (if n == 1 then .blank else .vtab)
    if assign.isSome then
      op "="
      space .blank
    expr f type
termination_by structural fuel

/-- Prints a constant or variable spec of a group in columns: names, type, values, comment. -/
def valueSpec (fuel : Nat) (sp : Spec) (keepType : Bool) : PM Unit :=
  match fuel with
  | 0 => pure ()
  | f + 1 => do
  let .valueSpec names type values comment := sp | return
  identList f names false
  let mut extraTabs := 3
  if type.isSome || keepType then
    space .vtab
    extraTabs := extraTabs - 1
  if let some t := type then expr f t
  if !values.isEmpty then
    space .vtab
    op "="
    space .blank
    exprList f none values 1 false false none
    extraTabs := extraTabs - 1
  if !comment.isEmpty then
    for _ in [0:extraTabs] do space .vtab
termination_by structural fuel
end

/-- **Prints a declaration.** -/
def decl (fuel : Nat) (d : Decl) : PM Unit :=
  match fuel with
  | 0 => pure ()
  | f + 1 => do
  match d with
  | .bad p =>
    setPos p
    print1 (.text "BadDecl")
  | .gen g => genDecl f g
  | .func _ pos recv (np, name) type body =>
    setPos pos
    kw "func"
    space .blank
    let startCol := (← get).out.column - 5
    if let some r := recv then
      parameters f r .funcParam
      space .blank
    expr f (.ident np name)
    signature f type
    if let some b := body then funcBody f (← distanceFrom pos startCol) .vtab b

/-- **Prints the declarations of a file**, separated by a blank line when their kind changes or
the next one has documentation. -/
def declList (fuel : Nat) (decls : List Decl) : PM Unit := do
  let mut tok := ""
  for d in decls do
    let prev := tok
    tok := d.keyword
    if !(← get).output.isEmpty then
      let min := if prev != tok || d.hasDoc then 2 else 1
      let multi := tok == "func" && (← numLines d) > 1
      discard <| linebreak (← lineFor d.pos) min .ignore multi
    decl fuel d

/-- A budget of nested printing calls enough for any tree of a source of `size` bytes. -/
def fileFuel (size : Nat) : Nat := 16 * size + 64

/-- **Prints a file**: the package clause, the declarations, the comments that are left, and
a final line break. -/
def printFile (f : SourceFile) (fuel : Nat) : PM Unit := do
  nextComment
  setPos f.packagePos
  kw "package"
  space .blank
  expr fuel (.ident f.namePos f.packageName)
  declList fuel f.decls
  space .newline
  modify fun p => { p with impliedSemi := false }
  discard <| flush Position.infinity .eof

/-- An expression of one kind of operator at the top has blanks around its operators. -/
theorem cutoff_plain :
    cutoff (.binary (.ident 0 "a") 1 "+" (.ident 2 "b")) 1 = 6 := by
  decide

end Accessors.Source.Print
