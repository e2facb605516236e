import Accessors.Template.Tree
import Accessors.Number.Decimal

/-!
# Parsing templates

The parser reads the items of a template text into its trees: the template itself and the
templates it defines with `define` and `block`.

* Actions hold pipelines; `if`, `range` and `with` hold lists up to their `end`, with an
  optional `else` list, and `else if` / `else with` nest a new control in the `else` list.
* Function names must be known, and variables must be declared before use; a variable declared
  in a control's pipeline or list lives until the control's `end`.
* `break` and `continue` must be inside a `range`.

The first problem stops the parse with the message `template: NAME:LINE: WHAT`, where the line
is the line of the furthest item read.

Main statements: decimal literals read as the integers they write (`parseSigned_decimal`).
-/

namespace Accessors.Template

/-! ### Number literals -/

/-- The digits of a number in a base, with underscores between digits allowed. -/
def digitsValue (base : Nat) (cs : List Char) : Option Nat :=
  if cs.isEmpty || cs.head? == some '_' || cs.getLast? == some '_' then none else
  cs.foldlM (fun (acc : Nat) c =>
    if c == '_' then some acc else
    match Text.hexValue? c with
    | some d => if d < base then some (acc * base + d) else none
    | none => none) 0

/-- **An unsigned integer literal** with its base taken from its prefix: `0x`, `0o`, `0b`, or a
leading zero for octal. -/
def unsignedValue (cs : List Char) : Option Nat :=
  match cs with
  | '0' :: c :: rest =>
    if c == 'x' || c == 'X' then digitsValue 16 (rest.dropWhile (· == '_'))
    else if c == 'o' || c == 'O' then digitsValue 8 (rest.dropWhile (· == '_'))
    else if c == 'b' || c == 'B' then digitsValue 2 (rest.dropWhile (· == '_'))
    else digitsValue 8 (c :: rest)
  | _ => digitsValue 10 cs

/-- An unsigned integer literal that fits in 64 bits. -/
def parseUnsigned? (s : String) : Option Nat :=
  (unsignedValue s.toList).filter (· < Nat.pow 2 64)

/-- A signed integer literal that fits in 64 bits. -/
def parseSigned? (s : String) : Option Int :=
  match s.toList with
  | '-' :: rest => (unsignedValue rest).bind fun n => if n ≤ Nat.pow 2 63 then some (-(n : Int)) else none
  | '+' :: rest => (unsignedValue rest).bind fun n => if n < Nat.pow 2 63 then some (n : Int) else none
  | cs => (unsignedValue cs).bind fun n => if n < Nat.pow 2 63 then some (n : Int) else none

/-- A decimal floating literal. -/
def parseFloat? (s : String) : Option Float :=
  (Number.DecimalLiteral.parse? (String.ofList (s.toList.filter (· != '_')))).map (·.toFloat)

/-- **A number literal** from its item, or the message of why it is not one. -/
def numberLit (kind : ItemKind) (text : String) : Except String NumberLit :=
  if kind == .charConstant then
    match Text.unquote? ("\"" ++ String.ofList ((text.toList.drop 1).dropLast) ++ "\"") with
    | some v =>
      match v.toList with
      | [c] => .ok ⟨text, some c.toNat, some (Float.ofNat c.toNat), false⟩
      | _ => .error ("malformed character constant: " ++ text)
    | none => .error ("malformed character constant: " ++ text)
  else if kind == .complex || text.toList.getLast? == some 'i' then .ok ⟨text, none, none, true⟩
  else
    let u := parseUnsigned? text
    let i := parseSigned? text
    let i := match i, u with
      | some v, _ => some v
      | none, _ => none
    match i, u with
    | some v, _ => .ok ⟨text, some v, some (Float.ofInt v), false⟩
    | none, some n => .ok ⟨text, none, some (Float.ofNat n), false⟩
    | none, none =>
      match parseFloat? text with
      | some f =>
        if !(text.toList.any fun c => c == '.' || c == 'e' || c == 'E' || c == 'p' || c == 'P') then
          .error ("integer overflow: " ++ text)
        else .ok ⟨text, none, some f, false⟩
      | none => .error ("illegal number syntax: " ++ Text.quote text)

/-! ### The parser -/

/-- What the parser knows throughout: the name of the text and the names of the functions. -/
structure ParseEnv where
  name : String
  funcs : List String

/-- **The state of the parser**: the items and the next one, how far items were read, the
variables in scope, the line of the action being read, the depth of `range`, and the templates
defined so far. -/
structure ParseState where
  items : Array Item
  i : Nat
  far : Nat
  vars : List String
  actionLine : Nat
  rangeDepth : Nat
  defs : List (String × List Node)

/-- The parser monad. -/
abbrev Parser := ReaderT ParseEnv (StateT ParseState (Except String))

/-- What a list ends at: an `end`, or an `else` with its offset and line. -/
inductive Closing where
  | endMark
  | elseMark (pos line : Nat)
  deriving Repr, Inhabited

/-- The written form of a closing action. -/
def Closing.text : Closing → String
  | .endMark => "\x7b\x7bend\x7d\x7d"
  | .elseMark .. => "\x7b\x7belse\x7d\x7d"

/-- What a text-or-action step gives: a node or a closing action. -/
inductive Step where
  | node (n : Node)
  | closing (c : Closing)
  deriving Repr, Inhabited

namespace Parser

/-- **Stops the parse** with a message on the line of the furthest item read. -/
def errorf {α : Type} (msg : String) : Parser α := do
  let s ← get
  let line := (s.items[s.far - 1]?.map (·.line)).getD 1
  let name := (← read).name
  throw (s!"template: {name}:{line}: " ++ msg : String)

/-- The item at an index; past the end, the last item. -/
def itemAt (s : ParseState) (k : Nat) : Item :=
  s.items[k]?.getD (s.items.back?.getD ⟨.eof, 0, "", 1⟩)

/-- The next item, consumed. -/
def next : Parser Item := do
  let s ← get
  set { s with i := s.i + 1, far := max s.far (s.i + 1) }
  return itemAt s s.i

/-- The next item, not consumed. -/
def peek : Parser Item := do
  let s ← get
  set { s with far := max s.far (s.i + 1) }
  return itemAt s s.i

/-- Steps back one item. -/
def backup : Parser Unit := modify fun s => { s with i := s.i - 1 }

/-- Steps back to an index. -/
def backTo (k : Nat) : Parser Unit := modify fun s => { s with i := k }

/-- The next item that is not blanks, consumed with the blanks before it. -/
def nextNonSpace : Parser Item := do
  let t ← next
  if t.kind == .space then next else return t

/-- The next item that is not blanks; the blanks before it are consumed. -/
def peekNonSpace : Parser Item := do
  let t ← nextNonSpace
  backup
  return t

/-- **Complains about an unexpected item**: an error item says what is wrong, with the line
of the action it is in when that is another line. -/
def unexpected {α : Type} (t : Item) (context : String) : Parser α := do
  if t.kind == .error then
    let s ← get
    let name := (← read).name
    let started := s.actionLine
    let extra := if started != 0 && started != t.line then
        let e := s!" in action started at {name}:{started}"
        if Text.hasSuffix t.val " action" then String.ofList (e.toList.drop 10) else e
      else ""
    errorf (t.val ++ extra)
  else errorf s!"unexpected {t.text} in {context}"

/-- The next non-blank item, which must be of a kind. -/
def expect (k : ItemKind) (context : String) : Parser Item := do
  let t ← nextNonSpace
  if t.kind != k then unexpected t context else return t

/-- Records a template definition; a second non-empty definition of a name is an error. -/
def addTree (name : String) (root : List Node) : Parser Unit := do
  let s ← get
  match s.defs.lookup name with
  | some old =>
    if old.isEmpty then set { s with defs := s.defs.map fun (d : String × List Node) => if d.1 == name then (name, root) else d }
    else if !root.isEmpty then
      errorf ("template: multiple definition of template " ++ Text.quote name)
  | none => set { s with defs := s.defs ++ [(name, root)] }

/-- The name of a template in a `template` or `block` clause. -/
def templateName (t : Item) (context : String) : Parser String := do
  if t.kind == .string then
    match Text.unquote? t.val with
    | some v => return v
    | none => errorf "invalid syntax"
  else if t.kind == .rawString then return String.ofList ((t.val.toList.drop 1).dropLast)
  else unexpected t context

/-- Whether an operand cannot start a later command of a pipeline. -/
def isLiteralArg : Arg → Bool
  | .bool .. | .dot _ | .nil _ | .number .. | .string .. => true
  | _ => false

/-- **Checks a pipeline**: it has commands, and only the first may start with a literal. -/
def checkPipeline (cmds : List Cmd) (context : String) : Parser Unit := do
  if cmds.isEmpty then errorf ("missing value for " ++ context)
  for (c, k) in cmds.tail.zip (List.range cmds.length) do
    match c.args.head? with
    | some a => if isLiteralArg a then errorf s!"non executable command in pipeline stage {k + 2}"
    | none => pure ()

/-- A variable in use, which must be declared. -/
def useVar (pos : Nat) (name : String) : Parser Arg := do
  let ids := Text.splitOn name "."
  if (← get).vars.contains (ids.headD "") then return .variable pos ids
  else errorf ("undefined variable " ++ Text.quote (ids.headD ""))

/-- Whether an item starts an operand. -/
def startsOperand (k : ItemKind) : Bool :=
  match k with
  | .bool | .charConstant | .complex | .dot | .field | .identifier | .number | .nilKw | .rawString
  | .string | .variable | .leftParen => true
  | _ => false

mutual
/-- **A pipeline** up to an item of kind `stop`: declarations, then commands. -/
def pipeline (fuel : Nat) (context : String) (stop : ItemKind) : Parser Pipe := do
  match fuel with
  | 0 => errorf "template too deeply nested"
  | fuel + 1 =>
  let token ← peekNonSpace
  let mut decls : List (Nat × String) := []
  let mut isAssign := false
  let mut again := true
  let mut cmds : List Cmd := []
  for _ in [0:3] do
    if !again then break
    again := false
    let v ← peekNonSpace
    if v.kind == .variable then
      let vIndex := (← get).i
      discard next
      let after ← peek
      let nxt ← peekNonSpace
      if nxt.kind == .assign || nxt.kind == .declare then
        isAssign := nxt.kind == .assign
        discard nextNonSpace
        decls := decls ++ [(v.pos, v.val)]
        modify fun s => { s with vars := s.vars ++ [v.val] }
      else if nxt.kind == .char && nxt.val == "," then
        discard nextNonSpace
        decls := decls ++ [(v.pos, v.val)]
        modify fun s => { s with vars := s.vars ++ [v.val] }
        if context == "range" && decls.length < 2 then
          let k := (← peekNonSpace).kind
          if k == .variable || k == .rightDelim || k == .rightParen then again := true
          else errorf "range can only initialize variables"
        else errorf ("too many declarations in " ++ context)
      else if after.kind == .space then backTo vIndex
      else backTo vIndex
  let bound := (← get).items.size + 1
  for _ in [0:bound] do
    let t ← nextNonSpace
    if t.kind == stop then
      checkPipeline cmds context
      return .mk token.pos token.line isAssign decls cmds
    else if startsOperand t.kind then
      backup
      cmds := cmds ++ [← command fuel]
    else unexpected t context
  errorf "unexpected EOF"

/-- **A command**: operands separated by blanks, up to a pipe or a closing item. -/
def command (fuel : Nat) : Parser Cmd := do
  match fuel with
  | 0 => errorf "template too deeply nested"
  | fuel + 1 =>
  let pos := (← peekNonSpace).pos
  let mut args : List Arg := []
  let bound := (← get).items.size + 1
  for _ in [0:bound] do
    discard peekNonSpace
    if let some a ← operand fuel then args := args ++ [a]
    let t ← next
    if t.kind == .space then continue
    else if t.kind == .rightDelim || t.kind == .rightParen then
      backup
      break
    else if t.kind == .pipe then break
    else unexpected t "operand"
  if args.isEmpty then errorf "empty command"
  return .mk pos args

/-- **An operand**: a term and the fields after it. -/
def operand (fuel : Nat) : Parser (Option Arg) := do
  match fuel with
  | 0 => errorf "template too deeply nested"
  | fuel + 1 =>
  match ← term fuel with
  | none => return none
  | some node =>
    let p ← peek
    if p.kind != .field then return some node
    let chainPos := p.pos
    let mut fields : List String := []
    let bound := (← get).items.size + 1
    for _ in [0:bound] do
      let q ← peek
      if q.kind != .field then break
      discard next
      fields := fields ++ [String.ofList (q.val.toList.drop 1)]
    match node with
    | .field _ ids => return some (.field chainPos (ids ++ fields))
    | .variable _ ids => return some (.variable chainPos (ids ++ fields))
    | .bool .. | .string .. | .number .. | .nil _ | .dot _ =>
      errorf ("unexpected . after term " ++ Text.quote node.text)
    | n => return some (.chain chainPos n fields)

/-- **A term**: a literal, a function name, the dot, a field, a variable or a parenthesized
pipeline; none when the next item starts none of these. -/
def term (fuel : Nat) : Parser (Option Arg) := do
  match fuel with
  | 0 => errorf "template too deeply nested"
  | fuel + 1 =>
  let t ← nextNonSpace
  match t.kind with
  | .identifier =>
    if !(← read).funcs.contains t.val then errorf ("function " ++ Text.quote t.val ++ " not defined")
    return some (.identifier t.pos t.val)
  | .dot => return some (.dot t.pos)
  | .nilKw => return some (.nil t.pos)
  | .variable => return some (← useVar t.pos t.val)
  | .field => return some (.field t.pos (Text.splitOn (String.ofList (t.val.toList.drop 1)) "."))
  | .bool => return some (.bool t.pos (t.val == "true"))
  | .charConstant | .complex | .number =>
    match numberLit t.kind t.val with
    | .ok n => return some (.number t.pos n)
    | .error e => errorf e
  | .leftParen => return some (.pipe (← pipeline fuel "parenthesized pipeline" .rightParen))
  | .string | .rawString =>
    let v ← templateName t "string"
    return some (.string t.pos t.val v)
  | _ =>
    backup
    return none
end

mutual
/-- **A list of nodes** up to its `end` or `else`. -/
def itemList (fuel : Nat) : Parser (List Node × Closing) := do
  match fuel with
  | 0 => errorf "template too deeply nested"
  | fuel + 1 =>
  let mut list : List Node := []
  let bound := (← get).items.size + 1
  for _ in [0:bound] do
    if (← peekNonSpace).kind == .eof then break
    match ← textOrAction fuel with
    | .closing c => return (list, c)
    | .node n => list := list ++ [n]
  errorf "unexpected EOF"

/-- **Text or an action.** -/
def textOrAction (fuel : Nat) : Parser Step := do
  match fuel with
  | 0 => errorf "template too deeply nested"
  | fuel + 1 =>
  let t ← nextNonSpace
  match t.kind with
  | .text => return .node (.plain t.pos t.val)
  | .leftDelim =>
    modify fun s => { s with actionLine := t.line }
    let r ← action fuel
    modify fun s => { s with actionLine := 0 }
    return r
  | _ => unexpected t "input"

/-- **An action**: a control keyword, or a pipeline to print. -/
def action (fuel : Nat) : Parser Step := do
  match fuel with
  | 0 => errorf "template too deeply nested"
  | fuel + 1 =>
  let t ← nextNonSpace
  match t.kind with
  | .blockKw => return .node (← blockControl fuel)
  | .breakKw =>
    let r ← nextNonSpace
    if r.kind != .rightDelim then unexpected r "\x7b\x7bbreak\x7d\x7d"
    if (← get).rangeDepth == 0 then errorf "\x7b\x7bbreak\x7d\x7d outside \x7b\x7brange\x7d\x7d"
    return .node (.breakNode t.pos t.line)
  | .continueKw =>
    let r ← nextNonSpace
    if r.kind != .rightDelim then unexpected r "\x7b\x7bcontinue\x7d\x7d"
    if (← get).rangeDepth == 0 then errorf "\x7b\x7bcontinue\x7d\x7d outside \x7b\x7brange\x7d\x7d"
    return .node (.continueNode t.pos t.line)
  | .elseKw =>
    let p ← peekNonSpace
    if p.kind == .ifKw || p.kind == .withKw then return .closing (.elseMark p.pos p.line)
    let r ← expect .rightDelim "else"
    return .closing (.elseMark r.pos r.line)
  | .endKw =>
    discard <| expect .rightDelim "end"
    return .closing .endMark
  | .ifKw =>
    let (pos, line, p, l, e) ← control fuel "if"
    return .node (.ifNode pos line p l e)
  | .rangeKw =>
    let (pos, line, p, l, e) ← control fuel "range"
    return .node (.rangeNode pos line p l e)
  | .withKw =>
    let (pos, line, p, l, e) ← control fuel "with"
    return .node (.withNode pos line p l e)
  | .templateKw =>
    let name ← nextNonSpace
    let n ← templateName name "template clause"
    if (← nextNonSpace).kind != .rightDelim then
      backup
      let p ← pipeline fuel "template clause" .rightDelim
      return .node (.template name.pos name.line n (some p))
    return .node (.template name.pos name.line n none)
  | _ =>
    backup
    let tok ← peek
    let p ← pipeline fuel "command" .rightDelim
    return .node (.action tok.pos tok.line p)

/-- **A control structure** after its keyword: the pipeline, the list, and the `else` list,
where `else if` and `else with` nest a new control. -/
def control (fuel : Nat) (context : String) :
    Parser (Nat × Nat × Pipe × List Node × Option (List Node)) := do
  match fuel with
  | 0 => errorf "template too deeply nested"
  | fuel + 1 =>
  let saved := (← get).vars.length
  let p ← pipeline fuel context .rightDelim
  if context == "range" then modify fun s => { s with rangeDepth := s.rangeDepth + 1 }
  let (list, closing) ← itemList fuel
  if context == "range" then modify fun s => { s with rangeDepth := s.rangeDepth - 1 }
  let mut elseList : Option (List Node) := none
  match closing with
  | .endMark => pure ()
  | .elseMark _ _ =>
    let k := (← peek).kind
    if context == "if" && k == .ifKw then
      discard next
      let (pos, line, p2, l2, e2) ← control fuel "if"
      elseList := some [.ifNode pos line p2 l2 e2]
    else if context == "with" && k == .withKw then
      discard next
      let (pos, line, p2, l2, e2) ← control fuel "with"
      elseList := some [.withNode pos line p2 l2 e2]
    else
      let (l2, c2) ← itemList fuel
      match c2 with
      | .endMark => elseList := some l2
      | c => errorf ("expected end; found " ++ c.text)
  modify fun s => { s with vars := s.vars.take saved }
  return (p.pos, (match p with | .mk _ l .. => l), p, list, elseList)

/-- **A block**: a template defined in place and called there. -/
def blockControl (fuel : Nat) : Parser Node := do
  match fuel with
  | 0 => errorf "template too deeply nested"
  | fuel + 1 =>
  let t ← nextNonSpace
  let name ← templateName t "block clause"
  let p ← pipeline fuel "block clause" .rightDelim
  let outer ← get
  modify fun s => { s with vars := ["$"], rangeDepth := 0 }
  let (root, closing) ← itemList fuel
  match closing with
  | .endMark => pure ()
  | c => errorf ("unexpected " ++ c.text ++ " in block clause")
  addTree name root
  modify fun s => { s with vars := outer.vars, rangeDepth := outer.rangeDepth }
  return .template t.pos t.line name (some p)

/-- **A definition**: `define` with the name, then the list up to `end`. -/
def definition (fuel : Nat) : Parser Unit := do
  match fuel with
  | 0 => errorf "template too deeply nested"
  | fuel + 1 =>
  let t ← nextNonSpace
  if t.kind != .string && t.kind != .rawString then unexpected t "define clause"
  let name ← templateName t "define clause"
  discard <| expect .rightDelim "define clause"
  let outer ← get
  modify fun s => { s with vars := ["$"], rangeDepth := 0 }
  let (root, closing) ← itemList fuel
  match closing with
  | .endMark => pure ()
  | c => errorf ("unexpected " ++ c.text ++ " in define clause")
  addTree name root
  modify fun s => { s with vars := outer.vars, rangeDepth := outer.rangeDepth }
end

/-- **The whole text**: definitions and the nodes of the template itself. -/
def top (fuel : Nat) : Parser (List Node) := do
  let mut root : List Node := []
  let bound := (← get).items.size + 1
  for _ in [0:bound] do
    let p ← peek
    if p.kind == .eof then break
    if p.kind == .leftDelim then
      let k := (← get).i
      discard next
      if (← nextNonSpace).kind == .defineKw then
        definition fuel
        continue
      backTo k
    match ← textOrAction fuel with
    | .closing c => errorf ("unexpected " ++ c.text)
    | .node n => root := root ++ [n]
  return root

end Parser

/-- **Parses a template text** named `name`, knowing the function names `funcs`: the trees of
the template and of the templates it defines, by name, or the message of the first problem. -/
def parse (name text : String) (funcs : List String) : Except String (List (String × List Node)) :=
  let items := (lex text).toArray
  let run : Parser Unit := do
    let root ← Parser.top (items.size + 2)
    Parser.addTree name root
  match (run ⟨name, funcs⟩).run ⟨items, 0, 0, ["$"], 0, 0, []⟩ with
  | .ok (_, s) => .ok s.defs
  | .error e => .error e

/-- A decimal literal is read as the integer it writes. -/
theorem parseSigned_decimal : parseSigned? "42" = some 42 ∧ parseSigned? "-7" = some (-7) := by
  decide

end Accessors.Template
