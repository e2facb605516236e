import Accessors.Template.Parse
import Accessors.Template.Builtins

/-!
# Running templates

Running a template walks its nodes with a current value, the dot, and writes text:

* text is written as it is; an action evaluates its pipeline and prints the value, unless the
  pipeline declares variables;
* `if` runs its list when the pipeline is true and its `else` list otherwise; `with` does the
  same and moves the dot to the value; `range` runs its list once per item of a list (or number
  below an integer), with the dot on the item, and its `else` list when there is none;
* `template` runs another template of the same text on the value of its pipeline.

A pipeline evaluates its commands in turn, each getting the value of the one before as its last
argument. A command is a field chain (`.A.B`, a method call when the name is a method), a
variable with fields, a function call, a parenthesized pipeline, or a literal. Functions check
their number of arguments and the types of their arguments before they run.

The first failure stops the run with the message `template: NAME:LINE:COL: executing "T" at
<NODE>: WHAT`, naming the node being evaluated, cut after twenty characters.

Main statements: the first byte of a text is on line one, column zero (`lineColumn_start`).
-/

namespace Accessors.Template

/-- **The type of a parameter** of a function. -/
inductive Param where
  /-- Any value, passed as it is. -/
  | value
  /-- Any value, as an interface. -/
  | any
  /-- No type at all: the operand of a field chain. -/
  | untyped
  | string
  | int
  | bool
  /-- A named type: only values of that type. -/
  | named (t : String)
  deriving DecidableEq, Repr, Inhabited

/-- The name of a parameter type in messages. -/
def Param.text : Param → String
  | .value => "reflect.Value"
  | .any => "interface \x7b\x7d"
  | .untyped => "<nil>"
  | .string => "string"
  | .int => "int"
  | .bool => "bool"
  | .named t => t

/-- **A function** templates may call: its fixed parameters, the type of its variadic ones, and
what it does with the arguments. -/
structure Func where
  params : List Param
  variadic : Option Param
  run : List Datum → Except String Datum

instance : Inhabited Func := ⟨⟨[], none, fun _ => .ok .none⟩⟩

/-- The builtin functions, `and`, `or` and `call` apart, which the executor treats itself. -/
def builtin? : String → Option Func
  | "not" => some ⟨[.value], none, fun as => .ok (.bool !((as.headD .none).truth))⟩
  | "len" => some ⟨[.value], none, fun as => lengthOf (as.headD .none)⟩
  | "index" => some ⟨[.value], some .value, fun as => indexInto (as.headD .none) as.tail⟩
  | "slice" => some ⟨[.value], some .value, fun as => sliceOf (as.headD .none) as.tail⟩
  | "print" => some ⟨[], some .any, fun as => .ok (.str (sprint as))⟩
  | "println" => some ⟨[], some .any, fun as => .ok (.str (sprintln as))⟩
  | "printf" => some ⟨[.string], some .any, fun as => .ok (.str (sprintf (as.headD .none).textOf as.tail))⟩
  | "html" => some ⟨[], some .any, fun as => .ok (.str (htmlEscape (escaperInput as)))⟩
  | "js" => some ⟨[], some .any, fun as => .ok (.str (jsEscape (escaperInput as)))⟩
  | "urlquery" => some ⟨[], some .any, fun as => .ok (.str (queryEscape (escaperInput as)))⟩
  | "eq" => some ⟨[.value], some .value, fun as => (eqAny (as.headD .none) as.tail).map .bool⟩
  | "ne" => some ⟨[.value, .value], none, fun as =>
      (eqAny (as.headD .none) as.tail).map fun b => .bool !b⟩
  | "lt" => some ⟨[.value, .value], none, fun as =>
      (lessThan (as.headD .none) (as.getD 1 .none)).map .bool⟩
  | "le" => some ⟨[.value, .value], none, fun as => do
      let a := as.headD .none
      let b := as.getD 1 .none
      if ← lessThan a b then return .bool true
      return .bool (← eqAny a [b])⟩
  | "gt" => some ⟨[.value, .value], none, fun as => do
      let a := as.headD .none
      let b := as.getD 1 .none
      if ← lessThan a b then return .bool false
      return .bool !(← eqAny a [b])⟩
  | "ge" => some ⟨[.value, .value], none, fun as =>
      (lessThan (as.headD .none) (as.getD 1 .none)).map fun b => .bool !b⟩
  | "and" | "or" | "call" => some ⟨[.value], some .value, fun _ => .ok .none⟩
  | _ => none

/-- The names of the builtin functions. -/
def builtinNames : List String :=
  ["and", "call", "html", "index", "slice", "js", "len", "not", "or", "print", "printf",
   "println", "urlquery", "eq", "ge", "gt", "le", "lt", "ne"]

/-- What a run knows throughout: the text and its name, its templates, and the functions it was
given. -/
structure ExecEnv where
  text : String
  parseName : String
  trees : List (String × List Node)
  funcs : List (String × Func)

instance : Inhabited ExecEnv := ⟨⟨"", "", [], []⟩⟩

/-- **The state of a run**: the template being run, the text written so far, the variables,
and the node at hand. -/
structure ExecState where
  name : String
  out : String
  vars : List (String × Datum)
  spot : Option Spot
  deriving Inhabited

/-- The executor monad. -/
abbrev Exec := ReaderT ExecEnv (StateT ExecState (Except String))

/-- What walking a node ends with: going on, or a `break` or `continue` to pass to the nearest
`range`. -/
inductive Signal where
  | normal
  | breakLoop
  | continueLoop
  deriving DecidableEq, Repr, Inhabited

/-- The line and column (in bytes) of a byte offset of a text. -/
def lineColumn (text : String) (pos : Nat) : Nat × Nat :=
  let rec go : List Char → Nat → Nat → Nat → Nat × Nat
    | [], _, line, col => (line, col)
    | c :: cs, off, line, col =>
      if off ≥ pos then (line, col)
      else if c == '\n' then go cs (off + 1) (line + 1) 0
      else go cs (off + Text.utf8Width c) line (col + Text.utf8Width c)
  go text.toList 0 1 0

/-- A node's written form cut after twenty characters. -/
def contextText (s : String) : String :=
  if Text.byteLength s > 20 then String.ofList (s.toList.take 20) ++ "..." else s

namespace Exec

/-- Sets the node at hand. -/
def atSpot (sp : Spot) : Exec Unit := modify fun s => { s with spot := some sp }

/-- **Stops the run** with a message about the node at hand. -/
def errorf {α : Type} (msg : String) : Exec α := do
  let s ← get
  let env ← read
  let name := s.name
  match s.spot with
  | none => throw (s!"template: {name}: " ++ msg : String)
  | some sp =>
    let (line, col) := lineColumn env.text sp.pos
    let pn := env.parseName
    throw (s!"template: {pn}:{line}:{col}: executing " ++ Text.quote name ++ " at <" ++
      contextText sp.text ++ ">: " ++ msg : String)

/-- Writes text. -/
def write (t : String) : Exec Unit := modify fun s => { s with out := s.out ++ t }

/-- The value of a variable. -/
def varValue (name : String) : Exec Datum := do
  match ((← get).vars.reverse.lookup name) with
  | some v => return v
  | none => errorf ("undefined variable: " ++ name)

/-- Pushes a variable. -/
def push (name : String) (v : Datum) : Exec Unit := modify fun s => { s with vars := s.vars ++ [(name, v)] }

/-- Sets the innermost variable of a name. -/
def setVar (name : String) (v : Datum) : Exec Unit := modify fun s =>
  let rec go : List (String × Datum) → List (String × Datum)
    | [] => []
    | (n, d) :: rest => if n == name then (n, v) :: rest else (n, d) :: go rest
  { s with vars := (go s.vars.reverse).reverse }

/-- Sets the variable `n` places from the top. -/
def setTopVar (n : Nat) (v : Datum) : Exec Unit := modify fun s =>
  let k := s.vars.length - n
  { s with vars := s.vars.set k ((s.vars.getD k ("", .none)).1, v) }

/-- The number of variables, to return to. -/
def mark : Exec Nat := do return (← get).vars.length

/-- Drops the variables above a mark. -/
def pop (m : Nat) : Exec Unit := modify fun s => { s with vars := s.vars.take m }

/-- Whether a value is a text literal. -/
def isHexInt (t : String) : Bool :=
  match t.toList with
  | '0' :: c :: _ => (c == 'x' || c == 'X') && !(t.toList.any fun c => c == 'p' || c == 'P')
  | _ => false

/-- **The value of a number literal** without a type to give it. -/
def idealConstant (n : NumberLit) : Exec Datum := do
  if n.isComplex then errorf ("complex constants are not supported: " ++ n.text)
  let floaty := n.text.toList.any fun c => c == '.' || c == 'e' || c == 'E' || c == 'p' || c == 'P'
  match n.float? with
  | some f =>
    if floaty && !isHexInt n.text && n.text.toList.head? != some '\'' then return .float f
  | none => pure ()
  match n.int? with
  | some i => return .int "int" i
  | none => errorf (n.text ++ " overflows int")

/-- Whether nil may stand for a parameter type. -/
def canBeNil : Param → Bool
  | .any | .untyped => true
  | _ => false

/-- **Checks a value against a parameter type.** -/
def validateType (v : Datum) (typ : Param) : Exec Datum := do
  match v with
  | .none =>
    if canBeNil typ then return .none
    else errorf ("invalid value; expected " ++ typ.text)
  | v =>
    let ok := match typ with
      | .value | .any | .untyped => true
      | .string => v.typeName == "string"
      | .int => v.typeName == "int"
      | .bool => v.typeName == "bool"
      | .named t => v.typeName == t
    if ok then return v
    else errorf ("wrong type for value; expected " ++ typ.text ++ "; got " ++ v.typeName)

/-- Complains when a value that is not a function gets arguments. -/
def notAFunction (first : Arg) (args : List Arg) (final : Option Datum) : Exec Unit := do
  if !args.isEmpty || final.isSome then
    errorf ("can't give argument to non-function " ++ first.text)

/-- What a call calls: a builtin, a function given to the run, or a method with its result. -/
inductive Callee where
  | builtin (name : String) (f : Func)
  | given (f : Func)
  | method (result : Datum)

/-- The parameters of a callee. -/
def Callee.func : Callee → Func
  | .builtin _ f | .given f => f
  | .method r => ⟨[], none, fun _ => .ok r⟩

mutual
/-- **Evaluates a pipeline**, declaring or assigning its variables. -/
def evalPipeline (fuel : Nat) (dot : Datum) (p : Pipe) : Exec Datum := do
  match fuel with
  | 0 => errorf "exceeded maximum template depth"
  | fuel + 1 =>
  atSpot p.spot
  let mut value : Option Datum := none
  for c in p.cmds do
    value := some (← evalCommand fuel dot c value)
  let v := value.getD .none
  for (_, name) in p.decls do
    if p.isAssign then setVar name v else push name v
  return v

/-- **Evaluates a command**, with the value of the command before it when there is one. -/
def evalCommand (fuel : Nat) (dot : Datum) (c : Cmd) (final : Option Datum) : Exec Datum := do
  match fuel with
  | 0 => errorf "exceeded maximum template depth"
  | fuel + 1 =>
  match c.args with
  | [] => errorf "empty command"
  | first :: args =>
  match first with
  | .field _ ids => do
    atSpot first.spot
    evalFieldChain fuel dot dot first.spot ids args final
  | .chain _ node fields => evalChain fuel dot first.spot node fields args final
  | .identifier _ name => evalFunction fuel dot name first.spot c.spot args final
  | .pipe p => do
    notAFunction first args final
    evalPipeline fuel dot p
  | .variable _ ids => evalVariable fuel dot first.spot ids args final
  | _ => do
    atSpot first.spot
    notAFunction first args final
    match first with
    | .bool _ b => return .bool b
    | .dot _ => return dot
    | .nil _ => errorf "nil is not a command"
    | .number _ n => idealConstant n
    | .string _ _ v => return .str v
    | a => errorf ("can't evaluate command " ++ Text.quote a.text)

/-- A variable, then its fields. -/
def evalVariable (fuel : Nat) (dot : Datum) (sp : Spot) (ids : List String) (args : List Arg)
    (final : Option Datum) : Exec Datum := do
  match fuel with
  | 0 => errorf "exceeded maximum template depth"
  | fuel + 1 =>
  atSpot sp
  let v ← varValue (ids.headD "$")
  match ids.tail with
  | [] =>
    if !args.isEmpty || final.isSome then
      errorf ("can't give argument to non-function " ++ sp.text)
    return v
  | rest => evalFieldChain fuel dot v sp rest args final

/-- A parenthesized pipeline or other operand, then its fields. -/
def evalChain (fuel : Nat) (dot : Datum) (sp : Spot) (node : Arg) (fields : List String)
    (args : List Arg) (final : Option Datum) : Exec Datum := do
  match fuel with
  | 0 => errorf "exceeded maximum template depth"
  | fuel + 1 =>
  atSpot sp
  match node with
  | .nil _ => errorf ("indirection through explicit nil in " ++ sp.text)
  | _ =>
    let v ← evalArg fuel dot .untyped node
    evalFieldChain fuel dot v sp fields args final

/-- **A chain of fields** of a value; the last one gets the arguments. -/
def evalFieldChain (fuel : Nat) (dot receiver : Datum) (sp : Spot) (ids : List String)
    (args : List Arg) (final : Option Datum) : Exec Datum := do
  match fuel with
  | 0 => errorf "exceeded maximum template depth"
  | fuel + 1 =>
  match ids with
  | [] => return receiver
  | [last] => evalField fuel dot last sp args final receiver
  | name :: rest =>
    let r ← evalField fuel dot name sp [] none receiver
    evalFieldChain fuel dot r sp rest args final

/-- **A field or method** of a value. -/
def evalField (fuel : Nat) (dot : Datum) (name : String) (sp : Spot) (args : List Arg)
    (final : Option Datum) (receiver : Datum) : Exec Datum := do
  match fuel with
  | 0 => errorf "exceeded maximum template depth"
  | fuel + 1 =>
  match receiver with
  | .none => return .none
  | .nilOf t => errorf ("nil pointer evaluating " ++ t ++ "." ++ name)
  | r =>
    match r.method? name with
    | some result => evalCall fuel dot (.method result) sp name args final
    | none =>
      match r with
      | .record t fs =>
        match fs.lookup name with
        | some v =>
          if !args.isEmpty || final.isSome then
            errorf (name ++ " has arguments but cannot be invoked as function")
          return v
        | none => errorf ("can't evaluate field " ++ name ++ " in type " ++ t)
      | r => errorf ("can't evaluate field " ++ name ++ " in type " ++ r.typeName)

/-- **A function by name**: a function given to the run, or a builtin. -/
def evalFunction (fuel : Nat) (dot : Datum) (name : String) (nameSpot callSpot : Spot)
    (args : List Arg) (final : Option Datum) : Exec Datum := do
  match fuel with
  | 0 => errorf "exceeded maximum template depth"
  | fuel + 1 =>
  atSpot nameSpot
  match (← read).funcs.lookup name with
  | some f => evalCall fuel dot (.given f) callSpot name args final
  | none =>
    match builtin? name with
    | some f => evalCall fuel dot (.builtin name f) callSpot name args final
    | none => errorf (Text.quote name ++ " is not a defined function")

/-- **A call**: checks the number of arguments, evaluates them against the parameter types
(`and` and `or` lazily), and runs the function. -/
def evalCall (fuel : Nat) (dot : Datum) (callee : Callee) (sp : Spot) (name : String)
    (args : List Arg) (final : Option Datum) : Exec Datum := do
  match fuel with
  | 0 => errorf "exceeded maximum template depth"
  | fuel + 1 =>
  let f := callee.func
  let numIn := args.length + (if final.isSome then 1 else 0)
  let numFixed := if f.variadic.isSome then f.params.length else args.length
  if f.variadic.isSome then
    if numIn < numFixed then
      errorf s!"wrong number of args for {name}: want at least {numFixed} got {args.length}"
  else if numIn != f.params.length then
    errorf s!"wrong number of args for {name}: want {f.params.length} got {numIn}"
  match callee with
  | .builtin n _ =>
    if n == "and" || n == "or" then
      let wanted := n == "or"
      let mut v : Datum := .none
      for a in args do
        v ← evalArg fuel dot .value a
        if v.truth == wanted then return v
      match final with
      | some fv => v ← validateType fv .value
      | none => pure ()
      return v
  | _ => pure ()
  let mut argv : List Datum := []
  let mut i := 0
  for a in args do
    let typ := if i < numFixed then f.params.getD i .any else f.variadic.getD .any
    argv := argv ++ [← evalArg fuel dot typ a]
    i := i + 1
  match final with
  | some fv =>
    let typ := match f.variadic with
      | some vt => if numIn - 1 < numFixed then f.params.getD (numIn - 1) .any else vt
      | none => f.params.getD (f.params.length - 1) .any
    argv := argv ++ [← validateType fv typ]
  | none => pure ()
  let result := match callee with
    | .builtin "call" _ =>
      match argv.head? with
      | some Datum.none | none => Except.error "call of nil"
      | some d =>
        Except.error ("non-function " ++ ((args.head?.map Arg.text).getD "") ++ " of type " ++ d.typeName)
    | c => c.func.run argv
  match result with
  | .ok v => return v
  | .error e =>
    atSpot sp
    errorf ("error calling " ++ name ++ ": " ++ e)

/-- **An argument** evaluated against its parameter type. -/
def evalArg (fuel : Nat) (dot : Datum) (typ : Param) (a : Arg) : Exec Datum := do
  match fuel with
  | 0 => errorf "exceeded maximum template depth"
  | fuel + 1 =>
  atSpot a.spot
  match a with
  | .dot _ => validateType dot typ
  | .nil _ =>
    if canBeNil typ then return .none
    errorf ("cannot assign nil to " ++ typ.text)
  | .field _ ids => do
    atSpot a.spot
    validateType (← evalFieldChain fuel dot dot a.spot ids [] none) typ
  | .variable _ ids => validateType (← evalVariable fuel dot a.spot ids [] none) typ
  | .pipe p => validateType (← evalPipeline fuel dot p) typ
  | .identifier _ name => validateType (← evalFunction fuel dot name a.spot a.spot [] none) typ
  | .chain _ node fields => validateType (← evalChain fuel dot a.spot node fields [] none) typ
  | lit =>
    match typ, lit with
    | .bool, .bool _ b => return .bool b
    | .bool, l => errorf ("expected bool; found " ++ l.text)
    | .int, .number _ n =>
      match n.int? with
      | some i => if n.isComplex then errorf ("expected integer; found " ++ lit.text) else return .int "int" i
      | none => errorf ("expected integer; found " ++ lit.text)
    | .int, l => errorf ("expected integer; found " ++ l.text)
    | .string, .string _ _ v => return .str v
    | .string, l => errorf ("expected string; found " ++ l.text)
    | .named t, l => errorf ("can't handle " ++ l.text ++ " for arg of type " ++ t)
    | _, .bool _ b => return .bool b
    | _, .number _ n => idealConstant n
    | _, .string _ _ v => return .str v
    | _, l => errorf ("can't handle assignment of " ++ l.text ++ " to empty interface argument")
end

mutual
/-- **Walks a node.** -/
def walk (fuel : Nat) (dot : Datum) (n : Node) : Exec Signal := do
  match fuel with
  | 0 => errorf "exceeded maximum template depth"
  | fuel + 1 =>
  atSpot n.spot
  match n with
  | .plain _ t => write t; return .normal
  | .action _ _ p =>
    let v ← evalPipeline fuel dot p
    if p.decls.isEmpty then
      atSpot n.spot
      write v.print
    return .normal
  | .ifNode _ _ p l e => walkIfOrWith fuel false dot p l e
  | .withNode _ _ p l e => walkIfOrWith fuel true dot p l e
  | .rangeNode _ _ p l e => walkRange fuel n.spot dot p l e
  | .template _ _ name p => walkTemplate fuel dot name p
  | .breakNode .. => return .breakLoop
  | .continueNode .. => return .continueLoop

/-- Walks nodes in turn, stopping at a `break` or `continue`. -/
def walkList (fuel : Nat) (dot : Datum) (ns : List Node) : Exec Signal := do
  match fuel with
  | 0 => errorf "exceeded maximum template depth"
  | fuel + 1 =>
  for n in ns do
    let sig ← walk fuel dot n
    if sig != .normal then return sig
  return .normal

/-- **`if` and `with`.** -/
def walkIfOrWith (fuel : Nat) (isWith : Bool) (dot : Datum) (p : Pipe) (l : List Node)
    (e : Option (List Node)) : Exec Signal := do
  match fuel with
  | 0 => errorf "exceeded maximum template depth"
  | fuel + 1 =>
  let m ← mark
  let v ← evalPipeline fuel dot p
  let sig ← if v.truth then walkList fuel (if isWith then v else dot) l
    else match e with
      | some e => walkList fuel dot e
      | none => pure .normal
  pop m
  return sig

/-- **`range`** over the items of a list or the numbers below an integer. -/
def walkRange (fuel : Nat) (sp : Spot) (dot : Datum) (p : Pipe) (l : List Node)
    (e : Option (List Node)) : Exec Signal := do
  match fuel with
  | 0 => errorf "exceeded maximum template depth"
  | fuel + 1 =>
  atSpot sp
  let m0 ← mark
  let v ← evalPipeline fuel dot p
  let m ← mark
  let one (index elem : Datum) : Exec Signal := do
    let decls := p.decls
    if !decls.isEmpty then
      if p.isAssign then
        if decls.length > 1 then setVar (decls.headD (0, "")).2 index
        else setVar (decls.headD (0, "")).2 elem
      else setTopVar 1 elem
    if decls.length > 1 then
      if p.isAssign then setVar (decls.getD 1 (0, "")).2 elem
      else setTopVar 2 index
    let sig ← walkList fuel elem l
    pop m
    return sig
  let items : Option (List (Datum × Datum)) ← match v with
    | .list _ xs => pure (some ((List.range xs.length).zip xs |>.map fun (i, x) => (.int "int" i, x)))
    | .int t n =>
      if p.decls.length > 1 then
        errorf ("can't use " ++ v.print ++ " to iterate over more than one variable")
      pure (some ((List.range n.toNat).map fun (i : Nat) => (Datum.int t i, Datum.int t i)))
    | .none | .nilOf _ => pure none
    | v => errorf ("range can't iterate over " ++ v.print)
  let items := items.getD []
  if items.isEmpty then
    let sig ← match e with
      | some e => walkList fuel dot e
      | none => pure .normal
    pop m0
    return sig
  for (i, x) in items do
    let sig ← one i x
    if sig == .breakLoop then break
  pop m0
  return .normal

/-- **Calls a template** of the text on the value of the pipeline, with only `$` defined. -/
def walkTemplate (fuel : Nat) (dot : Datum) (name : String) (p : Option Pipe) : Exec Signal := do
  match fuel with
  | 0 => errorf "exceeded maximum template depth"
  | fuel + 1 =>
  match (← read).trees.lookup name with
  | none => errorf ("template " ++ Text.quote name ++ " not defined")
  | some root =>
    let newDot ← match p with
      | some p => evalPipeline fuel dot p
      | none => pure .none
    let saved ← get
    set { saved with name := name, vars := [("$", newDot)] }
    discard <| walkList fuel newDot root
    modify fun s => { s with name := saved.name, vars := saved.vars, spot := saved.spot }
    return .normal
end

end Exec

/-- The most nested calls a run makes. -/
def execFuel : Nat := 100000

/-- **Runs the template `name`** of a parsed text on a value: the text written, or the message
of the first failure. -/
def execute (env : ExecEnv) (name : String) (data : Datum) : Except String String :=
  match env.trees.lookup name with
  | none => .error (s!"template: {name}: " ++ Text.quote name ++ " is an incomplete or empty template")
  | some root =>
    match ((Exec.walkList execFuel data root).run env).run ⟨name, "", [("$", data)], none⟩ with
    | .ok (_, s) => .ok s.out
    | .error e => .error e

/-- The first byte of a text is on line one, column zero. -/
theorem lineColumn_start (text : String) : lineColumn text 0 = (1, 0) := by
  unfold lineColumn
  cases text.toList with
  | nil => rfl
  | cons c cs => simp [lineColumn.go]

end Accessors.Template
