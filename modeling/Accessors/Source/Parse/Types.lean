import Accessors.Source.Parse.State

/-!
# Parsing types

The type productions of the grammar: names and qualified names with type arguments, arrays and
slices, structs with their fields, pointers, functions with their parameter lists, interfaces
with methods and type-set terms, maps and channels.

Parameter lists are read as a list of optional names and optional types and sorted out
afterwards: when no parameter has both a name and a type, the names are types; otherwise every
parameter must end up with both, a type being shared by the names before it. Consecutive names
that share one type form one field.
-/

namespace Accessors.Source.Parse

/-- **A type**, or a complaint and a bad expression when none starts here. -/
def typeBody (r : Rec) : P Expr := do
  match ← r.tryIdentOrType with
  | some t => return t
  | none =>
    let pos ← here
    errorExpected pos "type"
    advance exprEnd
    return .bad pos

/-- A type name: a name, or a package name, a dot and a name. -/
def typeName (given : Option Expr) : P Expr := do
  let id ← match given with
    | some i => pure i
    | none => ident
  if (← isOp ".") then
    next
    let sel ← ident
    return .selector id sel.pos (nameOf sel)
  return id

/-- A type name with type arguments when a bracket follows. -/
def qualifiedIdentBody (r : Rec) (given : Option Expr) : P Expr := do
  let typ ← typeName given
  if (← isOp "[") then r.typeInstance typ else return typ

/-- An array or slice type after its bracket, the length when it was read already. -/
def arrayTypeBody (r : Rec) (lbrack : Nat) (given : Option Expr) : P Expr := do
  let len ← match given with
    | some l => pure (some l)
    | none => do
      incLev
      let s ← get
      let l ←
        if s.tok == .op "..." then do
          next
          pure (some (Expr.ellipsis s.pos none))
        else if s.tok != .op "]" then some <$> r.rhs
        else pure none
      decLev
      pure l
  if (← isOp ",") then
    error (← here) "unexpected comma; expecting ]"
    next
  discard <| expect (.op "]")
  let elt ← r.type
  return .arrayType lbrack len elt

/-- After a field name and a bracket: an array field `x [n]E` or `x []E`, or an embedded
instantiated type `x[A, B]` (then no name is returned). -/
def arrayFieldOrTypeInstanceBody (r : Rec) (x : Expr) : P (Option Expr × Expr) := do
  let lbrack ← expect (.op "[")
  let mut trailingComma : Option Nat := none
  let mut args : Array Expr := #[]
  if !(← isOp "]") then
    incLev
    args := args.push (← r.rhs)
    for _ in [0:(← bound)] do
      if !(← isOp ",") then break
      let comma ← here
      next
      if (← isOp "]") then
        trailingComma := some comma
        break
      args := args.push (← r.rhs)
    decLev
  let rbrack ← expect (.op "]")
  match args.toList with
  | [] =>
    let elt ← r.type
    return (some x, .arrayType lbrack none elt)
  | [len] =>
    match ← r.tryIdentOrType with
    | some elt =>
      if let some c := trailingComma then error c "unexpected comma; expecting ]"
      return (some x, .arrayType lbrack (some len) elt)
    | none => return (none, packIndex x lbrack [len] rbrack)
  | more => return (none, packIndex x lbrack more rbrack)

/-- The names of name expressions, with their offsets. -/
def namesOf (xs : List Expr) : List (Nat × String) := xs.map fun x => (x.pos, nameOf x)

/-- **A field declaration** of a struct, with its documentation and line comments. -/
def fieldDeclBody (r : Rec) : P Field := do
  let doc := textsOf (← get).leadComment
  let mut names : List Expr := []
  let mut typ : Expr := .bad 0
  let s ← get
  match s.tok with
  | .ident =>
    let name ← ident
    let t ← tok
    if t == .op "." || t == .string || t == .op ";" || t == .op "\x7d" then
      -- an embedded type
      typ := name
      if t == .op "." then typ ← r.qualifiedIdent (some name)
    else
      let mut ns : Array Expr := #[name]
      for _ in [0:(← bound)] do
        if !(← isOp ",") then break
        next
        ns := ns.push (← ident)
      if ns.size == 1 && (← isOp "[") then
        let (n, t) ← r.arrayFieldOrTypeInstance name
        typ := t
        names := n.toList
      else
        names := ns.toList
        typ ← r.type
  | .op "*" =>
    next
    if (← isOp "(") then
      error (← here) "cannot parenthesize embedded type"
      next
      let t ← r.qualifiedIdent none
      if (← isOp ")") then next
      typ := .star s.pos t
    else
      typ := .star s.pos (← r.qualifiedIdent none)
  | .op "(" =>
    error s.pos "cannot parenthesize embedded type"
    next
    let s2 ← get
    if s2.tok == .op "*" then
      next
      typ := .star s2.pos (← r.qualifiedIdent none)
    else
      typ ← r.qualifiedIdent none
    if (← isOp ")") then next
  | _ =>
    errorExpected s.pos "field name or embedded type"
    advance exprEnd
    typ := .bad s.pos
  let mut tag : Option (Nat × String) := none
  let s3 ← get
  if s3.tok == .string then
    tag := some (s3.pos, s3.lit)
    next
  let comment ← expectSemi
  return .mk doc (namesOf names) typ tag (textsOf comment)

/-- **A struct type** and its fields. -/
def structTypeBody (r : Rec) : P Expr := do
  let pos ← expect (.kw "struct")
  let lbrace ← expect (.op "\x7b")
  let mut list : Array Field := #[]
  for _ in [0:(← bound)] do
    let t ← tok
    if !(t == .ident || t == .op "*" || t == .op "(") then break
    list := list.push (← r.fieldDecl)
  let rbrace ← expect (.op "\x7d")
  return .structType pos (.mk (some lbrace) list.toList (some rbrace))

/-- A pointer type. -/
def pointerTypeBody (r : Rec) : P Expr := do
  let star ← expect (.op "*")
  let elt ← r.type
  return .star star elt

/-- A variadic parameter type `...T`. -/
def dotsTypeBody (r : Rec) : P Expr := do
  let pos ← expect (.op "...")
  let elt ← r.type
  return .ellipsis pos (some elt)

/-- Whether a token starts a type after a parameter name. -/
def startsParamType (t : Tok) : Bool :=
  match t with
  | .ident | .op "*" | .op "<-" | .kw "func" | .kw "chan" | .kw "map" | .kw "struct"
  | .kw "interface" | .op "(" => true
  | _ => false

/-- **One parameter**: an optional name and an optional type; `given` is a name read already.
Type parameters (`typeSets`) may have type-set terms such as `~int | string`. -/
def paramDeclBody (r : Rec) (given : Option Expr) (typeSets : Bool) : P (Option Expr × Option Expr) := do
  let ptok ← tok
  if given.isNone && typeSets && ptok == .op "~" then
    return (none, some (← r.embeddedElem none))
  let mut name : Option Expr := none
  let mut typ : Option Expr := none
  if given.isSome || ptok == .ident then
    name ← match given with
      | some n => pure (some n)
      | none => some <$> ident
    match ← tok with
    | .op "[" =>
      let (n, t) ← r.arrayFieldOrTypeInstance (name.getD (.bad 0))
      name := n
      typ := some t
    | .op "..." => return (name, some (← r.dotsType))
    | .op "." =>
      typ := some (← r.qualifiedIdent name)
      name := none
    | .op "~" =>
      if typeSets then return (name, some (← r.embeddedElem none))
    | .op "|" =>
      if typeSets then return (none, some (← r.embeddedElem name))
    | t =>
      if startsParamType t then typ := some (← r.type)
  else
    match ptok with
    | .op "..." => return (none, some (← r.dotsType))
    | t =>
      if startsParamType t || t == .op "[" then typ := some (← r.type)
      else
        errorExpected (← here) "')'"
        advance exprEnd
  if typeSets && (← isOp "|") then
    if let some t := typ then typ := some (← r.embeddedElem (some t))
  return (name, typ)

/-- Groups parameters that share a type into fields: each parameter is a name, its type, and
the index of the parameter its type was written with. -/
def groupParams : List (Expr × Expr × Nat) → List Field
  | [] => []
  | (n, t, src) :: rest =>
    let same := rest.takeWhile (·.2.2 == src)
    Field.mk [] (namesOf (n :: same.map (·.1))) t none [] ::
      groupParams (rest.drop same.length)
termination_by ps => ps.length
decreasing_by simp only [List.length_drop, List.length_cons]; omega

/-- **A parameter list** up to `closing`, with a name or type read already. -/
def parameterListBody (r : Rec) (name0 typ0 : Option Expr) (closing : Tok) : P (List Field) := do
  let tparams := closing == .op "]"
  let pos0 ← match name0, typ0 with
    | some n, _ => pure n.pos
    | none, some t => pure t.pos
    | none, none => here
  let mut list : Array (Option Expr × Option Expr) := #[]
  let mut named := 0
  let mut typed := 0
  let mut name0 := name0
  let mut typ0 := typ0
  for _ in [0:(← bound)] do
    let t ← tok
    if !(name0.isSome || (t != closing && t != .eof)) then break
    let par ← match typ0 with
      | some ty => do
        let ty ← if tparams then r.embeddedElem (some ty) else pure ty
        pure (name0, some ty)
      | none => r.paramDecl name0 tparams
    name0 := none
    typ0 := none
    if par.1.isSome || par.2.isSome then
      list := list.push par
      if par.1.isSome && par.2.isSome then named := named + 1
      if par.2.isSome then typed := typed + 1
    if !(← atComma "parameter list" closing) then break
    next
  if list.isEmpty then return []
  if named == 0 then
    -- no parameter has both: the names are types
    let types := list.toList.map fun (n, t) => match n with
      | some n => n
      | none => t.getD (.bad 0)
    if tparams then
      if named == typed then error (← here) "missing type constraint"
      else
        error pos0 ("missing type parameter name" ++
          (if list.size == 1 then " or invalid array length" else ""))
    return types.map fun t => Field.mk [] [] t none []
  -- every parameter needs a name and a type: types are shared leftwards
  let indexed := list.toList.zipIdx
  let rec distribute : List ((Option Expr × Option Expr) × Nat) → Option (Expr × Nat) →
      Option Nat → List (Expr × Expr × Nat) × Option Nat
    | [], _, errPos => ([], errPos)
    | ((n, t), i) :: rest, typ, errPos =>
      match t with
      | some ty =>
        let errPos := if n.isNone then some ty.pos else errPos
        let (out, errPos) := distribute rest (some (ty, i)) errPos
        ((n.getD (.ident ty.pos "_"), ty, i) :: out, errPos)
      | none =>
        match typ with
        | some (ty, src) =>
          let (out, errPos) := distribute rest typ errPos
          ((n.getD (.ident ty.pos "_"), ty, src) :: out, errPos)
        | none =>
          let p := (n.map Expr.pos).getD 0
          let (out, errPos) := distribute rest none (some p)
          ((n.getD (.bad p), .bad p, i) :: out, errPos)
  let (pars, errPos) := distribute indexed.reverse none none
  if named != list.size then
    if let some ep := errPos then
      error ep (if tparams then "type parameters must be named" else "mixed named and unnamed parameters")
  return groupParams pars.reverse

/-- **Parameters**, with type parameters in brackets first when they are accepted. -/
def parametersBody (r : Rec) (acceptTParams : Bool) : P Params := do
  let mut tparams : Option FieldList := none
  if acceptTParams && (← isOp "[") then
    let opening ← here
    next
    let list ← r.parameterList none none (.op "]")
    let rbrack ← expect (.op "]")
    let fl := FieldList.mk (some opening) list (some rbrack)
    if fl.count == 0 then error rbrack "empty type parameter list"
    else tparams := some fl
  let opening ← expect (.op "(")
  let mut fields : List Field := []
  if !(← isOp ")") then fields ← r.parameterList none none (.op ")")
  let closing ← expect (.op ")")
  return ⟨tparams, .mk (some opening) fields (some closing)⟩

/-- The results of a signature: a parameter list, a single type, or none. -/
def resultBody (r : Rec) : P (Option FieldList) := do
  if (← isOp "(") then return some (← r.parameters false).params
  match ← r.tryIdentOrType with
  | some t => return some (.mk none [Field.mk [] [] t none []] none)
  | none => return none

/-- **A function type.** -/
def funcTypeBody (r : Rec) : P Expr := do
  let pos ← expect (.kw "func")
  let ps ← r.parameters true
  if let some tp := ps.typeParams then
    error (tp.opening.getD 0) "function type must have no type parameters"
  let results ← r.result
  return .funcType (some pos) none ps.params results

/-- One element of an interface: a method, or an embedded (possibly instantiated) type. -/
def methodSpecBody (r : Rec) : P Field := do
  let doc := textsOf (← get).leadComment
  let x ← typeName none
  match x with
  | .ident .. =>
    let s ← get
    if s.tok == .op "[" then
      -- a generic method, or an embedded instantiated type
      let lbrack := s.pos
      next
      incLev
      let x2 ← r.expr
      decLev
      let t ← tok
      match x2 with
      | .ident .. =>
        if t != .op "," && t != .op "]" then
          let list ← r.parameterList (some x2) none (.op "]")
          let rbrack ← expect (.op "]")
          discard <| pure list
          error lbrack "interface method must have no type parameters"
          discard <| pure rbrack
          let ps ← r.parameters false
          let results ← r.result
          return .mk doc (namesOf [x]) (.funcType none none ps.params results) none []
        else embedded doc x lbrack x2
      | _ => embedded doc x lbrack x2
    else if s.tok == .op "(" then
      let ps ← r.parameters false
      let results ← r.result
      return .mk doc (namesOf [x]) (.funcType none none ps.params results) none []
    else return .mk doc [] x none []
  | _ =>
    if (← isOp "[") then return .mk doc [] (← r.typeInstance x) none []
    return .mk doc [] x none []
where
  /-- An embedded instantiated type whose first type argument was read. -/
  embedded (doc : List String) (x : Expr) (lbrack : Nat) (first : Expr) : P Field := do
    let mut list : Array Expr := #[first]
    if (← atComma "type argument list" (.op "]")) then
      incLev
      next
      for _ in [0:(← bound)] do
        let t ← tok
        if t == .op "]" || t == .eof then break
        list := list.push (← r.type)
        if !(← atComma "type argument list" (.op "]")) then break
        next
      decLev
    let rbrack ← expectClosing (.op "]") "type argument list"
    return .mk doc [] (packIndex x lbrack list.toList rbrack) none []

/-- A union of type-set terms, the first one read already when given. -/
def embeddedElemBody (r : Rec) (given : Option Expr) : P Expr := do
  let mut x ← match given with
    | some x => pure x
    | none => r.embeddedTerm
  for _ in [0:(← bound)] do
    if !(← isOp "|") then break
    let opPos ← here
    next
    let y ← r.embeddedTerm
    x := .binary x opPos "|" y
  return x

/-- A type-set term: `~T` or a type. -/
def embeddedTermBody (r : Rec) : P Expr := do
  let s ← get
  if s.tok == .op "~" then
    next
    let t ← r.type
    return .unary s.pos "~" t
  match ← r.tryIdentOrType with
  | some t => return t
  | none =>
    errorExpected s.pos "~ term or type"
    advance exprEnd
    return .bad s.pos

/-- **An interface type** and its elements. -/
def interfaceTypeBody (r : Rec) : P Expr := do
  let pos ← expect (.kw "interface")
  let lbrace ← expect (.op "\x7b")
  let mut list : Array Field := #[]
  for _ in [0:(← bound)] do
    let t ← tok
    if t == .ident then
      let f ← r.methodSpec
      let f ← if f.names.isEmpty then do
          let ty ← r.embeddedElem (some f.type)
          pure (Field.mk f.doc [] ty none [])
        else pure f
      let c ← expectSemi
      list := list.push (.mk f.doc f.names f.type none (textsOf c))
    else if t == .op "~" then
      let ty ← r.embeddedElem none
      let c ← expectSemi
      list := list.push (.mk [] [] ty none (textsOf c))
    else
      match ← r.tryIdentOrType with
      | some ty =>
        let ty ← r.embeddedElem (some ty)
        let c ← expectSemi
        list := list.push (.mk [] [] ty none (textsOf c))
      | none => break
  let rbrace ← expect (.op "\x7d")
  return .interfaceType pos (.mk (some lbrace) list.toList (some rbrace))

/-- A map type. -/
def mapTypeBody (r : Rec) : P Expr := do
  let pos ← expect (.kw "map")
  discard <| expect (.op "[")
  let key ← r.type
  discard <| expect (.op "]")
  let value ← r.type
  return .mapType pos key value

/-- A channel type: `chan T`, `chan<- T` or `<-chan T`. -/
def chanTypeBody (r : Rec) : P Expr := do
  let pos ← here
  let mut dir := ChanDir.both
  let mut arrow := pos
  if (← isKw "chan") then
    next
    if (← isOp "<-") then
      arrow ← here
      next
      dir := .send
  else
    discard <| expect (.op "<-")
    discard <| expect (.kw "chan")
    dir := .recv
  let value ← r.type
  return .chanType pos arrow dir value

/-- Type arguments in brackets after a type. -/
def typeInstanceBody (r : Rec) (typ : Expr) : P Expr := do
  let opening ← expect (.op "[")
  incLev
  let mut list : Array Expr := #[]
  for _ in [0:(← bound)] do
    let t ← tok
    if t == .op "]" || t == .eof then break
    list := list.push (← r.type)
    if !(← atComma "type argument list" (.op "]")) then break
    next
  decLev
  let closing ← expectClosing (.op "]") "type argument list"
  if list.isEmpty then
    errorExpected closing "type argument list"
    return .index typ opening [.bad (opening + 1)] closing
  return packIndex typ opening list.toList closing

/-- **A type, when one starts here.** -/
def tryIdentOrTypeBody (r : Rec) : P (Option Expr) := do
  let s ← get
  match s.tok with
  | .ident =>
    let t ← typeName none
    if (← isOp "[") then return some (← r.typeInstance t)
    return some t
  | .op "[" =>
    let lb ← expect (.op "[")
    return some (← r.arrayType lb none)
  | .kw "struct" => return some (← r.structType)
  | .op "*" => return some (← r.pointerType)
  | .kw "func" => return some (← r.funcType)
  | .kw "interface" => return some (← r.interfaceType)
  | .kw "map" => return some (← r.mapType)
  | .kw "chan" | .op "<-" => return some (← r.chanType)
  | .op "(" =>
    next
    let t ← r.type
    let rparen ← expect (.op ")")
    return some (.paren s.pos t rparen)
  | _ => return none

end Accessors.Source.Parse
