import Accessors.Source.Token

/-!
# Syntax trees of Go source

The trees the parser builds: expressions (types are expressions too), fields of structs,
interfaces and signatures, statements, declarations and whole files with their comments. Every
node keeps the byte offsets of the tokens it is made of, its brackets and braces included, so
that a printer can tell where the source broke lines (`Expr.pos` here, the ends in
`Accessors.Source.Span`).

Types print as the Go type checker writes expressions (`Expr.text`): `[]int`, `map[string]int`,
`func(int) error`, `struct{x int}`, `interface{M()}`, `chan<- string`, binary operators
between blanks.
-/

namespace Accessors.Source

/-- The direction of a channel type. -/
inductive ChanDir where
  | both
  | send
  | recv
  deriving DecidableEq, Repr, Inhabited

/-- **A comment group**: comments on adjacent lines, each with its offset and text. -/
structure CommentGroup where
  list : List (Nat × String)
  deriving Repr, Inhabited, DecidableEq

namespace CommentGroup

/-- The texts of the comments of a group. -/
def texts (g : CommentGroup) : List String := g.list.map (·.2)

/-- The offset of a group's first comment. -/
def pos (g : CommentGroup) : Nat := (g.list.head?.map (·.1)).getD 0

end CommentGroup

mutual
/-- **An expression** or type of Go source. -/
inductive Expr where
  /-- A part that could not be parsed. -/
  | bad (pos : Nat)
  | ident (pos : Nat) (name : String)
  /-- `...` with its element type in a parameter list or array length. -/
  | ellipsis (pos : Nat) (elt : Option Expr)
  | basicLit (pos : Nat) (kind : Tok) (value : String)
  | funcLit (type : Expr) (body : Block)
  /-- A composite literal: its type, its braces, and its elements. -/
  | compositeLit (type : Option Expr) (lbrace : Nat) (elts : List Expr) (rbrace : Nat)
  | paren (pos : Nat) (x : Expr) (rparen : Nat)
  | selector (x : Expr) (selPos : Nat) (sel : String)
  /-- An index expression or an instantiation with several type arguments. -/
  | index (x : Expr) (lbrack : Nat) (indices : List Expr) (rbrack : Nat)
  | slice (x : Expr) (lbrack : Nat) (lo hi max : Option Expr) (slice3 : Bool) (rbrack : Nat)
  /-- A type assertion; no type for the `.(type)` of a type switch. -/
  | typeAssert (x : Expr) (lparen : Nat) (type : Option Expr) (rparen : Nat)
  /-- A call: the function, its parentheses, its arguments and the offset of a final `...`. -/
  | call (fn : Expr) (lparen : Nat) (args : List Expr) (dots : Option Nat) (rparen : Nat)
  | star (pos : Nat) (x : Expr)
  | unary (pos : Nat) (op : String) (x : Expr)
  | binary (x : Expr) (opPos : Nat) (op : String) (y : Expr)
  | keyValue (key : Expr) (colon : Nat) (value : Expr)
  | arrayType (pos : Nat) (len : Option Expr) (elt : Expr)
  | structType (pos : Nat) (fields : FieldList)
  /-- A function type: the offset of `func` when written, type parameters, parameters and
  results. -/
  | funcType (pos : Option Nat) (typeParams : Option FieldList) (params : FieldList)
      (results : Option FieldList)
  | interfaceType (pos : Nat) (methods : FieldList)
  | mapType (pos : Nat) (key value : Expr)
  /-- A channel type: its start, the offset of its arrow, its direction and element type. -/
  | chanType (pos : Nat) (arrow : Nat) (dir : ChanDir) (value : Expr)

/-- **A field** of a struct, interface or signature: its documentation comments, its names with
their offsets, its type, its tag with its offset, and its line comments. -/
inductive Field where
  | mk (doc : List String) (names : List (Nat × String)) (type : Expr)
      (tag : Option (Nat × String)) (comment : List String)

/-- **A list of fields** with its brackets, when it has them. -/
inductive FieldList where
  | mk (opening : Option Nat) (fields : List Field) (closing : Option Nat)

/-- **A statement.** -/
inductive Stmt where
  | bad (pos : Nat)
  | decl (d : GenDecl)
  /-- An empty statement: its offset, and whether its semicolon was only a line end. -/
  | empty (pos : Nat) (implicit : Bool)
  | labeled (pos : Nat) (label : String) (colon : Nat) (stmt : Stmt)
  | expr (x : Expr)
  | send (chan : Expr) (arrow : Nat) (value : Expr)
  | incDec (x : Expr) (tokPos : Nat) (tok : String)
  /-- An assignment or definition: both sides, and the offset and spelling of the operator. -/
  | assign (lhs : List Expr) (tokPos : Nat) (tok : String) (rhs : List Expr)
  | go (pos : Nat) (call : Expr)
  | defer (pos : Nat) (call : Expr)
  | ret (pos : Nat) (results : List Expr)
  /-- `break`, `continue`, `goto` or `fallthrough`, with its label. -/
  | branch (pos : Nat) (tok : String) (label : Option (Nat × String))
  | block (b : Block)
  | ifStmt (pos : Nat) (init : Option Stmt) (cond : Expr) (body : Block) (els : Option Stmt)
  /-- A case of a switch; no list for `default`. -/
  | caseClause (pos : Nat) (list : Option (List Expr)) (colon : Nat) (body : List Stmt)
  | switchStmt (pos : Nat) (init : Option Stmt) (tag : Option Expr) (body : Block)
  | typeSwitch (pos : Nat) (init : Option Stmt) (assign : Stmt) (body : Block)
  /-- A case of a select; no statement for `default`. -/
  | commClause (pos : Nat) (comm : Option Stmt) (colon : Nat) (body : List Stmt)
  | select (pos : Nat) (body : Block)
  | forStmt (pos : Nat) (init : Option Stmt) (cond : Option Expr) (post : Option Stmt)
      (body : Block)
  /-- A range loop; the operator is empty when there are no variables. -/
  | rangeStmt (pos : Nat) (key value : Option Expr) (tokPos : Nat) (tok : String) (x : Expr)
      (body : Block)

/-- **A block**: its braces and statements. -/
inductive Block where
  | mk (lbrace : Nat) (stmts : List Stmt) (rbrace : Nat)

/-- **A spec** of a declaration. -/
inductive Spec where
  /-- An import: the offsets of its documentation and line comment groups, its local name, the
  offset of its path, and the quoted path. -/
  | importSpec (doc comment : Option Nat) (name : Option (Nat × String)) (pathPos : Nat)
      (path : String)
  /-- Constants or variables: names, type, values and line comments. -/
  | valueSpec (names : List (Nat × String)) (type : Option Expr) (values : List Expr)
      (comment : List String)
  /-- A type: its name, type parameters, the offset of `=` for an alias, and the type. -/
  | typeSpec (name : Nat × String) (typeParams : Option FieldList) (assign : Option Nat)
      (type : Expr)

/-- **A declaration** of imports, constants, variables or types: whether it has documentation,
the offset and spelling of its keyword, its parentheses and its specs. -/
inductive GenDecl where
  | mk (doc : Bool) (pos : Nat) (tok : String) (lparen : Option Nat) (specs : List Spec)
      (rparen : Option Nat)
end

instance : Inhabited Expr := ⟨.bad 0⟩
instance : Inhabited Block := ⟨.mk 0 [] 0⟩
instance : Inhabited Stmt := ⟨.bad 0⟩
instance : Inhabited FieldList := ⟨.mk none [] none⟩

namespace Field

/-- The documentation comments of a field. -/
def doc : Field → List String | mk d .. => d

/-- The names of a field with their offsets. -/
def names : Field → List (Nat × String) | mk _ n .. => n

/-- The type of a field. -/
def type : Field → Expr | mk _ _ t .. => t

/-- The tag of a field with its offset. -/
def tag : Field → Option (Nat × String) | mk _ _ _ t _ => t

/-- The line comments of a field. -/
def comment : Field → List String | mk _ _ _ _ c => c

end Field

namespace FieldList

/-- The fields of a list. -/
def fields : FieldList → List Field | mk _ fs _ => fs

/-- The opening bracket of a list. -/
def opening : FieldList → Option Nat | mk o _ _ => o

/-- The closing bracket of a list. -/
def closing : FieldList → Option Nat | mk _ _ c => c

/-- The number of fields a list declares: its names, or one for an unnamed field. -/
def count (l : FieldList) : Nat :=
  l.fields.foldl (fun n f => n + if f.names.isEmpty then 1 else f.names.length) 0

end FieldList

namespace Block

/-- The statements of a block. -/
def stmts : Block → List Stmt | mk _ s _ => s

/-- The opening brace of a block. -/
def lbrace : Block → Nat | mk l _ _ => l

/-- The closing brace of a block. -/
def rbrace : Block → Nat | mk _ _ r => r

end Block

namespace Expr

/-- **The start** of an expression: the offset of its first token. -/
def pos : Expr → Nat
  | bad p | ident p _ | ellipsis p _ | basicLit p .. | paren p .. | star p _ | unary p .. => p
  | arrayType p .. | structType p _ | interfaceType p _ | mapType p .. | chanType p .. => p
  | funcLit t _ => t.pos
  | compositeLit (some t) .. => t.pos
  | compositeLit none l .. => l
  | selector x .. | index x .. | slice x .. | typeAssert x .. | call x .. | binary x .. => x.pos
  | keyValue k .. => k.pos
  | funcType (some p) .. => p
  | funcType none _ ps _ => ps.opening.getD 0

/-- The expression inside any parentheses. -/
def unparen : Expr → Expr
  | paren _ x _ => x.unparen
  | e => e

end Expr

/-- **The start** of a statement: the offset of its first token. -/
def Stmt.pos : Stmt → Nat
  | .bad p | .empty p _ | .labeled p .. | .go p _ | .defer p _ | .ret p _ | .branch p .. => p
  | .ifStmt p .. | .caseClause p .. | .switchStmt p .. | .typeSwitch p .. => p
  | .commClause p .. | .select p _ | .forStmt p .. | .rangeStmt p .. => p
  | .expr x | .send x .. | .incDec x .. => x.pos
  | .assign (x :: _) .. => x.pos
  | .assign [] p .. => p
  | .block b => b.lbrace
  | .decl (.mk _ p ..) => p

/-! ### Printing -/

/-- The results of a signature, given their text: nothing for none, the type alone for a single
unnamed result, and the list in parentheses otherwise. -/
def resultsText (rs : List Field) (text : String) : String :=
  match rs with
  | [] => ""
  | [Field.mk _ [] _ _ _] => " " ++ text
  | _ => " (" ++ text ++ ")"

/-- The fields of an optional list. -/
def FieldList.optFields : Option FieldList → List Field
  | some l => l.fields
  | none => []

mutual
/-- **The text of an expression**, as the Go type checker writes it. -/
def Expr.text : Expr → String
  | .bad _ => "(ast: *ast.BadExpr)"
  | .ident _ n => n
  | .ellipsis _ none => "..."
  | .ellipsis _ (some e) => "..." ++ e.text
  | .basicLit _ _ v => v
  | .funcLit t _ => "(" ++ t.text ++ " literal)"
  | .compositeLit t _ elts _ =>
    (match t with
     | some t => t.text
     | none => "") ++ "\x7b" ++ (if elts.isEmpty then "" else "…") ++ "\x7d"
  | .paren _ x _ => "(" ++ x.text ++ ")"
  | .selector x _ s => x.text ++ "." ++ s
  | .index x _ is _ => x.text ++ "[" ++ Expr.listText is ++ "]"
  | .slice x _ lo hi mx s3 _ =>
    x.text ++ "[" ++ Expr.optText lo ++ ":" ++ Expr.optText hi ++
      (if s3 then ":" ++ Expr.optText mx else "") ++ "]"
  | .typeAssert x _ t _ => x.text ++ ".(" ++ Expr.optText t ++ ")"
  | .call f _ args dots _ =>
    f.text ++ "(" ++ Expr.listText args ++ (if dots.isSome then "..." else "") ++ ")"
  | .star _ x => "*" ++ x.text
  | .unary _ op x => op ++ x.text
  | .binary x _ op y => x.text ++ " " ++ op ++ " " ++ y.text
  | .keyValue .. => "(ast: *ast.KeyValueExpr)"
  | .arrayType _ len elt => "[" ++ Expr.optText len ++ "]" ++ elt.text
  | .structType _ (.mk _ fs _) => "struct\x7b" ++ Field.listText fs "; " false ++ "\x7d"
  | .funcType _ _ (.mk _ ps _) rs => "func(" ++ Field.listText ps ", " false ++ ")" ++ Expr.resultsOf rs
  | .interfaceType _ (.mk _ ms _) => "interface\x7b" ++ Field.listText ms "; " true ++ "\x7d"
  | .mapType _ k v => "map[" ++ k.text ++ "]" ++ v.text
  | .chanType _ _ d v =>
    (match d with
     | .send => "chan<- "
     | .recv => "<-chan "
     | .both => "chan ") ++ v.text

/-- The text of the results of a signature. -/
def Expr.resultsOf : Option FieldList → String
  | some (.mk _ rs _) => resultsText rs (Field.listText rs ", " false)
  | none => ""

/-- The text of an optional expression, empty when absent. -/
def Expr.optText : Option Expr → String
  | some e => e.text
  | none => ""

/-- Expressions separated by commas. -/
def Expr.listText : List Expr → String
  | [] => ""
  | [e] => e.text
  | e :: es => e.text ++ ", " ++ Expr.listText es

/-- Fields separated by `sep`; in an interface, methods show their signatures only. -/
def Field.listText : List Field → String → Bool → String
  | [], _, _ => ""
  | [f], _, iface => Field.text f iface
  | f :: fs, sep, iface => Field.text f iface ++ sep ++ Field.listText fs sep iface

/-- One field: its names, then its type. -/
def Field.text : Field → Bool → String
  | .mk _ names (.funcType _ _ (.mk _ ps _) rs) _ _, true =>
    ", ".intercalate (names.map (·.2)) ++ "(" ++ Field.listText ps ", " false ++ ")" ++
      Expr.resultsOf rs
  | .mk _ names t _ _, _ =>
    ", ".intercalate (names.map (·.2)) ++ (if names.isEmpty then "" else " ") ++ t.text
end

/-- **The type text of a field**: names, pointers, qualified names, arrays, slices and maps are
written part by part, anything else as the type checker writes it. A qualified name whose
qualifier is not a plain name keeps only its last part; an interface with no methods is
`interface{}`. -/
def Expr.typeString : Expr → String
  | .ident _ n => n
  | .star _ x => "*" ++ x.typeString
  | .selector (.ident _ q) _ s => q ++ "." ++ s
  | .selector _ _ s => s
  | .arrayType _ (some len) elt => "[" ++ len.text ++ "]" ++ elt.typeString
  | .arrayType _ none elt => "[]" ++ elt.typeString
  | .mapType _ k v => "map[" ++ k.typeString ++ "]" ++ v.typeString
  | .interfaceType p ms =>
    if ms.fields.isEmpty then "interface\x7b\x7d" else (Expr.interfaceType p ms).text
  | e => e.text

/-! ### Declarations and files -/

/-- **A top-level declaration.** -/
inductive Decl where
  | gen (d : GenDecl)
  /-- A function or method: whether it has documentation, the offset of `func`, the receiver,
  the name with its offset, the signature (a function type) and the body. -/
  | func (doc : Bool) (pos : Nat) (recv : Option FieldList) (name : Nat × String) (type : Expr)
      (body : Option Block)
  | bad (pos : Nat)

instance : Inhabited Decl := ⟨.bad 0⟩

/-- An import as the rest of the program sees it: its local name when one is written, and its
quoted path. -/
structure ImportSpec where
  name : Option String
  path : String
  deriving Repr, Inhabited

/-- A type declaration as the rest of the program sees it: its name and offset, whether it has
type parameters, whether it is an alias, and its type. -/
structure TypeSpec where
  name : String
  pos : Nat
  generic : Bool
  isAlias : Bool
  type : Expr

/-- **A parsed file**: its package clause, declarations and comment groups. -/
structure SourceFile where
  packagePos : Nat
  namePos : Nat
  packageName : String
  decls : List Decl
  comments : List CommentGroup

instance : Inhabited SourceFile := ⟨⟨0, 0, "", [], []⟩⟩

/-- The type declarations of a file. -/
def SourceFile.typeSpecs (f : SourceFile) : List TypeSpec :=
  f.decls.flatMap fun
    | .gen (.mk _ _ "type" _ specs _) => specs.filterMap fun
      | .typeSpec (pos, name) tparams assign type =>
        some ⟨name, pos, tparams.isSome, assign.isSome, type⟩
      | _ => none
    | _ => []

end Accessors.Source
