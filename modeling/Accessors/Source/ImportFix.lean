import Accessors.Source.Print.State
import Accessors.Text.Basic

/-!
# Fixing the imports of a Go file

Before generated source is printed, its imports are put in order:

* **unused imports go**: an import is used when some selection `X.Name` of an exported name has
  as `X` the import's name (its written name, or the name its path suggests,
  `assumedPackageName`), and `X` is not declared in the file where the selection stands
  (`SourceFile.packageRefs`). Blank, dot and `"C"` imports stay. When an import goes, the line
  it stood on is joined to the next one, so that no hole is left between the imports around it;
  a declaration left without imports goes too;
* **several import declarations merge** into the first;
* **runs of imports on consecutive lines are sorted**, standard library paths before others
  when `grouped`, by path, then name, then line comment; duplicates go, and each import takes
  the place (the lines) of the one that stood at its rank;
* a blank line is put between the standard library and other imports (`importGroup`).

Joining lines is a change of the line table (`Draft.starts`), not of the text: offsets stay,
and the printer reads lines from the table.

Main statements: the name a path suggests is its last element (`assumedPackageName_plain`).
-/

namespace Accessors.Source

/-- **A file being fixed**: its tree with its comment groups, and a line table in which lines
may have been joined. -/
structure Draft where
  file : SourceFile
  starts : Array Nat

namespace Draft

/-- The line of an offset. -/
def line (d : Draft) (off : Nat) : Nat := Print.lineOfOffset d.starts off

/-- The number of lines. -/
def lineCount (d : Draft) : Nat := d.starts.size

/-- **Joins a line with the next one.** -/
def mergeLine (d : Draft) (line : Nat) : Draft :=
  if line ≥ 1 && line < d.starts.size then { d with starts := (d.starts.toList.eraseIdx line).toArray }
  else d

/-- Joins the line of `pos` with the next until `target` is on the line after it. -/
def pullUp (d : Draft) (pos target : Nat) : Draft :=
  let rec go : Nat → Draft → Draft
    | 0, d => d
    | fuel + 1, d =>
      if d.line pos + 1 < d.line target then go fuel (d.mergeLine (d.line pos)) else d
  go d.starts.size d

end Draft

/-! ### References to packages -/

/-- Whether a name is exported: it starts with an upper-case letter. -/
def isExported (name : String) : Bool := (name.toList.head?.map Char.isUpper).getD false

/-- The names of the fields of a list. -/
def FieldList.names (fl : FieldList) : List String := fl.fields.flatMap fun f => f.names.map (·.2)

/-- The names of an optional field list. -/
def FieldList.optNames : Option FieldList → List String
  | some fl => fl.names
  | none => []

/-- The names of the parameters and results of a function type. -/
def Expr.paramNames : Expr → List String
  | .funcType _ tps ps rs => FieldList.optNames tps ++ ps.names ++ FieldList.optNames rs
  | _ => []

/-- The names an assignment's left side defines. -/
def definedNames (lhs : List Expr) : List String :=
  lhs.filterMap fun
    | .ident _ n => some n
    | _ => none

mutual
/-- **The package names an expression refers to**, the names in `locals` being declared. -/
def exprRefs (fuel : Nat) (locals : List String) (e : Expr) : List String :=
  match fuel with
  | 0 => []
  | f + 1 =>
    let go := exprRefs f locals
    let opt : Option Expr → List String := fun o => (o.map go).getD []
    match e with
    | .bad _ | .ident .. | .basicLit .. => []
    | .ellipsis _ elt => opt elt
    | .funcLit t b => fieldsRefs f locals t ++ blockRefs f (t.paramNames ++ locals) b
    | .compositeLit t _ elts _ =>
      opt t ++ elts.flatMap fun
        | .keyValue (.ident ..) _ v => go v
        | x => go x
    | .paren _ x _ => go x
    | .selector (.ident _ x) _ sel => if !locals.contains x && isExported sel then [x] else []
    | .selector x _ _ => go x
    | .index x _ is _ => go x ++ is.flatMap go
    | .slice x _ lo hi mx _ _ => go x ++ opt lo ++ opt hi ++ opt mx
    | .typeAssert x _ t _ => go x ++ opt t
    | .call fn _ args _ _ => go fn ++ args.flatMap go
    | .star _ x | .unary _ _ x => go x
    | .binary x _ _ y | .keyValue x _ y | .mapType _ x y => go x ++ go y
    | .arrayType _ len elt => opt len ++ go elt
    | .chanType _ _ _ v => go v
    | .structType _ fl | .interfaceType _ fl => fl.fields.flatMap fun fd => go fd.type
    | .funcType .. => fieldsRefs f locals e

/-- The package names the parameter and result types of a function type refer to. -/
def fieldsRefs (fuel : Nat) (locals : List String) (t : Expr) : List String :=
  match fuel with
  | 0 => []
  | f + 1 =>
    match t with
    | .funcType _ tps ps rs =>
      let lists := (tps.toList ++ [ps] ++ rs.toList)
      lists.flatMap fun fl => fl.fields.flatMap fun fd => exprRefs f locals fd.type
    | _ => []

/-- The package names a block refers to. -/
def blockRefs (fuel : Nat) (locals : List String) (b : Block) : List String :=
  match fuel with
  | 0 => []
  | f + 1 => (stmtsRefs f locals b.stmts).2

/-- The package names statements refer to, and the names declared after them. -/
def stmtsRefs (fuel : Nat) (locals : List String) (ss : List Stmt) : List String × List String :=
  match fuel with
  | 0 => (locals, [])
  | f + 1 =>
    match ss with
    | [] => (locals, [])
    | s :: rest =>
      let (locals', r1) := stmtRefs f locals s
      let (locals'', r2) := stmtsRefs f locals' rest
      (locals'', r1 ++ r2)

/-- **The package names a statement refers to**, and the names declared after it. -/
def stmtRefs (fuel : Nat) (locals : List String) (s : Stmt) : List String × List String :=
  match fuel with
  | 0 => (locals, [])
  | f + 1 =>
    let ex := exprRefs f locals
    let exs : List Expr → List String := fun es => es.flatMap ex
    let inner (ls : List String) (o : Option Stmt) : List String × List String :=
      match o with
      | some st => stmtRefs f ls st
      | none => (ls, [])
    match s with
    | .bad _ | .empty .. | .branch .. => (locals, [])
    | .decl (.mk _ _ _ _ specs _) =>
      specs.foldl (fun (acc : List String × List String) sp =>
        let (ls, rs) := acc
        match sp with
        | .valueSpec names t vs _ =>
          let r := ((t.map (exprRefs f ls)).getD []) ++ vs.flatMap (exprRefs f ls)
          (names.map (·.2) ++ ls, rs ++ r)
        | .typeSpec (_, n) _ _ t => (n :: ls, rs ++ exprRefs f (n :: ls) t)
        | .importSpec .. => acc) (locals, [])
    | .labeled _ _ _ st => stmtRefs f locals st
    | .expr x => (locals, ex x)
    | .send c _ v => (locals, ex c ++ ex v)
    | .incDec x .. => (locals, ex x)
    | .assign lhs _ tok rhs =>
      if tok == ":=" then (definedNames lhs ++ locals, exs rhs)
      else (locals, exs lhs ++ exs rhs)
    | .go _ c | .defer _ c => (locals, ex c)
    | .ret _ rs => (locals, exs rs)
    | .block b => (locals, blockRefs f locals b)
    | .ifStmt _ init cond body els =>
      let (ls, r1) := inner locals init
      (locals, r1 ++ exprRefs f ls cond ++ blockRefs f ls body ++ (inner ls els).2)
    | .caseClause _ list _ body =>
      (locals, ((list.map fun l => l.flatMap (exprRefs f locals)).getD []) ++
        (stmtsRefs f locals body).2)
    | .switchStmt _ init tag body =>
      let (ls, r1) := inner locals init
      (locals, r1 ++ ((tag.map (exprRefs f ls)).getD []) ++ blockRefs f ls body)
    | .typeSwitch _ init assign body =>
      let (ls, r1) := inner locals init
      let (bound, r2) := match assign with
        | .assign lhs _ _ rhs => (definedNames lhs, rhs.flatMap (exprRefs f ls))
        | other => ([], (stmtRefs f ls other).2)
      (locals, r1 ++ r2 ++ blockRefs f (bound ++ ls) body)
    | .commClause _ comm _ body =>
      let (ls, r1) := inner locals comm
      (locals, r1 ++ (stmtsRefs f ls body).2)
    | .select _ body => (locals, blockRefs f locals body)
    | .forStmt _ init cond post body =>
      let (ls, r1) := inner locals init
      (locals, r1 ++ ((cond.map (exprRefs f ls)).getD []) ++ (inner ls post).2 ++
        blockRefs f ls body)
    | .rangeStmt _ key value _ tok x body =>
      let kv := key.toList ++ value.toList
      let r1 := exprRefs f locals x
      if tok == ":=" then (locals, r1 ++ blockRefs f (definedNames kv ++ locals) body)
      else (locals, r1 ++ kv.flatMap (exprRefs f locals) ++ blockRefs f locals body)
end

/-- The names declared at the top of a file: constants, variables, types, and functions other
than methods and `init`. -/
def SourceFile.topNames (f : SourceFile) : List String :=
  f.decls.flatMap fun
    | .gen (.mk _ _ "import" ..) => []
    | .gen d => d.specs.flatMap fun
      | .valueSpec names .. => names.map (·.2)
      | .typeSpec (_, n) .. => [n]
      | .importSpec .. => []
    | .func _ _ none (_, n) .. => if n == "init" then [] else [n]
    | _ => []

/-- **The package names a file refers to**: the `X` of each selection `X.Name` of an exported
name where `X` is not declared in the file. -/
def SourceFile.packageRefs (f : SourceFile) (fuel : Nat) : List String :=
  let top := f.topNames
  let refs := f.decls.flatMap fun
    | .gen (.mk _ _ "import" ..) => []
    | .gen d => (stmtRefs fuel [] (.decl d)).2
    | .func _ _ recv _ t body =>
      let params := FieldList.optNames recv ++ t.paramNames
      (recv.map fun r => r.fields.flatMap fun fd => exprRefs fuel [] fd.type).getD [] ++
        fieldsRefs fuel [] t ++ ((body.map (blockRefs fuel params)).getD [])
    | .bad _ => []
  (refs.filter (!top.contains ·)).eraseDups

/-! ### Imports -/

/-- The name a path suggests for its package: its last element that is not a major version
(`v2`), without a `go-` prefix, up to the first character that cannot be in a name. -/
def assumedPackageName (path : String) : String :=
  let elems := Text.splitOn path "/"
  let base := elems.getLastD ""
  let isVersion (s : String) : Bool :=
    match s.toList with
    | 'v' :: ds => !ds.isEmpty && ds.all Char.isDigit
    | _ => false
  let base := if isVersion base && elems.length > 1 then elems.getD (elems.length - 2) "" else base
  let base := Text.trimPrefix base "go-"
  String.ofList (base.toList.takeWhile fun c => c.isAlphanum || c == '_' || c.toNat ≥ 128)

/-- A path without the double quotes around it. -/
def trimQuotes (s : String) : String :=
  String.ofList ((s.toList.dropWhile (· == '"')).reverse.dropWhile (· == '"')).reverse

/-- The written name of an import, or empty. -/
def Spec.importName : Spec → String
  | .importSpec _ _ (some (_, n)) _ _ => n
  | _ => ""

/-- The path of an import, unquoted; empty when it does not unquote. -/
def Spec.importPath : Spec → String
  | .importSpec _ _ _ _ p =>
    match p.toList with
    | '\x60' :: rest =>
      match rest.reverse with
      | '\x60' :: body => String.ofList body.reverse
      | _ => ""
    | _ => (Text.unquote? p).getD ""
  | _ => ""

/-- The offset of the path of an import. -/
def Spec.pathPos : Spec → Nat
  | .importSpec _ _ _ p _ => p
  | _ => 0

/-- The import specs of the import declarations of a file. -/
def SourceFile.importSpecs (f : SourceFile) : List Spec :=
  f.decls.flatMap fun
    | .gen (.mk _ _ "import" _ specs _) => specs
    | _ => []

/-- **The imports a file does not use**: their written names (or empty) and paths. -/
def SourceFile.unusedImports (f : SourceFile) (fuel : Nat) : List (String × String) :=
  let refs := f.packageRefs fuel
  f.importSpecs.filterMap fun s =>
    match s with
    | .importSpec _ _ name _ path =>
      let n := (name.map (·.2)).getD ""
      if path == "\"C\"" || n == "_" || n == "." then none
      else
        let p := trimQuotes path
        let ident := if n.isEmpty then assumedPackageName p else n
        if refs.contains ident then none else some (n, p)
    | _ => none

/-- The end of a comment group. -/
def groupEndPos (g : CommentGroup) : Nat :=
  match g.list.getLast? with
  | some (off, t) => off + Text.byteLength t
  | none => 0

/-- The doc and line comment groups of an import. -/
def Spec.importComments : Spec → List Nat
  | .importSpec doc c .. => doc.toList ++ c.toList
  | _ => []

/-- The first comment group that ends before `pos` on its line. -/
def Draft.commentOnLineBefore (d : Draft) (pos : Nat) : Option CommentGroup :=
  d.file.comments.find? fun g => groupEndPos g < pos && d.line (groupEndPos g) == d.line pos

/-- **Deletes an import** by its written name and path from the import declarations, joining
lines so that no hole is left, and deleting a declaration left empty. -/
def Draft.deleteImport (d0 : Draft) (name path : String) : Draft := Id.run do
  let mut d := d0
  let mut decls : Array Decl := #[]
  let mut dropComments : List Nat := []
  for decl in d0.file.decls do
    match decl with
    | .gen (.mk doc pos "import" lparen specs rparen) =>
      let mut kept : Array Spec := #[]
      let mut gone := false
      let mut rest := specs
      for _ in specs do
        match rest with
        | [] => break
        | s :: tl =>
          rest := tl
          if s.importName != name || s.importPath != path then
            kept := kept.push s
            continue
          let now := kept.toList ++ tl
          if now.isEmpty then
            gone := true
            break
          if now.length == 1 then
            dropComments := dropComments ++ s.importComments
            if let some g := d.commentOnLineBefore (Spec.pos s) then
              dropComments := dropComments ++ [g.pos]
            let sp := now.headD s
            if let .importSpec (some docPos) .. := sp then d := d.pullUp pos docPos
            if (d.commentOnLineBefore (Spec.pos sp)).isSome then d := d.pullUp pos (Spec.pos sp)
          if let some last := kept.back? then
            let lastLine := d.line last.pathPos
            let l := d.line s.pathPos
            if l - lastLine > 1 || rparen.isNone then pure ()
            else if l != d.lineCount then d := d.mergeLine l
      if !gone then decls := decls.push (.gen (.mk doc pos "import" lparen (kept.toList ++ rest) rparen))
    | other => decls := decls.push other
  let comments := d.file.comments.filter fun g => !dropComments.contains g.pos
  return { d with file := { d.file with decls := decls.toList, comments } }

/-- Whether an import declaration imports `"C"`. -/
def importsC (specs : List Spec) : Bool := specs.any (·.importPath == "C")

/-- **Merges the import declarations** into the first one, which then has parentheses; the
moved imports take its offset. -/
def Draft.mergeImports (d : Draft) : Draft :=
  if d.file.decls.length ≤ 1 then d else
  let step := fun (acc : Option (Nat × Nat) × Array Decl) (decl : Decl) =>
    let (first, out) := acc
    match decl with
    | .gen (.mk _ pos "import" _ specs _) =>
      if importsC specs then (first, out.push decl)
      else match first with
        | none => (some (out.size, pos), out.push decl)
        | some (i, fpos) =>
          let moved := specs.map fun
            | .importSpec dc c n _ p => Spec.importSpec dc c n fpos p
            | sp => sp
          let out := out.modify i fun
            | .gen (.mk fdoc fp t _ fspecs fr) => .gen (.mk fdoc fp t (some fp) (fspecs ++ moved) fr)
            | other => other
          (first, out)
    | _ => (first, out.push decl)
  let (_, decls) := d.file.decls.foldl step (none, #[])
  { d with file := { d.file with decls := decls.toList } }

/-- **The group of an import path**: 0 for the standard library, 1 for paths whose first
element has a dot, 2 for `appengine` paths. -/
def importGroup (path : String) : Nat :=
  if path.startsWith "appengine" then 2
  else if ((Text.splitOn path "/").headD "").contains '.' then 1
  else 0

/-- The text of the line comment of an import. -/
def Draft.lineCommentText (d : Draft) (s : Spec) : String :=
  match s with
  | .importSpec _ (some c) .. =>
    match d.file.comments.find? (·.pos == c) with
    | some g => "\n".intercalate g.texts
    | none => ""
  | _ => ""

/-- Whether one import sorts before another: by group when `grouped`, then path, name and line
comment. -/
def Draft.importLess (d : Draft) (grouped : Bool) (a b : Spec) : Bool :=
  let (ga, gb) := if grouped then (importGroup a.importPath, importGroup b.importPath) else (0, 0)
  if ga != gb then ga < gb
  else if a.importPath != b.importPath then a.importPath < b.importPath
  else if a.importName != b.importName then a.importName < b.importName
  else d.lineCommentText a < d.lineCommentText b

/-- **Sorts one run of imports**: duplicates go (their lines joined), the imports take the
offsets of the places they land on, and comments move with their imports. -/
def Draft.sortRun (d : Draft) (grouped : Bool) (specs : List Spec) : Draft × List Spec :=
  if specs.length ≤ 1 then (d, specs) else
  let spans := specs.map fun s => (Spec.pos s, Spec.endPos s)
  let firstStart := (spans.head?.map (·.1)).getD 0
  let lastLine := d.line ((spans.getLast?.map (·.2)).getD 0)
  -- the comments from the first import up to the last line, each given to the import before it
  let inRange := (d.file.comments.filter (·.pos ≥ firstStart)).takeWhile
    fun g => d.line (groupEndPos g) ≤ lastLine
  let owner (g : CommentGroup) : Nat :=
    ((spans.zipIdx.filter fun (sp, _) => sp.1 ≤ g.pos).getLast?.map (·.2)).getD 0
  let indexed := specs.zipIdx
  let sorted := indexed.mergeSort fun (a, _) (b, _) => !d.importLess grouped b a
  -- drop an import equal to the next one
  let rec dedup : List (Spec × Nat) → Draft → List (Spec × Nat) × Draft
    | [], d => ([], d)
    | [x], d => ([x], d)
    | (a, i) :: (b, j) :: rest, d =>
      let same := a.importPath == b.importPath && a.importName == b.importName &&
        (match a with
         | .importSpec _ c .. => c.isNone
         | _ => true)
      if same then dedup ((b, j) :: rest) (d.mergeLine (d.line (Spec.pos a)))
      else
        let (out, d) := dedup ((b, j) :: rest) d
        ((a, i) :: out, d)
  let (kept, d) := dedup sorted d
  let placed := kept.zipIdx.map fun ((s, orig), rank) =>
    let (start, stop) := spans.getD rank (0, 0)
    let s' := match s with
      | .importSpec dc c n _ p =>
        Spec.importSpec dc c (n.map fun (nm : Nat × String) => (start, nm.2)) start p
      | other => other
    (s', orig, stop)
  -- comments move to the end of the place of their import
  let moves := inRange.filterMap fun g =>
    (placed.find? fun (_, orig, _) => orig == owner g).map fun (_, _, stop) => (g.pos, stop)
  let comments := d.file.comments.map fun g =>
    match moves.find? (·.1 == g.pos) with
    | some (_, stop) => ⟨g.list.map fun (_, t) => (stop, t)⟩
    | none => g
  let comments := comments.mergeSort fun a b => a.pos ≤ b.pos
  ({ d with file := { d.file with comments } }, placed.map (·.1))

/-- **Sorts the imports** of the leading import declarations in runs of consecutive lines;
`grouped` sorts by group first and joins one line before the closing parenthesis after a blank,
otherwise all blank lines before it are joined. -/
def Draft.sortImports (d : Draft) (grouped : Bool) : Draft := Id.run do
  let mut d := d
  let mut decls : Array Decl := #[]
  let mut leading := true
  for decl in d.file.decls do
    match decl with
    | .gen (.mk doc pos "import" lparen specs rparen) =>
      if !leading then
        decls := decls.push decl
        continue
      if grouped && specs.isEmpty then continue
      if lparen.isNone then
        decls := decls.push decl
        continue
      -- runs of imports on consecutive lines
      let mut runs : Array (List Spec) := #[]
      let mut cur : Array Spec := #[]
      for s in specs do
        match cur.back? with
        | some prev =>
          if d.line (Spec.pos s) > 1 + d.line (Spec.endPos prev) then
            runs := runs.push cur.toList
            cur := #[s]
          else cur := cur.push s
        | none => cur := cur.push s
      if !cur.isEmpty then runs := runs.push cur.toList
      let mut out : Array Spec := #[]
      for run in runs do
        let (d', sorted) := d.sortRun grouped run
        d := d'
        out := out ++ sorted.toArray
      if let some last := out.back? then
        let lastLine := d.line (Spec.pos last)
        let rp := d.line (rparen.getD 0)
        if grouped then
          if rp > lastLine + 1 then d := d.mergeLine (rp - 1)
        else
          for _ in [0:rp] do
            let rp := d.line (rparen.getD 0)
            if rp > lastLine + 1 then d := d.mergeLine (rp - 1) else break
      decls := decls.push (.gen (.mk doc pos "import" lparen out.toList rparen))
    | other =>
      leading := false
      decls := decls.push other
  return { d with file := { d.file with decls := decls.toList } }

/-- **The import paths to put a blank line before**: in each paragraph of imports, a path whose
group differs from the one before it. -/
def Draft.spacesBefore (d : Draft) : List String := Id.run do
  let mut out : Array String := #[]
  for decl in d.file.decls do
    match decl with
    | .gen (.mk _ _ "import" _ specs _) =>
      let mut lastLine := 0
      let mut lastGroup : Option Nat := none
      for s in specs do
        let line := d.line s.pathPos
        if lastLine > 0 && line - lastLine > 1 then lastGroup := none
        let path := s.importPath
        let g := importGroup path
        if let some lg := lastGroup then
          if g != lg then out := out.push path
        lastGroup := some g
        lastLine := line
    | _ => break
  return out.toList

/-- The name a path suggests is its last element. -/
theorem assumedPackageName_plain : assumedPackageName "example.com/app/models" = "models" := by
  decide +kernel

end Accessors.Source
