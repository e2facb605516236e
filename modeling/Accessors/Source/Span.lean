import Accessors.Source.Ast
import Accessors.Text.Quote

/-!
# Where syntax ends

The end of a node is the offset just after its last token: a closing bracket or brace, or the
end of the last name, literal or operand inside it. With the starts in `Accessors.Source.Ast`
these give the lines a node spans, which is what a printer needs to keep the source's line
structure.

Main statements: a name ends its length after its start (`endPos_ident`).
-/

namespace Accessors.Source

mutual
/-- **The end** of an expression. -/
def Expr.endPos : Expr → Nat
  | .bad p => p
  | .ident p n => p + Text.byteLength n
  | .ellipsis p none => p + 3
  | .ellipsis _ (some e) => e.endPos
  | .basicLit p _ v => p + Text.byteLength v
  | .funcLit _ b => b.rbrace + 1
  | .compositeLit _ _ _ r | .paren _ _ r | .index _ _ _ r | .slice _ _ _ _ _ _ r
  | .typeAssert _ _ _ r | .call _ _ _ _ r => r + 1
  | .selector _ p s => p + Text.byteLength s
  | .star _ x | .unary _ _ x | .binary _ _ _ x | .keyValue _ _ x | .arrayType _ _ x
  | .mapType _ _ x | .chanType _ _ _ x => x.endPos
  | .structType p fl | .interfaceType p fl => FieldList.endPos fl p
  | .funcType _ _ ps none => FieldList.endPos ps 0
  | .funcType _ _ _ (some rs) => FieldList.endPos rs 0

/-- The end of a field list: after its closing bracket, else after its last field, else the
given offset. -/
def FieldList.endPos : FieldList → Nat → Nat
  | .mk _ _ (some c), _ => c + 1
  | .mk _ fs none, d => Field.lastEnd fs d

/-- The end of the last of some fields, or the given offset. -/
def Field.lastEnd : List Field → Nat → Nat
  | [], d => d
  | [f], _ => f.endPos
  | _ :: fs, d => Field.lastEnd fs d

/-- The end of a field: after its tag, else after its type. -/
def Field.endPos : Field → Nat
  | .mk _ _ _ (some (p, t)) _ => p + Text.byteLength t
  | .mk _ _ t none _ => t.endPos
end

/-- The start of a field: its first name, else its type. -/
def Field.pos : Field → Nat
  | .mk _ ((p, _) :: _) .. => p
  | .mk _ [] t .. => t.pos

/-- The start of a field list: its opening bracket, else its first field. -/
def FieldList.pos : FieldList → Nat
  | .mk (some o) .. => o
  | .mk none (f :: _) _ => f.pos
  | .mk none [] _ => 0

/-- The end of a block. -/
def Block.endPos (b : Block) : Nat := b.rbrace + 1

/-- The start of a spec. -/
def Spec.pos : Spec → Nat
  | .importSpec _ _ (some (p, _)) _ _ => p
  | .importSpec _ _ none p _ => p
  | .valueSpec ((p, _) :: _) .. => p
  | .valueSpec [] (some t) .. => t.pos
  | .valueSpec [] none .. => 0
  | .typeSpec (p, _) .. => p

/-- The end of a spec. -/
def Spec.endPos : Spec → Nat
  | .importSpec _ _ _ p path => p + Text.byteLength path
  | .valueSpec names type values _ =>
    match values.getLast?, type, names.getLast? with
    | some v, _, _ => v.endPos
    | none, some t, _ => t.endPos
    | none, none, some (p, n) => p + Text.byteLength n
    | none, none, none => 0
  | .typeSpec _ _ _ t => t.endPos

namespace GenDecl

/-- The offset of a declaration's keyword. -/
def pos : GenDecl → Nat | mk _ p .. => p

/-- The keyword of a declaration. -/
def tok : GenDecl → String | mk _ _ t .. => t

/-- The specs of a declaration. -/
def specs : GenDecl → List Spec | mk _ _ _ _ s _ => s

/-- The end of a declaration: after its closing parenthesis, else after its spec. -/
def endPos : GenDecl → Nat
  | mk _ _ _ _ _ (some r) => r + 1
  | mk _ p _ _ specs none => (specs.head?.map Spec.endPos).getD p

end GenDecl

/-- The start of a declaration. -/
def Decl.pos : Decl → Nat
  | .gen d => d.pos
  | .func _ p .. => p
  | .bad p => p

/-- The end of a declaration. -/
def Decl.endPos : Decl → Nat
  | .gen d => d.endPos
  | .func _ _ _ _ _ (some b) => b.endPos
  | .func _ _ _ _ t none => t.endPos
  | .bad p => p

/-- Whether a declaration has documentation. -/
def Decl.hasDoc : Decl → Bool
  | .gen (.mk d ..) => d
  | .func d .. => d
  | .bad _ => false

/-- The keyword of a declaration. -/
def Decl.keyword : Decl → String
  | .gen d => d.tok
  | .func .. => "func"
  | .bad _ => ""

/-- A name ends its length after its start. -/
theorem endPos_ident (p : Nat) (n : String) :
    (Expr.ident p n).endPos = p + Text.byteLength n := by
  simp [Expr.endPos]

end Accessors.Source
