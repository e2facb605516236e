import Accessors.Template.Lex

/-!
# Parse trees of templates

A template parses into a list of nodes: text, actions that print a pipeline, the control
structures `if`, `range` and `with` with their optional `else` lists, calls of other templates,
and `break` and `continue` inside `range`.

A pipeline is an optional declaration of variables followed by commands separated by `|`; a
command is a list of operands: fields, variables, function names, literals, the dot,
parenthesized pipelines, and fields of any of these (`(.X).Y`).

Every node keeps the byte offset of its first item, and prints the way it was written, in a
normal form (`Node.text`, `Pipe.text`, ...), which is how messages show it.
-/

namespace Accessors.Template

/-- **A number literal**: its text and the values it can stand for. -/
structure NumberLit where
  text : String
  int? : Option Int
  float? : Option Float
  isComplex : Bool
  deriving Repr, Inhabited

mutual
/-- **An operand** of a command. -/
inductive Arg where
  | field (pos : Nat) (idents : List String)
  | variable (pos : Nat) (idents : List String)
  | identifier (pos : Nat) (name : String)
  | dot (pos : Nat)
  | nil (pos : Nat)
  | bool (pos : Nat) (b : Bool)
  | number (pos : Nat) (n : NumberLit)
  /-- A string literal: its quoted text and its value. -/
  | string (pos : Nat) (quoted value : String)
  | pipe (p : Pipe)
  /-- Fields of an operand that is not itself a field or variable. -/
  | chain (pos : Nat) (node : Arg) (fields : List String)
  deriving Repr, Inhabited

/-- **A command**: its operands. -/
inductive Cmd where
  | mk (pos : Nat) (args : List Arg)
  deriving Repr, Inhabited

/-- **A pipeline**: declared variables (assigned with `=` when `isAssign`), then commands. -/
inductive Pipe where
  | mk (pos line : Nat) (isAssign : Bool) (decls : List (Nat × String)) (cmds : List Cmd)
  deriving Repr, Inhabited
end

/-- **A node** of a template. -/
inductive Node where
  /-- Text printed as it is. -/
  | plain (pos : Nat) (text : String)
  | action (pos line : Nat) (pipe : Pipe)
  | ifNode (pos line : Nat) (pipe : Pipe) (list : List Node) (elseList : Option (List Node))
  | rangeNode (pos line : Nat) (pipe : Pipe) (list : List Node) (elseList : Option (List Node))
  | withNode (pos line : Nat) (pipe : Pipe) (list : List Node) (elseList : Option (List Node))
  | template (pos line : Nat) (name : String) (pipe : Option Pipe)
  | breakNode (pos line : Nat)
  | continueNode (pos line : Nat)
  deriving Repr, Inhabited

namespace Cmd

/-- The operands of a command. -/
def args : Cmd → List Arg | mk _ a => a

/-- The offset of a command. -/
def pos : Cmd → Nat | mk p _ => p

end Cmd

namespace Pipe

/-- The commands of a pipeline. -/
def cmds : Pipe → List Cmd | mk _ _ _ _ c => c

/-- The declared variables of a pipeline. -/
def decls : Pipe → List (Nat × String) | mk _ _ _ d _ => d

/-- Whether a pipeline assigns to its variables rather than declaring them. -/
def isAssign : Pipe → Bool | mk _ _ a _ _ => a

/-- The offset of a pipeline. -/
def pos : Pipe → Nat | mk p .. => p

end Pipe

/-! ### Printing -/

mutual
/-- **An operand as written.** -/
def Arg.text : Arg → String
  | .field _ ids => String.join (ids.map ("." ++ ·))
  | .variable _ ids => ".".intercalate ids
  | .identifier _ n => n
  | .dot _ => "."
  | .nil _ => "nil"
  | .bool _ b => if b then "true" else "false"
  | .number _ n => n.text
  | .string _ q _ => q
  | .pipe p => "(" ++ p.text ++ ")"
  | .chain _ node fields =>
    (match node with
     | .pipe p => "(" ++ p.text ++ ")"
     | n => n.text) ++ String.join (fields.map ("." ++ ·))

/-- Operands separated by blanks. -/
def Arg.listText : List Arg → String
  | [] => ""
  | [a] => a.text
  | a :: as => a.text ++ " " ++ Arg.listText as

/-- **A command as written.** -/
def Cmd.text : Cmd → String
  | .mk _ args => Arg.listText args

/-- Commands separated by pipes. -/
def Cmd.listText : List Cmd → String
  | [] => ""
  | [c] => c.text
  | c :: cs => c.text ++ " | " ++ Cmd.listText cs

/-- **A pipeline as written.** -/
def Pipe.text : Pipe → String
  | .mk _ _ isAssign decls cmds =>
    (if decls.isEmpty then ""
     else ", ".intercalate (decls.map (·.2)) ++ (if isAssign then " = " else " := ")) ++
      Cmd.listText cmds
end

/-- The text of an optional pipeline, after a blank. -/
def pipeSuffix : Option Pipe → String
  | some p => " " ++ p.text
  | none => ""

/-- A control structure as written, given the text of its lists. -/
def controlText (keyword : String) (p : Pipe) (body : String) (elseText : Option String) : String :=
  "\x7b\x7b" ++ keyword ++ " " ++ p.text ++ "\x7d\x7d" ++ body ++
    (match elseText with
     | some e => "\x7b\x7belse\x7d\x7d" ++ e
     | none => "") ++ "\x7b\x7bend\x7d\x7d"

mutual
/-- **A node as written.** -/
def Node.text : Node → String
  | .plain _ t => t
  | .action _ _ p => "\x7b\x7b" ++ p.text ++ "\x7d\x7d"
  | .ifNode _ _ p l e => controlText "if" p (Node.listText l) (Node.optListText e)
  | .rangeNode _ _ p l e => controlText "range" p (Node.listText l) (Node.optListText e)
  | .withNode _ _ p l e => controlText "with" p (Node.listText l) (Node.optListText e)
  | .template _ _ name p => "\x7b\x7btemplate " ++ Text.quote name ++ pipeSuffix p ++ "\x7d\x7d"
  | .breakNode .. => "\x7b\x7bbreak\x7d\x7d"
  | .continueNode .. => "\x7b\x7bcontinue\x7d\x7d"

/-- Nodes one after another. -/
def Node.listText : List Node → String
  | [] => ""
  | n :: ns => n.text ++ Node.listText ns

/-- The text of an optional list of nodes. -/
def Node.optListText : Option (List Node) → Option String
  | some l => some (Node.listText l)
  | none => none
end

/-- The offset of an operand. -/
def Arg.pos : Arg → Nat
  | .field p _ | .variable p _ | .identifier p _ | .dot p | .nil p | .bool p _ | .number p _
  | .string p .. | .chain p .. => p
  | .pipe p => p.pos

/-- The offset of a node. -/
def Node.pos : Node → Nat
  | .plain p _ | .action p .. | .ifNode p .. | .rangeNode p .. | .withNode p .. | .template p ..
  | .breakNode p _ | .continueNode p _ => p

/-- **Where an error happened**: the offset and the written form of the node at hand. -/
structure Spot where
  pos : Nat
  text : String
  deriving Repr, Inhabited

/-- The spot of an operand; a parenthesized pipeline shows without its parentheses. -/
def Arg.spot : Arg → Spot
  | .pipe p => ⟨p.pos, p.text⟩
  | a => ⟨a.pos, a.text⟩

/-- The spot of a command. -/
def Cmd.spot (c : Cmd) : Spot := ⟨c.pos, c.text⟩

/-- The spot of a pipeline. -/
def Pipe.spot (p : Pipe) : Spot := ⟨p.pos, p.text⟩

/-- The spot of a node. -/
def Node.spot (n : Node) : Spot := ⟨n.pos, n.text⟩

/-- The printed form of a field access is its names after dots. -/
theorem field_text (p : Nat) (ids : List String) :
    (Arg.field p ids).text = String.join (ids.map ("." ++ ·)) := by
  simp [Arg.text]

end Accessors.Template
