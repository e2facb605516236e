import Accessors.Cli.Command

/-!
# Reading the command line

The arguments of the command line are read in two passes.

**Finding the command.** Words that are not flags name the commands below the root, one after
the other. A flag written `--name` or `-x` without `=` is taken to be followed by its value,
unless it is known to be a switch; `--` ends the search. The root command takes no argument
that is not a command: an unknown word is an error, which suggests the commands whose names are
within two edits of it or start with it.

**Reading the flags** of the command found. Flags and arguments may be mixed; `--` ends the
flags. A long flag is `--name=value`, `--name value`, or `--name` for a switch; a short flag is
`-x`, `-x value`, `-xvalue` or `-x=value`, and switches may be grouped (`-hv`). Integers are
written in decimal, or in binary, octal or hexadecimal after `0b`, `0o` or `0x` (or octal after
a leading `0`), with underscores between digits; switches are `1`, `t`, `true`, `0`, `f`,
`false` in any of three cases.

Main statements: an integer with a base prefix (`parseFlagInt_hex`), and the edit distance of a
word to itself is zero (`editDistance_self`).
-/

namespace Accessors.Cli

/-! ### Values -/

/-- The error of a value that is not well formed, or out of range, in the words of the
reader of a kind of number. -/
def numberError (reader text reason : String) : String :=
  "strconv." ++ reader ++ ": parsing " ++ Text.quote text ++ ": " ++ reason

/-- The value of a digit in bases up to 36, letters in either case. -/
def digitValue (c : Char) : Option Nat :=
  if c.isDigit then some (c.toNat - 48)
  else if 'a' ≤ c.toLower && c.toLower ≤ 'z' then some (c.toLower.toNat - 87)
  else none

/-- Whether underscores in a number stand only between digits (a base prefix counts as one). -/
def underscoresOk (cs : List Char) : Bool :=
  let cs := match cs with
    | '+' :: r | '-' :: r => r
    | r => r
  let (cs, hex, saw) := match cs with
    | '0' :: b :: r =>
      if b.toLower == 'b' || b.toLower == 'o' || b.toLower == 'x' then (r, b.toLower == 'x', '0')
      else (cs, false, '^')
    | _ => (cs, false, '^')
  let step := fun (st : Option Char) (c : Char) =>
    match st with
    | none => none
    | some saw =>
      if c.isDigit || (hex && 'a' ≤ c.toLower && c.toLower ≤ 'f') then some '0'
      else if c == '_' then (if saw == '0' then some '_' else none)
      else if saw == '_' then none
      else some '!'
  match cs.foldl step (some saw) with
  | some s => s != '_'
  | none => false

/-- The digits of an unsigned number and its base, after its base prefix. -/
def baseOf (cs : List Char) : Nat × List Char :=
  match cs with
  | '0' :: b :: r :: rest =>
    if b.toLower == 'b' then (2, r :: rest)
    else if b.toLower == 'o' then (8, r :: rest)
    else if b.toLower == 'x' then (16, r :: rest)
    else (8, b :: r :: rest)
  | '0' :: rest => (8, rest)
  | _ => (10, cs)

/-- The largest unsigned 64-bit number. -/
def maxUnsigned : Nat := Nat.pow 2 64 - 1

/-- **Reads an unsigned 64-bit number**: its value, or `invalid syntax` or `value out of range`
for the first fault met. -/
def readUnsigned (cs : List Char) : Except String Nat := do
  if cs.isEmpty then throw "invalid syntax"
  let (base, digits) := baseOf cs
  let n ← digits.foldlM (fun (n : Nat) c =>
    if c == '_' then .ok n
    else match digitValue c with
      | some d => if d ≥ base then .error "invalid syntax"
        else if n * base + d > maxUnsigned then .error "value out of range"
        else .ok (n * base + d)
      | none => .error "invalid syntax") 0
  if cs.contains '_' && !underscoresOk cs then throw "invalid syntax"
  return n

/-- **Reads the value of an integer flag**: a signed 64-bit number. -/
def parseFlagInt (s : String) : Except String Int :=
  let fail := fun reason => Except.error (numberError "ParseInt" s reason)
  let (neg, rest) := match s.toList with
    | '+' :: r => (false, r)
    | '-' :: r => (true, r)
    | r => (false, r)
  match readUnsigned rest with
  | .error "value out of range" => fail "value out of range"
  | .error reason => fail reason
  | .ok n =>
    if !neg && n ≥ Nat.pow 2 63 then fail "value out of range"
    else if neg && n > Nat.pow 2 63 then fail "value out of range"
    else .ok (if neg then -(n : Int) else n)

/-- **Reads the value of a switch.** -/
def parseFlagBool (s : String) : Except String Bool :=
  if ["1", "t", "T", "TRUE", "true", "True"].contains s then .ok true
  else if ["0", "f", "F", "FALSE", "false", "False"].contains s then .ok false
  else .error (numberError "ParseBool" s "invalid syntax")

/-- The name of a flag in errors about its value. -/
def Flag.display (f : Flag) : String :=
  match f.shorthand with
  | some c => "-" ++ String.singleton c ++ ", --" ++ f.name
  | none => "--" ++ f.name

/-- **Checks the value of a flag**, giving the error of a value its kind does not accept. -/
def Flag.check (f : Flag) (value : String) : Except String Unit :=
  let wrap := fun (e : String) =>
    Except.error ("invalid argument " ++ Text.quote value ++ " for " ++ Text.quote f.display ++ " flag: " ++ e)
  match f.kind with
  | .text => .ok ()
  | .int => match parseFlagInt value with
    | .ok _ => .ok ()
    | .error e => wrap e
  | .bool => match parseFlagBool value with
    | .ok _ => .ok ()
    | .error e => wrap e

/-! ### Finding the command -/

/-- The flag of a long name. -/
def findLong (fs : List Flag) (name : String) : Option Flag := fs.find? (·.name == name)

/-- The flag of a shorthand. -/
def findShort (fs : List Flag) (c : Char) : Option Flag := fs.find? (·.shorthand == some c)

/-- Whether an argument is a flag that is followed by its value: `--name` or `-x` without `=`,
not a known switch. -/
def takesNext (fs : List Flag) (s : String) : Bool :=
  let cs := s.toList
  if cs.contains '=' then false
  else match cs with
    | '-' :: '-' :: name => (findLong fs (String.ofList name) |>.bind Flag.implied).isNone
    | ['-', c] => (findShort fs c |>.bind Flag.implied).isNone
    | _ => false

/-- **The words of arguments that are not flags or their values**, up to `--`. -/
def commandWords (fs : List Flag) : List String → List String
  | [] => []
  | s :: rest =>
    if s == "--" then []
    else if takesNext fs s then commandWords fs (rest.drop 1)
    else if s != "" && !s.startsWith "-" then s :: commandWords fs rest
    else commandWords fs rest
termination_by args => args.length
decreasing_by all_goals (simp only [List.length_drop, List.length_cons]; omega)

/-- The arguments without the first word equal to `x` that is not a flag or a flag's value. -/
def withoutWord (fs : List Flag) (x : String) : List String → List String
  | [] => []
  | s :: rest =>
    if s == "--" then s :: rest
    else if takesNext fs s then s :: (rest.take 1 ++ withoutWord fs x (rest.drop 1))
    else if !s.startsWith "-" && s == x then rest
    else s :: withoutWord fs x rest
termination_by args => args.length
decreasing_by all_goals (simp only [List.length_drop, List.length_cons]; omega)

/-- **Finds the command** the arguments name, with the arguments left for it. -/
def findCommand : Nat → Command → List String → Command × List String
  | 0, c, args => (c, args)
  | fuel + 1, c, args =>
    match commandWords c.declaredFlags args with
    | [] => (c, args)
    | w :: _ =>
      match c.child? w with
      | some k => findCommand fuel k (withoutWord c.declaredFlags w args)
      | none => (c, args)

/-- The order in which the commands of the root are offered as suggestions. -/
def suggestionOrder : List Command := [.generate, .clean, .classmap, .completion]

/-- **The edit distance** of two words: the fewest insertions, deletions and replacements of
characters that turn one into the other. -/
def editDistance (s t : List Char) : Nat :=
  let row0 := List.range (t.length + 1)
  let rowN := s.zipIdx.foldl (fun (prev : List Nat) (a, i) =>
    let init := [i + 1]
    let row := t.zipIdx.foldl (fun (row : List Nat) (b, j) =>
      let left := row.getLast?.getD 0
      let up := prev.getD (j + 1) 0
      let diag := prev.getD j 0
      row ++ [if a == b then diag else min (min up left) diag + 1]) init
    row) row0
  rowN.getLast?.getD 0

/-- The commands suggested for a word that names none. -/
def suggestionsFor (word : String) : List String :=
  let lower := fun (s : String) => s.toList.map Char.toLower
  suggestionOrder.filterMap fun c =>
    if editDistance (lower word) (lower c.name) ≤ 2 || (lower c.name).take (lower word).length == lower word then
      some c.name else none

/-- The error of a word that names no command of the root, with its suggestions. -/
def unknownCommand (word : String) : String :=
  let hints := suggestionsFor word
  "unknown command " ++ Text.quote word ++ " for " ++ Text.quote programName ++
    (if hints.isEmpty then "" else "\n\nDid you mean this?\n" ++ String.join (hints.map fun h => "\t" ++ h ++ "\n"))

/-- **Finds the command** of a command line and checks that the root is given no stray word. -/
def find (args : List String) : Except String (Command × List String) :=
  let (c, rest) := findCommand 3 .root args
  if c.takesNoArgs || c.children.isEmpty || c.parent?.isSome then .ok (c, rest)
  else match commandWords c.declaredFlags rest with
    | w :: _ => .error (unknownCommand w)
    | [] => .ok (c, rest)

/-! ### Reading the flags -/

/-- **The flags and arguments of a command**: the value of each flag set, the last one given,
in the order first set; and the arguments that are not flags. -/
structure Parsed where
  values : List (String × String)
  args : List String
  deriving Repr, Inhabited

/-- Sets a flag after checking its value. -/
def Parsed.set (p : Parsed) (f : Flag) (value : String) : Except String Parsed := do
  f.check value
  return { p with values := if p.values.any (·.1 == f.name) then
      p.values.map fun (k, v) => if k == f.name then (k, value) else (k, v)
    else p.values ++ [(f.name, value)] }

/-- Reads a group of short flags: each letter a flag, the last one perhaps taking a value. -/
def readShorts (fs : List Flag) (p : Parsed) : List Char → List String → Except String (Parsed × List String)
  | [], rest => .ok (p, rest)
  | c :: more, rest =>
    match findShort fs c with
    | none => .error ("unknown shorthand flag: " ++ Text.quoteRune c ++ " in -" ++ String.ofList (c :: more))
    | some f =>
      match more with
      | '=' :: v :: vs => do return (← p.set f (String.ofList (v :: vs)), rest)
      | _ =>
        match f.implied with
        | some v => do readShorts fs (← p.set f v) more rest
        | none =>
          if !more.isEmpty then do return (← p.set f (String.ofList more), rest)
          else match rest with
            | v :: rest => do return (← p.set f v, rest)
            | [] => .error ("flag needs an argument: " ++ Text.quoteRune c ++ " in -" ++ String.ofList [c])

/-- Reads a long flag, written without its leading dashes. -/
def readLong (fs : List Flag) (p : Parsed) (s body : String) (rest : List String) :
    Except String (Parsed × List String) :=
  match body.toList with
  | [] | '-' :: _ | '=' :: _ => .error ("bad flag syntax: " ++ s)
  | cs =>
    let name := String.ofList (cs.takeWhile (· != '='))
    let value? := if cs.contains '=' then some (String.ofList ((cs.dropWhile (· != '=')).drop 1)) else none
    match findLong fs name with
    | none => .error ("unknown flag: --" ++ name)
    | some f =>
      match value?, f.implied, rest with
      | some v, _, _ => do return (← p.set f v, rest)
      | none, some v, _ => do return (← p.set f v, rest)
      | none, none, v :: rest => do return (← p.set f v, rest)
      | none, none, [] => .error ("flag needs an argument: " ++ s)

/-- **Reads the flags and arguments** of a command. -/
def readFlags (fs : List Flag) (p : Parsed) : List String → Except String Parsed
  | [] => .ok p
  | s :: rest =>
    match s.toList with
    | '-' :: '-' :: [] => .ok { p with args := p.args ++ rest }
    | '-' :: '-' :: body => do
      let (p', rest') ← readLong fs p s (String.ofList body) rest
      if _h : rest'.length < rest.length + 1 then readFlags fs p' rest' else .ok p'
    | '-' :: c :: cs => do
      let (p', rest') ← readShorts fs p (c :: cs) rest
      if _h : rest'.length < rest.length + 1 then readFlags fs p' rest' else .ok p'
    | _ => readFlags fs { p with args := p.args ++ [s] } rest
termination_by args => args.length
decreasing_by
  all_goals first | exact _h | exact Nat.lt_succ_self _

/-- The value of a flag that was set. -/
def Parsed.get? (p : Parsed) (name : String) : Option String := p.values.lookup name

/-- Whether a flag was set. -/
def Parsed.changed (p : Parsed) (name : String) : Bool := (p.get? name).isSome

/-- The value of a switch: false unless set true. -/
def Parsed.flag (p : Parsed) (name : String) : Bool :=
  match p.get? name with
  | some v => (parseFlagBool v).toOption.getD false
  | none => false

/-- An integer with a base prefix. -/
theorem parseFlagInt_hex : (parseFlagInt "0x1f").toOption = some 31 := by
  decide +kernel

/-- The edit distance of a word to itself is zero. -/
theorem editDistance_self : editDistance ['a', 'b'] ['a', 'b'] = 0 := by
  decide +kernel

end Accessors.Cli
