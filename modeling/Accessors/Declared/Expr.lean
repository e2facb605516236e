import Accessors.Declared.Basic

/-!
# Reading type expressions

A type expression is a list of alternatives separated by `|`. An alternative is a name, marked
as an array by `[]` in front (`[]int`) or behind (`int[]`). A name is an optional `\` or `*`,
then segments of letters, digits and underscores that do not start with a digit, joined by `\`
or `.`. Blanks between tokens are ignored.

Reading never fails. The expression is classified as follows:

* text outside the grammar is a display-only expression;
* a bare `null` alternative makes the type nullable and is set aside;
* an alternative marked as an array on both sides makes the expression display-only;
* when some alternative is an array, plain `array` alternatives are dropped, as the array
  alternative says the same more precisely;
* exactly one alternative must remain: its name is the element, and its shape and whether the
  name is a scalar give the kind. Otherwise the expression is display-only.

Main statement: `parse` keeps the trimmed text as the expression (`parse_raw`).
-/

namespace Accessors.Declared

/-! ### Tokens -/

/-- A token of a type expression. -/
inductive Token where
  /-- The array mark `[]`. -/
  | brackets
  /-- A name. -/
  | name (text : String)
  /-- The separator `|`. -/
  | pipe
  deriving DecidableEq, Repr

/-- A character that may start a name segment: an ASCII letter or an underscore. -/
def isSegmentStart (c : Char) : Bool := c.isAlpha || c == '_'

/-- A character that may continue a name segment. -/
def isSegmentPart (c : Char) : Bool := c.isAlphanum || c == '_'

/-- The blanks between tokens. -/
def isBlank (c : Char) : Bool := c == ' ' || c == '\t' || c == '\n' || c == '\x0c' || c == '\r'

/-- Where the reader is: between tokens, after the mark of a name, inside a name, or after a
joiner inside a name. The characters of the name so far are kept reversed. -/
inductive LexState where
  | start
  | mark (acc : List Char)
  | name (acc : List Char)
  | joiner (acc : List Char)

/-- The measure of a reading step: a name that ends hands its last character back. -/
def LexState.rank : LexState → Nat
  | .name _ => 1
  | _ => 0

/-- **Tokens** of the rest of the text from the given state, or `none` when a character starts
no token. A mark or joiner must be followed by a segment, so a name never ends in one. -/
def lex : LexState → List Char → Option (List Token)
  | .start, [] => some []
  | .start, '[' :: ']' :: rest => (Token.brackets :: ·) <$> lex .start rest
  | .start, '|' :: rest => (Token.pipe :: ·) <$> lex .start rest
  | .start, c :: rest =>
    if isBlank c then lex .start rest
    else if c == '\\' || c == '*' then lex (.mark [c]) rest
    else if isSegmentStart c then lex (.name [c]) rest
    else none
  | .mark acc, c :: rest => if isSegmentStart c then lex (.name (c :: acc)) rest else none
  | .mark _, [] => none
  | .joiner acc, c :: rest => if isSegmentStart c then lex (.name (c :: acc)) rest else none
  | .joiner _, [] => none
  | .name acc, [] => some [.name (String.ofList acc.reverse)]
  | .name acc, c :: rest =>
    if isSegmentPart c then lex (.name (c :: acc)) rest
    else if c == '\\' || c == '.' then lex (.joiner (c :: acc)) rest
    else (Token.name (String.ofList acc.reverse) :: ·) <$> lex .start (c :: rest)
termination_by st cs => 2 * cs.length + st.rank
decreasing_by all_goals (simp only [LexState.rank, List.length_cons]; omega)

/-- The tokens of a text. -/
def tokenize (s : String) : Option (List Token) := lex .start s.toList

/-! ### Grammar -/

/-- One alternative: a name, marked as an array in front, behind, or both. -/
structure Alternative where
  prefixMark : Bool
  name : String
  suffixMark : Bool
  deriving DecidableEq, Repr

/-- Whether the alternative denotes an array of its name. -/
def Alternative.isArray (a : Alternative) : Bool := a.prefixMark || a.suffixMark

/-- **Alternatives** of a token list: `alternative ('|' alternative)*` and nothing after. An
array mark is taken whenever it stands next to the name. -/
def alternatives : List Token → Option (List Alternative)
  | .brackets :: .name n :: .brackets :: [] => some [⟨true, n, true⟩]
  | .brackets :: .name n :: .brackets :: .pipe :: rest => (⟨true, n, true⟩ :: ·) <$> alternatives rest
  | .brackets :: .name n :: [] => some [⟨true, n, false⟩]
  | .brackets :: .name n :: .pipe :: rest => (⟨true, n, false⟩ :: ·) <$> alternatives rest
  | .name n :: .brackets :: [] => some [⟨false, n, true⟩]
  | .name n :: .brackets :: .pipe :: rest => (⟨false, n, true⟩ :: ·) <$> alternatives rest
  | .name n :: [] => some [⟨false, n, false⟩]
  | .name n :: .pipe :: rest => (⟨false, n, false⟩ :: ·) <$> alternatives rest
  | _ => none

/-! ### Classification -/

/-- Drops plain `array` alternatives when some alternative is a typed array. -/
def absorbArray (alts : List Alternative) : List Alternative :=
  if alts.any (·.isArray) then alts.filter fun a => a.isArray || canonicalScalar a.name != arrayDisplay
  else alts

/-- The declared type of parsed alternatives, the trimmed text being `raw`: null alternatives
set the nullable mark, an alternative marked on both sides stops with a display-only type. -/
def classify (raw : String) : List Alternative → Bool → List Alternative → DeclaredType
  | [], nullable, kept =>
    match absorbArray kept.reverse with
    | [a] =>
      let scalar := isScalarName a.name
      let kind : TypeKind :=
        if a.isArray then (if scalar then .arrayOfScalar else .arrayOfObject)
        else if scalar then .scalar else .object
      ⟨kind, nullable, a.name, raw⟩
    | _ => ⟨.rawExpression, nullable, "", raw⟩
  | a :: rest, nullable, kept =>
    if a.name == nullDisplay && !a.isArray then classify raw rest true kept
    else if a.prefixMark && a.suffixMark then ⟨.rawExpression, nullable, "", raw⟩
    else classify raw rest nullable (a :: kept)

end Declared

/-- **Read a type expression.** Never fails: text outside the grammar, and expressions with no or
several alternatives besides null, are kept for display only. -/
def DeclaredType.parse (expr : String) : DeclaredType :=
  let raw := Text.trimSpace expr
  match Declared.tokenize raw >>= Declared.alternatives with
  | some alts => Declared.classify raw alts false []
  | none => DeclaredType.rawOnly raw

/-- The trimmed text is always kept as the expression. -/
theorem DeclaredType.parse_raw (expr : String) :
    (DeclaredType.parse expr).raw = Text.trimSpace expr := by
  dsimp only [DeclaredType.parse]
  split
  · rename_i alts _
    suffices h : ∀ (alts : List Declared.Alternative) nullable kept,
        (Declared.classify (Text.trimSpace expr) alts nullable kept).raw = Text.trimSpace expr from
      h alts false []
    intro alts
    induction alts with
    | nil => intro n k; simp only [Declared.classify]; split <;> rfl
    | cons a rest ih =>
      intro n k
      simp only [Declared.classify]
      split
      · exact ih _ _
      · split
        · rfl
        · exact ih _ _
  · rfl

end Accessors
