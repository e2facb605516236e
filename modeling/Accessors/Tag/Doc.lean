import Accessors.Tag.FieldList

/-!
# Annotations in documentation text

Documentation is read line by line after its comment markers are stripped: blanks around the
line, a closing `*/`, one opening `/**`, `/*` or `//`, and then one leading `*` of a block
comment. A line that then starts with `@` and a tag name is an occurrence:

* `@Name(` starts a field list, which may go on over the next lines (joined with one blank)
  until its closing parenthesis; parentheses inside quoted strings do not count. A list that is
  never closed is malformed, and reading goes on with the line after it;
* `@Name` followed by the end of the line, a blank or a tab carries the rest of the line,
  trimmed, as its value;
* anything else directly after the name (`@Get:x`, `@Get,`) makes the line no occurrence.

A tag name is an ASCII letter, an underscore or a backslash, followed by ASCII letters, digits,
underscores, backslashes and dots.
-/

namespace Accessors.Tag

/-! ### Lines -/

/-- Strips the comment markers of one line. -/
def normalizeLine (line : String) : String :=
  let l := Text.trimSpace line
  let l := Text.trimSpace (Text.trimSuffix l "*/")
  let l :=
    if Text.hasPrefix l "/**" then Text.trimPrefix l "/**"
    else if Text.hasPrefix l "/*" then Text.trimPrefix l "/*"
    else if Text.hasPrefix l "//" then Text.trimPrefix l "//"
    else l
  let l := Text.trimSpace l
  Text.trimSpace (Text.trimPrefix l "*")

/-- **Lines** of documentation with their comment markers stripped. -/
def normalizeLines (doc : String) : List String :=
  (Text.splitOn (Text.replaceAll doc "\r\n" "\n") "\n").map normalizeLine

/-! ### Tag names -/

/-- A character that may start a tag name. -/
def isTagStart (c : Char) : Bool := c.isAlpha || c == '_' || c == '\\'

/-- A character that may continue a tag name. -/
def isTagPart (c : Char) : Bool := c.isAlphanum || c == '_' || c == '\\' || c == '.'

/-- The tag name at the front of the characters after `@`, and the rest of the line. -/
def tagName (cs : List Char) : Option (String × List Char) :=
  match cs with
  | c :: rest =>
    if isTagStart c then
      let (more, after) := rest.span isTagPart
      some (String.ofList (c :: more), after)
    else none
  | [] => none

/-! ### Field list extent -/

/-- The index of the parenthesis that closes the one the text starts with, skipping quoted
strings (in which a backslash escapes the next character). -/
def closingParen (cs : List Char) : Option Nat :=
  go cs 0 false 0
where
  go : List Char → Int → Bool → Nat → Option Nat
    | [], _, _, _ => none
    | c :: rest, depth, inString, i =>
      if inString then
        if c == '\\' then
          match rest with
          | _ :: rest' => go rest' depth true (i + 2)
          | [] => none
        else if c == '"' then go rest depth false (i + 1)
        else go rest depth true (i + 1)
      else if c == '"' then go rest depth true (i + 1)
      else if c == '(' then go rest (depth + 1) false (i + 1)
      else if c == ')' then
        if depth - 1 == 0 then some i
        else go rest (depth - 1) false (i + 1)
      else go rest depth false (i + 1)

/-- Joins the following lines to a field list text until it is closed: the closed text and how
many following lines it took, or `none` when it never closes. -/
def extendList (text : String) (following : List String) (taken : Nat) : Option (String × Nat) :=
  match closingParen text.toList with
  | some e => some (String.ofList (text.toList.take (e + 1)), taken)
  | none =>
    match following with
    | [] => none
    | l :: ls => extendList (text ++ " " ++ l) ls (taken + 1)

/-! ### Occurrences -/

/-- The occurrence of a field list on line `lineNo` (counting from one), with the number of
following lines it took. -/
def fieldListOccurrence (name : String) (lineNo : Nat) (rest : String) (following : List String) :
    Occurrence × Nat :=
  match extendList rest following 0 with
  | none => (⟨name, "", none, some ⟨name, lineNo, "unterminated field list"⟩⟩, 0)
  | some (text, taken) =>
    match FieldList.parse text with
    | .ok fields => (⟨name, "", some fields, none⟩, taken)
    | .error msg => (⟨name, "", none, some ⟨name, lineNo, msg⟩⟩, taken)

/-- The occurrences of the lines from line number `lineNo` on, in order. -/
def occurrencesFrom : List String → Nat → List Occurrence
  | [], _ => []
  | line :: rest, lineNo =>
    match line.toList with
    | '@' :: cs =>
      match tagName cs with
      | some (name, after) =>
        match after with
        | '(' :: _ =>
          let (occ, taken) := fieldListOccurrence name lineNo (String.ofList after) rest
          have : (rest.drop taken).length < rest.length + 1 := by
            simp only [List.length_drop]; omega
          occ :: occurrencesFrom (rest.drop taken) (lineNo + 1 + taken)
        | c :: _ =>
          if c == ' ' || c == '\t' then
            ⟨name, Text.trimSpace (String.ofList after), none, none⟩ :: occurrencesFrom rest (lineNo + 1)
          else occurrencesFrom rest (lineNo + 1)
        | [] => ⟨name, "", none, none⟩ :: occurrencesFrom rest (lineNo + 1)
      | none => occurrencesFrom rest (lineNo + 1)
    | _ => occurrencesFrom rest (lineNo + 1)
termination_by lines => lines.length
decreasing_by
  all_goals first | exact this | exact Nat.lt_succ_self _

/-- **Occurrences of a documentation text**, in document order, with the syntax errors of its
malformed field lists. -/
def parseText (doc : String) : List Occurrence × List SyntaxError :=
  let occs := occurrencesFrom (normalizeLines doc) 1
  (occs, occs.filterMap (·.error))

/-- The joined text of syntax errors, one per line; none when there are none. -/
def joinedErrors (errs : List SyntaxError) : Option String :=
  if errs.isEmpty then none else some ("\n".intercalate (errs.map (·.message)))

end Accessors.Tag
