import Accessors.Text.Quote

/-!
# Import paths

An import path names a package: elements separated by single slashes. It is well formed when

* it is not empty, does not start with a dash and has no empty element (so no double or
  trailing slash);
* no element is only dots or ends with a dot;
* every character is an ASCII letter or digit or one of `-._~+`;
* no element is, before its first dot and ignoring case, a name Windows reserves for devices;
* no element looks like a Windows short name: a tilde followed by digits at the end of the part
  before its first dot.

The checks run in this order, for each element in turn, and the first that fails names the
fault.

Main statements: a path of plain elements is well formed (`check_plain`), and a blank is the
fault of a path with a blank (`check_blank`).
-/

namespace Accessors.Module

/-- **Why a text is not an import path.** -/
inductive PathFault where
  | empty
  | leadingDash
  | doubleSlash
  | trailingSlash
  | emptyElement
  | onlyDots (elem : String)
  | trailingDot
  | invalidChar (c : Char)
  | reservedName (short : String)
  | shortName
  deriving DecidableEq, Repr

/-- The words of a fault. -/
def PathFault.text : PathFault → String
  | .empty => "empty string"
  | .leadingDash => "leading dash"
  | .doubleSlash => "double slash"
  | .trailingSlash => "trailing slash"
  | .emptyElement => "empty path element"
  | .onlyDots e => "invalid path element " ++ Text.quote e
  | .trailingDot => "trailing dot in path element"
  | .invalidChar c => "invalid char " ++ Text.quoteRune c
  | .reservedName s => Text.quote s ++ " disallowed as path element component on Windows"
  | .shortName => "trailing tilde and digits in path element"

/-- A character an element may hold: an ASCII letter or digit, or one of `-._~+`. -/
def isPathChar (c : Char) : Bool :=
  (c.toNat < 128 && c.isAlphanum) || c == '-' || c == '.' || c == '_' || c == '~' || c == '+'

/-- The names Windows reserves for devices. -/
def reservedNames : List String :=
  ["CON", "PRN", "AUX", "NUL"] ++ (List.range 10).map (fun i => "COM" ++ toString i) ++
    ["COM¹", "COM²", "COM³"] ++ (List.range 10).map (fun i => "LPT" ++ toString i) ++
    ["LPT¹", "LPT²", "LPT³"]

/-- A text in ASCII lower case. -/
def lowerAscii (s : String) : String := String.ofList (s.toList.map Char.toLower)

/-- **The fault of one element**, if any. -/
def checkElement (elem : String) : Option PathFault :=
  let cs := elem.toList
  let short := cs.takeWhile (· != '.')
  let afterTilde := (short.reverse.takeWhile (· != '~')).reverse
  if cs.isEmpty then some .emptyElement
  else if cs.all (· == '.') then some (.onlyDots elem)
  else if cs.getLast? == some '.' then some .trailingDot
  else match cs.find? (!isPathChar ·) with
    | some c => some (.invalidChar c)
    | none =>
      if reservedNames.any (fun r => lowerAscii r == lowerAscii (String.ofList short)) then
        some (.reservedName (String.ofList short))
      else if short.contains '~' && !afterTilde.isEmpty && afterTilde.all Char.isDigit then
        some .shortName
      else none

/-- **The fault of an import path**, or none when it is well formed. -/
def checkImportPath (path : String) : Option PathFault :=
  if path.isEmpty then some .empty
  else if path.startsWith "-" then some .leadingDash
  else if Text.containsText path "//" then some .doubleSlash
  else if path.endsWith "/" then some .trailingSlash
  else (Text.splitOn path "/").findSome? checkElement

/-- The message of a malformed import path. -/
def malformedText (path : String) (f : PathFault) : String :=
  "malformed import path " ++ Text.quote path ++ ": " ++ f.text

/-- **Checks an import path**: the message of its fault, if any. -/
def importPathError? (path : String) : Option String := (checkImportPath path).map (malformedText path)

/-- A path of plain elements is well formed. -/
theorem check_plain : checkImportPath "example.com/app" = none := by
  decide +kernel

/-- A blank is the fault of a path with a blank. -/
theorem check_blank : checkImportPath "bad path!" = some (.invalidChar ' ') := by
  decide +kernel

end Accessors.Module
