import Accessors.Text.Quote

/-!
# Format versions

The class map records the version of its format. A version is written as an optional `v`,
numbers separated by dots (at least one, padded to three), an optional pre-release and optional
build metadata:

* a pre-release follows a dash and starts with a digit (`1.0-1rc`), or starts with a letter,
  dash or tilde with or without a dash before it (`1.0-beta`, `1.0beta`);
* metadata follows a plus sign;
* both are dot-separated identifiers of letters, digits, dashes and tildes.

A version is **supported** when it has no pre-release and lies in `[1.0, 2.0)`; numbers compare
one by one, missing ones counting as zero.

Main statements: `0.9` is read as `0.9.0` (`parse_short`).
-/

namespace Accessors.ClassMap

/-- **A version**: its numbers (at least three), pre-release and metadata. -/
structure Version where
  segments : List Nat
  pre : String
  metadata : String
  deriving Repr, Inhabited, BEq

namespace Version

/-- A character of an identifier of a pre-release or metadata. -/
def isIdentChar (c : Char) : Bool := c.isAlphanum || c == '-' || c == '~'

/-- Whether a text is dot-separated identifiers, none empty. -/
def isIdentifiers (cs : List Char) : Bool :=
  !cs.isEmpty && (Text.splitOn (String.ofList cs) ".").all fun p => !p.isEmpty && p.toList.all isIdentChar

/-- **The pre-release** written after the numbers, if the text is one: after a dash when it
starts with a digit, else after an optional dash and starting with a letter, dash or tilde. -/
def preRelease? (cs : List Char) : Option String :=
  match cs with
  | [] => some ""
  | '-' :: body =>
    match body with
    | d :: _ =>
      if d.isDigit && isIdentifiers body then some (String.ofList body)
      else if !d.isDigit && d != '.' && isIdentifiers body then some (String.ofList body)
      else if isIdentifiers cs then some (String.ofList cs)
      else none
    | [] => some "-"
  | c :: _ => if !c.isDigit && c != '.' && isIdentifiers cs then some (String.ofList cs) else none

/-- The largest number a version may hold. -/
def maxSegment : Nat := Nat.pow 2 63 - 1

/-- **Reads a version**, or the message why it cannot be read. -/
def parse (s : String) : Except String Version := do
  let malformed := "Malformed version: " ++ s
  let cs := match s.toList with
    | 'v' :: r => r
    | r => r
  let first := cs.takeWhile Char.isDigit
  if first.isEmpty then throw malformed
  let mut segs : List (List Char) := [first]
  let mut rest := cs.drop first.length
  for _ in [0:cs.length] do
    match rest with
    | '.' :: d :: more =>
      if d.isDigit then
        let ds := (d :: more).takeWhile Char.isDigit
        segs := segs ++ [ds]
        rest := (d :: more).drop ds.length
      else break
    | _ => break
  let preText := rest.takeWhile (· != '+')
  let metaText := rest.drop preText.length
  let some pre := preRelease? preText | throw malformed
  let metadata ← match metaText with
    | [] => pure ""
    | _ :: m => if isIdentifiers m then pure (String.ofList m) else throw malformed
  let mut numbers : List Nat := []
  for ds in segs do
    let n := ds.foldl (fun acc c => acc * 10 + (c.toNat - 48)) 0
    if n > maxSegment then
      throw ("Error parsing version: strconv.ParseInt: parsing " ++ Text.quote (String.ofList ds) ++
        ": value out of range")
    numbers := numbers ++ [n]
  let padded := numbers ++ List.replicate (3 - numbers.length) 0
  return ⟨padded, pre, metadata⟩

/-- **The text of a version**: its numbers, pre-release and metadata. -/
def text (v : Version) : String :=
  ".".intercalate (v.segments.map toString) ++ (if v.pre.isEmpty then "" else "-" ++ v.pre) ++
    (if v.metadata.isEmpty then "" else "+" ++ v.metadata)

/-- **Compares the numbers** of two versions one by one, missing ones counting as zero. -/
def compareSegments : List Nat → List Nat → Ordering
  | [], bs => if bs.all (· == 0) then .eq else .lt
  | as, [] => if as.all (· == 0) then .eq else .gt
  | a :: as, b :: bs => if a < b then .lt else if a > b then .gt else compareSegments as bs

/-- **Whether a version is supported** by a reader of `[1.0, 2.0)`: no pre-release, and within
the range. -/
def supported (v : Version) : Bool :=
  v.pre.isEmpty && compareSegments v.segments [1, 0, 0] != .lt && compareSegments v.segments [2, 0, 0] == .lt

/-- The supported range, as written in messages. -/
def supportedRange : String := ">= 1.0, < 2.0"

/-- The version of the format written. -/
def current : String := "1.0"

/-- `0.9` is read as `0.9.0`. -/
theorem parse_short : (parse "0.9").toOption.map text = some "0.9.0" := by
  decide +kernel

end Version

end Accessors.ClassMap
