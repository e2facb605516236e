import Accessors.Text.Quote

/-!
# Comment text in printed source

Two rewritings of comment text that printing Go source applies:

* the lines of a `/*`-style comment lose the blanks and tabs they have in common
  (`stripCommonPrefix`), so that the printer can indent them anew; a vertical line of stars on
  the left stays aligned;
* a documentation comment, one that starts in the first column right above a declaration, is
  put in its normal form (`docLines`): its text loses the indentation all its lines share and
  its leading and trailing blank lines, paragraphs are separated by exactly one blank line,
  indented lines form code blocks written after a tab, and every line is written as `// text`.
  Directives such as `//go:generate` are kept apart and written at the end.

Main statements: only blanks, tabs and stars count for a common start (`commonPrefix_blank`).
-/

namespace Accessors.Source.Print

/-- Whether a text is only blanks and control characters. -/
def blankText (s : List Char) : Bool := s.all (·.toNat ≤ 32)

/-- The longest common start of two lines made of blanks, tabs and stars. -/
def commonPrefix : List Char → List Char → List Char
  | a :: as, b :: bs => if a == b && (a.toNat ≤ 32 || a == '*') then a :: commonPrefix as bs else []
  | _, _ => []

/-- Whether `p` ends a list of characters. -/
def endsWith (s p : List Char) : Bool := s.length ≥ p.length && s.drop (s.length - p.length) == p

/-- The text before the first occurrence of `sep`, when there is one. -/
def cutBefore (s sep : List Char) : Option (List Char) :=
  let rec go : Nat → List Char → List Char → Option (List Char)
    | 0, _, _ => none
    | fuel + 1, acc, rest =>
      if sep.isPrefixOf rest then some acc.reverse
      else match rest with
        | [] => none
        | c :: cs => go fuel (c :: acc) cs
  go (s.length + 1) [] s

/-- **The lines of a `/*`-style comment** without the blanks, tabs and stars they share (the first
line, which holds the opening mark, apart). -/
def stripCommonPrefix (lines : List (List Char)) : List (List Char) :=
  match lines with
  | [] | [_] => lines
  | first :: rest =>
    let inner := rest.dropLast
    let lastLine := rest.getLast?.getD []
    let inner := inner.map fun l => if blankText l then [] else l
    let nonBlank := inner.filter fun (l : List Char) => !l.isEmpty
    let pre := match nonBlank with
      | [] => commonPrefix lastLine lastLine
      | l :: ls => ls.foldl commonPrefix l
    let (pre, stars) := match cutBefore pre ['*'] with
      | some p => ((if endsWith p [' '] then p.dropLast else p), true)
      | none =>
        if blankText (first.drop 2) then
          let n := (pre.reverse.takeWhile (· == ' ')).length
          let n := min n 3
          let p := pre.take (pre.length - n)
          if n == 0 && endsWith pre ['\t'] then (pre.dropLast, false) else (p, false)
        else
          let ws := (first.drop 2).takeWhile fun (c : Char) => c.toNat ≤ 32
          let suffix := if ws.head? == some '\t' then ws else ' ' :: ' ' :: ws
          ((if endsWith pre suffix then pre.take (pre.length - suffix.length) else pre), false)
    let before := (cutBefore lastLine ['*', '/']).getD lastLine
    let (pre, lastLine) :=
      if blankText before then (pre, pre ++ (if stars then [' ', '*', '/'] else ['*', '/']))
      else (commonPrefix pre lastLine, lastLine)
    first :: (inner ++ [lastLine]).map fun (l : List Char) => if l.isEmpty then l else l.drop pre.length

/-- Whether the text after `//` is a directive such as `go:generate`, `line` or `export`. -/
def isDirective (c : List Char) : Bool :=
  let s := String.ofList c
  if s.startsWith "line " || s.startsWith "extern " || s.startsWith "export " then true
  else
    match c.findIdx? (· == ':') with
    | some colon =>
      colon > 0 && colon + 1 < c.length &&
        ((c.take (colon + 2)).zipIdx.all fun (b, i) =>
          i == colon || ('a' ≤ b && b ≤ 'z') || ('0' ≤ b && b ≤ '9'))
    | none => false

/-- The leading blanks and tabs of a line. -/
def leadingSpace (l : List Char) : List Char := l.takeWhile fun c => c == ' ' || c == '\t'

/-- Lines without leading and trailing blank lines and without the indentation all of them
share; blank lines become empty. -/
def unindent (lines : List (List Char)) : List (List Char) :=
  let lines := (lines.dropWhile blankText).reverse.dropWhile blankText |>.reverse
  match lines with
  | [] => []
  | l :: ls =>
    let pre := ls.foldl (fun p line => if blankText line then p
      else (p.zip (leadingSpace line)).takeWhile (fun (a, b) => a == b) |>.map (·.1))
      (leadingSpace l)
    lines.map fun line =>
      let line := if pre.isPrefixOf line then line.drop pre.length else line
      if blankText line then [] else line

/-- Whether a line is indented. -/
def indented (l : List Char) : Bool := l.head? == some ' ' || l.head? == some '\t'

/-- A block of a documentation comment: a paragraph or a code block, by its lines. -/
inductive DocBlock where
  | para (lines : List (List Char))
  | code (lines : List (List Char))

/-- The blocks of unindented documentation lines: runs of unindented lines are paragraphs,
runs of indented and blank lines that start indented are code blocks. -/
def docBlocks : Nat → List (List Char) → List DocBlock
  | 0, _ => []
  | fuel + 1, lines =>
    match lines with
    | [] => []
    | l :: rest =>
      if l.isEmpty then docBlocks fuel rest
      else if indented l then
        let span := lines.takeWhile fun x => x.isEmpty || indented x
        let code := (span.reverse.dropWhile List.isEmpty).reverse
        .code (unindent code) :: docBlocks fuel (lines.drop code.length)
      else
        let span := lines.takeWhile fun x => !x.isEmpty && !indented x
        .para span :: docBlocks fuel (lines.drop span.length)

/-- The text lines of documentation blocks, a blank line between two blocks. -/
def blockLines : List DocBlock → List (List Char)
  | [] => []
  | b :: bs =>
    let these := match b with
      | .para ls => ls
      | .code ls => ls.map fun l => if l.isEmpty then l else '\t' :: l
    these ++ (if bs.isEmpty then [] else [[]] ++ blockLines bs)

/-- **The normal form of a documentation comment** written as `//` lines, or `none` when it is
left as it is; a comment without text becomes no lines at all. -/
def docLines (comments : List String) : Option (List String) :=
  let bodies := comments.map fun c => (c.toList.take 2, c.toList.drop 2)
  if !bodies.all (·.1 == ['/', '/']) then none else
  let directives := bodies.filter (isDirective ·.2)
  let texts := (bodies.filter (!isDirective ·.2)).map fun (_, b) =>
    if b.head? == some ' ' then b.tail else b
  if texts.isEmpty then none else
  let lines := unindent texts
  let out := (blockLines (docBlocks (lines.length + 1) lines)).map fun l =>
    if l.isEmpty then "//"
    else if l.head? == some '\t' then "//" ++ String.ofList l
    else "// " ++ String.ofList l
  let out := if directives.isEmpty then out
    else out ++ ["//"] ++ directives.map fun (m, b) => String.ofList (m ++ b)
  some out

/-- Only blanks, tabs and stars count for a common start. -/
theorem commonPrefix_blank : commonPrefix [' ', '*', 'x'] [' ', '*', 'y'] = [' ', '*'] := by
  decide

end Accessors.Source.Print
