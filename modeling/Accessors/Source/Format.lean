import Accessors.Source.ImportFix
import Accessors.Source.Print.Tree
import Accessors.Source.Parse.File
import Accessors.Text.Columns

/-!
# Formatting generated Go files

Generated source is put in its standard layout in two rounds.

1. **Imports fixed**: the imports the file does not use are deleted, the import declarations
   merged and their runs sorted with the standard library first; the file is printed, and a
   blank line is put before each import whose group differs from the one above it
   (`addImportSpaces`).
2. **Printed again**: the result is read back, its runs of imports sorted by path alone, and
   printed once more, now with number literals in their normal form.

Printing lays out the tree by the printer of `Accessors.Source.Print.Tree`, lines up its columns
and trims the lines (`Accessors.Text.Columns`). A syntax error of the source is the answer, as
`file:line:column: message`.

Main statements: a line that names no quoted path is no import line (`importLinePath_plain`).
-/

namespace Accessors.Source

/-- **Prints a file being fixed** of a source of `size` bytes, numbers in their normal form when
`normalize`. -/
def Draft.print (d : Draft) (normalize : Bool) (size : Nat) : String :=
  let p := Print.Printer.fresh d.starts d.file.comments.toArray normalize
  let ((), q) := (Print.printFile d.file (Print.fileFuel size)).run p
  Text.trimLines (Text.alignColumns q.output.toList).toList

/-- A character of a blank run: blank, tab, line end, form feed or carriage return. -/
def isSpaceChar (c : Char) : Bool := c == ' ' || c == '\t' || c == '\n' || c == '\x0c' || c == '\r'

/-- A character of a word: a letter or digit of ASCII, an underscore or a dot. -/
def isWordOrDot (c : Char) : Bool :=
  ('a' ≤ c && c ≤ 'z') || ('A' ≤ c && c ≤ 'Z') || ('0' ≤ c && c ≤ '9') || c == '_' || c == '.'

/-- The quoted text at the start of `cs` after its opening quote: at least one character, up to
the next quote, all on the line. -/
def quotedPrefix (cs : List Char) : Option String :=
  match cs with
  | c :: rest =>
    if c == '\n' then none
    else
      let body := rest.takeWhile fun x => x != '"' && x != '\n'
      match rest.drop body.length with
      | '"' :: _ => some (String.ofList (c :: body))
      | _ => none
  | [] => none

/-- **The path an import line names**: after a blank run, an optional name and another blank
run, the text between the first pair of quotes. -/
def importLinePath (line : List Char) : Option String :=
  let lead := line.takeWhile isSpaceChar
  if lead.isEmpty then none else
  let rest := line.drop lead.length
  match rest with
  | '"' :: body => quotedPrefix body
  | _ =>
    let word := rest.takeWhile isWordOrDot
    let rest := rest.drop word.length
    let gap := rest.takeWhile isSpaceChar
    match rest.drop gap.length with
    | '"' :: body => if word.isEmpty || gap.isEmpty then none else quotedPrefix body
    | _ => none

/-- The lines of a text, each with its line end; text after the last line end is dropped. -/
def linesWithEnds (s : List Char) : List (List Char) :=
  let rec go : List Char → List Char → List (List Char) → List (List Char)
    | [], _, acc => acc.reverse
    | c :: rest, cur, acc =>
      if c == '\n' then go rest [] ((c :: cur).reverse :: acc) else go rest (c :: cur) acc
  go s [] []

/-- Whether a line starts a declaration other than an import. -/
def startsDeclaration (line : List Char) : Bool :=
  let s := String.ofList line
  s.startsWith "var" || s.startsWith "func" || s.startsWith "const" || s.startsWith "type"

/-- **Puts blank lines between import groups**: in the lines from the first one that starts with
`import` up to the first declaration after it, an empty line goes before each line whose import
path is the next of `breaks`. -/
def addImportSpaces (text : String) (breaks : List String) : String := Id.run do
  let mut out : Array Char := #[]
  let mut inImports := false
  let mut done := false
  let mut breaks := breaks
  for line in linesWithEnds text.toList do
    if !inImports && !done && (String.ofList line).startsWith "import" then inImports := true
    if inImports && startsDeclaration line then
      done := true
      inImports := false
    if inImports then
      match breaks, importLinePath line with
      | b :: bs, some path =>
        if path == b then
          out := out.push '\n'
          breaks := bs
      | _, _ => pure ()
    out := out ++ line.toArray
  return String.ofList out.toList

/-- The text of syntax errors of a source without a file name. -/
def unnamedErrorsText (errs : List SourceError) : String :=
  match errs with
  | [] => "no errors"
  | [e] => s!"{e.line}:{e.column}: {e.msg}"
  | e :: more => s!"{e.line}:{e.column}: {e.msg} (and {more.length} more errors)"

/-- **Formats Go source** named `fileName`: imports fixed, then printed in standard layout; or
the text of its syntax errors. -/
def formatSource (fileName src : String) : Except String String :=
  match parseSource src with
  | .error errs => .error (errorsText fileName errs)
  | .ok (file, _) =>
    let d : Draft := ⟨file, (lineStarts src).toArray⟩
    let unused := (file.unusedImports (Text.byteLength src + 1)).mergeSort fun a b => a.2 ≤ b.2
    let d := unused.foldl (fun d (name, path) => d.deleteImport name path) d
    let d := d.mergeImports.sortImports true
    let text := addImportSpaces (d.print false (Text.byteLength src)) d.spacesBefore
    match parseSource text with
    | .error errs => .error (unnamedErrorsText errs)
    | .ok (file, _) =>
      let d : Draft := ⟨file, (lineStarts text).toArray⟩
      .ok ((d.sortImports false).print true (Text.byteLength text))

/-- A line that names no quoted path is no import line. -/
theorem importLinePath_plain : importLinePath "\tx := 1\n".toList = none := by
  decide

end Accessors.Source
