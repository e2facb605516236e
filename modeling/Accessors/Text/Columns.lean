import Accessors.Text.Quote

/-!
# Elastic columns

Text whose cells are ended by tabs lines up in columns: the cells of one column, over the run
of consecutive lines that have a cell there, are padded with blanks to the widest of them plus
one. This is the layout of Go source, where declarations, field lists and comments line up.

The input is a stream of characters:

* `'\t'` and `'\v'` end a cell (a tab is a hard separator, a vertical tab a soft one);
* `'\n'` ends a line and `'\f'` ends a line and a block: no column reaches across it;
* text between two escape marks (`escapeMark`) is taken as it is, tabs and line ends included,
  and counts by its characters for the width of its cell.

A column of lines whose cells are all empty and soft takes no room. Leading empty cells are
indentation and become tabs (`tabPadding`). The last cell of a line is not in any column.

After the layout, `trimLines` drops the escape marks and the blanks and tabs at the end of
lines, and turns form feeds into line ends.

Main statements: one level of indentation is one tab (`tabPadding_indent`).
-/

namespace Accessors.Text

/-- The mark around text that is taken as it is. -/
def escapeMark : Char := '\x00'

/-- **A cell**: its text (escape marks included), its width in characters (escape marks not
counted), and whether a hard tab ended it. -/
structure Cell where
  text : String
  width : Nat
  hard : Bool
  deriving Repr, Inhabited

/-- **The layout state**: the lines of the current block (each a list of cells), the cell being
read, whether an escape is open, and the output so far. -/
structure Columns where
  lines : Array (Array Cell)
  cell : Cell
  escaped : Bool
  out : String
  deriving Inhabited

/-- Tabs of a width of eight that fill a cell of width `cellw` holding text of width `textw`. -/
def tabPadding (textw cellw : Nat) : String :=
  let cellw := (cellw + 7) / 8 * 8
  String.ofList (List.replicate ((cellw - textw + 7) / 8) '\t')

/-- The text of one line of a block, with the widths of the columns known so far; the line
ends with a line break unless it is the last of the block. Leading empty cells become tabs. -/
def lineText (widths : Array Nat) (line : Array Cell) (last : Bool) : String :=
  let (s, _) := line.toList.zipIdx.foldl (fun (acc : String × Bool) (c, j) =>
    let (s, leading) := acc
    if c.text.isEmpty then
      match widths[j]? with
      | some w =>
        if leading then (s ++ tabPadding c.width w, leading)
        else (s ++ String.ofList (List.replicate (w - c.width) ' '), leading)
      | none => (s, leading)
    else
      let s := s ++ c.text
      match widths[j]? with
      | some w => (s ++ String.ofList (List.replicate (w - c.width) ' '), false)
      | none => (s, false)) ("", true)
  if last then s else s.push '\n'

/-- The lines `line0` to `line1` (excluded) of a block. -/
def linesText (lines : Array (Array Cell)) (widths : Array Nat) (line0 line1 : Nat) : String :=
  ((List.range (line1 - line0)).map fun k =>
    let i := line0 + k
    lineText widths (lines[i]?.getD #[]) (i + 1 == lines.size)).foldl (· ++ ·) ""

/-- Whether line `i` has a cell in column `column` that is not its last. -/
def hasColumn (lines : Array (Array Cell)) (column i : Nat) : Bool :=
  column + 1 < (lines[i]?.getD #[]).size

/-- The end of the run of lines from `i` that have a cell in `column`, its width (the widest
cell plus one) and whether all its cells are empty and soft. -/
def columnRun (lines : Array (Array Cell)) (column : Nat) : Nat → Nat → Nat → Nat × Nat × Bool
  | 0, i, _ => (i, 0, true)
  | fuel + 1, i, line1 =>
    if i < line1 && hasColumn lines column i then
      let c := (lines[i]?.getD #[])[column]?.getD default
      let (e, w, d) := columnRun lines column fuel (i + 1) line1
      (e, max w (c.width + 1), d && c.width == 0 && !c.hard)
    else (i, 0, true)

/-- **The layout of lines `line0` to `line1`** of a block, given the widths of the columns to
the left: each run of lines with a cell in the next column is laid out with that column's
width, the lines between runs as they are. -/
def formatBlock (lines : Array (Array Cell)) : Nat → Array Nat → Nat → Nat → String
  | 0, widths, line0, line1 => linesText lines widths line0 line1
  | fuel + 1, widths, line0, line1 =>
    let column := widths.size
    let rec scan : Nat → Nat → Nat → String
      | 0, line0, _ => linesText lines widths line0 line1
      | k + 1, line0, this =>
        if this < line1 then
          if hasColumn lines column this then
            let before := linesText lines widths line0 this
            let (stop, width, discard) := columnRun lines column (line1 - this) this line1
            let width := if discard then 0 else width
            before ++ formatBlock lines fuel (widths.push width) this stop ++ scan k stop stop
          else scan k line0 (this + 1)
        else linesText lines widths line0 line1
    scan (2 * (line1 - line0) + 1) line0 line0

/-- Lays out the lines read so far and starts a new block. -/
def Columns.flush (c : Columns) : Columns :=
  let c := if c.cell.text.isEmpty then c
    else
      let last := c.lines.size - 1
      { c with lines := c.lines.modify last (·.push c.cell), cell := ⟨"", 0, false⟩ }
  let n := c.lines.size
  let cells := c.lines.foldl (fun n l => n + l.size) 0
  { c with out := c.out ++ formatBlock c.lines (cells + 1) #[] 0 n, lines := #[#[]],
           cell := ⟨"", 0, false⟩, escaped := false }

/-- Ends the current cell; the number of cells of its line. -/
def Columns.endCell (c : Columns) (hard : Bool) : Columns × Nat :=
  let last := c.lines.size - 1
  let lines := c.lines.modify last (·.push { c.cell with hard })
  ({ c with lines, cell := ⟨"", 0, false⟩ }, (lines[last]?.getD #[]).size)

/-- **Reads one character.** -/
def Columns.step (c : Columns) (ch : Char) : Columns :=
  if c.escaped then
    if ch == escapeMark then { c with cell := { c.cell with text := c.cell.text.push ch }, escaped := false }
    else { c with cell := { c.cell with text := c.cell.text.push ch, width := c.cell.width + 1 } }
  else if ch == '\t' || ch == '\x0b' || ch == '\n' || ch == '\x0c' then
    let (c, cells) := c.endCell (ch == '\t')
    if ch == '\n' || ch == '\x0c' then
      let c := { c with lines := c.lines.push #[] }
      if ch == '\x0c' || cells == 1 then c.flush else c
    else c
  else if ch == escapeMark then
    { c with cell := { c.cell with text := c.cell.text.push ch }, escaped := true }
  else { c with cell := { c.cell with text := c.cell.text.push ch, width := c.cell.width + 1 } }

/-- **Lines up the columns** of a text. -/
def alignColumns (input : List Char) : String :=
  (input.foldl Columns.step ⟨#[#[]], ⟨"", 0, false⟩, false, ""⟩).flush.out

/-- **Tidies laid-out text**: drops escape marks, and blanks and tabs before line ends and at
the end (outside escapes); form feeds and vertical tabs become line ends and tabs. -/
def trimLines (input : List Char) : String :=
  let rec go : List Char → Bool → List Char → List Char → List Char
    | [], _, _, out => out.reverse
    | ch :: rest, escaped, space, out =>
      if escaped then
        if ch == escapeMark then go rest false [] out
        else go rest true [] (ch :: out)
      else if ch == ' ' || ch == '\t' || ch == '\x0b' then
        go rest false ((if ch == ' ' then ' ' else '\t') :: space) out
      else if ch == '\n' || ch == '\x0c' then go rest false [] ('\n' :: out)
      else if ch == escapeMark then go rest true [] (space ++ out)
      else go rest false [] (ch :: (space ++ out))
  String.ofList (go input false [] [])

/-- One level of indentation in a column of width one is one tab. -/
theorem tabPadding_indent : tabPadding 0 1 = "\t" := by
  simp [tabPadding]

end Accessors.Text
