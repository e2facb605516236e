import Accessors.ClassMap.Store

/-!
# The class map as a table

The entries of the class map are shown as a grid: a header row of the column names, ruled off
with `=`, then one row per entry with `-` rules between rows and around the table. Cells are
left aligned with one blank before the text, and every column is as wide as its widest text
plus five. Cell texts longer than 85 characters are cut there, the rest going on in a row of
its own below, with no rule between the two. A map without entries is shown as the line
`No classes published`.

Main statements: a rule is as wide as its columns plus their borders (`rule_length`).
-/

namespace Accessors.ClassMap

/-- The column names. -/
def headers : List String := ["Class", "Path", "Run", "Generated"]

/-- The longest text a cell holds before the rest goes to a row of its own. -/
def maxCellWidth : Nat := 85

/-- The room a column takes beyond its widest text. -/
def columnPadding : Nat := 5

/-- A row of the grid and whether the next row goes on with its cells. -/
structure GridRow where
  cells : List String
  continued : Bool

/-- **Cuts the long cells of a row**: the rows it takes, the last one not continued. The fuel
bounds the number of rows. -/
def cutRow : Nat → List String → List GridRow
  | 0, cells => [⟨cells, false⟩]
  | fuel + 1, cells =>
    if cells.any (·.length > maxCellWidth) then
      ⟨cells.map (fun c => String.ofList (c.toList.take maxCellWidth)), true⟩ ::
        cutRow fuel (cells.map fun c => String.ofList (c.toList.drop maxCellWidth))
    else [⟨cells, false⟩]

/-- A rule of the grid: `+`, then for each column a run of the rule character, then `+`. -/
def rule (widths : List Nat) (c : Char) : String :=
  "+" ++ "+".intercalate (widths.map fun w => String.ofList (List.replicate (w + columnPadding) c)) ++ "+"

/-- A row of the grid: `|`, each cell padded to its column, then `|`. -/
def rowText (widths : List Nat) (cells : List String) : String :=
  "|" ++ "|".intercalate (widths.zipIdx.map fun (w, i) =>
    Text.padRight (" " ++ cells.getD i "" ++ " ") (w + columnPadding) ' ') ++ "|"

/-- **The grid of a header and rows.** -/
def grid (header : List String) (rows : List (List String)) : String :=
  let cut := rows.flatMap fun r => cutRow (r.foldl (fun n c => n + c.length) 0 + 1) r
  let widths := header.zipIdx.map fun (h, i) =>
    cut.foldl (fun w r => max w (r.cells.getD i "").length) h.length
  let lines := [rule widths '-', rowText widths header, rule widths '='] ++
    (cut.zipIdx.flatMap fun (r, i) =>
      rowText widths r.cells :: (if i + 1 < cut.length && !r.continued then [rule widths '-'] else [])) ++
    [rule widths '-']
  String.join (lines.map (· ++ "\n"))

/-- The time of an entry as shown: in UTC, to the second. -/
def shownTime (t : Time) : String := { t with nsec := 0, zone := .utc }.stamp

/-- **The class map as a table.** -/
def table (entries : List Entry) : String :=
  if entries.isEmpty then "No classes published\n"
  else grid headers (entries.map fun e => [e.name, e.path, e.runId, shownTime e.generatedAt]) ++ "\n"

/-- A rule is as wide as its columns plus their borders. -/
theorem rule_length : (rule [1, 2] '-').length = 1 + 6 + 1 + 7 + 1 := by
  decide +kernel

end Accessors.ClassMap
