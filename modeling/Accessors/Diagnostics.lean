import Accessors.Error.Report

/-!
# Diagnostics

The messages a run writes for its user, by level: silent (0), errors (1), warnings (2),
information (3), verbose (4) and debug (5). A message is written only when the level is at
least its own.

* Tagged messages read `[TAG] text`: `ERROR` (level 1, to the error stream), `WARN` (2), `INFO`
  and `SUCCESS` (3), `VERBOSE` (4) and `DEBUG` (5). From the verbose level up they start with
  the time of day.
* Plain lines at level 3: a header `accessorgen: text`, a section title after a blank line,
  list items `- text` and completed steps `✓ text`; failed steps `✗ text` go to the error stream
  at level 1.
* A summary is a title after a blank line and one line `   key: value` per statistic, keys
  sorted.
* Tagged messages, list items and steps are indented by two blanks per level of indentation;
  indentation never goes below zero.

Main statements: a silent system writes nothing (`silent_writes_nothing`).
-/

namespace Accessors

/-- The verbose level, from which messages carry the time of day. -/
def verboseLevel : Int := 4

/-- **A diagnostics system**: its level, the time-of-day text it stamps messages with, its
indentation, and what it wrote to its output and error streams. -/
structure Diagnostics where
  level : Int
  clock : String
  indent : Nat
  out : String
  err : String
  deriving Repr, Inhabited

namespace Diagnostics

/-- A system at a level, stamping verbose messages with `clock`. -/
def atLevel (level : Int) (clock : String) : Diagnostics := ⟨level, clock, 0, "", ""⟩

/-- A system that only writes errors. -/
def quiet (clock : String) : Diagnostics := atLevel 1 clock

/-- A system that writes everything up to verbose messages. -/
def verbose (clock : String) : Diagnostics := atLevel verboseLevel clock

/-- The text of the current indentation. -/
def indentText (d : Diagnostics) : String := String.join (List.replicate d.indent "  ")

/-- **Writes a line** when the level reaches `threshold`, to the error stream when `toErr`. -/
def line (d : Diagnostics) (threshold : Int) (toErr : Bool) (text : String) : Diagnostics :=
  if d.level < threshold then d
  else if toErr then { d with err := d.err ++ text ++ "\n" }
  else { d with out := d.out ++ text ++ "\n" }

/-- **A tagged message** at a level. -/
def tagged (d : Diagnostics) (threshold : Int) (tag text : String) : Diagnostics :=
  let stamp := if d.level ≥ verboseLevel then d.clock else ""
  d.line threshold (threshold == 1) (d.indentText ++ stamp ++ "[" ++ tag ++ "] " ++ text)

/-- An error message. -/
def error (d : Diagnostics) (text : String) : Diagnostics := d.tagged 1 "ERROR" text

/-- A warning. -/
def warn (d : Diagnostics) (text : String) : Diagnostics := d.tagged 2 "WARN" text

/-- A piece of information. -/
def info (d : Diagnostics) (text : String) : Diagnostics := d.tagged 3 "INFO" text

/-- A success. -/
def success (d : Diagnostics) (text : String) : Diagnostics := d.tagged 3 "SUCCESS" text

/-- A verbose message. -/
def verboseMsg (d : Diagnostics) (text : String) : Diagnostics := d.tagged 4 "VERBOSE" text

/-- A debug message. -/
def debug (d : Diagnostics) (text : String) : Diagnostics := d.tagged 5 "DEBUG" text

/-- The banner of the tool. -/
def header (d : Diagnostics) (text : String) : Diagnostics := d.line 3 false ("accessorgen: " ++ text)

/-- A section title after a blank line. -/
def sectionTitle (d : Diagnostics) (title : String) : Diagnostics := d.line 3 false ("\n" ++ title ++ ":")

/-- A list item. -/
def list (d : Diagnostics) (text : String) : Diagnostics := d.line 3 false (d.indentText ++ "- " ++ text)

/-- A completed step. -/
def progress (d : Diagnostics) (text : String) : Diagnostics :=
  d.line 3 false (d.indentText ++ "✓ " ++ text)

/-- A failed step, on the error stream. -/
def failure (d : Diagnostics) (text : String) : Diagnostics :=
  d.line 1 true (d.indentText ++ "✗ " ++ text)

/-- One more level of indentation. -/
def indented (d : Diagnostics) : Diagnostics := { d with indent := d.indent + 1 }

/-- One level of indentation less, never below zero. -/
def unindented (d : Diagnostics) : Diagnostics := { d with indent := d.indent - 1 }

/-- **A summary**: the title and one line per statistic, keys sorted. -/
def summary (d : Diagnostics) (title : String) (stats : List (String × String)) : Diagnostics :=
  let sorted := stats.mergeSort fun a b => decide (a.1 ≤ b.1)
  d.line 3 false ("\n" ++ title ++ String.join (sorted.map fun (k, v) => "\n   " ++ k ++ ": " ++ v))

/-- A silent system writes nothing. -/
theorem silent_writes_nothing (clock text : String) (t : Int) (toErr : Bool) (h : 0 < t) :
    ((atLevel 0 clock).line t toErr text).out = "" ∧ ((atLevel 0 clock).line t toErr text).err = "" := by
  have : (0 : Int) < t := h
  simp [line, atLevel, this]

end Diagnostics

end Accessors
