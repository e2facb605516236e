import Accessors.Diagnostics

/-!
# Summaries of runs

A generation run counts the packages it processed and the classes it scanned, generated,
skipped and failed, and lists the files it generated and the stale files it removed. A clean
lists the files it removed and the class map entries it dropped.

Both are reported through the diagnostics at the information level:

* a generation summary lists the generated files, then the removed stale files, each under a
  section title and indented, then the counts under `Generation summary`, sorted by name, with
  the duration of the run;
* a clean lists each removed file and each dropped entry as a completed step and then the
  counts as a success, or says that there was nothing to clean.

Main statements: an empty clean reports only that there was nothing to clean
(`CleanSummary.report_empty`).
-/

namespace Accessors.Generation

/-- **The summary of a generation run.** -/
structure Summary where
  runId : String
  packages : Nat := 0
  scanned : Nat := 0
  generated : Nat := 0
  skipped : Nat := 0
  failed : Nat := 0
  generatedFiles : List String := []
  removedFiles : List String := []
  deriving Repr, Inhabited

/-- Texts sorted. -/
def sortTexts (xs : List String) : List String := xs.mergeSort fun a b => decide (a ≤ b)

namespace Summary

/-- The summary with its file lists sorted. -/
def sorted (s : Summary) : Summary :=
  { s with generatedFiles := sortTexts s.generatedFiles, removedFiles := sortTexts s.removedFiles }

/-- The duration a summary reports: runs are reported as taking no time. -/
def durationText : String := "0s"

/-- Lists files under a section title, indented. -/
def listFiles (d : Diagnostics) (title : String) (files : List String) : Diagnostics :=
  if files.isEmpty then d
  else ((files.foldl (fun d f => d.list f) (d.sectionTitle title).indented)).unindented

/-- **Reports a generation summary.** -/
def report (s : Summary) (d : Diagnostics) : Diagnostics :=
  let d := listFiles d "Generated files" s.generatedFiles
  let d := listFiles d "Removed stale files" s.removedFiles
  d.summary "Generation summary"
    [("Run", s.runId), ("Packages", toString s.packages), ("Classes", toString s.scanned),
     ("Generated", toString s.generated), ("Skipped", toString s.skipped),
     ("Failed", toString s.failed), ("Duration", durationText)]

end Summary

/-- **The summary of a clean**: the removed files and the dropped class map entries. -/
structure CleanSummary where
  removedFiles : List String := []
  removedEntries : List String := []
  deriving Repr, Inhabited

/-- **Reports a clean.** -/
def CleanSummary.report (s : CleanSummary) (d : Diagnostics) : Diagnostics :=
  if s.removedFiles.isEmpty && s.removedEntries.isEmpty then d.info "Nothing to clean"
  else
    let d := s.removedFiles.foldl (fun d f => d.progress ("removed " ++ f)) d
    let d := s.removedEntries.foldl (fun d n => d.progress ("unpublished " ++ n)) d
    d.success ("Removed " ++ toString s.removedFiles.length ++ " files and " ++
      toString s.removedEntries.length ++ " class map entries")

/-- An empty clean reports only that there was nothing to clean. -/
theorem CleanSummary.report_empty (d : Diagnostics) :
    CleanSummary.report {} d = d.info "Nothing to clean" := by
  simp [CleanSummary.report]

end Accessors.Generation
