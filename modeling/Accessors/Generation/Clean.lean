import Accessors.Generation.Run

/-!
# Cleaning

A clean removes the generated accessor files of the package directories its configuration
names, and drops from the class map the entries whose files are gone:

1. The directories are scanned, and the generated files directly in each are removed, in order;
   a failure ends the clean with what was removed so far.
2. Without a class map file the clean is done. When the module cannot be resolved (from the
   first directory), the class map is left as it is, with a warning.
3. Otherwise every entry whose file was removed, or does not exist, is dropped, in the order of
   the class names.

Main statements: a clean of no directory with no class map removes nothing
(`clean_nothing`).
-/

namespace Accessors.Generation

/-- **The outcome of a clean**: its summary, its error if any, the files and the diagnostics
after it. -/
structure CleanOutcome where
  summary : CleanSummary
  error : Option Error
  disk : Disk
  diag : Diagnostics

/-- Removes one generated file, unless the clean has already failed; a file already gone counts
as removed. -/
def removeFile (acc : Disk × Diagnostics × CleanSummary × Option Error) (file : String) :
    Disk × Diagnostics × CleanSummary × Option Error :=
  let (disk, diag, s, err) := acc
  if err.isSome then acc
  else
    let removed := fun (disk : Disk) =>
      (disk, diag.verboseMsg ("Removed " ++ file), { s with removedFiles := s.removedFiles ++ [file] }, none)
    match disk.remove file with
    | .ok disk => removed disk
    | .error e =>
      if e.isNotFound then removed disk
      else (disk, diag, s, some (Error.fileSystem "remove" file (some e.toError)))

/-- Removes the generated files directly in a directory, unless the clean has already failed. -/
def removeIn (acc : Disk × Diagnostics × CleanSummary × Option Error) (dir : String) :
    Disk × Diagnostics × CleanSummary × Option Error :=
  let (disk, diag, s, err) := acc
  if err.isSome then acc
  else
    match PackageDirs.generatedIn disk dir with
    | .error e => (disk, diag, s, some e)
    | .ok files => files.foldl removeFile (disk, diag, s, none)

/-- Removes the generated files of the directories in order, or stops at the first failure. -/
def removeGenerated (dirs : List String) (disk : Disk) (diag : Diagnostics) (s : CleanSummary) :
    Disk × Diagnostics × CleanSummary × Option Error :=
  dirs.foldl removeIn (disk, diag, s, none)

/-- Drops the class map entry of a class when its file was removed or does not exist, unless the
clean has already failed. -/
def dropEntry (store : ClassMap.Store) (m : Module.GoModule) (acc : Disk × CleanSummary × Option Error)
    (entry : ClassMap.Entry) : Disk × CleanSummary × Option Error :=
  let (disk, s, err) := acc
  if err.isSome then acc
  else
    let path := Disk.joinPath [m.dir, entry.path]
    if !s.removedFiles.contains path && (disk.stat path).toOption.isSome then acc
    else
      match store.remove disk entry.name with
      | .error e => (disk, s, some e)
      | .ok disk => (disk, { s with removedEntries := s.removedEntries ++ [entry.name] }, none)

/-- Drops the class map entries whose files are gone, or stops at the first failure. -/
def dropEntries (store : ClassMap.Store) (m : Module.GoModule) (entries : List ClassMap.Entry)
    (disk : Disk) (s : CleanSummary) : Disk × CleanSummary × Option Error :=
  entries.foldl (dropEntry store m) (disk, s, none)

/-- **The class map step** of a clean, once the generated files are removed: without a class map
file nothing is done, when the module cannot be resolved (from the first directory) the class map
is left as it is, with a warning, and otherwise the entries whose files are gone are dropped. -/
def pruneClassMap (store : ClassMap.Store) (cfg : Config) (dirs : List String) (disk : Disk)
    (diag : Diagnostics) (s : CleanSummary) : CleanOutcome :=
  if (disk.stat store.path).toOption.isNone then ⟨s, none, disk, diag⟩
  else
    match Module.resolve disk cfg.module (dirs.headD "") with
    | .error e => ⟨s, none, disk, diag.warn ("Class map left untouched: " ++ e.message)⟩
    | .ok m =>
      match store.snapshot disk with
      | .error e => ⟨s, some e, disk, diag⟩
      | .ok entries =>
        let (disk, s, err) := dropEntries store m entries disk s
        ⟨s, err, disk, diag⟩

/-- **Cleans** the generated files of a configuration from a tree of files, with the class map
kept by a store. -/
def cleanWith (store : ClassMap.Store) (cfg : Config) (disk : Disk) (diag : Diagnostics) :
    CleanOutcome :=
  match PackageDirs.scan disk cfg.directories with
  | .error e => ⟨{}, some e, disk, diag⟩
  | .ok dirs =>
    match removeGenerated dirs disk diag {} with
    | (disk, diag, s, some e) => ⟨s, some e, disk, diag⟩
    | (disk, diag, s, none) => pruneClassMap store cfg dirs disk diag s

/-- **Cleans** the generated files of a configuration from a tree of files, with the class map in
the configuration's generated files directory. -/
def clean (cfg : Config) (disk : Disk) (diag : Diagnostics) : CleanOutcome :=
  cleanWith (ClassMap.Store.inDir cfg.generatedDir) cfg disk diag

/-- A clean of no directory with no class map removes nothing. -/
theorem clean_nothing (cfg : Config) (disk : Disk) (diag : Diagnostics)
    (h : PackageDirs.scan disk cfg.directories = .ok [])
    (hm : (disk.stat (ClassMap.Store.inDir cfg.generatedDir).path).toOption = none) :
    (clean cfg disk diag).summary.removedFiles = [] ∧ (clean cfg disk diag).disk = disk := by
  simp [clean, cleanWith, pruneClassMap, h, removeGenerated, hm]

end Accessors.Generation
