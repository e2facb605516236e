import Accessors.Generation.Summary
import Accessors.Config
import Accessors.ClassMap.Store
import Accessors.Module.Locate
import Accessors.PackageDirs
import Accessors.Spec.Synthesis
import Accessors.Render.File

/-!
# Generation runs

A run generates the accessors of every class of the package directories its configuration
names, and publishes each generated file in the class map:

1. The configuration is validated and the generated files directory created; the directories
   are scanned. A failure of any of these ends the run with that error; no directory ends it
   with a warning.
2. The module is resolved from the working directory the run was given, else from the first
   package directory; a failure ends the run as a configuration error.
3. Each package directory is read and given its import path; a package that fails is an error
   of the run, and the run goes on with the others.
4. Each class, in order, is generated on its own:
   * a class without a documented property, or whose synthesis gives no accessor, is
     **skipped**: a file left at its path by an earlier run is removed, and so is its class map
     entry;
   * otherwise it is synthesized, rendered, written through a temporary file in its directory,
     and published in the class map under its path relative to the module directory, with the
     run's id and the time of rendering;
   * a failure at any stage **fails** the class: its class map entry is removed (a failure to
     remove it is only a warning), a file from an earlier run is left in place, and the failure,
     as a generation error about the class, is an error of the run.

   One class is one step over the run's state (`classStep`), which also tells what became of
   the class: generated with the content of its file, skipped, failed at a stage, or skipped
   with a failure to remove its entry.
5. The errors of the run, packages first and then classes in order, are returned together.

Main statements: a run whose configuration is rejected fails with that rejection and changes no
file (`run_invalid`).
-/

namespace Accessors.Generation

/-- **What a run is given** besides its configuration: its id, the time its files are
rendered at, and the directory to resolve the module from (empty for none). -/
structure Setup where
  runId : String
  generatedAt : Time
  workingDir : String
  deriving Repr, Inhabited

/-- What generating a class needs: the module, the class map, how to read and render classes,
and the run's id and time. -/
structure ClassContext where
  goModule : Module.GoModule
  store : ClassMap.Store
  provider : Tag.MethodProvider
  templates : Render.TemplateSet
  runtime : String
  runId : String
  generatedAt : Time

/-- **The state of a run** while classes are generated: the files, the diagnostics, the
summary, the errors so far and the memo table of annotations. -/
structure RunState where
  disk : Disk
  diag : Diagnostics
  summary : Summary
  errors : List Error
  cache : Option Tag.OccurrenceCache

/-- **The outcome of a run**: its summary, its error if any, the files and the diagnostics after
it. -/
structure Outcome where
  summary : Summary
  error : Option Error
  disk : Disk
  diag : Diagnostics

/-- An error as a run records it: the first coded error it holds, or else an error of unknown
code with its message. -/
def asRecorded (e : Error) : Error :=
  match e.findFirst (fun x => match x with
    | .coded .. | .generation .. => some x
    | _ => none) with
  | some x => x
  | none => Error.wrap ErrorCode.unknown e.message (some e)

/-- A list of directories as a run writes it: in brackets, separated by blanks. -/
def listText (xs : List String) : String := "[" ++ " ".intercalate xs ++ "]"

namespace RunState

/-- Records an error of the run. -/
def fail (st : RunState) (e : Error) : RunState := { st with errors := st.errors ++ [asRecorded e] }

/-- Counts a skipped class, with the stale file removed for it, if any. -/
def countSkipped (st : RunState) (removed : Option String) : RunState :=
  { st with summary := { st.summary with
      skipped := st.summary.skipped + 1,
      removedFiles := st.summary.removedFiles ++ removed.toList } }

end RunState

/-- **Writes a file through a temporary file** in its directory, which then replaces it; a
directory at the path cannot be replaced. -/
def writeAtomic (disk : Disk) (path content : String) : Except Error Disk :=
  let dir := Disk.dirName path
  let tmp := Disk.joinPath [dir, "." ++ Disk.baseName path ++ ".RAND.tmp"]
  match disk.putText tmp content with
  | .error e =>
    .error (Error.fileSystem "create temporary file in" dir
      (some (DiskError.toError ⟨"createtemp", dir ++ "/." ++ Disk.baseName path ++ ".*.tmp", e.reason⟩)))
  | .ok _ =>
    if disk.isDir path then
      .error (Error.fileSystem "write" path (some (DiskError.toError ⟨"rename", tmp ++ " " ++ path, "file exists"⟩)))
    else .ok (disk.put path (.file content))

/-- The stages a class goes through. -/
inductive Stage where
  | synthesize
  | render
  | write
  | publish
  deriving Repr, DecidableEq

/-- The name of a stage, as errors give it. -/
def Stage.name : Stage → String
  | .synthesize => "synthesize"
  | .render => "render"
  | .write => "write"
  | .publish => "publish"

/-- **What became of a class** in a run: generated with the text of its file, skipped, failed at
a stage, or not skipped because its stale file or class map entry could not be removed. -/
inductive ClassResult where
  | generated (content : String)
  | skipped
  | failed (stage : Stage)
  | skipFailed
  deriving Repr, DecidableEq

/-- **Unpublishes a skipped class**: removes its class map entry, if it has one, and counts it
skipped with the stale file removed for it. -/
def unpublish (cx : ClassContext) (st : RunState) (name : String) (removed : Option String) :
    RunState × ClassResult :=
  match cx.store.lookup st.disk name with
  | none => (st.countSkipped removed, .skipped)
  | some _ =>
    match cx.store.remove st.disk name with
    | .error e => (st.fail e, .skipFailed)
    | .ok disk => ({ st with disk }.countSkipped removed, .skipped)

/-- **Skips a class**: removes the stale file at its path and its class map entry. -/
def skip (cx : ClassContext) (st : RunState) (name target : String) : RunState × ClassResult :=
  match st.disk.stat target with
  | .error _ => unpublish cx st name none
  | .ok _ =>
    match st.disk.remove target with
    | .error e => (st.fail (Error.fileSystem "remove stale accessors" target (some e.toError)), .skipFailed)
    | .ok disk => unpublish cx { st with disk, diag := st.diag.verboseMsg ("Removed stale " ++ target) } name
        (some target)

/-- The generation error of a failure: the one it holds, or one about the class at the stage. -/
def generationError (name stage : String) (e : Error) : Error :=
  match e.findFirst (fun x => match x with
    | .generation .. => some x
    | _ => none) with
  | some g => g
  | none => (Error.generationOf name stage (stage ++ " failed")).withCause e

/-- **Fails a class** at a stage: reports it, removes its class map entry and records the
error. -/
def failClass (cx : ClassContext) (st : RunState) (name : String) (stage : Stage) (e : Error) :
    RunState :=
  let g := generationError name stage.name e
  let headline := match g with
    | .generation c .. => c.message
    | x => x.message
  let st := { st with diag := st.diag.failure (name ++ ": " ++ headline) }
  let st := match cx.store.remove st.disk name with
    | .ok disk => { st with disk }
    | .error r => { st with diag := st.diag.warn ("cannot unpublish " ++ name ++ ": " ++ r.message) }
  { st with summary := { st.summary with failed := st.summary.failed + 1 } }.fail g

/-- The path of the generated file of a class: in the directory of its source file. -/
def targetOf (c : ClassInfo) : String :=
  Disk.joinPath [Disk.dirName c.fileName, Render.fileNameFor c.typeName]

/-- The class map entry of a generated class: its file relative to the module directory, and
the run's id and time. -/
def ClassContext.entryOf (cx : ClassContext) (c : ClassInfo) : ClassMap.Entry :=
  ⟨c.name, Disk.relPath cx.goModule.dir (targetOf c), cx.runId, cx.generatedAt⟩

/-- **Generates one class**: synthesize, render, write and publish, or skip or fail it; with what
became of it. -/
def classStep (cx : ClassContext) (st : RunState) (c : ClassInfo) : RunState × ClassResult :=
  let name := c.name
  let target := targetOf c
  let fail := fun (st : RunState) (stage : Stage) (e : Error) =>
    (failClass cx st name stage e, ClassResult.failed stage)
  if !c.documented then skip cx st name target
  else
    let (r, cache) := (c.synthesize cx.provider).run' st.cache
    let st := { st with cache }
    match r with
    | .error e => fail st .synthesize e
    | .ok spec =>
      if spec.methods.isEmpty then skip cx st name target
      else
        match spec.render cx.templates cx.runtime c with
        | .error e => fail st .render e
        | .ok file =>
          match writeAtomic st.disk target file.content with
          | .error e => fail st .write e
          | .ok disk =>
            match cx.store.put disk (cx.entryOf c) with
            | .error e => fail { st with disk } .publish e
            | .ok disk =>
              let diag := st.diag.progress (name ++ " (" ++ toString file.methods.length ++ " accessors)")
              let summary := { st.summary with
                generated := st.summary.generated + 1,
                generatedFiles := st.summary.generatedFiles ++ [target] }
              ({ st with disk := disk, diag := diag, summary := summary }, .generated file.content)

/-- Generates one class. -/
def generateClass (cx : ClassContext) (st : RunState) (c : ClassInfo) : RunState :=
  (classStep cx st c).1

/-- **Generates classes in order**, each from the state the one before left. -/
def generateClasses (cx : ClassContext) (st : RunState) (classes : List ClassInfo) : RunState :=
  classes.foldl (generateClass cx) st

/-- **Reads the package of a directory** and gives it its import path in the module. -/
def parsePackage (disk : Disk) (m : Module.GoModule) (dir : String) : Except Error PackageInfo :=
  match Source.parseDirectory disk dir with
  | .error e =>
    let cause := match e with
      | .model _ _ _ _ (some c) => c
      | e => e
    .error ((Error.parseFailure ("package " ++ dir) (some cause)).withLocation ⟨dir, 0, 0⟩)
  | .ok p =>
    match m.packagePath disk dir with
    | .error e =>
      .error (((Error.wrap ErrorCode.configuration "cannot determine import path" (some e)).withLocation
        ⟨dir, 0, 0⟩).withSuggestions ["scan only directories inside the module or set --module"])
    | .ok path => .ok (p.withImportPath path)

/-- The packages of the directories in order, the failures recorded as errors. -/
def parsePackages (disk : Disk) (m : Module.GoModule) (dirs : List String) (diag : Diagnostics) :
    List ClassInfo × List Error × Diagnostics :=
  dirs.foldl (fun (acc : List ClassInfo × List Error × Diagnostics) dir =>
    let (cs, es, d) := acc
    match parsePackage disk m dir with
    | .error e => (cs, es ++ [asRecorded e], d)
    | .ok p => (cs ++ p.classes, es,
        d.verboseMsg ("Parsed " ++ p.importPath ++ ": " ++ toString p.classes.length ++ " types")))
    ([], [], diag)

/-- The failure of resolving the module of a run. -/
def moduleError (cfg : Config) (e : Error) : Error :=
  ((Error.wrap ErrorCode.configuration "failed to resolve module" (some e)).withSuggestions
    ["check that a go.mod file exists above the scanned directories", "try specifying --module explicitly"]).withContext
    "directories" (.arr (cfg.directories.map .str))

/-- The failure of creating the generated files directory. -/
def directoryError (cfg : Config) (e : DiskError) : Error :=
  (Error.fileSystem "create generated files directory" cfg.generatedDir (some e.toError)).withSuggestions
    ["check that " ++ cfg.generatedDir ++ " can be created or set generatedFilesDirectory"]

/-- **Generates the classes of the package directories** once the module is known. -/
def generateAll (cfg : Config) (setup : Setup) (disk : Disk) (diag : Diagnostics)
    (m : Module.GoModule) (dirs : List String) : Outcome :=
  let diag := diag.debug ("Resolved module " ++ m.path ++ " at " ++ m.dir)
  let diag := if cfg.runtime.isEmpty then diag else diag.debug ("Importing runtime from " ++ cfg.runtime)
  let diag := diag.info ("Found " ++ toString dirs.length ++ " packages to process")
  let (classes, errors, diag) := parsePackages disk m dirs diag
  let cx : ClassContext :=
    { goModule := m, store := ClassMap.Store.inDir cfg.generatedDir,
      provider := ⟨cfg.methodMap.getD [], true⟩, templates := Render.TemplateSet.standard,
      runtime := if cfg.runtime.isEmpty then Render.defaultRuntime else cfg.runtime,
      runId := setup.runId, generatedAt := setup.generatedAt }
  let st : RunState :=
    { disk, diag, errors, cache := some Cache.empty,
      summary := { runId := setup.runId, packages := dirs.length, scanned := classes.length } }
  let st := generateClasses cx st classes
  let cache := st.cache.getD Cache.empty
  let diag := st.diag.verboseMsg ("Annotation cache: " ++ toString cache.size ++ " properties, " ++
    toString cache.hits ++ " hits, " ++ toString cache.misses ++ " misses")
  ⟨st.summary.sorted, if st.errors.isEmpty then none else some (.multiple st.errors), st.disk, diag⟩

/-- **Runs a generation** on a tree of files, reporting through the diagnostics. -/
def run (cfg : Config) (setup : Setup) (disk : Disk) (diag : Diagnostics) : Outcome :=
  let diag := (diag.verboseMsg ("Starting code generation run " ++ setup.runId)).debug
    ("Scanning directories: " ++ listText cfg.directories)
  let stop := fun (e : Error) (disk : Disk) => Outcome.mk { runId := setup.runId } (some e) disk diag
  match cfg.validate with
  | some e => stop e disk
  | none =>
    match disk.mkdirAll cfg.generatedDir with
    | .error e => stop (directoryError cfg e) disk
    | .ok disk =>
      match PackageDirs.scan disk cfg.directories with
      | .error e => stop e disk
      | .ok [] => ⟨{ runId := setup.runId }, none, disk, diag.warn ("No Go packages found in " ++ listText cfg.directories)⟩
      | .ok (first :: rest) =>
        let startDir := if setup.workingDir.isEmpty then first else setup.workingDir
        match Module.resolve disk cfg.module startDir with
        | .error e => stop (moduleError cfg e) disk
        | .ok m => generateAll cfg setup disk diag m (first :: rest)

/-- A run whose configuration is rejected fails with that rejection and changes no file. -/
theorem run_invalid (cfg : Config) (setup : Setup) (disk : Disk) (diag : Diagnostics) (e : Error)
    (h : cfg.validate = some e) :
    (run cfg setup disk diag).error = some e ∧ (run cfg setup disk diag).disk = disk := by
  simp [run, h]

end Accessors.Generation
