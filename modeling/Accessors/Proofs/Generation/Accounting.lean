import Accessors.Proofs.Generation.Isolation
import Mathlib.Data.List.Induction

/-!
# What a run counts

A run counts every class it reads as generated, skipped or failed, lists the file of each
generated class and the stale file each skip removed, and records an error for each failure. One
path counts nothing: a class whose stale file or class map entry cannot be removed when it is
skipped is neither skipped nor failed, though its failure is an error of the run
(`ClassResult.skipFailed`).

* `classStep_records`: a class's step increments the counter of what became of it, lists the file
  of a generated class and the stale file a skip removed, and records one error for a failure and
  none otherwise.
* `generateClasses_counter`, `generateClasses_removedFiles`, `generateClasses_errors`: over a run
  of classes, each counter is its start plus the classes of its kind, the removed files are stale
  files of skipped classes, and the errors are those of the failures, class by class.
* `run_accounts`: a run that passes its configuration, scan and module resolution accounts for
  every class it read (`Accounts`): the three counters and the classes whose removal failed add up
  to the classes read, there are as many generated files as generated classes, and the run fails
  exactly when a package or a class failed, with one error for each failed package and then one for
  each failed class, in order.
-/

namespace Accessors.Generation

open ClassMap

/-! ### What became of a class -/

namespace ClassResult

/-- Whether the class was generated. -/
def isGenerated : ClassResult → Bool
  | .generated _ => true
  | _ => false

/-- Whether the class was skipped. -/
def isSkipped : ClassResult → Bool
  | .skipped => true
  | _ => false

/-- Whether the class failed at a stage. -/
def isFailed : ClassResult → Bool
  | .failed _ => true
  | _ => false

/-- Whether the class's step is a failure of the run: a failed class, or a skip whose removal
failed. -/
def isError : ClassResult → Bool
  | .failed _ => true
  | .skipFailed => true
  | _ => false

/-- Every result is of exactly one kind: generated, skipped, failed, or a failed skip. -/
theorem kinds_sum (r : ClassResult) :
    (if r.isGenerated then 1 else 0) + (if r.isSkipped then 1 else 0) + (if r.isFailed then 1 else 0) +
      (if r = .skipFailed then 1 else 0) = 1 := by
  cases r <;> simp [isGenerated, isSkipped, isFailed]

end ClassResult

/-! ### The summary after one class -/

/-- **The summary after one class**: the counter of its result incremented, the file of a generated
class listed, and the stale files removed for a skipped class. -/
def Summary.tally (s : Summary) (r : ClassResult) (target : String) (removed : List String) : Summary :=
  match r with
  | .generated _ => { s with generated := s.generated + 1, generatedFiles := s.generatedFiles ++ [target] }
  | .skipped => { s with skipped := s.skipped + 1, removedFiles := s.removedFiles ++ removed }
  | .failed _ => { s with failed := s.failed + 1 }
  | .skipFailed => s

namespace Summary

variable (s : Summary) (r : ClassResult) (t : String) (rm : List String)

@[simp] theorem tally_scanned : (s.tally r t rm).scanned = s.scanned := by
  cases r <;> rfl

@[simp] theorem tally_generated : (s.tally r t rm).generated = s.generated + if r.isGenerated then 1 else 0 := by
  cases r <;> rfl

@[simp] theorem tally_skipped : (s.tally r t rm).skipped = s.skipped + if r.isSkipped then 1 else 0 := by
  cases r <;> rfl

@[simp] theorem tally_failed : (s.tally r t rm).failed = s.failed + if r.isFailed then 1 else 0 := by
  cases r <;> rfl

@[simp] theorem tally_generatedFiles_length :
    (s.tally r t rm).generatedFiles.length = s.generatedFiles.length + if r.isGenerated then 1 else 0 := by
  cases r <;> simp [tally, ClassResult.isGenerated]

theorem tally_removedFiles :
    (s.tally r t rm).removedFiles = s.removedFiles ++ if r.isSkipped then rm else [] := by
  cases r <;> simp [tally, ClassResult.isSkipped]

end Summary

/-! ### What one step records -/

/-- **A step records its result** `r` for a class whose file is `target`: the summary is tallied,
with stale files removed only by a skip and only at `target`, and the errors gain one error for a
failure and none otherwise. -/
structure Records (st st' : RunState) (r : ClassResult) (target : String) : Prop where
  tally : ∃ rm, (∀ p ∈ rm, r = .skipped ∧ p = target) ∧ st'.summary = st.summary.tally r target rm
  errors : ∃ es, st'.errors = st.errors ++ es ∧ es.length = if r.isError then 1 else 0

namespace Records

variable {st st₀ st' : RunState} {r : ClassResult} {target : String}

/-- What a step records depends only on the summary and the errors it starts from. -/
theorem of_start (h : Records st₀ st' r target) (hs : st₀.summary = st.summary) (he : st₀.errors = st.errors) :
    Records st st' r target :=
  ⟨hs ▸ h.tally, he ▸ h.errors⟩

/-- Counting a skip records it. -/
theorem countSkipped (removed : Option String) (hrm : ∀ p ∈ removed.toList, p = target) :
    Records st (st.countSkipped removed) .skipped target :=
  ⟨⟨removed.toList, fun p hp => ⟨rfl, hrm p hp⟩, rfl⟩, ⟨[], by simp [RunState.countSkipped], rfl⟩⟩

/-- Recording a failed removal leaves the counters and adds its error. -/
theorem fail (e : Error) : Records st (st.fail e) .skipFailed target :=
  ⟨⟨[], by simp, rfl⟩, ⟨[asRecorded e], rfl, rfl⟩⟩

end Records

section Steps

variable (cx : ClassContext) (st : RunState)

theorem unpublish_records (name target : String) (removed : Option String)
    (hrm : ∀ p ∈ removed.toList, p = target) :
    Records st (unpublish cx st name removed).1 (unpublish cx st name removed).2 target := by
  unfold unpublish
  split
  · exact .countSkipped removed hrm
  · split
    · exact .fail _
    · exact (Records.countSkipped removed hrm).of_start rfl rfl

/-- **Skipping records** a skip, with the stale file removed at the class's path if any, or the
failure to remove it or the class's entry. -/
theorem skip_records (name target : String) :
    Records st (skip cx st name target).1 (skip cx st name target).2 target := by
  unfold skip
  split
  · exact unpublish_records cx st name target none (by simp)
  · split
    · exact .fail _
    · exact (unpublish_records cx _ name target (some target) (by simp)).of_start rfl rfl

/-- **Failing a class records** its failure: the failed counter, and its generation error. -/
theorem failClass_records (name target : String) (stage : Stage) (e : Error) :
    Records st (failClass cx st name stage e) (.failed stage) target := by
  refine ⟨⟨[], by simp, ?_⟩, ⟨[asRecorded (generationError name stage.name e)], ?_, rfl⟩⟩
  · unfold failClass
    dsimp only
    split <;> rfl
  · unfold failClass
    dsimp only
    split <;> rfl

/-- **A class's step records what became of the class.** -/
theorem classStep_records (c : ClassInfo) :
    Records st (classStep cx st c).1 (classStep cx st c).2 (targetOf c) := by
  rcases classStep_cases cx st c with ⟨st', -, hs, he, heq⟩ | ⟨st', stage, e, -, hs, he, -, heq⟩ |
      ⟨spec, file, d₁, -, -, -, -, hsum, herr, hres⟩ | ⟨st', content, e, -, hs, he, heq⟩
  · rw [heq]
    exact (skip_records cx st' c.name (targetOf c)).of_start hs he
  · rw [heq]
    exact (failClass_records cx st' c.name (targetOf c) stage e).of_start hs he
  · rw [hres]
    exact ⟨⟨[], by simp, hsum⟩, ⟨[], by simp [herr], rfl⟩⟩
  · rw [heq]
    exact (failClass_records cx st' c.name (targetOf c) .publish e).of_start hs he

end Steps

/-! ### What a run records -/

/-- **What became of each class of a run**, in order: its result, and the errors its step
recorded. -/
def outcomes (cx : ClassContext) (st : RunState) : List ClassInfo → List (ClassResult × List Error)
  | [] => []
  | c :: cs => ((classStep cx st c).2, (classStep cx st c).1.errors.drop st.errors.length) ::
      outcomes cx (classStep cx st c).1 cs

section Runs

variable (cx : ClassContext)

@[simp] theorem outcomes_length (st : RunState) (cs : List ClassInfo) : (outcomes cx st cs).length = cs.length := by
  induction cs generalizing st with
  | nil => rfl
  | cons c cs ih => simp [outcomes, ih]

/-- The errors a step recorded, read off the errors after it. -/
theorem Records.drop_errors {st st' : RunState} {r : ClassResult} {target : String} (h : Records st st' r target) :
    st'.errors = st.errors ++ st'.errors.drop st.errors.length ∧
      (st'.errors.drop st.errors.length).length = if r.isError then 1 else 0 := by
  obtain ⟨es, hes, hlen⟩ := h.errors
  rw [hes, List.drop_left]
  exact ⟨rfl, hlen⟩

/-- **A counter over a run**: a quantity of the summary that each class's tally raises by one for
the results of a kind is its start plus the classes of that kind. -/
theorem generateClasses_counter (f : Summary → Nat) (P : ClassResult → Bool)
    (hf : ∀ s r t rm, f (s.tally r t rm) = f s + if P r then 1 else 0) (st : RunState) (cs : List ClassInfo) :
    f (generateClasses cx st cs).summary = f st.summary + (outcomes cx st cs).countP (fun o => P o.1) := by
  induction cs generalizing st with
  | nil => simp [outcomes]
  | cons c cs ih =>
    obtain ⟨rm, -, hsum⟩ := (classStep_records cx st c).tally
    rw [generateClasses_cons, ih, hsum, hf]
    by_cases hp : P (classStep cx st c).2
    · simp [outcomes, hp]
      omega
    · simp [outcomes, hp]

/-- A run keeps the count of classes it scanned. -/
theorem generateClasses_scanned (st : RunState) (cs : List ClassInfo) :
    (generateClasses cx st cs).summary.scanned = st.summary.scanned := by
  simpa using generateClasses_counter cx Summary.scanned (fun _ => false) (by simp) st cs

/-- **Every stale file a run removed** is the file of a class it skipped. -/
theorem generateClasses_removedFiles (st : RunState) (cs : List ClassInfo) :
    ∃ rm, (generateClasses cx st cs).summary.removedFiles = st.summary.removedFiles ++ rm ∧
      ∀ p ∈ rm, ∃ c, (c, ClassResult.skipped) ∈ cs.zip ((outcomes cx st cs).map (·.1)) ∧ p = targetOf c := by
  induction cs generalizing st with
  | nil => exact ⟨[], by simp, by simp⟩
  | cons c cs ih =>
    obtain ⟨rm₁, hrm₁, hsum⟩ := (classStep_records cx st c).tally
    obtain ⟨rm₂, hfiles, hrm₂⟩ := ih (classStep cx st c).1
    refine ⟨(if (classStep cx st c).2.isSkipped then rm₁ else []) ++ rm₂, ?_, ?_⟩
    · rw [generateClasses_cons, hfiles, hsum, Summary.tally_removedFiles, List.append_assoc]
    · intro p hp
      rcases List.mem_append.1 hp with hp | hp
      · -- the stale file of this class
        have hp' : p ∈ rm₁ := by split at hp <;> simp_all
        obtain ⟨hskip, rfl⟩ := hrm₁ p hp'
        exact ⟨c, by simp [outcomes, hskip], rfl⟩
      · obtain ⟨x, hx, rfl⟩ := hrm₂ p hp
        exact ⟨x, by simp [outcomes, hx], rfl⟩

/-- **The errors of a run** are those it started with, then those of each class's step in order. -/
theorem generateClasses_errors (st : RunState) (cs : List ClassInfo) :
    (generateClasses cx st cs).errors = st.errors ++ ((outcomes cx st cs).map (·.2)).flatten := by
  induction cs generalizing st with
  | nil => simp [outcomes]
  | cons c cs ih =>
    rw [generateClasses_cons, ih, ((classStep_records cx st c).drop_errors).1]
    simp [outcomes]

/-- **A class's step records one error for a failure and none otherwise.** -/
theorem outcomes_errors (st : RunState) (cs : List ClassInfo) :
    ∀ o ∈ outcomes cx st cs, o.2.length = if o.1.isError then 1 else 0 := by
  induction cs generalizing st with
  | nil => simp [outcomes]
  | cons c cs ih =>
    intro o ho
    simp only [outcomes, List.mem_cons] at ho
    rcases ho with rfl | ho
    · exact ((classStep_records cx st c).drop_errors).2
    · exact ih _ o ho

end Runs

/-! ### Runs that reach their classes -/

/-- **The classes read from package directories**, in order; a directory that cannot be read gives
none. -/
def classesRead (disk : Disk) (m : Module.GoModule) (dirs : List String) : List ClassInfo :=
  dirs.flatMap fun dir =>
    match parsePackage disk m dir with
    | .ok p => p.classes
    | .error _ => []

/-- **The failures of reading package directories**: one for each directory that cannot be read,
in order. -/
def packageFailures (disk : Disk) (m : Module.GoModule) (dirs : List String) : List Error :=
  dirs.filterMap fun dir =>
    match parsePackage disk m dir with
    | .ok _ => none
    | .error e => some (asRecorded e)

/-- Reading one more package directory adds its classes, or its failure. -/
theorem parsePackages_snoc (disk : Disk) (m : Module.GoModule) (dirs : List String) (dir : String)
    (diag : Diagnostics) :
    (parsePackages disk m (dirs ++ [dir]) diag).1 = (parsePackages disk m dirs diag).1 ++ classesRead disk m [dir] ∧
    (parsePackages disk m (dirs ++ [dir]) diag).2.1 =
      (parsePackages disk m dirs diag).2.1 ++ packageFailures disk m [dir] := by
  unfold parsePackages
  rw [List.foldl_append]
  simp only [List.foldl_cons, List.foldl_nil]
  cases h : parsePackage disk m dir <;> simp [classesRead, packageFailures, h]

/-- **Reading package directories** gives the classes read from them and their failures. -/
theorem parsePackages_eq (disk : Disk) (m : Module.GoModule) (dirs : List String) (diag : Diagnostics) :
    (parsePackages disk m dirs diag).1 = classesRead disk m dirs ∧
      (parsePackages disk m dirs diag).2.1 = packageFailures disk m dirs := by
  induction dirs using List.reverseRecOn with
  | nil => exact ⟨rfl, rfl⟩
  | append_singleton dirs dir ih =>
    rw [(parsePackages_snoc disk m dirs dir diag).1, (parsePackages_snoc disk m dirs dir diag).2, ih.1, ih.2]
    simp [classesRead, packageFailures]

/-- **A run that passes its configuration, scan and module resolution** generates the classes of
the package directories it found, from the tree its generated files directory was made in. -/
theorem run_eq_generateAll {cfg : Config} {setup : Setup} {disk d₁ : Disk} {diag : Diagnostics}
    {first : String} {rest : List String} {m : Module.GoModule}
    (hv : cfg.validate = none) (hd : disk.mkdirAll cfg.generatedDir = .ok d₁)
    (hs : PackageDirs.scan d₁ cfg.directories = .ok (first :: rest))
    (hm : Module.resolve d₁ cfg.module (if setup.workingDir.isEmpty then first else setup.workingDir) = .ok m) :
    ∃ diag', run cfg setup disk diag = generateAll cfg setup d₁ diag' m (first :: rest) := by
  unfold run
  rw [hv]
  simp only [hd, hs, hm]
  exact ⟨_, rfl⟩

/-- **The outcome of generating the classes read**: the summary of the run of those classes from
the count of packages and classes, and the errors of the packages and of that run. -/
theorem generateAll_eq (cfg : Config) (setup : Setup) (disk : Disk) (diag : Diagnostics) (m : Module.GoModule)
    (dirs : List String) :
    ∃ cx st, st.summary = { runId := setup.runId, packages := dirs.length, scanned := (classesRead disk m dirs).length } ∧
      st.errors = packageFailures disk m dirs ∧
      (generateAll cfg setup disk diag m dirs).summary = (generateClasses cx st (classesRead disk m dirs)).summary.sorted ∧
      (generateAll cfg setup disk diag m dirs).error =
        if (generateClasses cx st (classesRead disk m dirs)).errors.isEmpty then none
        else some (.multiple (generateClasses cx st (classesRead disk m dirs)).errors) := by
  have hcs : ∀ d, (parsePackages disk m dirs d).1 = classesRead disk m dirs := fun d =>
    (parsePackages_eq disk m dirs d).1
  have hes : ∀ d, (parsePackages disk m dirs d).2.1 = packageFailures disk m dirs := fun d =>
    (parsePackages_eq disk m dirs d).2
  simp only [generateAll, hcs, hes]
  exact ⟨_, _, rfl, rfl, rfl, rfl⟩

/-! ### The accounting of a run -/

namespace Summary

variable (s : Summary)

@[simp] theorem sorted_scanned : s.sorted.scanned = s.scanned := rfl
@[simp] theorem sorted_generated : s.sorted.generated = s.generated := rfl
@[simp] theorem sorted_skipped : s.sorted.skipped = s.skipped := rfl
@[simp] theorem sorted_failed : s.sorted.failed = s.failed := rfl

@[simp] theorem sorted_generatedFiles_length : s.sorted.generatedFiles.length = s.generatedFiles.length :=
  List.length_mergeSort _

@[simp] theorem mem_sorted_removedFiles {p : String} : p ∈ s.sorted.removedFiles ↔ p ∈ s.removedFiles :=
  List.mem_mergeSort

end Summary

/-- **A run accounts for the classes it read**, given what became of each, in order, with the
errors its step recorded (`outcomes`), and the failures of the package directories it could not
read:

* each counter counts the classes of its kind, and with the classes whose skip failed they add up
  to the classes read;
* there is one generated file per generated class, and only stale files of skipped classes are
  listed as removed;
* a class's step records one error when it fails and none otherwise;
* the run fails exactly when a package or a class failed, with the failures of the packages and
  then those of the classes, in order. -/
structure Accounts (o : Outcome) (classes : List ClassInfo) (failures : List Error)
    (outcomes : List (ClassResult × List Error)) : Prop where
  scanned : o.summary.scanned = classes.length
  length : outcomes.length = classes.length
  generated : o.summary.generated = outcomes.countP (·.1.isGenerated)
  skipped : o.summary.skipped = outcomes.countP (·.1.isSkipped)
  failed : o.summary.failed = outcomes.countP (·.1.isFailed)
  counted : o.summary.generated + o.summary.skipped + o.summary.failed +
    outcomes.countP (·.1 = .skipFailed) = o.summary.scanned
  generatedFiles : o.summary.generatedFiles.length = o.summary.generated
  removedFiles : ∀ p ∈ o.summary.removedFiles,
    ∃ c, (c, ClassResult.skipped) ∈ classes.zip (outcomes.map (·.1)) ∧ p = targetOf c
  errors : ∀ x ∈ outcomes, x.2.length = if x.1.isError then 1 else 0
  error : o.error = if failures.isEmpty && outcomes.all (fun x => !x.1.isError) then none
    else some (.multiple (failures ++ (outcomes.map (·.2)).flatten))

/-- The counters of results of each kind add up to the results. -/
theorem countP_kinds (xs : List (ClassResult × List Error)) :
    xs.countP (·.1.isGenerated) + xs.countP (·.1.isSkipped) + xs.countP (·.1.isFailed) +
      xs.countP (·.1 = .skipFailed) = xs.length := by
  induction xs with
  | nil => rfl
  | cons x xs ih =>
    have hx := ClassResult.kinds_sum x.1
    simp only [List.countP_cons, List.length_cons, decide_eq_true_eq] at hx ⊢
    omega

/-- Steps that record one error for each failure recorded none exactly when none failed. -/
theorem flatten_eq_nil_iff {xs : List (ClassResult × List Error)}
    (h : ∀ x ∈ xs, x.2.length = if x.1.isError then 1 else 0) :
    (xs.map (·.2)).flatten = [] ↔ xs.all (fun x => !x.1.isError) := by
  simp only [List.flatten_eq_nil_iff, List.mem_map, List.all_eq_true, Bool.not_eq_eq_eq_not,
    Bool.not_true, forall_exists_index, and_imp]
  constructor
  · intro hn x hx
    have hlen := h x hx
    rw [hn x.2 x hx rfl] at hlen
    cases he : x.1.isError <;> simp_all
  · intro hn l x hx hl
    have hlen := h x hx
    rw [hn x hx] at hlen
    rw [← hl]
    exact List.eq_nil_of_length_eq_zero (by simpa using hlen)

/-- **Generating the classes read accounts for them.** -/
theorem generateAll_accounts (cfg : Config) (setup : Setup) (disk : Disk) (diag : Diagnostics)
    (m : Module.GoModule) (dirs : List String) :
    ∃ outcomes, Accounts (generateAll cfg setup disk diag m dirs) (classesRead disk m dirs)
      (packageFailures disk m dirs) outcomes := by
  obtain ⟨cx, st, hstart, herrs, hsummary, herror⟩ := generateAll_eq cfg setup disk diag m dirs
  set cs := classesRead disk m dirs
  have hcount := fun (f : Summary → Nat) (P : ClassResult → Bool) hf =>
    generateClasses_counter cx f P hf st cs
  have hgen := hcount Summary.generated ClassResult.isGenerated (by simp)
  have hskip := hcount Summary.skipped ClassResult.isSkipped (by simp)
  have hfail := hcount Summary.failed ClassResult.isFailed (by simp)
  have hfiles := hcount (·.generatedFiles.length) ClassResult.isGenerated (by simp)
  have hscan := generateClasses_scanned cx st cs
  have hkinds := countP_kinds (outcomes cx st cs)
  have hlen := outcomes_length cx st cs
  have herrs' := outcomes_errors cx st cs
  simp only [hstart] at hgen hskip hfail hfiles hscan
  refine ⟨outcomes cx st cs, ⟨?_, hlen, ?_, ?_, ?_, ?_, ?_, ?_, herrs', ?_⟩⟩
  · simp [hsummary, hscan]
  · simp [hsummary, hgen]
  · simp [hsummary, hskip]
  · simp [hsummary, hfail]
  · simp only [hsummary, Summary.sorted_generated, Summary.sorted_skipped, Summary.sorted_failed,
      Summary.sorted_scanned, hgen, hskip, hfail, hscan]
    omega
  · simp [hsummary, hfiles, hgen]
  · -- the run started with no removed file
    intro p hp
    obtain ⟨rm, hrm, hmem⟩ := generateClasses_removedFiles cx st cs
    rw [hsummary, Summary.mem_sorted_removedFiles, hrm, hstart] at hp
    exact hmem p (by simpa using hp)
  · rw [herror, generateClasses_errors, herrs]
    have hnil := flatten_eq_nil_iff herrs'
    by_cases hf : (packageFailures disk m dirs).isEmpty && (outcomes cx st cs).all (fun x => !x.1.isError)
    · obtain ⟨hpf, hall⟩ := Bool.and_eq_true_iff.1 hf
      rw [if_pos hf, if_pos (by simp [List.isEmpty_iff.1 hpf, hnil.2 hall])]
    · rw [if_neg hf, if_neg]
      intro he
      obtain ⟨hpf, hfl⟩ := List.append_eq_nil_iff.1 (List.isEmpty_iff.1 he)
      exact hf (by simp [hpf, hnil.1 hfl])

/-- **A run that passes its configuration, scan and module resolution accounts for every class it
read**: generated, skipped and failed classes, with those whose skip could not remove their stale
file or entry, add up to the classes read; it lists one generated file per generated class and only
stale files of skipped classes; and it fails exactly when a package or a class failed, with one
error for each failed package and then one for each failed class, in order. -/
theorem run_accounts {cfg : Config} {setup : Setup} {disk d₁ : Disk} {diag : Diagnostics}
    {first : String} {rest : List String} {m : Module.GoModule}
    (hv : cfg.validate = none) (hd : disk.mkdirAll cfg.generatedDir = .ok d₁)
    (hs : PackageDirs.scan d₁ cfg.directories = .ok (first :: rest))
    (hm : Module.resolve d₁ cfg.module (if setup.workingDir.isEmpty then first else setup.workingDir) = .ok m) :
    ∃ outcomes, Accounts (run cfg setup disk diag) (classesRead d₁ m (first :: rest))
      (packageFailures d₁ m (first :: rest)) outcomes := by
  obtain ⟨diag', hrun⟩ := run_eq_generateAll hv hd hs hm
  rw [hrun]
  exact generateAll_accounts cfg setup d₁ diag' m (first :: rest)

/-- A configuration reading the package `models`, with the default directory of generated
files. -/
def staleConfig : Config :=
  { Config.standard with directories := ["models"], methodMap := some [("Get", "get")] }

/-- A module with one undocumented class, where a directory stands at the path of its file: a
run skips the class and cannot remove its stale file. -/
def staleDisk : Disk :=
  ⟨"/work", [("go.mod", .file "module example.com/app\n\ngo 1.22\n"), ("models", .dir),
    ("models/a.go", .file "package models\n\ntype Article struct \x7b\n\ttitle string\n\x7d\n"),
    ("models/zz_generated.article.accessors.go", .dir),
    ("models/zz_generated.article.accessors.go/keep", .file "x\n"), (".accessorgen", .dir)]⟩

theorem run_accounts_stale_directory :
    ∃ outcomes, Accounts (run staleConfig ⟨"run-1", Time.zero, ""⟩ staleDisk ⟨0, "", 0, "", ""⟩)
      (classesRead staleDisk sampleModule ["/work/models"])
      (packageFailures staleDisk sampleModule ["/work/models"]) outcomes :=
  run_accounts
    (by simp [Config.validate, staleConfig, Config.standard, List.mergeSort_singleton]; decide)
    (Disk.mkdirAll_existing (by decide +kernel))
    (Except.eq_ok_of_toOption (by decide +kernel))
    (Except.eq_ok_of_toOption (by decide +kernel))

end Accessors.Generation
