import Accessors.Proofs.Generation.Pruning
import Accessors.Proofs.Generation.Isolation
import Accessors.Proofs.PackageDirs

/-!
# What a clean leaves

A clean scans the package directories of its patterns, removes the generated accessor files
directly in each of them, and then prunes the class map (`cleanWith`). Take a tree keyed by
cleaned relative paths, with a cleaned absolute working directory and nothing at the map's
temporary file, and a store that reads back what it writes. A clean of it that succeeds
(`cleanWith_removes_generated`):

* leaves no generated accessor file directly in any directory a pattern names: the root of a
  plain pattern, and for a pattern ending in `/...` the root and the entered directories below it
  that hold a hand-written Go file;
* lists as removed exactly the files it removed;
* when after the removals the map exists and the module resolves, keeps exactly the entries whose
  module-relative path names something that exists, and lists the classes of the others in class
  order.

The scan names a directory below a `/...` root only when it holds a hand-written Go file. A
directory left with generated files alone is no package directory, and a clean leaves its files
(`clean_keeps_orphaned_generated`).
-/

namespace Accessors.Disk

variable {d : Disk} {ks : List String} {p : String}

theorem entry?_eraseKeys_of_none (h : d.entry? p = none) : entry? (d.eraseKeys ks) p = none := by
  cases he : entry? (d.eraseKeys ks) p with
  | none => rfl
  | some e =>
    rw [entry?_of_eraseKeys he] at h
    cases h

/-- Nothing at a path has no status. -/
theorem stat_isSome_eq_false (h : d.entry? p = none) : (d.stat p).toOption.isSome = false := by
  unfold stat lookupAs
  cases d.blocked? p <;> simp [h, Except.toOption]

end Accessors.Disk

namespace Accessors.Generation

open ClassMap Disk

variable {store : Store} {V : Entry → Prop} {cfg : Config} {d₀ : Disk} {diag : Diagnostics}

/-- A clean that succeeds scanned its patterns, removed the generated files of every directory
found without an error, and then pruned the class map. -/
theorem cleanWith_eq_ok (hok : (cleanWith store cfg d₀ diag).error = none) :
    ∃ dirs d₁ diag₁ s₁, PackageDirs.scan d₀ cfg.directories = .ok dirs ∧
      removeGenerated dirs d₀ diag {} = (d₁, diag₁, s₁, none) ∧
      cleanWith store cfg d₀ diag = pruneClassMap store cfg dirs d₁ diag₁ s₁ := by
  unfold cleanWith at hok ⊢
  cases hscan : PackageDirs.scan d₀ cfg.directories with
  | error e =>
    rw [hscan] at hok
    cases hok
  | ok dirs =>
    rcases hrem : removeGenerated dirs d₀ diag {} with ⟨d₁, diag₁, s₁, _ | e⟩
    · exact ⟨dirs, d₁, diag₁, s₁, rfl, hrem, by simp only [hrem]⟩
    · simp [hscan, hrem] at hok

/-- **What a clean that succeeds leaves**, on a keyed tree whose working directory is a cleaned
absolute path, with a store that reads back and nothing at its temporary file: no generated file
directly in a directory a pattern names; the files gone are those listed as removed; and, when
after the removals the map exists and the module resolves, the map keeps of each class's entry
exactly what names something that exists, the classes of the others listed as removed in class
order. -/
theorem cleanWith_removes_generated (hroot : d₀.CleanRoot) (hk : d₀.Keyed)
    (hr : store.ReadsBack V) (hready : store.Ready V d₀) (htemp : d₀.entry? store.tempName = none)
    (hok : (cleanWith store cfg d₀ diag).error = none) :
    (∀ p ∈ (if cfg.directories.isEmpty then ["./..."] else cfg.directories),
      ∀ x ∈ PackageDirs.named d₀ p, ∀ n t, '/' ∉ n.toList → PackageDirs.isGeneratedName n = true →
        (cleanWith store cfg d₀ diag).disk.entry? (joinPath [d₀.absPath (cleanPath x), n]) ≠
          some (.file t)) ∧
    (∀ f ∈ (cleanWith store cfg d₀ diag).summary.removedFiles,
      (∃ t, d₀.entry? f = some (.file t)) ∧ (cleanWith store cfg d₀ diag).disk.entry? f = none) ∧
    (∀ p t, d₀.entry? p = some (.file t) → (cleanWith store cfg d₀ diag).disk.entry? p = none →
      ∃ f ∈ (cleanWith store cfg d₀ diag).summary.removedFiles, d₀.key f = d₀.key p) ∧
    ∀ dirs d₁ diag₁ s₁ m, PackageDirs.scan d₀ cfg.directories = .ok dirs →
      removeGenerated dirs d₀ diag {} = (d₁, diag₁, s₁, none) →
      (d₁.stat store.path).toOption.isSome = true →
      Module.resolve d₁ cfg.module (dirs.headD "") = .ok m →
      ∃ es, store.snapshot d₁ = .ok es ∧
        (∀ n, store.lookup (cleanWith store cfg d₀ diag).disk n = (store.lookup d₁ n).filter fun e =>
          ((cleanWith store cfg d₀ diag).disk.stat (joinPath [m.dir, e.path])).toOption.isSome) ∧
        (cleanWith store cfg d₀ diag).summary.removedEntries = (es.filter fun e =>
          !((cleanWith store cfg d₀ diag).disk.stat (joinPath [m.dir, e.path])).toOption.isSome).map
            (·.name) := by
  set out := cleanWith store cfg d₀ diag
  obtain ⟨dirs, d₁, diag₁, s₁, hscan, hrem, hclean⟩ := cleanWith_eq_ok hok
  obtain ⟨rel, hdirs, hnamed⟩ := PackageDirs.scan_eq_ok hscan
  have habs : ∀ dir ∈ dirs, ∃ x, dir = d₀.absPath x := by
    intro dir hdir
    rw [hdirs] at hdir
    obtain ⟨x, -, rfl⟩ := List.mem_map.1 hdir
    exact ⟨x, rfl⟩
  obtain ⟨gs, rfl, rfl, hgs, hno⟩ := removeGenerated_spec hk hroot habs hrem
  -- the removed files are gone from the tree the pruning starts on
  have hgone : ∀ g ∈ gs, Disk.entry? (d₀.eraseKeys (gs.map d₀.key)) g = none := by
    intro g hg
    obtain ⟨t, hmem⟩ := hgs g hg
    exact entry?_eraseKeys_of_mem (List.mem_map_of_mem hg) (hk.not_fixedKey hmem)
  obtain ⟨hkinds, hfiles, hmap⟩ := pruneClassMap_spec hr hready.eraseKeys
    (entry?_eraseKeys_of_none htemp) hclean.symm hok
  refine ⟨?_, ?_, ?_, ?_⟩
  · -- a file left in a named directory would be one the removals left
    intro p hp x hx n t hs hg he
    obtain ⟨ps, hps, hpath⟩ := absPath_eq_absOf hroot (cleanPath x)
    have hdir : absOf ps ∈ dirs := by
      rw [hdirs, ← hpath]
      exact List.mem_map_of_mem (hnamed p hp x hx)
    rw [hpath] at he
    obtain ⟨t', ht'⟩ := hkinds.symm.exists_file he
    exact entry?_joinPath_ne_file (hk.eraseKeys _) hroot hps (hno _ hdir)
      (plain_of_isGeneratedName hg hs) hg t' ht'
  · intro f hf
    rw [hfiles] at hf
    obtain ⟨t, hmem⟩ := hgs f hf
    exact ⟨⟨t, hk.entry?_eq hmem⟩, hkinds.entry?_eq_none_iff.2 (hgone f hf)⟩
  · intro p t hp hnone
    have h₁ := hkinds.entry?_eq_none_iff.1 hnone
    by_cases hkey : d₀.key p ∈ gs.map d₀.key
    · obtain ⟨f, hf, hfp⟩ := List.mem_map.1 hkey
      exact ⟨f, by rw [hfiles]; exact hf, hfp⟩
    · rw [entry?_eraseKeys_of_not_mem hkey, hp] at h₁
      cases h₁
  · intro dirs' d₁' diag₁' s₁' m hscan' hrem' hstat hres
    rw [hscan] at hscan'
    cases hscan'
    rw [hrem] at hrem'
    cases hrem'
    obtain ⟨es, hsnap, hlook, hrm⟩ := hmap m hstat hres
    dsimp only at hlook hrm
    -- a removed file no longer exists, so the pruning's test is whether the file exists at the end
    have hkeep : keepsEntry gs (d₀.eraseKeys (gs.map d₀.key)) m =
        fun e => (out.disk.stat (joinPath [m.dir, e.path])).toOption.isSome := by
      funext e
      unfold keepsEntry
      rw [hkinds.stat_isSome_eq]
      by_cases hmem : joinPath [m.dir, e.path] ∈ gs
      · simp [hmem, stat_isSome_eq_false (hgone _ hmem)]
      · simp [hmem]
    refine ⟨es, hsnap, fun n => by rw [hlook, hkeep], ?_⟩
    rw [hrm, hkeep, List.nil_append]

/-! ### Files a clean leaves -/

/-- A module whose directory `models` holds a generated accessor file and no hand-written one. -/
def orphanTree : Disk :=
  ⟨"/work", [("go.mod", .file "module example.com/app\n\ngo 1.22\n"), ("models", .dir),
    ("models/zz_generated.a.accessors.go", .file "package models\n")]⟩

/-- **A directory with generated files but no hand-written one is not cleaned**: a clean of the
standard pattern `./...` succeeds and leaves the generated file of `models`, though `models` lies
below the root `.` and is entered. -/
theorem clean_keeps_orphaned_generated :
    PackageDirs.entered "models" = true ∧
    PackageDirs.isGeneratedName "zz_generated.a.accessors.go" = true ∧
    (clean Config.standard orphanTree (Diagnostics.quiet "")).error = none ∧
    (clean Config.standard orphanTree (Diagnostics.quiet "")).disk.entry?
      "models/zz_generated.a.accessors.go" = some (.file "package models\n") := by
  -- neither directory holds a hand-written Go file, so the walk from `.` finds none
  have hroot : PackageDirs.hasSourceFiles orphanTree "." = false := by
    simp only [PackageDirs.hasSourceFiles, Disk.children]
    rw [(List.mergeSort_perm _ _).any_eq]
    decide +kernel
  have hwalk : PackageDirs.walk orphanTree "." = [] := by
    rw [PackageDirs.walk, List.filter_cons, hroot]
    decide +kernel
  have hscan : PackageDirs.scan orphanTree Config.standard.directories = .ok [] := by
    have hstat : orphanTree.stat (PackageDirs.rootOf "./...").1 = .ok .dir :=
      Except.eq_ok_of_toOption (by decide +kernel)
    have hnamed : PackageDirs.named orphanTree "./..." = [] := by
      have hr : PackageDirs.rootOf "./..." = (".", true) := by decide +kernel
      simp [PackageDirs.named, hr, hwalk]
    simp only [PackageDirs.scan, PackageDirs.expand, Config.standard, List.isEmpty_cons,
      Bool.false_eq_true, ↓reduceIte, PackageDirs.foldlM_expandOne [] ["./..."] (by simpa using hstat)]
    simp [hnamed, bind, Except.bind, pure, Except.pure]
  refine ⟨by decide +kernel, by decide +kernel, ?_⟩
  simp only [clean, cleanWith, hscan]
  decide +kernel

/-! ### A clean that drops an entry -/

/-- The one entry of the sample class map: the sample run's article, whose file is the generated
file of `models`. -/
def modelsEntry : Entry := sampleEntry untypedArticle

/-- The class map of the sample clean, kept in YAML in `.accessorgen` as the sample run's is. -/
def modelsStore : Store := Store.inDir ".accessorgen"

/-- The tree the sample clean starts from: the generated file of `models`, and a class map whose
one entry is `modelsEntry`. -/
def modelsTree : Disk :=
  ⟨"/work", [("go.mod", .file "module example.com/app\n\ngo 1.22\n"), ("models", .dir),
    ("models/zz_generated.article.accessors.go", .file "package models\n"), (".accessorgen", .dir),
    (".accessorgen/_classMap.yaml", .file
      "entries:\n  example.com/app/models.Article:\n    generatedAt: \"0001-01-01T00:00:00Z\"\n    path: ../models/zz_generated.article.accessors.go\n    runId: run-1\nversion: \"1.0\"\n")]⟩

/-- The configuration naming the directory `models` alone. -/
def modelsConfig : Config := { Config.standard with directories := ["models"] }

/-- A clean of `models` succeeds and leaves no generated file there. -/
theorem cleanWith_removes_generated_models :
    (cleanWith modelsStore modelsConfig modelsTree (Diagnostics.quiet "")).error = none ∧
    ∀ t, (cleanWith modelsStore modelsConfig modelsTree (Diagnostics.quiet "")).disk.entry?
      (joinPath [modelsTree.absPath (cleanPath "models"), "zz_generated.article.accessors.go"]) ≠
        some (.file t) := by
  have hok : (cleanWith modelsStore modelsConfig modelsTree (Diagnostics.quiet "")).error = none := by
    decide +kernel
  have hload : modelsStore.load modelsTree = .ok [modelsEntry] :=
    Except.eq_ok_of_toOption (by decide +kernel)
  have hready : modelsStore.Ready (· ∈ [modelsEntry]) modelsTree :=
    ⟨by decide +kernel, by decide +kernel, fun es hl => by rw [hload] at hl; cases hl; simp⟩
  obtain ⟨hgen, -, -, -⟩ := cleanWith_removes_generated ⟨by decide +kernel, by decide +kernel⟩
    (Keyed.of_splitOn (by decide +kernel) (by decide +kernel))
    (sample_readsBack.mono fun e he => List.mem_cons.2 (.inl (List.mem_singleton.1 he))) hready
    (by decide +kernel) hok
  exact ⟨hok, fun t => hgen "models" (by simp [modelsConfig]) "models" (by decide +kernel) _ t
    (by decide +kernel) (by decide +kernel)⟩

end Accessors.Generation
