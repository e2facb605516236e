import Accessors.Proofs.Generation.Step
import Accessors.Proofs.Synthesis.Steps
import Accessors.Proofs.ClassMap.YamlStore
import Mathlib.Data.List.Perm.Basic

/-!
# The classes of a run, one after another

A run generates its classes in order, each from the tree the one before left
(`generateClasses`). What one class's step does (`Accessors.Proofs.Generation.Step`) carries over
to the end of the run when the classes keep out of each other's way: their files are distinct
paths apart from the class map, their names are distinct, and the class map's store is ready and
reads back what it writes (`Layout`).

* `generateClasses_changedAt`: a run changes the tree only at its classes' files and the class
  map's files; `generateClasses_lookup_of_not_mem`: it changes no entry of a class it does not
  generate.
* `generateClasses_settles`: at the end of the run, a class counted as generated has the
  rendering of its synthesis in its file and its entry of this run, and a class counted as
  skipped has no readable file and no entry; no class's step touches another class's file.
* `generateClasses_isolates_failure`: a class that fails before its file is written leaves the
  file as it was before the run and no entry; its failure changes no other class's file or entry,
  and the run goes on with the classes after it.

The distinct files are a condition: type names that differ only in case share a file
(`Render.fileNameFor` lowers the name), and then a later class's step can remove what an earlier
one generated.
-/

namespace Accessors.Generation

open ClassMap

/-! ### Runs of classes -/

@[simp] theorem generateClasses_nil (cx : ClassContext) (st : RunState) : generateClasses cx st [] = st := rfl

theorem generateClasses_cons (cx : ClassContext) (st : RunState) (c : ClassInfo) (cs : List ClassInfo) :
    generateClasses cx st (c :: cs) = generateClasses cx (classStep cx st c).1 cs := rfl

theorem generateClasses_append (cx : ClassContext) (st : RunState) (xs ys : List ClassInfo) :
    generateClasses cx st (xs ++ ys) = generateClasses cx (generateClasses cx st xs) ys :=
  List.foldl_append

/-- The state a class's step starts from and the one the rest of the run starts from. -/
theorem generateClasses_append_cons (cx : ClassContext) (st : RunState) (pre post : List ClassInfo)
    (c : ClassInfo) :
    generateClasses cx st (pre ++ c :: post) =
      generateClasses cx (classStep cx (generateClasses cx st pre) c).1 post := by
  rw [generateClasses_append, generateClasses_cons]

/-- **A run changes the tree only at its classes' files and the class map's files.** -/
theorem generateClasses_changedAt (cx : ClassContext) (st : RunState) (cs : List ClassInfo) :
    Disk.ChangedAt st.disk (generateClasses cx st cs).disk
      (cs.map (fun c => st.disk.key (targetOf c)) ++ [st.disk.key cx.store.tempName, st.disk.key cx.store.path]) := by
  induction cs generalizing st with
  | nil => exact .refl _ _
  | cons c cs ih =>
    have h₁ := classStep_changedAt cx st c
    rw [generateClasses_cons]
    refine (h₁.mono ?_).trans ((ih (classStep cx st c).1).mono ?_)
    · simp [stepKeys]
    · simp only [h₁.key_eq, List.map_cons, List.cons_append]
      exact fun k hk => List.mem_cons_of_mem _ hk

section Runs

variable {cx : ClassContext} {V : Entry → Prop} (hr : cx.store.ReadsBack V)
include hr

/-- A run keeps the class map's store ready. -/
theorem generateClasses_ready {st : RunState} {cs : List ClassInfo} (hready : cx.store.Ready V st.disk)
    (hv : ∀ c ∈ cs, V (cx.entryOf c)) (hapart : ∀ c ∈ cs, cx.store.Apart st.disk (targetOf c)) :
    cx.store.Ready V (generateClasses cx st cs).disk := by
  induction cs generalizing st with
  | nil => exact hready
  | cons c cs ih =>
    have hch := classStep_changedAt cx st c
    rw [generateClasses_cons]
    refine ih (classStep_ready hr hready (hapart c (by simp)) (hv c (by simp)))
      (fun d hd => hv d (by simp [hd])) (fun d hd => (hapart d (by simp [hd])).changedAt hch)

/-- **A run changes no entry but those of its classes.** -/
theorem generateClasses_lookup_of_not_mem {st : RunState} {cs : List ClassInfo}
    (hready : cx.store.Ready V st.disk) (hv : ∀ c ∈ cs, V (cx.entryOf c))
    (hapart : ∀ c ∈ cs, cx.store.Apart st.disk (targetOf c)) {n : String} (hn : n ∉ cs.map (·.name)) :
    cx.store.lookup (generateClasses cx st cs).disk n = cx.store.lookup st.disk n := by
  induction cs generalizing st with
  | nil => rfl
  | cons c cs ih =>
    have hch := classStep_changedAt cx st c
    have hnc : n ≠ c.name := fun h => hn (by simp [h])
    rw [generateClasses_cons, ih (classStep_ready hr hready (hapart c (by simp)) (hv c (by simp)))
      (fun d hd => hv d (by simp [hd])) (fun d hd => (hapart d (by simp [hd])).changedAt hch)
      (fun h => hn (by simp [h]))]
    exact classStep_lookup_of_ne hr hready (hapart c (by simp)) (hv c (by simp)) hnc

end Runs

/-! ### Classes that keep out of each other's way -/

/-- **The layout a run's guarantees rest on**: the classes' files are distinct paths, apart from
the class map; their names are distinct; the class map's store is ready and reads back maps of
entries of `V`, among them the entry of every class. -/
structure Layout (cx : ClassContext) (V : Entry → Prop) (d : Disk) (classes : List ClassInfo) : Prop where
  targets_nodup : (classes.map fun c => d.key (targetOf c)).Nodup
  names_nodup : (classes.map (·.name)).Nodup
  apart : ∀ c ∈ classes, cx.store.Apart d (targetOf c)
  readsBack : cx.store.ReadsBack V
  ready : cx.store.Ready V d
  entries : ∀ c ∈ classes, V (cx.entryOf c)

namespace Layout

variable {cx : ClassContext} {V : Entry → Prop} {d : Disk} {pre post : List ClassInfo} {c : ClassInfo}

theorem of_sublist {xs ys : List ClassInfo} (h : Layout cx V d ys) (hs : xs.Sublist ys) : Layout cx V d xs :=
  ⟨(hs.map _).nodup h.targets_nodup, (hs.map _).nodup h.names_nodup, fun c hc => h.apart c (hs.subset hc),
    h.readsBack, h.ready, fun c hc => h.entries c (hs.subset hc)⟩

/-- In a run whose classes differ in `f`, every other class differs from a class in `f`. -/
theorem ne_of_nodup {f : ClassInfo → String} (hn : ((pre ++ c :: post).map f).Nodup) {x : ClassInfo}
    (hx : x ∈ pre ++ post) : f x ≠ f c := by
  simp only [List.map_append, List.map_cons] at hn
  rcases List.mem_append.1 hx with hx | hx
  · exact fun he => (List.nodup_append.1 hn).2.2 _ (List.mem_map_of_mem hx) _ List.mem_cons_self he
  · exact fun he => (List.nodup_cons.1 (List.nodup_append.1 hn).2.1).1 (he ▸ List.mem_map_of_mem hx)

/-- Another class of the run has another file. -/
theorem key_ne (h : Layout cx V d (pre ++ c :: post)) {x : ClassInfo} (hx : x ∈ pre ++ post) :
    d.key (targetOf x) ≠ d.key (targetOf c) :=
  ne_of_nodup h.targets_nodup hx

/-- Another class of the run has another name. -/
theorem name_ne (h : Layout cx V d (pre ++ c :: post)) {x : ClassInfo} (hx : x ∈ pre ++ post) :
    x.name ≠ c.name :=
  ne_of_nodup h.names_nodup hx

/-- A class's file is none of the files of the other classes nor the class map's. -/
theorem key_not_mem_run (h : Layout cx V d (pre ++ c :: post)) {xs : List ClassInfo}
    (hxs : ∀ x ∈ xs, x ∈ pre ++ post) :
    d.key (targetOf c) ∉ xs.map (fun x => d.key (targetOf x)) ++ [d.key cx.store.tempName, d.key cx.store.path] := by
  have hap := h.apart c (by simp)
  intro hk
  rcases List.mem_append.1 hk with hk | hk
  · obtain ⟨x, hx, he⟩ := List.mem_map.1 hk
    exact h.key_ne (hxs x hx) he
  · simp [hap.1, hap.2.1] at hk

/-- The classes after a class have other names. -/
theorem name_not_mem_post (h : Layout cx V d (pre ++ c :: post)) : c.name ∉ post.map (·.name) := by
  have hn := h.names_nodup
  simp only [List.map_append, List.map_cons] at hn
  exact (List.nodup_cons.1 (List.nodup_append.1 hn).2.1).1

end Layout

/-! ### The run seen from one class -/

section OneClass

variable {cx : ClassContext} {V : Entry → Prop} {st : RunState} {pre post : List ClassInfo} {c : ClassInfo}
  (hl : Layout cx V st.disk (pre ++ c :: post))
include hl

/-- The tree a class's step starts from: the store is ready, the class's file is apart from the
class map, and the file is as it was before the run. -/
theorem Layout.before :
    cx.store.Ready V (generateClasses cx st pre).disk ∧
      cx.store.Apart (generateClasses cx st pre).disk (targetOf c) ∧
      (generateClasses cx st pre).disk.entry? (targetOf c) = st.disk.entry? (targetOf c) := by
  have hpre := hl.of_sublist (List.sublist_append_left pre (c :: post))
  have hch := generateClasses_changedAt cx st pre
  exact ⟨generateClasses_ready hl.readsBack hl.ready hpre.entries hpre.apart,
    (hl.apart c (by simp)).changedAt hch,
    hch.entry?_eq _ (hl.key_not_mem_run fun x hx => List.mem_append_left post hx)⟩

/-- The rest of the run after a class's step leaves the class's file and entry, and what could
not be read at the file still cannot. -/
theorem Layout.after {after : RunState} (hafter : after = (classStep cx (generateClasses cx st pre) c).1)
    (hready : cx.store.Ready V after.disk) :
    (generateClasses cx st (pre ++ c :: post)).disk.entry? (targetOf c) = after.disk.entry? (targetOf c) ∧
      ((∀ t, after.disk.fileText (targetOf c) ≠ .ok t) →
        ∀ t, (generateClasses cx st (pre ++ c :: post)).disk.fileText (targetOf c) ≠ .ok t) ∧
      cx.store.lookup (generateClasses cx st (pre ++ c :: post)).disk c.name = cx.store.lookup after.disk c.name := by
  have hto := (generateClasses_changedAt cx st pre).append (classStep_changedAt cx (generateClasses cx st pre) c)
  rw [← hafter] at hto
  have hrest := generateClasses_changedAt cx after post
  -- the rest of the run changes the files of the classes after this one, and the class map's
  have hkeys : after.disk.key (targetOf c) ∉ post.map (fun x => after.disk.key (targetOf x)) ++
      [after.disk.key cx.store.tempName, after.disk.key cx.store.path] := by
    simp only [hto.key_eq]
    exact hl.key_not_mem_run fun x hx => List.mem_append_right pre hx
  have hpost := hl.of_sublist ((List.sublist_cons_self c post).trans (List.sublist_append_right pre _))
  rw [generateClasses_append_cons, ← hafter]
  exact ⟨hrest.entry?_eq _ hkeys, hrest.fileText_error hkeys,
    generateClasses_lookup_of_not_mem hl.readsBack hready hpost.entries
      (fun x hx => (hpost.apart x hx).changedAt hto) hl.name_not_mem_post⟩

/-- A class's step leaves the file of every other class of the run. -/
theorem Layout.step_leaves_others {x : ClassInfo} (hx : x ∈ pre ++ post) :
    (classStep cx (generateClasses cx st pre) c).1.disk.entry? (targetOf x) =
      (generateClasses cx st pre).disk.entry? (targetOf x) := by
  have hpre := generateClasses_changedAt cx st pre
  have hap := hl.apart x (List.mem_append.2 ((List.mem_append.1 hx).imp id (List.mem_cons_of_mem c)))
  apply (classStep_changedAt cx _ c).entry?_eq
  simp only [stepKeys, hpre.key_eq, List.mem_cons, List.not_mem_nil, or_false, not_or]
  exact ⟨hl.key_ne hx, hap.2.1, hap.1⟩

end OneClass

/-! ### A run of two classes -/

/-- The module of the sample run. -/
def sampleModule : Module.GoModule := ⟨"example.com/app", "/work"⟩

/-- A class whose documented property declares an accessor but no type: its synthesis fails. -/
def untypedArticle : ClassInfo :=
  ⟨"Article", "models", "example.com/app/models", "models/article.go", 3,
    [⟨"models.Article", "Title", "string", false, "@Get", "models/article.go", 5⟩], [], []⟩

/-- A class without documentation: it is skipped. -/
def plainComment : ClassInfo :=
  ⟨"Comment", "models", "example.com/app/models", "models/comment.go", 3,
    [⟨"models.Comment", "Body", "string", false, "", "models/comment.go", 5⟩], [], []⟩

/-- The entry the sample run would publish for a class. -/
def sampleEntry (c : ClassInfo) : Entry :=
  ⟨c.name, Disk.relPath sampleModule.dir (targetOf c), "run-1", Time.zero⟩

/-- **The class map of the sample run reads back** the maps of the entries it would publish for
its two classes: the five maps they make, written in YAML, read back as their entries. -/
theorem sample_readsBack :
    (Store.inDir ".accessorgen").ReadsBack (· ∈ [sampleEntry untypedArticle, sampleEntry plainComment]) :=
  .yaml_pair rfl (by decide +kernel)

/-- The sample run: its class map kept in YAML in `.accessorgen`. -/
def sampleContext : ClassContext :=
  { goModule := sampleModule,
    store := Store.inDir ".accessorgen",
    provider := ⟨Tag.defaultMethodTags, true⟩, templates := Render.TemplateSet.standard,
    runtime := Render.defaultRuntime, runId := "run-1", generatedAt := Time.zero }

/-- The tree the sample run starts from: the sources, and files both classes got from an earlier
run. -/
def sampleState : RunState :=
  { disk := ⟨"/work", [("models", .dir), ("models/article.go", .file "package models\n"),
      ("models/comment.go", .file "package models\n"),
      ("models/zz_generated.article.accessors.go", .file "// previous accessors\n"),
      ("models/zz_generated.comment.accessors.go", .file "// previous accessors\n"), (".accessorgen", .dir)]⟩,
    diag := ⟨0, "", 0, "", ""⟩, summary := { runId := "run-1" }, errors := [], cache := some Cache.empty }

theorem sample_layout :
    Layout sampleContext (· ∈ [sampleEntry untypedArticle, sampleEntry plainComment]) sampleState.disk
      [untypedArticle, plainComment] where
  targets_nodup := by decide +kernel
  names_nodup := by decide +kernel
  apart := by decide +kernel
  readsBack := sample_readsBack
  ready := by
    have hload : sampleContext.store.load sampleState.disk = .ok [] :=
      Except.eq_ok_of_toOption (by decide +kernel)
    exact ⟨by decide +kernel, by decide +kernel, fun es hl => by rw [hload] at hl; cases hl; simp⟩
  entries := fun c hc => by
    have hentry : sampleContext.entryOf c = sampleEntry c := rfl
    rw [hentry]
    simp only [List.mem_cons, List.not_mem_nil, or_false] at hc ⊢
    rcases hc with rfl | rfl <;> simp

/-! ### Generated, skipped and failed classes at the end of a run -/

section Claims

variable {cx : ClassContext} {V : Entry → Prop} {st : RunState} {pre post : List ClassInfo} {c : ClassInfo}

/-- **At the end of a run, a generated class has the rendering of its synthesis in its file and
its entry of this run, and a skipped class has neither a readable file nor an entry**; no class's
step touches another class's file. -/
theorem generateClasses_settles (hl : Layout cx V st.disk (pre ++ c :: post)) :
    (∀ x ∈ pre ++ post, (classStep cx (generateClasses cx st pre) c).1.disk.entry? (targetOf x) =
      (generateClasses cx st pre).disk.entry? (targetOf x)) ∧
    (∀ content, (classStep cx (generateClasses cx st pre) c).2 = .generated content →
      (∃ spec file, ((c.synthesize cx.provider).run' (generateClasses cx st pre).cache).1 = .ok spec ∧
        spec.render cx.templates cx.runtime c = .ok file ∧ file.content = content) ∧
      (generateClasses cx st (pre ++ c :: post)).disk.entry? (targetOf c) = some (.file content) ∧
      cx.store.lookup (generateClasses cx st (pre ++ c :: post)).disk c.name = some (cx.entryOf c)) ∧
    ((classStep cx (generateClasses cx st pre) c).2 = .skipped →
      (∀ t, (generateClasses cx st (pre ++ c :: post)).disk.fileText (targetOf c) ≠ .ok t) ∧
      cx.store.lookup (generateClasses cx st (pre ++ c :: post)).disk c.name = none) := by
  obtain ⟨hready, hapart, -⟩ := hl.before
  have hv := hl.entries c (by simp)
  obtain ⟨hentry, hfile, hlookup⟩ := hl.after rfl (classStep_ready hl.readsBack hready hapart hv)
  refine ⟨fun x hx => hl.step_leaves_others hx, fun content h => ?_, fun h => ?_⟩
  · obtain ⟨hsyn, hfile', hentry'⟩ := classStep_generated hl.readsBack hready hapart hv h
    exact ⟨hsyn, hentry.trans hfile', hlookup.trans hentry'⟩
  · obtain ⟨hread, hnone⟩ := classStep_skipped hl.readsBack hready hapart h
    exact ⟨hfile hread, hlookup.trans hnone⟩

/-- In the sample run the comment, skipped after the article failed, has no readable file and no
entry at the end. -/
theorem generateClasses_settles_comment :
    (classStep sampleContext (generateClasses sampleContext sampleState [untypedArticle]) plainComment).2 =
      .skipped ∧
    (∀ t, (generateClasses sampleContext sampleState [untypedArticle, plainComment]).disk.fileText
      (targetOf plainComment) ≠ .ok t) ∧
    sampleContext.store.lookup (generateClasses sampleContext sampleState [untypedArticle, plainComment]).disk
      plainComment.name = none := by
  have hskip :
      (classStep sampleContext (generateClasses sampleContext sampleState [untypedArticle]) plainComment).2 =
        .skipped := by
    decide +kernel
  exact ⟨hskip, (@generateClasses_settles _ _ _ [untypedArticle] [] _ sample_layout).2.2 hskip⟩

/-- **A class that fails before its file is written** leaves the file as it was before the run and
no entry at the end of the run; its failure changes no other class's file or entry, and the run
goes on with the classes after it from the tree the failure left. -/
theorem generateClasses_isolates_failure (hl : Layout cx V st.disk (pre ++ c :: post)) {stage : Stage}
    (hfail : (classStep cx (generateClasses cx st pre) c).2 = .failed stage) (hs : stage ≠ .publish) :
    (generateClasses cx st (pre ++ c :: post)).disk.entry? (targetOf c) = st.disk.entry? (targetOf c) ∧
    cx.store.lookup (generateClasses cx st (pre ++ c :: post)).disk c.name = none ∧
    (∀ x ∈ pre ++ post,
      (classStep cx (generateClasses cx st pre) c).1.disk.entry? (targetOf x) =
        (generateClasses cx st pre).disk.entry? (targetOf x) ∧
      cx.store.lookup (classStep cx (generateClasses cx st pre) c).1.disk x.name =
        cx.store.lookup (generateClasses cx st pre).disk x.name) ∧
    generateClasses cx st (pre ++ c :: post) =
      generateClasses cx (classStep cx (generateClasses cx st pre) c).1 post := by
  obtain ⟨hready, hapart, hbefore⟩ := hl.before
  have hv := hl.entries c (by simp)
  obtain ⟨hentry, -, hlookup⟩ := hl.after rfl (classStep_ready hl.readsBack hready hapart hv)
  obtain ⟨hentry', hnone⟩ := classStep_failed hl.readsBack hready hapart hfail hs
  refine ⟨hentry.trans (hentry'.trans hbefore), hlookup.trans hnone, fun x hx => ⟨hl.step_leaves_others hx, ?_⟩,
    generateClasses_append_cons cx st pre post c⟩
  exact classStep_lookup_of_ne hl.readsBack hready hapart hv (hl.name_ne hx)

/-- In the sample run the article fails at synthesis: at the end its file from the earlier run is
still there, and it has no entry. -/
theorem generateClasses_isolates_failure_article :
    (classStep sampleContext sampleState untypedArticle).2 = .failed .synthesize ∧
    Disk.entry? (generateClasses sampleContext sampleState [untypedArticle, plainComment]).disk
      (targetOf untypedArticle) = some (.file "// previous accessors\n") ∧
    sampleContext.store.lookup (generateClasses sampleContext sampleState [untypedArticle, plainComment]).disk
      untypedArticle.name = none := by
  have hfail : (classStep sampleContext (generateClasses sampleContext sampleState []) untypedArticle).2 =
      .failed .synthesize := by
    decide +kernel
  obtain ⟨hentry, hnone, -, -⟩ :=
    @generateClasses_isolates_failure _ _ _ [] [plainComment] _ sample_layout _ hfail (by decide)
  have hbefore : sampleState.disk.entry? (targetOf untypedArticle) = some (.file "// previous accessors\n") := by
    decide +kernel
  exact ⟨hfail, hentry.trans hbefore, hnone⟩

end Claims

end Accessors.Generation
