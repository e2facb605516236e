import Accessors.Generation.Run
import Accessors.Proofs.ClassMap.Updates

/-!
# One class of a run

Generating a class either skips it, fails it before its file is written, writes and publishes
its file, or fails when publishing what it wrote (`classStep_cases`). Whatever happens, the tree
changes only at the class's file and the class map's files (`classStep_changedAt`), and the
class map only at the class's own entry (`classStep_lookup_of_ne`), when the file is apart from
the class map (`ClassMap.Store.Apart`) and the store is ready (`ClassMap.Store.Ready`), which
the step keeps (`classStep_ready`).

What becomes of the class itself:

* generated: its file holds the rendering of its synthesis and its entry is the one of this run
  (`classStep_generated`);
* skipped: nothing can be read at its path and it has no entry (`classStep_skipped`);
* failed before its file was written: the file is as it was and it has no entry
  (`classStep_failed`);
* failed when publishing: it has no entry, but the file it wrote stays
  (`classStep_publish_failed`).
-/

namespace Accessors.Generation

open ClassMap

/-! ### The parts of a step -/

@[simp] theorem RunState.fail_disk (st : RunState) (e : Error) : (st.fail e).disk = st.disk := rfl

@[simp] theorem RunState.countSkipped_disk (st : RunState) (r : Option String) :
    (st.countSkipped r).disk = st.disk := rfl

theorem writeAtomic_eq_ok {d d' : Disk} {p t : String} (h : writeAtomic d p t = .ok d') :
    d' = d.put p (.file t) ∧ d.isDir p = false := by
  unfold writeAtomic at h
  cases hp : d.putText (Disk.joinPath [Disk.dirName p, "." ++ Disk.baseName p ++ ".RAND.tmp"]) t with
  | error e =>
    simp only [hp] at h
    cases h
  | ok d₀ =>
    simp only [hp] at h
    cases hdir : d.isDir p
    · simp only [hdir] at h
      cases h
      exact ⟨rfl, rfl⟩
    · simp only [hdir] at h
      cases h

theorem failClass_disk (cx : ClassContext) (st : RunState) (name : String) (stage : Stage) (e : Error) :
    (failClass cx st name stage e).disk =
      match cx.store.remove st.disk name with
      | .ok d => d
      | .error _ => st.disk := by
  unfold failClass
  split <;> simp_all

theorem unpublish_disk (cx : ClassContext) (st : RunState) (name : String) (r : Option String) :
    (unpublish cx st name r).1.disk = st.disk ∨
      cx.store.remove st.disk name = .ok (unpublish cx st name r).1.disk := by
  unfold unpublish
  split
  · exact .inl rfl
  · split
    · exact .inl rfl
    · rename_i d h
      exact .inr h

/-- What skipping does to the tree: the stale file is erased if there was one, then the entry of
the class is removed, or the tree stays. -/
theorem skip_disk (cx : ClassContext) (st : RunState) (name target : String) :
    ∃ d, (d = st.disk ∨ (∃ x, st.disk.stat target = .ok x) ∧ d = st.disk.erase target) ∧
      ((skip cx st name target).1.disk = d ∨ cx.store.remove d name = .ok (skip cx st name target).1.disk) := by
  unfold skip
  split
  · exact ⟨st.disk, .inl rfl, unpublish_disk cx st name none⟩
  · rename_i x hx
    split
    · exact ⟨st.disk, .inl rfl, .inl rfl⟩
    · rename_i d hd
      exact ⟨d, .inr ⟨⟨x, hx⟩, Disk.remove_eq_ok hd⟩, unpublish_disk cx _ name _⟩

theorem skip_result (cx : ClassContext) (st : RunState) (name target : String) :
    (skip cx st name target).2 = .skipped ∨ (skip cx st name target).2 = .skipFailed := by
  unfold skip unpublish
  repeat' split
  all_goals simp

/-- **How a step goes**: skipped, failed before its file was written, generated from its
rendering, or failed when publishing the file it wrote. Until then the summary and the errors are
those the step started from. -/
theorem classStep_cases (cx : ClassContext) (st : RunState) (c : ClassInfo) :
    (∃ st' : RunState, st'.disk = st.disk ∧ st'.summary = st.summary ∧ st'.errors = st.errors ∧
      classStep cx st c = skip cx st' c.name (targetOf c)) ∨
    (∃ (st' : RunState) (stage : Stage) (e : Error), st'.disk = st.disk ∧ st'.summary = st.summary ∧
      st'.errors = st.errors ∧ stage ≠ .publish ∧
      classStep cx st c = (failClass cx st' c.name stage e, .failed stage)) ∨
    (∃ spec file d₁, ((c.synthesize cx.provider).run' st.cache).1 = .ok spec ∧
      spec.render cx.templates cx.runtime c = .ok file ∧
      writeAtomic st.disk (targetOf c) file.content = .ok d₁ ∧
      cx.store.put d₁ (cx.entryOf c) = .ok (classStep cx st c).1.disk ∧
      (classStep cx st c).1.summary =
        { st.summary with generated := st.summary.generated + 1,
                          generatedFiles := st.summary.generatedFiles ++ [targetOf c] } ∧
      (classStep cx st c).1.errors = st.errors ∧
      (classStep cx st c).2 = .generated file.content) ∨
    (∃ (st' : RunState) (content : String) (e : Error),
      writeAtomic st.disk (targetOf c) content = .ok st'.disk ∧ st'.summary = st.summary ∧
      st'.errors = st.errors ∧
      classStep cx st c = (failClass cx st' c.name .publish e, .failed .publish)) := by
  unfold classStep
  cases hdoc : c.documented
  · exact .inl ⟨st, rfl, rfl, rfl, by simp⟩
  · cases hs : (c.synthesize cx.provider).run' st.cache with
    | mk r cache =>
    cases r with
    | error e => exact .inr (.inl ⟨{ st with cache }, .synthesize, e, rfl, rfl, rfl, by decide, by simp⟩)
    | ok spec =>
      by_cases hm : spec.methods.isEmpty
      · exact .inl ⟨{ st with cache }, rfl, rfl, rfl, by simp [hm]⟩
      · cases hr : spec.render cx.templates cx.runtime c with
        | error e => exact .inr (.inl ⟨{ st with cache }, .render, e, rfl, rfl, rfl, by decide, by simp [hm, hr]⟩)
        | ok file =>
          cases hw : writeAtomic st.disk (targetOf c) file.content with
          | error e =>
            exact .inr (.inl ⟨{ st with cache }, .write, e, rfl, rfl, rfl, by decide, by simp [hm, hr, hw]⟩)
          | ok d₁ =>
            cases hp : cx.store.put d₁ (cx.entryOf c) with
            | error e =>
              exact .inr (.inr (.inr ⟨{ st with cache, disk := d₁ }, file.content, e, hw, rfl, rfl,
                by simp [hm, hr, hw, hp]⟩))
            | ok d₂ =>
              exact .inr (.inr (.inl ⟨spec, file, d₁, rfl, hr, hw, by simp [hm, hr, hw, hp],
                by simp [hm, hr, hw, hp], by simp [hm, hr, hw, hp], by simp [hm, hr, hw, hp]⟩))

/-! ### What a step changes -/

section Frame

variable {cx : ClassContext} {st : RunState} {c : ClassInfo} {V : Entry → Prop}

/-- The keys a class's step may change: its file, and the class map's temporary file and map. -/
def stepKeys (cx : ClassContext) (d : Disk) (c : ClassInfo) : List String :=
  [d.key (targetOf c), d.key cx.store.tempName, d.key cx.store.path]

theorem remove_changedAt {d d' : Disk} {name : String} (h : cx.store.remove d name = .ok d') :
    Disk.ChangedAt d d' [d.key cx.store.tempName, d.key cx.store.path] :=
  Store.update_changedAt (s := cx.store) h

theorem put_changedAt {d d' : Disk} {e : Entry} (h : cx.store.put d e = .ok d') :
    Disk.ChangedAt d d' [d.key cx.store.tempName, d.key cx.store.path] :=
  Store.update_changedAt (Store.put_eq_update h)

theorem failClass_changedAt (name : String) (stage : Stage) (e : Error) :
    Disk.ChangedAt st.disk (failClass cx st name stage e).disk
      [st.disk.key cx.store.tempName, st.disk.key cx.store.path] := by
  rw [failClass_disk]
  split
  · exact remove_changedAt ‹_›
  · exact .refl _ _

theorem skip_changedAt (name target : String) :
    Disk.ChangedAt st.disk (skip cx st name target).1.disk
      [st.disk.key target, st.disk.key cx.store.tempName, st.disk.key cx.store.path] := by
  obtain ⟨d, hd, hs⟩ := skip_disk cx st name target
  -- the stale file, then the entry
  have h₁ : Disk.ChangedAt st.disk d
      [st.disk.key target, st.disk.key cx.store.tempName, st.disk.key cx.store.path] := by
    rcases hd with rfl | ⟨-, rfl⟩
    · exact .refl _ _
    · exact Disk.ChangedAt.erase.mono (by simp)
  rcases hs with hs | hs
  · rw [hs]
    exact h₁
  · refine h₁.trans ((remove_changedAt hs).mono ?_)
    simp [h₁.key_eq]

/-- **A step changes the tree only at the class's file and the class map's files.** -/
theorem classStep_changedAt (cx : ClassContext) (st : RunState) (c : ClassInfo) :
    Disk.ChangedAt st.disk (classStep cx st c).1.disk (stepKeys cx st.disk c) := by
  rcases classStep_cases cx st c with ⟨st', hd, -, -, heq⟩ | ⟨st', stage, e, hd, -, -, -, heq⟩ |
      ⟨spec, file, d₁, -, -, hw, hp, -, -, -⟩ | ⟨st', content, e, hw, -, -, heq⟩
  · rw [heq, ← hd]
    exact skip_changedAt _ _
  · rw [heq, ← hd]
    exact (failClass_changedAt _ _ _).mono (by simp [stepKeys])
  · obtain ⟨hd₁, -⟩ := writeAtomic_eq_ok hw
    have h₁ : Disk.ChangedAt st.disk d₁ (stepKeys cx st.disk c) := by
      rw [hd₁]
      exact (Disk.ChangedAt.put_file (q := targetOf c)).mono (by simp [stepKeys])
    exact h₁.trans ((put_changedAt hp).mono (by simp [stepKeys, h₁.key_eq]))
  · obtain ⟨hd, -⟩ := writeAtomic_eq_ok hw
    rw [heq]
    have h₁ : Disk.ChangedAt st.disk st'.disk (stepKeys cx st.disk c) := by
      rw [hd]
      exact (Disk.ChangedAt.put_file (q := targetOf c)).mono (by simp [stepKeys])
    exact h₁.trans ((failClass_changedAt _ _ _).mono (by simp [stepKeys, h₁.key_eq]))

end Frame

/-! ### What a step does to the class map -/

section Map

variable {cx : ClassContext} {st : RunState} {c : ClassInfo} {V : Entry → Prop}
  (hr : cx.store.ReadsBack V)
include hr

theorem failClass_ready (hready : cx.store.Ready V st.disk) (name : String) (stage : Stage) (e : Error) :
    cx.store.Ready V (failClass cx st name stage e).disk := by
  rw [failClass_disk]
  split
  · exact hready.remove hr ‹_›
  · exact hready

/-- Failing a class leaves it no entry, and every other class its own. -/
theorem failClass_lookup (hready : cx.store.Ready V st.disk) (name : String) (stage : Stage) (e : Error)
    (n : String) :
    cx.store.lookup (failClass cx st name stage e).disk n = if name = n then none else cx.store.lookup st.disk n := by
  rw [failClass_disk]
  split
  · exact Store.lookup_remove hready.beside hr hready.within ‹_› n
  · rename_i err herr
    split
    · rename_i hn
      subst hn
      exact Store.lookup_eq_none_of_remove_error hready.beside hready.tempFree herr
    · rfl

/-- A class counted as skipped has no entry. -/
theorem unpublish_skipped (hready : cx.store.Ready V st.disk) {name : String} {r : Option String}
    (h : (unpublish cx st name r).2 = .skipped) : cx.store.lookup (unpublish cx st name r).1.disk name = none := by
  unfold unpublish at h ⊢
  cases hl : cx.store.lookup st.disk name with
  | none => simp [hl]
  | some x =>
    cases hrm : cx.store.remove st.disk name with
    | error e => simp [hl, hrm] at h
    | ok d =>
      dsimp only
      rw [RunState.countSkipped_disk, Store.lookup_remove hready.beside hr hready.within hrm, if_pos rfl]

omit hr in
theorem unpublish_changedAt (name : String) (r : Option String) :
    Disk.ChangedAt st.disk (unpublish cx st name r).1.disk
      [st.disk.key cx.store.tempName, st.disk.key cx.store.path] := by
  rcases unpublish_disk cx st name r with h | h
  · rw [h]
    exact .refl _ _
  · exact remove_changedAt h

omit hr in
/-- Erasing a stale file apart from the class map leaves the map and its store ready. -/
theorem stale_erased {target : String} {d : Disk} (hready : cx.store.Ready V st.disk)
    (hT : cx.store.Apart st.disk target) (hd : d = st.disk ∨ (∃ x, st.disk.stat target = .ok x) ∧ d = st.disk.erase target) :
    cx.store.Ready V d ∧ ∀ n, cx.store.lookup d n = cx.store.lookup st.disk n := by
  rcases hd with rfl | ⟨-, rfl⟩
  · exact ⟨hready, fun _ => rfl⟩
  · exact ⟨hT.ready hready Disk.ChangedAt.erase, fun _ => hT.lookup_eq Disk.ChangedAt.erase⟩

theorem skip_ready (hready : cx.store.Ready V st.disk) {target : String} (hT : cx.store.Apart st.disk target)
    (name : String) : cx.store.Ready V (skip cx st name target).1.disk := by
  obtain ⟨d, hd, hs⟩ := skip_disk cx st name target
  have hd' := (stale_erased hready hT hd).1
  rcases hs with hs | hs
  · rw [hs]
    exact hd'
  · exact hd'.remove hr hs

theorem skip_lookup_of_ne (hready : cx.store.Ready V st.disk) {target : String} (hT : cx.store.Apart st.disk target)
    {name n : String} (hn : n ≠ name) : cx.store.lookup (skip cx st name target).1.disk n = cx.store.lookup st.disk n := by
  obtain ⟨d, hd, hs⟩ := skip_disk cx st name target
  obtain ⟨hd', hl⟩ := stale_erased hready hT hd
  rcases hs with hs | hs
  · rw [hs, hl]
  · rw [Store.lookup_remove hd'.beside hr hd'.within hs n, if_neg (Ne.symm hn), hl]

/-- **A class counted as skipped** leaves nothing that can be read at its path, and no entry. -/
theorem skip_skipped (hready : cx.store.Ready V st.disk) {target : String} (hT : cx.store.Apart st.disk target)
    {name : String} (h : (skip cx st name target).2 = .skipped) :
    (∀ t, (skip cx st name target).1.disk.fileText target ≠ .ok t) ∧
      cx.store.lookup (skip cx st name target).1.disk name = none := by
  have hkeys : st.disk.key target ∉ [st.disk.key cx.store.tempName, st.disk.key cx.store.path] := by
    simp [hT.1, hT.2.1]
  unfold skip at h ⊢
  cases hst : st.disk.stat target with
  | error err =>
    simp only [hst] at h ⊢
    exact ⟨(unpublish_changedAt name none).fileText_error hkeys (Disk.fileText_error_of_stat hst),
      unpublish_skipped hr hready h⟩
  | ok x =>
    cases hrm : st.disk.remove target with
    | error e => simp [hst, hrm] at h
    | ok d =>
      simp only [hst, hrm] at h ⊢
      have hd : d = st.disk.erase target := Disk.remove_eq_ok hrm
      have hready' := (stale_erased hready hT (.inr ⟨⟨x, hst⟩, hd⟩)).1
      refine ⟨?_, unpublish_skipped hr hready' h⟩
      have hch := @unpublish_changedAt cx
        { st with disk := d, diag := st.diag.verboseMsg ("Removed stale " ++ target) } name (some target)
      exact hch.fileText_error (by rw [hd]; exact hkeys) (by rw [hd]; exact Disk.fileText_erase_self)

/-! ### What a step does to its class -/

variable (hready : cx.store.Ready V st.disk) (hT : cx.store.Apart st.disk (targetOf c))
include hready hT

omit hr in
/-- The tree after a class's file is written keeps the class map and its store ready. -/
theorem written_ready {content : String} {d₁ : Disk}
    (hw : writeAtomic st.disk (targetOf c) content = .ok d₁) :
    cx.store.Ready V d₁ ∧ ∀ n, cx.store.lookup d₁ n = cx.store.lookup st.disk n := by
  obtain ⟨rfl, -⟩ := writeAtomic_eq_ok hw
  exact ⟨hT.ready hready Disk.ChangedAt.put_file, fun _ => hT.lookup_eq Disk.ChangedAt.put_file⟩

/-- **A step keeps the class map's store ready.** -/
theorem classStep_ready (hv : V (cx.entryOf c)) : cx.store.Ready V (classStep cx st c).1.disk := by
  rcases classStep_cases cx st c with ⟨st', hd, -, -, heq⟩ | ⟨st', stage, e, hd, -, -, -, heq⟩ |
      ⟨spec, file, d₁, -, -, hw, hp, -, -, -⟩ | ⟨st', content, e, hw, -, -, heq⟩
  · rw [heq]
    exact skip_ready hr (by rw [hd]; exact hready) (by rw [hd]; exact hT) _
  · rw [heq]
    exact failClass_ready hr (by rw [hd]; exact hready) _ _ _
  · exact (written_ready hready hT hw).1.put hr hv hp
  · rw [heq]
    exact failClass_ready hr (written_ready hready hT hw).1 _ _ _

/-- **A step changes no other class's entry.** -/
theorem classStep_lookup_of_ne (hv : V (cx.entryOf c)) {n : String} (hn : n ≠ c.name) :
    cx.store.lookup (classStep cx st c).1.disk n = cx.store.lookup st.disk n := by
  rcases classStep_cases cx st c with ⟨st', hd, -, -, heq⟩ | ⟨st', stage, e, hd, -, -, -, heq⟩ |
      ⟨spec, file, d₁, -, -, hw, hp, -, -, -⟩ | ⟨st', content, e, hw, -, -, heq⟩
  · rw [heq, skip_lookup_of_ne hr (by rw [hd]; exact hready) (by rw [hd]; exact hT) hn, hd]
  · rw [heq, failClass_lookup hr (by rw [hd]; exact hready), if_neg (Ne.symm hn), hd]
  · obtain ⟨hready₁, hl₁⟩ := written_ready hready hT hw
    rw [Store.lookup_put hready₁.beside hr hready₁.within hv hp,
      if_neg (show (cx.entryOf c).name ≠ n from Ne.symm hn), hl₁]
  · obtain ⟨hready₁, hl₁⟩ := written_ready hready hT hw
    rw [heq, failClass_lookup hr hready₁, if_neg (Ne.symm hn), hl₁]

/-- **A generated class**: its file holds the rendering of its synthesis, and its entry is the
one of this run. -/
theorem classStep_generated (hv : V (cx.entryOf c)) {content : String}
    (h : (classStep cx st c).2 = .generated content) :
    (∃ spec file, ((c.synthesize cx.provider).run' st.cache).1 = .ok spec ∧
      spec.render cx.templates cx.runtime c = .ok file ∧ file.content = content) ∧
    (classStep cx st c).1.disk.entry? (targetOf c) = some (.file content) ∧
    cx.store.lookup (classStep cx st c).1.disk c.name = some (cx.entryOf c) := by
  rcases classStep_cases cx st c with ⟨st', -, -, -, heq⟩ | ⟨st', stage, e, -, -, -, -, heq⟩ |
      ⟨spec, file, d₁, hsyn, hren, hw, hp, -, -, hres⟩ | ⟨st', content', e, -, -, -, heq⟩
  · rw [heq] at h
    rcases skip_result cx st' c.name (targetOf c) with h' | h' <;> rw [h'] at h <;> cases h
  · rw [heq] at h
    cases h
  · rw [hres] at h
    cases h
    obtain ⟨hready₁, -⟩ := written_ready hready hT hw
    obtain ⟨hd₁, hdir⟩ := writeAtomic_eq_ok hw
    -- the file is written, and publishing writes only the class map's files
    have hfile : d₁.entry? (targetOf c) = some (.file file.content) := by
      rw [hd₁]
      exact Disk.entry?_put_self hdir
    have hkeys : d₁.key (targetOf c) ∉ [d₁.key cx.store.tempName, d₁.key cx.store.path] := by
      rw [hd₁]
      simp [hT.1, hT.2.1]
    refine ⟨⟨spec, file, hsyn, hren, rfl⟩, ?_, ?_⟩
    · rw [(put_changedAt hp).entry?_eq _ hkeys, hfile]
    · rw [Store.lookup_put hready₁.beside hr hready₁.within hv hp,
        if_pos (show (cx.entryOf c).name = c.name from rfl)]
  · rw [heq] at h
    cases h

/-- **A skipped class** leaves nothing that can be read at its path, and no entry. -/
theorem classStep_skipped (h : (classStep cx st c).2 = .skipped) :
    (∀ t, (classStep cx st c).1.disk.fileText (targetOf c) ≠ .ok t) ∧
      cx.store.lookup (classStep cx st c).1.disk c.name = none := by
  rcases classStep_cases cx st c with ⟨st', hd, -, -, heq⟩ | ⟨st', stage, e, -, -, -, -, heq⟩ |
      ⟨spec, file, d₁, -, -, -, -, -, -, hres⟩ | ⟨st', content', e, -, -, -, heq⟩
  · rw [heq] at h ⊢
    exact skip_skipped hr (by rw [hd]; exact hready) (by rw [hd]; exact hT) h
  · rw [heq] at h
    cases h
  · rw [hres] at h
    cases h
  · rw [heq] at h
    cases h

/-- **A class that fails before its file is written** leaves the file as it was, and no entry. -/
theorem classStep_failed {stage : Stage} (h : (classStep cx st c).2 = .failed stage)
    (hs : stage ≠ .publish) :
    (classStep cx st c).1.disk.entry? (targetOf c) = st.disk.entry? (targetOf c) ∧
      cx.store.lookup (classStep cx st c).1.disk c.name = none := by
  rcases classStep_cases cx st c with ⟨st', -, -, -, heq⟩ | ⟨st', stage', e, hd, -, -, -, heq⟩ |
      ⟨spec, file, d₁, -, -, -, -, -, -, hres⟩ | ⟨st', content', e, -, -, -, heq⟩
  · rw [heq] at h
    rcases skip_result cx st' c.name (targetOf c) with h' | h' <;> rw [h'] at h <;> cases h
  · rw [heq]
    have hkeys : st'.disk.key (targetOf c) ∉ [st'.disk.key cx.store.tempName, st'.disk.key cx.store.path] := by
      rw [hd]
      simp [hT.1, hT.2.1]
    refine ⟨?_, ?_⟩
    · rw [(failClass_changedAt _ _ _).entry?_eq _ hkeys, hd]
    · rw [failClass_lookup hr (by rw [hd]; exact hready), if_pos rfl]
  · rw [hres] at h
    cases h
  · rw [heq] at h
    cases h
    exact absurd rfl hs

/-- **A class that fails when publishing** has no entry, but the file it wrote stays in place. -/
theorem classStep_publish_failed (h : (classStep cx st c).2 = .failed .publish) :
    (∃ content, (classStep cx st c).1.disk.entry? (targetOf c) = some (.file content)) ∧
      cx.store.lookup (classStep cx st c).1.disk c.name = none := by
  rcases classStep_cases cx st c with ⟨st', -, -, -, heq⟩ | ⟨st', stage', e, -, -, -, hs, heq⟩ |
      ⟨spec, file, d₁, -, -, -, -, -, -, hres⟩ | ⟨st', content, e, hw, -, -, heq⟩
  · rw [heq] at h
    rcases skip_result cx st' c.name (targetOf c) with h' | h' <;> rw [h'] at h <;> cases h
  · rw [heq] at h
    cases h
    exact absurd rfl hs
  · rw [hres] at h
    cases h
  · obtain ⟨hready₁, -⟩ := written_ready hready hT hw
    obtain ⟨hd₁, hdir⟩ := writeAtomic_eq_ok hw
    have hkeys : st'.disk.key (targetOf c) ∉ [st'.disk.key cx.store.tempName, st'.disk.key cx.store.path] := by
      rw [hd₁]
      simp [hT.1, hT.2.1]
    rw [heq]
    refine ⟨⟨content, ?_⟩, ?_⟩
    · rw [(failClass_changedAt _ _ _).entry?_eq _ hkeys, hd₁]
      exact Disk.entry?_put_self hdir
    · rw [failClass_lookup hr hready₁, if_pos rfl]

end Map

end Accessors.Generation
