import Accessors.Proofs.Generation.Rereading
import Mathlib.Data.List.Find

/-!
# A run repeated

A second run with the same configuration over the tree a first run left does what the first did:
every class comes to the same result, the summary counts the same classes and lists the same
generated files, the errors are of the same kinds, and every file is as the first run left it but
for the class map, whose entries of generated classes carry the second run's id and time.

The second run sees what decides the first run's steps alike (`Alike`): the same memo table, the
same directories (`Disk.SameDirs`, kept by every change of a run, which writes and removes files
only), and a class map that is readable in both or unreadable with the same error. The files of
the classes themselves differ, since the first run wrote or removed them, but a step does not
read them: it overwrites a class's file or removes it.

* `classStep_alike`: two runs at a class in alike states come to the same result, record errors
  of the same kinds, and stay alike.
* `outcomes_alike`: over a run of classes, the results and the kinds of the errors are the same.
* `run_repeats`: run again over the tree a run left, a run that keeps its classes apart
  (`Repeatable`) and whose module is not found through what it writes leaves every file but the
  class map as it was, restamps class map entries or keeps them, counts the same classes, lists
  the same generated files and reports errors of the same kinds (`Outcome.errorKinds`).
-/

namespace Accessors

/-! ### Trees with the same directories -/

namespace Disk

/-- **Two trees with the same directories**: one working directory, and a directory at a path of
one exactly when there is one at the path of the other. -/
def SameDirs (d d' : Disk) : Prop := d'.root = d.root ∧ ∀ p, d'.isDir p = d.isDir p

namespace SameDirs

variable {d d' d'' : Disk}

theorem refl (d : Disk) : SameDirs d d := ⟨rfl, fun _ => rfl⟩

theorem symm (h : SameDirs d d') : SameDirs d' d := ⟨h.1.symm, fun p => (h.2 p).symm⟩

theorem trans (h₁ : SameDirs d d') (h₂ : SameDirs d' d'') : SameDirs d d'' :=
  ⟨h₂.1.trans h₁.1, fun p => (h₂.2 p).trans (h₁.2 p)⟩

theorem key_eq (h : SameDirs d d') (p : String) : d'.key p = d.key p := by
  simp [key, absPath, h.1]

/-- A path is reached through directories in one tree exactly when in the other. -/
theorem blocked?_eq_none_iff (h : SameDirs d d') {p : String} :
    d'.blocked? p = none ↔ d.blocked? p = none := by
  rw [Disk.blocked?_eq_none_iff, Disk.blocked?_eq_none_iff, h.key_eq]
  simp only [h.2]

end SameDirs

variable {d d' : Disk} {k : String} {ks : List String}

/-- A change at a key keeps the entry of every path at another key. -/
theorem ReplacedAt.entry?_eq_of_key_ne (h : ReplacedAt d d' k) {p : String} (hk : d.key p ≠ k) :
    d'.entry? p = d.entry? p := by
  refine entry?_congr h.1 fun _ => ?_
  obtain ⟨-, extra, hextra, he⟩ := h
  have hextra' : extra.lookup (d.key p) = none := by
    rw [List.lookup_eq_none_iff]
    intro x hx
    simpa [(hextra x hx).1] using hk
  rw [he, List.lookup_append, lookup_filter_of_ne hk, hextra']
  cases d.entries.lookup (d.key p) <;> rfl

/-- **A change at a key holding no directory keeps the directories**: it writes a file there or
removes what is there. -/
theorem ReplacedAt.sameDirs (h : ReplacedAt d d' k) (hu : (k, DiskEntry.dir) ∉ d.entries) :
    SameDirs d d' := by
  refine ⟨h.1, fun p => ?_⟩
  by_cases hk : d.key p = k
  · -- at the changed key, a directory only where every tree has one
    have hkey : d'.key p = d.key p := h.key_eq p
    by_cases hfix : d.FixedKey (d.key p)
    · have hfix' : d'.FixedKey (d'.key p) := by
        simpa [FixedKey, isAncestorKey, hkey, h.1] using hfix
      rw [isDir, isDir, entry?_of_fixedKey hfix, entry?_of_fixedKey hfix']
    · have hfix' : ¬ d'.FixedKey (d'.key p) := by
        simpa [FixedKey, isAncestorKey, hkey, h.1] using hfix
      have hbefore : d.isDir p = false := by
        rw [isDir, entry?_of_not_fixedKey hfix, hk]
        cases hl : d.entries.lookup k with
        | none => rfl
        | some x =>
          cases x with
          | file t => rfl
          | dir => exact absurd (mem_of_lookup_eq_some hl) hu
      rw [hbefore, isDir, entry?_of_not_fixedKey hfix', hkey, hk]
      obtain ⟨-, extra, hextra, he⟩ := h
      rw [he, List.lookup_append, lookup_filter_self]
      cases hl : extra.lookup k with
      | none => rfl
      | some x =>
        have hx := (hextra (k, x) (mem_of_lookup_eq_some hl)).2
        cases x with
        | file t => rfl
        | dir => exact absurd rfl hx
  · rw [isDir, isDir, h.entry?_eq_of_key_ne hk]

/-- **A rewriting at keys holding no directory keeps the directories.** -/
theorem Rewritten.sameDirs (h : Rewritten ks d d') (hu : ∀ k ∈ ks, Unread d k) : SameDirs d d' := by
  induction h with
  | refl => exact .refl _
  | head h hk _ ih => exact (h.sameDirs (hu _ hk).1).trans (ih fun k' hk' => h.unread (hu k' hk'))

/-- Writing a file succeeds exactly when its path is reached through directories and is none. -/
theorem putText_isOk (d : Disk) (p t : String) :
    (d.putText p t).toOption.isSome = ((d.blocked? p).isNone && !d.isDir p) := by
  unfold putText isDir
  cases d.blocked? p with
  | some why => rfl
  | none =>
    cases d.entry? p with
    | none => rfl
    | some x => cases x <;> rfl

theorem SameDirs.blocked?_isNone (h : SameDirs d d') (p : String) :
    (d'.blocked? p).isNone = (d.blocked? p).isNone := by
  rw [Bool.eq_iff_iff, Option.isNone_iff_eq_none, Option.isNone_iff_eq_none]
  exact h.blocked?_eq_none_iff

/-- **Writing a file in trees with the same directories** succeeds in both or fails in both. -/
theorem SameDirs.putText_isOk (h : SameDirs d d') (p t : String) :
    (d'.putText p t).toOption.isSome = (d.putText p t).toOption.isSome := by
  rw [Disk.putText_isOk, Disk.putText_isOk, h.blocked?_isNone, h.2]

/-- A directory made at one path keeps every directory. -/
theorem entry?_put_dir_of_dir {p q : String} (h : d.entry? p = some .dir) :
    Disk.entry? (d.put q .dir) p = some .dir := by
  by_cases hk : d.key p = d.key q
  · by_cases hfix : d.FixedKey (d.key p)
    · exact entry?_of_fixedKey (d := d.put q .dir) hfix
    · rw [entry?_of_not_fixedKey (d := d.put q .dir) hfix]
      simp [hk, List.lookup_append, lookup_filter_self]
  · rw [entry?_put_of_key_ne hk]
    exact h

/-- **Making a directory leaves it and its parents directories**, on the same working directory. -/
theorem mkdirAll_dirs {d₁ : Disk} {p : String} (h : d.mkdirAll p = .ok d₁) (hk : d.key p ≠ ".") :
    d₁.root = d.root ∧ ∀ q ∈ ancestors (d.key p) ++ [d.key p], d₁.entry? q = some .dir := by
  unfold mkdirAll at h
  simp only [beq_iff_eq, hk, if_false] at h
  generalize ancestors (d.key p) ++ [d.key p] = qs at h
  clear hk
  -- the fold keeps the working directory and every directory, and makes one at each path it passes
  suffices hfold : d₁.root = d.root ∧ (∀ q, d.entry? q = some .dir → d₁.entry? q = some .dir) ∧
      ∀ q ∈ qs, d₁.entry? q = some .dir from ⟨hfold.1, hfold.2.2⟩
  induction qs generalizing d with
  | nil =>
    cases h
    exact ⟨rfl, fun _ hq => hq, fun _ hq => nomatch hq⟩
  | cons q qs ih =>
    rw [List.foldlM_cons] at h
    cases he : d.entry? q with
    | none =>
      simp only [he] at h
      obtain ⟨hroot, hkeep, hdirs⟩ := ih h
      have hq : Disk.entry? (d.put q .dir) q = some .dir := entry?_put_self (by rw [isDir, he]; rfl)
      refine ⟨hroot, fun x hx => hkeep x (entry?_put_dir_of_dir hx), fun x hx => ?_⟩
      rcases List.mem_cons.1 hx with rfl | hx
      · exact hkeep x hq
      · exact hdirs x hx
    | some x =>
      cases x with
      | file t =>
        simp only [he] at h
        cases h
      | dir =>
        simp only [he] at h
        obtain ⟨hroot, hkeep, hdirs⟩ := ih h
        refine ⟨hroot, hkeep, fun x hx => ?_⟩
        rcases List.mem_cons.1 hx with rfl | hx
        · exact hkeep x he
        · exact hdirs x hx

/-- **Making a directory again** on a tree with the directories a first making left succeeds and
changes nothing. -/
theorem mkdirAll_again {d₁ d' : Disk} {p : String} (h : d.mkdirAll p = .ok d₁) (hs : SameDirs d₁ d') :
    d'.mkdirAll p = .ok d' := by
  by_cases hk : d.key p = "."
  · -- nothing was made, and nothing is to be made
    have hd₁ : d₁ = d := by
      unfold mkdirAll at h
      simp only [hk, beq_self_eq_true, if_true, Except.ok.injEq] at h
      exact h.symm
    have hkey : d'.key p = "." := by rw [hs.key_eq, hd₁, hk]
    unfold mkdirAll
    simp [hkey]
  · obtain ⟨hroot, hdirs⟩ := mkdirAll_dirs h hk
    have hkey : d'.key p = d.key p := by simp [key, absPath, hs.1, hroot]
    apply mkdirAll_existing
    rw [hkey]
    intro q hq
    rw [← isDir_eq_true_iff, hs.2, isDir_eq_true_iff]
    exact hdirs q hq

/-- A file found at a path can be removed. -/
theorem remove_of_stat {p : String} {x : DiskEntry} (hst : d.stat p = .ok x) (hdir : d.isDir p = false) :
    d.remove p = .ok (d.erase p) := by
  obtain ⟨hb, hx⟩ := lookupAs_eq_ok hst
  cases x with
  | dir =>
    rw [isDir, hx] at hdir
    cases hdir
  | file t => simp [remove, lookupAs, hb, hx, bind, Except.bind]

/-- Nothing is left at a path that held no directory once its entry is erased. -/
theorem entry?_erase_self_of {p : String} (hdir : d.isDir p = false) : Disk.entry? (d.erase p) p = none := by
  rcases entry?_erase_self (d := d) (q := p) with hnone | hd
  · exact hnone
  · rw [isDir_of_isDir_erase (isDir_eq_true_iff.2 hd)] at hdir
    cases hdir

end Disk

/-! ### Finding the module on a changed tree -/

namespace Module

open Disk

/-- **The files finding the module reads**, from the directory `startDir` (the working directory
when empty): the `go.mod` file of each directory at or above it, as named and as cleaned. -/
def searchedFiles (d : Disk) (startDir : String) : List String :=
  (upward (d.absPath (if startDir.isEmpty then d.root else startDir))).flatMap fun dir =>
    [joinPath [dir, "go.mod"], cleanPath (joinPath [dir, "go.mod"])]

variable {d d' : Disk} {ks : List String}

/-- **The module found on a tree changed elsewhere** than at the files the search reads, or their
directories, is the one found before. -/
theorem resolve_changedAt (h : ChangedAt d d' ks) {custom startDir : String}
    (hs : ∀ f ∈ searchedFiles d startDir, d.key f ∉ ks ∧ ∀ a ∈ ancestors (d.key f), d.key a ∉ ks) :
    resolve d' custom startDir = resolve d custom startDir := by
  have habs : d'.absPath = d.absPath := funext fun p => by simp [absPath, h.root_eq]
  have hstart : (if startDir.isEmpty then d'.root else startDir) = if startDir.isEmpty then d.root else startDir := by
    rw [h.root_eq]
  -- the search stops at the same directory and reads the same file there
  have hfind : findModule d' (if startDir.isEmpty then d.root else startDir) =
      findModule d (if startDir.isEmpty then d.root else startDir) := by
    unfold findModule
    rw [habs]
    have hsome : (upward (d.absPath (if startDir.isEmpty then d.root else startDir))).find? (holdsGoMod d') =
        (upward (d.absPath (if startDir.isEmpty then d.root else startDir))).find? (holdsGoMod d) :=
      List.find?_congr fun dir hdir => by
        unfold holdsGoMod
        rw [h.entry?_eq _ (hs _ (List.mem_flatMap.2 ⟨dir, hdir, by simp⟩)).1]
    rw [hsome]
    split
    · rename_i dir hdir
      have hread := hs (cleanPath (joinPath [dir, "go.mod"]))
        (List.mem_flatMap.2 ⟨dir, List.mem_of_find?_eq_some hdir, by simp⟩)
      unfold parseModuleName
      simp only [h.fileText_eq hread.1 hread.2]
    · rfl
  unfold resolve
  simp only [hstart, hfind, habs]

end Module

/-! ### Outcomes that succeed together -/

/-- **Two outcomes that succeed together** are two successes or two failures. -/
theorem Except.ok_ok_or_error_error {ε ε' α β : Type} {x : Except ε α} {y : Except ε' β}
    (h : y.toOption.isSome = x.toOption.isSome) :
    (∃ a b, x = .ok a ∧ y = .ok b) ∨ ∃ e e', x = .error e ∧ y = .error e' := by
  cases x with
  | ok a =>
    cases y with
    | ok b => exact .inl ⟨a, b, rfl, rfl⟩
    | error e' => cases h
  | error e =>
    cases y with
    | ok b => cases h
    | error e' => exact .inr ⟨e, e', rfl, rfl⟩

/-- **Two outcomes alike but for their values** are two successes or two failures with one error. -/
theorem Except.ok_ok_or_error_of_map_eq {ε α β : Type} {x : Except ε α} {y : Except ε β}
    (h : y.map (fun _ => ()) = x.map (fun _ => ())) :
    (∃ a b, x = .ok a ∧ y = .ok b) ∨ ∃ e, x = .error e ∧ y = .error e := by
  cases x with
  | ok a =>
    cases y with
    | ok b => exact .inl ⟨a, b, rfl, rfl⟩
    | error e => cases h
  | error e =>
    cases y with
    | ok b => cases h
    | error e' =>
      cases h
      exact .inr ⟨_, rfl, rfl⟩

/-! ### A class map that can be written back -/

namespace ClassMap.Store

open Disk

variable {s : Store} {d d' : Disk} {V : Entry → Prop}

/-- **The map can be written back** on a tree: it is reached through directories and is no
directory, and its temporary file lies beside it and is no directory. -/
structure Writable (s : Store) (d : Disk) : Prop where
  beside : s.Beside d
  reached : d.blocked? s.path = none
  file : d.isDir s.path = false
  tempFree : d.isDir s.tempName = false

theorem Writable.sameDirs (hw : s.Writable d) (h : SameDirs d d') : s.Writable d' := by
  refine ⟨?_, h.blocked?_eq_none_iff.2 hw.reached, by rw [h.2]; exact hw.file, by rw [h.2]; exact hw.tempFree⟩
  unfold Beside
  rw [h.key_eq, h.key_eq]
  exact hw.beside

/-- A change at a path apart from the map keeps it writable. -/
theorem Writable.changedAt_apart {p : String} (hw : s.Writable d) (hp : s.Apart d p)
    (h : ChangedAt d d' [d.key p]) : s.Writable d' := by
  refine ⟨hw.beside.changedAt h, ?_, ?_, isDir_false_changedAt h hw.tempFree⟩
  · rw [h.blocked?_eq fun a ha => by simpa using hp.2.2 a ha]
    exact hw.reached
  · rw [isDir, h.entry?_eq _ (by simpa using Ne.symm hp.1)]
    exact hw.file

theorem Apart.rewritten {p : String} {ks : List String} (hp : s.Apart d p) (h : Rewritten ks d d') :
    s.Apart d' p := by
  unfold Apart
  simp only [h.key_eq]
  exact hp

theorem Apart.sameDirs {p : String} (hp : s.Apart d p) (h : SameDirs d d') : s.Apart d' p := by
  unfold Apart
  simp only [h.key_eq]
  exact hp

/-- **Changing the maps of two trees that read alike**: where both can be written back, both
changes succeed, or both fail with the same error of reading the map. -/
theorem update_alike (hw : s.Writable d) (hw' : s.Writable d')
    (hl : (s.load d').map (fun _ => ()) = (s.load d).map (fun _ => ())) (change change' : List Entry → List Entry) :
    (s.update d' change').map (fun _ => ()) = (s.update d change).map (fun _ => ()) := by
  unfold update
  rcases Except.ok_ok_or_error_of_map_eq hl with ⟨es, es', hA, hB⟩ | ⟨e, hA, hB⟩
  · -- both maps are read, and both can be written back
    obtain ⟨x, hx⟩ : ∃ x, s.save d (change es) = .ok x := save_isOk hw.beside hw.reached hw.file hw.tempFree
    obtain ⟨x', hx'⟩ : ∃ x', s.save d' (change' es') = .ok x' :=
      save_isOk hw'.beside hw'.reached hw'.file hw'.tempFree
    simp only [hA, hB, bind, Except.bind, hx, hx', Except.map]
  · simp only [hA, hB, bind, Except.bind, Except.map]

theorem put_alike (hw : s.Writable d) (hw' : s.Writable d')
    (hl : (s.load d').map (fun _ => ()) = (s.load d).map (fun _ => ())) {e e' : Entry} (hn : e'.name = e.name) :
    (s.put d' e').map (fun _ => ()) = (s.put d e).map (fun _ => ()) := by
  unfold put
  rw [hn]
  split
  · rfl
  · exact update_alike hw hw' hl _ _

/-- **A change keeps the map as readable as it was**: it succeeds only on a map that can be
read, and what it writes reads back. -/
theorem load_update (hready : s.Ready V d) (hr : s.ReadsBack V) {change : List Entry → List Entry}
    (hc : ∀ es, (∀ e ∈ es, V e) → (es.map (·.name)).Nodup →
      (∀ e ∈ change es, V e) ∧ ((change es).map (·.name)).Nodup)
    (h : s.update d change = .ok d') :
    (s.load d').map (fun _ => ()) = (s.load d).map (fun _ => ()) := by
  obtain ⟨es, es', hl, hl', -⟩ := update_readBack hready.beside hr hready.within hc h
  rw [hl, hl']
  rfl

/-- Writing the map leaves no temporary file. -/
theorem save_noTemp (hk : d.key s.tempName ≠ d.key s.path) {es : List Entry} (h : s.save d es = .ok d') :
    d'.entry? s.tempName = none := by
  obtain ⟨d₁, hp, -, rfl⟩ := save_eq_ok h
  obtain ⟨rfl, -, htmp⟩ := Disk.putText_eq_ok hp
  rw [entry?_put_of_key_ne (by simpa using hk)]
  rcases entry?_erase_self (d := d.put s.tempName _) (q := s.tempName) with hnone | hdir
  · exact hnone
  · -- a directory there would have been one before the temporary file was written
    have h₁ : ((d.put s.tempName (.file (s.format.write (documentItem es)))).erase s.tempName).isDir
        s.tempName = true := isDir_eq_true_iff.2 hdir
    rw [isDir_of_isDir_put_file (isDir_of_isDir_erase h₁)] at htmp
    cases htmp

end ClassMap.Store

/-! ### What one run's step keeps -/

namespace Generation

open Disk ClassMap

section Steps

variable {cx : ClassContext} {st : RunState} {V : Entry → Prop}

@[simp] theorem unpublish_cache (name : String) (r : Option String) :
    (unpublish cx st name r).1.cache = st.cache := by
  unfold unpublish
  split
  · rfl
  · split <;> rfl

@[simp] theorem skip_cache (name target : String) : (skip cx st name target).1.cache = st.cache := by
  unfold skip
  split
  · exact unpublish_cache name none
  · split
    · rfl
    · exact unpublish_cache name (some target)

@[simp] theorem failClass_cache (name : String) (stage : Stage) (e : Error) :
    (failClass cx st name stage e).cache = st.cache := by
  unfold failClass
  dsimp only
  split <;> rfl

theorem failClass_errors (name : String) (stage : Stage) (e : Error) :
    (failClass cx st name stage e).errors = st.errors ++ [asRecorded (generationError name stage.name e)] := by
  unfold failClass
  dsimp only
  split <;> rfl

/-- **Skipping a class whose file is no directory skips it** and records no error, when the class
map's temporary file lies beside it and is no directory: the stale file and the class's entry
can always be removed. -/
theorem skip_skipped_of (hs : cx.store.Beside st.disk) (htmp : st.disk.isDir cx.store.tempName = false)
    {name target : String} (hdir : st.disk.isDir target = false) :
    (skip cx st name target).2 = .skipped ∧ (skip cx st name target).1.errors = st.errors := by
  -- removing the entry fails only where there is none to remove
  have hun : ∀ (st' : RunState) (r : Option String), cx.store.Beside st'.disk →
      st'.disk.isDir cx.store.tempName = false →
      (unpublish cx st' name r).2 = .skipped ∧ (unpublish cx st' name r).1.errors = st'.errors := by
    intro st' r hs' htmp'
    unfold unpublish
    cases hl : cx.store.lookup st'.disk name with
    | none => exact ⟨rfl, rfl⟩
    | some x =>
      cases hrm : cx.store.remove st'.disk name with
      | error err =>
        rw [Store.lookup_eq_none_of_remove_error hs' htmp' hrm] at hl
        cases hl
      | ok d => exact ⟨rfl, rfl⟩
  unfold skip
  cases hst : st.disk.stat target with
  | error err => exact hun st none hs htmp
  | ok x =>
    rw [remove_of_stat hst hdir]
    exact hun _ _ (hs.changedAt ChangedAt.erase) (Store.isDir_false_changedAt ChangedAt.erase htmp)

/-- Skipping a class leaves nothing at its file, when the file is reached, no directory and
apart from the class map. -/
theorem skip_entry?_self {target : String} (hT : cx.store.Apart st.disk target)
    (hb : st.disk.blocked? target = none) (hdir : st.disk.isDir target = false) (name : String) :
    (skip cx st name target).1.disk.entry? target = none := by
  have hkeys : st.disk.key target ∉ [st.disk.key cx.store.tempName, st.disk.key cx.store.path] := by
    simp [hT.1, hT.2.1]
  unfold skip
  cases hst : st.disk.stat target with
  | error err =>
    rw [(unpublish_changedAt name none).entry?_eq _ hkeys]
    cases he : st.disk.entry? target with
    | none => rfl
    | some x => simp [stat, lookupAs, hb, he] at hst
  | ok x =>
    rw [remove_of_stat hst hdir]
    dsimp only
    rw [(unpublish_changedAt name (some target)).entry?_eq _ (by simpa using hkeys)]
    exact entry?_erase_self_of hdir

/-- Failing a class keeps every file apart from the class map. -/
theorem failClass_entry?_of_apart {p : String} (hT : cx.store.Apart st.disk p) (name : String) (stage : Stage)
    (e : Error) : (failClass cx st name stage e).disk.entry? p = st.disk.entry? p :=
  (failClass_changedAt name stage e).entry?_eq p (by simp [hT.1, hT.2.1])

/-- Publishing an entry keeps every file apart from the class map. -/
theorem put_entry?_of_apart {d d' : Disk} {e : Entry} {p : String} (hT : cx.store.Apart d p)
    (h : cx.store.put d e = .ok d') : d'.entry? p = d.entry? p :=
  (put_changedAt h).entry?_eq p (by simp [hT.1, hT.2.1])

/-! #### No temporary file of the class map is left -/

section NoTemp

variable (hk : st.disk.key cx.store.tempName ≠ st.disk.key cx.store.path)
  (h0 : st.disk.entry? cx.store.tempName = none)
include hk h0

theorem failClass_noTemp (name : String) (stage : Stage) (e : Error) :
    (failClass cx st name stage e).disk.entry? cx.store.tempName = none := by
  rw [failClass_disk]
  split
  · obtain ⟨es, -, hs⟩ := Store.update_eq_ok ‹_›
    exact Store.save_noTemp hk hs
  · exact h0

theorem skip_noTemp {target : String} (hT : cx.store.Apart st.disk target) (name : String) :
    (skip cx st name target).1.disk.entry? cx.store.tempName = none := by
  obtain ⟨d, hd, hs⟩ := skip_disk cx st name target
  -- erasing the stale file leaves the temporary file's path
  have hd₀ : d.entry? cx.store.tempName = none ∧ d.key cx.store.tempName ≠ d.key cx.store.path := by
    rcases hd with rfl | ⟨-, rfl⟩
    · exact ⟨h0, hk⟩
    · rw [entry?_erase_of_key_ne (Ne.symm hT.2.1)]
      exact ⟨h0, hk⟩
  rcases hs with hs | hs
  · rw [hs]
    exact hd₀.1
  · obtain ⟨es, -, hsave⟩ := Store.update_eq_ok hs
    exact Store.save_noTemp hd₀.2 hsave

/-- **A step leaves no temporary file of the class map** where there was none. -/
theorem classStep_noTemp {c : ClassInfo} (hT : cx.store.Apart st.disk (targetOf c)) :
    (classStep cx st c).1.disk.entry? cx.store.tempName = none := by
  rcases classStep_cases cx st c with ⟨st', hd, -, -, heq⟩ | ⟨st', stage, e, hd, -, -, -, heq⟩ |
      ⟨spec, file, d₁, -, -, hw, hp, -, -, -⟩ | ⟨st', content, e, hw, -, -, heq⟩
  · rw [heq]
    exact skip_noTemp (by rw [hd]; exact hk) (by rw [hd]; exact h0) (by rw [hd]; exact hT) _
  · rw [heq]
    exact failClass_noTemp (by rw [hd]; exact hk) (by rw [hd]; exact h0) _ _ _
  · obtain ⟨rfl, -⟩ := writeAtomic_eq_ok hw
    obtain ⟨es, -, hs⟩ := Store.update_eq_ok (Store.put_eq_update hp)
    exact Store.save_noTemp (by simpa using hk) hs
  · obtain ⟨hd₁, -⟩ := writeAtomic_eq_ok hw
    rw [heq]
    refine failClass_noTemp (by rw [hd₁]; simpa using hk) ?_ _ _ _
    rw [hd₁, entry?_put_of_key_ne (Ne.symm hT.2.1)]
    exact h0

end NoTemp

/-! #### The class map stays as readable as it was -/

section Load

variable (hr : cx.store.ReadsBack V) (hready : cx.store.Ready V st.disk)
include hr hready

theorem failClass_load (name : String) (stage : Stage) (e : Error) :
    (cx.store.load (failClass cx st name stage e).disk).map (fun _ => ()) =
      (cx.store.load st.disk).map (fun _ => ()) := by
  rw [failClass_disk]
  split
  · exact Store.load_update hready hr (Store.removeEntry_within name) ‹_›
  · rfl

theorem skip_load {target : String} (hT : cx.store.Apart st.disk target) (name : String) :
    (cx.store.load (skip cx st name target).1.disk).map (fun _ => ()) =
      (cx.store.load st.disk).map (fun _ => ()) := by
  obtain ⟨d, hd, hs⟩ := skip_disk cx st name target
  obtain ⟨hready', -⟩ := stale_erased hready hT hd
  have hd' : cx.store.load d = cx.store.load st.disk := by
    rcases hd with rfl | ⟨-, rfl⟩
    · rfl
    · exact hT.load_eq ChangedAt.erase
  rcases hs with hs | hs
  · rw [hs, hd']
  · rw [Store.load_update hready' hr (Store.removeEntry_within name) hs, hd']

/-- **A step keeps the class map as readable as it was**: readable, or unreadable for the same
reason. -/
theorem classStep_load {c : ClassInfo} (hT : cx.store.Apart st.disk (targetOf c)) (hv : V (cx.entryOf c)) :
    (cx.store.load (classStep cx st c).1.disk).map (fun _ => ()) = (cx.store.load st.disk).map (fun _ => ()) := by
  -- writing the class's file leaves the map
  have hwritten : ∀ {content : String} {d₁ : Disk}, writeAtomic st.disk (targetOf c) content = .ok d₁ →
      cx.store.load d₁ = cx.store.load st.disk := fun hw => by
    obtain ⟨rfl, -⟩ := writeAtomic_eq_ok hw
    exact hT.load_eq ChangedAt.put_file
  rcases classStep_cases cx st c with ⟨st', hd, -, -, heq⟩ | ⟨st', stage, e, hd, -, -, -, heq⟩ |
      ⟨spec, file, d₁, -, -, hw, hp, -, -, -⟩ | ⟨st', content, e, hw, -, -, heq⟩
  · rw [heq, skip_load hr (by rw [hd]; exact hready) (by rw [hd]; exact hT), hd]
  · rw [heq, failClass_load hr (by rw [hd]; exact hready), hd]
  · rw [Store.load_update (written_ready hready hT hw).1 hr (Store.putEntry_within hv) (Store.put_eq_update hp),
      hwritten hw]
  · rw [heq, failClass_load hr (written_ready hready hT hw).1, hwritten hw]

end Load

/-! #### Over a run of classes -/

/-- **A run keeps the class map as readable as it was.** -/
theorem generateClasses_load (hr : cx.store.ReadsBack V) {cs : List ClassInfo} (hready : cx.store.Ready V st.disk)
    (hv : ∀ c ∈ cs, V (cx.entryOf c)) (hapart : ∀ c ∈ cs, cx.store.Apart st.disk (targetOf c)) :
    (cx.store.load (generateClasses cx st cs).disk).map (fun _ => ()) = (cx.store.load st.disk).map (fun _ => ()) := by
  induction cs generalizing st with
  | nil => rfl
  | cons c cs ih =>
    have hch := classStep_changedAt cx st c
    rw [generateClasses_cons, ih (classStep_ready hr hready (hapart c (by simp)) (hv c (by simp)))
      (fun x hx => hv x (by simp [hx])) (fun x hx => (hapart x (by simp [hx])).changedAt hch)]
    exact classStep_load hr hready (hapart c (by simp)) (hv c (by simp))

/-- **A run leaves no temporary file of the class map** where there was none. -/
theorem generateClasses_noTemp {cs : List ClassInfo} (hk : st.disk.key cx.store.tempName ≠ st.disk.key cx.store.path)
    (h0 : st.disk.entry? cx.store.tempName = none) (hapart : ∀ c ∈ cs, cx.store.Apart st.disk (targetOf c)) :
    (generateClasses cx st cs).disk.entry? cx.store.tempName = none := by
  induction cs generalizing st with
  | nil => exact h0
  | cons c cs ih =>
    have hch := classStep_changedAt cx st c
    rw [generateClasses_cons]
    refine ih (by rw [hch.key_eq, hch.key_eq]; exact hk) (classStep_noTemp hk h0 (hapart c (by simp)))
      (fun x hx => (hapart x (by simp [hx])).changedAt hch)

/-- **A step whose class's file is no directory never fails to skip**, when the class map's
temporary file lies beside it and is no directory. -/
theorem classStep_ne_skipFailed {c : ClassInfo} (hready : cx.store.Ready V st.disk)
    (hdir : st.disk.isDir (targetOf c) = false) : (classStep cx st c).2 ≠ .skipFailed := by
  rcases classStep_cases cx st c with ⟨st', hd, -, -, heq⟩ | ⟨st', stage, e, -, -, -, -, heq⟩ |
      ⟨spec, file, d₁, -, -, -, -, -, -, hres⟩ | ⟨st', content, e, -, -, -, heq⟩
  · rw [heq, (skip_skipped_of (by rw [hd]; exact hready.beside) (by rw [hd]; exact hready.tempFree)
      (by rw [hd]; exact hdir)).1]
    exact nofun
  · rw [heq]
    exact nofun
  · rw [hres]
    exact nofun
  · rw [heq]
    exact nofun

/-- **A class's entry after its step** is the entry of the run if the class was generated, and none
otherwise. -/
theorem classStep_lookup_self (hr : cx.store.ReadsBack V) {c : ClassInfo} (hready : cx.store.Ready V st.disk)
    (hT : cx.store.Apart st.disk (targetOf c)) (hv : V (cx.entryOf c)) (hdir : st.disk.isDir (targetOf c) = false) :
    cx.store.lookup (classStep cx st c).1.disk c.name =
      if (classStep cx st c).2.isGenerated then some (cx.entryOf c) else none := by
  cases hres : (classStep cx st c).2 with
  | generated content => exact (classStep_generated hr hready hT hv hres).2.2
  | skipped => exact (classStep_skipped hr hready hT hres).2
  | failed stage =>
    by_cases hs : stage = .publish
    · subst hs
      exact (classStep_publish_failed hr hready hT hres).2
    · exact (classStep_failed hr hready hT hres hs).2
  | skipFailed => exact absurd hres (classStep_ne_skipFailed hready hdir)

theorem Summary.tally_generatedFiles (s : Summary) (r : ClassResult) (t : String) (rm : List String) :
    (s.tally r t rm).generatedFiles = s.generatedFiles ++ if r.isGenerated then [t] else [] := by
  cases r <;> simp [Summary.tally, ClassResult.isGenerated]

/-- **The files a run lists as generated**: those it started with, then the file of each class it
generated, in order. -/
theorem generateClasses_generatedFiles (cx : ClassContext) (st : RunState) (cs : List ClassInfo) :
    (generateClasses cx st cs).summary.generatedFiles = st.summary.generatedFiles ++
      (cs.zip ((outcomes cx st cs).map (·.1))).filterMap fun x =>
        if x.2.isGenerated then some (targetOf x.1) else none := by
  induction cs generalizing st with
  | nil => simp [outcomes]
  | cons c cs ih =>
    obtain ⟨rm, -, hsum⟩ := (classStep_records cx st c).tally
    rw [generateClasses_cons, ih, hsum, Summary.tally_generatedFiles]
    cases hg : (classStep cx st c).2.isGenerated <;> simp [outcomes, hg]

end Steps

/-! ### Two runs at one class -/

/-- **The context of a later run** with the same configuration: another id and time. -/
def ClassContext.rerun (cx : ClassContext) (runId : String) (generatedAt : Time) : ClassContext :=
  { cx with runId, generatedAt }

namespace ClassContext

variable (cx : ClassContext) (r : String) (g : Time)

@[simp] theorem rerun_store : (cx.rerun r g).store = cx.store := rfl
@[simp] theorem rerun_provider : (cx.rerun r g).provider = cx.provider := rfl
@[simp] theorem rerun_templates : (cx.rerun r g).templates = cx.templates := rfl
@[simp] theorem rerun_runtime : (cx.rerun r g).runtime = cx.runtime := rfl

/-- A later run's entry of a class is the earlier run's with the later id and time. -/
theorem entryOf_rerun (c : ClassInfo) :
    (cx.rerun r g).entryOf c = { cx.entryOf c with runId := r, generatedAt := g } := rfl

end ClassContext

/-- **Writing a file in trees with the same directories** through a temporary file succeeds in
both or fails in both, and the errors a run records for the failures are of the same kinds:
creating the temporary file fails for the same reason code, whatever the missing directory. -/
theorem writeAtomic_alike {d d' : Disk} (h : SameDirs d d') (p t : String) :
    (writeAtomic d' p t).toOption.isSome = (writeAtomic d p t).toOption.isSome ∧
    ∀ e e', writeAtomic d p t = .error e → writeAtomic d' p t = .error e' → ∀ name stage,
      (asRecorded (generationError name stage e')).codeNames =
        (asRecorded (generationError name stage e)).codeNames := by
  have hput := h.putText_isOk (Disk.joinPath [Disk.dirName p, "." ++ Disk.baseName p ++ ".RAND.tmp"]) t
  unfold writeAtomic
  dsimp only
  rw [h.2 p]
  cases hA : d.putText (Disk.joinPath [Disk.dirName p, "." ++ Disk.baseName p ++ ".RAND.tmp"]) t with
  | error eA =>
    cases hB : d'.putText (Disk.joinPath [Disk.dirName p, "." ++ Disk.baseName p ++ ".RAND.tmp"]) t with
    | ok dB =>
      rw [hA, hB] at hput
      cases hput
    | error eB =>
      refine ⟨by dsimp only [Except.toOption, Option.isSome], ?_⟩
      rintro e e' ⟨⟩ ⟨⟩ name stage
      simp [asRecorded, generationError, Error.fileSystem, Error.failedTo, Error.wrap, Error.withContext,
        Error.mapCoded, Error.findFirst, DiskError.toError, Error.generationOf, Error.withCause,
        Error.codeNames, Error.hasCode]
  | ok dA =>
    cases hB : d'.putText (Disk.joinPath [Disk.dirName p, "." ++ Disk.baseName p ++ ".RAND.tmp"]) t with
    | error eB =>
      rw [hA, hB] at hput
      cases hput
    | ok dB =>
      -- the same directory stands at the path in both, or none does
      cases hdir : d.isDir p
      · refine ⟨by simp [Except.toOption], ?_⟩
        rintro e e' he -
        simp only [Bool.false_eq_true, if_false] at he
        cases he
      · refine ⟨by simp [Except.toOption], ?_⟩
        rintro e e' he he' name stage
        simp only [if_true] at he he'
        cases he
        cases he'
        rfl

/-- **Two steps alike**, from the states `a` and `b` of two runs at a class whose file is
`target`: the same result, errors of the same kinds, the same memo table, and the class's file
left as the first step left it wherever the second step found it so. -/
structure StepAlike (target : String) (a b : RunState) (x y : RunState × ClassResult) : Prop where
  result : y.2 = x.2
  errors : (y.1.errors.drop b.errors.length).map Error.codeNames =
    (x.1.errors.drop a.errors.length).map Error.codeNames
  cache : y.1.cache = x.1.cache
  file : b.disk.entry? target = x.1.disk.entry? target → y.1.disk.entry? target = x.1.disk.entry? target

section Alike

variable {cx : ClassContext} {r : String} {g : Time} {a b : RunState} {c : ClassInfo}

/-- **Two skips alike**, from states of two runs with the errors the runs had at the class: they
skip it, record no error and leave nothing at its file, when the trees have the same directories
and the file is reached, no directory and apart from a class map that can be written back. -/
theorem skip_alike {a' b' : RunState} {name target : String} (hea : a'.errors = a.errors)
    (heb : b'.errors = b.errors) (hc : b'.cache = a'.cache) (hdirs : SameDirs a'.disk b'.disk)
    (hw : cx.store.Writable a'.disk) (hT : cx.store.Apart a'.disk target)
    (hb : a'.disk.blocked? target = none) (hdir : a'.disk.isDir target = false) :
    StepAlike target a b (skip cx a' name target) (skip (cx.rerun r g) b' name target) := by
  have hwB : cx.store.Writable b'.disk := hw.sameDirs hdirs
  have hdirB : b'.disk.isDir target = false := by
    rw [hdirs.2]
    exact hdir
  obtain ⟨hsA, heA⟩ := @skip_skipped_of cx a' hw.beside hw.tempFree name target hdir
  obtain ⟨hsB, heB⟩ := @skip_skipped_of (cx.rerun r g) b' hwB.beside hwB.tempFree name target hdirB
  refine ⟨hsB.trans hsA.symm, by rw [heA, heB, hea, heb, List.drop_length, List.drop_length], by simp [hc],
    fun _ => ?_⟩
  rw [@skip_entry?_self (cx.rerun r g) b' target (hT.sameDirs hdirs) (hdirs.blocked?_eq_none_iff.2 hb) hdirB,
    skip_entry?_self hT hb hdir]

/-- **Two failures alike** at one stage, from states of two runs with the errors the runs had at
the class, with errors of the same kinds: the file apart from the class map is kept by both. -/
theorem failClass_alike {a' b' : RunState} {name target : String} {stage : Stage} {e e' : Error}
    (hea : a'.errors = a.errors) (heb : b'.errors = b.errors) (hc : b'.cache = a'.cache)
    (hTa : cx.store.Apart a'.disk target) (hTb : cx.store.Apart b'.disk target)
    (hfile : b.disk.entry? target = a'.disk.entry? target → b'.disk.entry? target = a'.disk.entry? target)
    (hkinds : (asRecorded (generationError name stage.name e')).codeNames =
      (asRecorded (generationError name stage.name e)).codeNames) :
    StepAlike target a b (failClass cx a' name stage e, .failed stage)
      (failClass (cx.rerun r g) b' name stage e', .failed stage) := by
  refine ⟨rfl, ?_, by simp [hc], fun h => ?_⟩
  · rw [failClass_errors, failClass_errors, hea, heb, List.drop_left, List.drop_left]
    simp [hkinds]
  · show (failClass (cx.rerun r g) b' name stage e').disk.entry? target =
      (failClass cx a' name stage e).disk.entry? target
    rw [@failClass_entry?_of_apart (cx.rerun r g) b' _ hTb, failClass_entry?_of_apart hTa]
    exact hfile (h.trans (failClass_entry?_of_apart hTa _ _ _))

/-- **Two runs at a class in alike states**, with the same memo table, the same directories, and
class maps that can be written back and read alike, take steps alike, when the class's file is
reached, no directory and apart from the map. -/
theorem classStep_alike (hc : b.cache = a.cache) (hdirs : SameDirs a.disk b.disk) (hw : cx.store.Writable a.disk)
    (hmap : (cx.store.load b.disk).map (fun _ => ()) = (cx.store.load a.disk).map (fun _ => ()))
    (hT : cx.store.Apart a.disk (targetOf c)) (hb : a.disk.blocked? (targetOf c) = none)
    (hdir : a.disk.isDir (targetOf c) = false) :
    StepAlike (targetOf c) a b (classStep cx a c) (classStep (cx.rerun r g) b c) := by
  have hTB : cx.store.Apart b.disk (targetOf c) := hT.sameDirs hdirs
  unfold classStep
  simp only [ClassContext.rerun_provider, ClassContext.rerun_templates, ClassContext.rerun_runtime,
    ClassContext.rerun_store, hc]
  cases hdoc : c.documented
  · simp only [Bool.not_false, ↓reduceIte]
    exact skip_alike rfl rfl hc hdirs hw hT hb hdir
  · simp only [Bool.not_true, Bool.false_eq_true, ↓reduceIte]
    rcases hsyn : (c.synthesize cx.provider).run' a.cache with ⟨res, cache⟩
    cases res with
    | error e => exact failClass_alike rfl rfl rfl hT hTB id rfl
    | ok spec =>
      by_cases hm : spec.methods.isEmpty
      · simp only [hm, ↓reduceIte]
        exact skip_alike rfl rfl rfl hdirs hw hT hb hdir
      · simp only [hm, Bool.false_eq_true, ↓reduceIte]
        cases hren : spec.render cx.templates cx.runtime c with
        | error e => exact failClass_alike rfl rfl rfl hT hTB id rfl
        | ok file =>
          dsimp only
          obtain ⟨hok, hkinds⟩ := writeAtomic_alike hdirs (targetOf c) file.content
          rcases Except.ok_ok_or_error_error hok with ⟨da, db, hwa, hwb⟩ | ⟨e, e', hwa, hwb⟩
          · rw [hwa, hwb]
            dsimp only
            obtain ⟨hda, -⟩ := writeAtomic_eq_ok hwa
            obtain ⟨hdb, -⟩ := writeAtomic_eq_ok hwb
            -- the file is written in both, and the maps stay writable and read alike
            have hca : ChangedAt a.disk da [a.disk.key (targetOf c)] := by
              rw [hda]
              exact ChangedAt.put_file
            have hcb : ChangedAt b.disk db [b.disk.key (targetOf c)] := by
              rw [hdb]
              exact ChangedAt.put_file
            have hfa : da.entry? (targetOf c) = some (.file file.content) := by
              rw [hda]
              exact entry?_put_self hdir
            have hfb : db.entry? (targetOf c) = some (.file file.content) := by
              rw [hdb]
              exact entry?_put_self (by rw [hdirs.2]; exact hdir)
            have hTa : cx.store.Apart da (targetOf c) := hT.changedAt hca
            have hTb : cx.store.Apart db (targetOf c) := hTB.changedAt hcb
            have hput := Store.put_alike (hw.changedAt_apart hT hca) ((hw.sameDirs hdirs).changedAt_apart hTB hcb)
              (by rw [hT.load_eq hca, hTB.load_eq hcb]; exact hmap)
              (show ((cx.rerun r g).entryOf c).name = (cx.entryOf c).name from rfl)
            rcases Except.ok_ok_or_error_of_map_eq hput with ⟨da', db', hpa, hpb⟩ | ⟨e, hpa, hpb⟩
            · rw [hpa, hpb]
              refine ⟨rfl, by simp, rfl, fun _ => ?_⟩
              show db'.entry? (targetOf c) = da'.entry? (targetOf c)
              rw [put_entry?_of_apart hTb hpb, put_entry?_of_apart hTa hpa, hfa, hfb]
            · -- publishing fails for the same reason in both
              rw [hpa, hpb]
              exact failClass_alike rfl rfl rfl hTa hTb (fun _ => hfb.trans hfa.symm) rfl
          · rw [hwa, hwb]
            exact failClass_alike rfl rfl rfl hT hTB id (hkinds e e' hwa hwb _ _)

end Alike

/-! ### Two runs over classes -/

/-- The keys a run of classes may change: its classes' files and the class map's files. -/
def runKeys (cx : ClassContext) (d : Disk) (cs : List ClassInfo) : List String :=
  cs.map (fun c => d.key (targetOf c)) ++ [d.key cx.store.tempName, d.key cx.store.path]

/-- **Classes whose run can be repeated** on the tree `d` by a second run with the id `r` and the
time `g`: the first run's layout (`Layout`), with the second run's entries drawn from `V` as well;
the class map reached and no directory, with no temporary file, which is not the map itself; the
classes' files reached and no directories; and the keys the runs write holding no directory and
naming no source file. -/
structure Repeatable (cx : ClassContext) (r : String) (g : Time) (V : Entry → Prop) (d : Disk)
    (cs : List ClassInfo) : Prop extends Layout cx V d cs where
  rerun : ∀ c ∈ cs, V ((cx.rerun r g).entryOf c)
  mapReached : d.blocked? cx.store.path = none
  mapFile : d.isDir cx.store.path = false
  noTemp : d.entry? cx.store.tempName = none
  tempApart : d.key cx.store.tempName ≠ d.key cx.store.path
  reached : ∀ c ∈ cs, d.blocked? (targetOf c) = none
  files : ∀ c ∈ cs, d.isDir (targetOf c) = false
  unread : ∀ k ∈ runKeys cx d cs, Unread d k

/-- **Two runs alike** before the classes still to come: the first at `a` and the second at `b`,
both on trees rewritten at the keys `ks` from the tree `d` the first run started from, with the
same memo table, the class map's store ready on both, and maps that read alike. -/
structure Alike (cx : ClassContext) (V : Entry → Prop) (d : Disk) (ks : List String) (a b : RunState) :
    Prop where
  cache : b.cache = a.cache
  first : Rewritten ks d a.disk
  second : Rewritten ks d b.disk
  readyA : cx.store.Ready V a.disk
  readyB : cx.store.Ready V b.disk
  map : (cx.store.load b.disk).map (fun _ => ()) = (cx.store.load a.disk).map (fun _ => ())

section Repeated

variable {cx : ClassContext} {r : String} {g : Time} {V : Entry → Prop} {d : Disk} {cs : List ClassInfo}

theorem stepKeys_mem_runKeys {a : Disk} {c : ClassInfo} (h : Rewritten (runKeys cx d cs) d a) (hc : c ∈ cs) :
    ∀ k ∈ stepKeys cx a c, k ∈ runKeys cx d cs := by
  intro k hk
  simp only [stepKeys, h.key_eq, List.mem_cons, List.not_mem_nil, or_false] at hk
  rcases hk with hk | hk | hk <;> rw [hk]
  · exact List.mem_append_left _ (List.mem_map_of_mem (f := fun x => d.key (targetOf x)) hc)
  · exact List.mem_append_right _ (by simp)
  · exact List.mem_append_right _ (by simp)

variable (hrep : Repeatable cx r g V d cs)
include hrep

theorem Repeatable.writable : cx.store.Writable d :=
  ⟨hrep.ready.beside, hrep.mapReached, hrep.mapFile, hrep.ready.tempFree⟩

/-- **One class's steps keep two runs alike**, and are alike themselves. -/
theorem Alike.step {a b : RunState} {c : ClassInfo} (hc : c ∈ cs) (h : Alike cx V d (runKeys cx d cs) a b) :
    StepAlike (targetOf c) a b (classStep cx a c) (classStep (cx.rerun r g) b c) ∧
      Alike cx V d (runKeys cx d cs) (classStep cx a c).1 (classStep (cx.rerun r g) b c).1 := by
  have hdA : SameDirs d a.disk := h.first.sameDirs hrep.unread
  have hdB : SameDirs d b.disk := h.second.sameDirs hrep.unread
  have hT : cx.store.Apart a.disk (targetOf c) := (hrep.apart c hc).rewritten h.first
  have hTB : cx.store.Apart b.disk (targetOf c) := (hrep.apart c hc).rewritten h.second
  have hstep : StepAlike (targetOf c) a b (classStep cx a c) (classStep (cx.rerun r g) b c) :=
    classStep_alike h.cache (hdA.symm.trans hdB) (hrep.writable.sameDirs hdA) h.map hT
      (hdA.blocked?_eq_none_iff.2 (hrep.reached c hc)) (by rw [hdA.2]; exact hrep.files c hc)
  refine ⟨hstep, hstep.cache, h.first.trans ((classStep_rewritten cx a c).mono (stepKeys_mem_runKeys h.first hc)),
    h.second.trans ((classStep_rewritten (cx.rerun r g) b c).mono (stepKeys_mem_runKeys h.second hc)),
    classStep_ready hrep.readsBack h.readyA hT (hrep.entries c hc),
    @classStep_ready (cx.rerun r g) b c V hrep.readsBack h.readyB hTB (hrep.rerun c hc), ?_⟩
  exact ((@classStep_load (cx.rerun r g) b V hrep.readsBack h.readyB c hTB (hrep.rerun c hc)).trans h.map).trans
    (classStep_load hrep.readsBack h.readyA hT (hrep.entries c hc)).symm

/-- **Two runs alike over classes** come to the same results, record errors of the same kinds, and
stay alike. -/
theorem outcomes_alike {xs : List ClassInfo} (hxs : ∀ c ∈ xs, c ∈ cs) {a b : RunState}
    (h : Alike cx V d (runKeys cx d cs) a b) :
    (outcomes (cx.rerun r g) b xs).map (fun o => (o.1, o.2.map Error.codeNames)) =
        (outcomes cx a xs).map (fun o => (o.1, o.2.map Error.codeNames)) ∧
      Alike cx V d (runKeys cx d cs) (generateClasses cx a xs) (generateClasses (cx.rerun r g) b xs) := by
  induction xs generalizing a b with
  | nil => exact ⟨rfl, h⟩
  | cons c xs ih =>
    obtain ⟨hstep, h'⟩ := Alike.step hrep (hxs c (by simp)) h
    obtain ⟨hout, hend⟩ := ih (fun x hx => hxs x (by simp [hx])) h'
    refine ⟨?_, hend⟩
    simp only [outcomes, List.map_cons, hout, hstep.result, hstep.errors]

section Rerun

variable {st st' : RunState} (hd : st.disk = d) (hs' : st'.disk = (generateClasses cx st cs).disk)
  (hcache : st'.cache = st.cache)
include hd hs' hcache

/-- The second run starts alike with the first: from the tree the first run left, with the same
memo table. -/
theorem Alike.start : Alike cx V d (runKeys cx d cs) st st' := by
  subst hd
  have hrw := generateClasses_rewritten cx st cs
  have hready := generateClasses_ready hrep.readsBack hrep.ready hrep.entries hrep.apart
  refine ⟨hcache, .refl _, by rw [hs']; exact hrw, hrep.ready, by rw [hs']; exact hready, ?_⟩
  rw [hs', generateClasses_load hrep.readsBack hrep.ready hrep.entries hrep.apart]

/-- The second run's layout: the first run's, on the tree the first run left. -/
theorem Repeatable.second : Layout (cx.rerun r g) V st'.disk cs := by
  have h₀ := Alike.start hrep hd hs' hcache
  refine ⟨?_, hrep.names_nodup, fun c hc => (hrep.apart c hc).rewritten h₀.second, hrep.readsBack, h₀.readyB,
    hrep.rerun⟩
  simp only [h₀.second.key_eq]
  exact hrep.targets_nodup

/-- **A class after two runs**: its file as the first run left it, and its entry the first run's
with the second run's id and time. -/
theorem generateClasses_repeats_class {c : ClassInfo} (hc : c ∈ cs) :
    (generateClasses (cx.rerun r g) st' cs).disk.entry? (targetOf c) =
        (generateClasses cx st cs).disk.entry? (targetOf c) ∧
      cx.store.lookup (generateClasses (cx.rerun r g) st' cs).disk c.name =
        (cx.store.lookup (generateClasses cx st cs).disk c.name).map fun e => { e with runId := r, generatedAt := g } := by
  have h₀ := Alike.start hrep hd hs' hcache
  have hl' := hrep.second hd hs' hcache
  subst hd
  have hv := hrep.entries c hc
  have hv' := hrep.rerun c hc
  obtain ⟨pre, post, rfl⟩ := List.append_of_mem hc
  obtain ⟨hreadyA, hTA, -⟩ := hrep.toLayout.before
  obtain ⟨hreadyB, hTB, hbeforeB⟩ := hl'.before
  obtain ⟨hfileA, -, hlookA⟩ := hrep.toLayout.after rfl (classStep_ready hrep.readsBack hreadyA hTA hv)
  obtain ⟨hfileB, -, hlookB⟩ := hl'.after rfl (@classStep_ready (cx.rerun r g) _ c V hrep.readsBack hreadyB hTB hv')
  -- the two runs are alike at the class
  have halike := (outcomes_alike hrep (fun x hx => List.mem_append_left _ hx) h₀).2
  have hstep := (Alike.step hrep hc halike).1
  have hdirA : (generateClasses cx st pre).disk.isDir (targetOf c) = false := by
    rw [(halike.first.sameDirs hrep.unread).2]
    exact hrep.files c hc
  have hdirB : (generateClasses (cx.rerun r g) st' pre).disk.isDir (targetOf c) = false := by
    rw [(halike.second.sameDirs hrep.unread).2]
    exact hrep.files c hc
  refine ⟨?_, ?_⟩
  · rw [hfileB, hstep.file (hbeforeB.trans (by rw [hs', hfileA])), hfileA]
  · have hselfB := @classStep_lookup_self (cx.rerun r g) _ V hrep.readsBack c hreadyB hTB hv' hdirB
    simp only [ClassContext.rerun_store] at hlookB hselfB
    rw [hlookB, hlookA, hselfB, classStep_lookup_self hrep.readsBack hreadyA hTA hv hdirA, hstep.result]
    split <;> rfl

/-- **A run of classes repeated on the tree it left**, by a run with another id and time, leaves
every file but the class map as the first run left it, and every entry as the first run left it or
with the second run's id and time; its classes come to the same results, with errors of the same
kinds. -/
theorem generateClasses_repeats :
    (∀ p, d.key p ≠ d.key cx.store.path →
      (generateClasses (cx.rerun r g) st' cs).disk.entry? p = (generateClasses cx st cs).disk.entry? p) ∧
    (∀ n, cx.store.lookup (generateClasses (cx.rerun r g) st' cs).disk n =
        cx.store.lookup (generateClasses cx st cs).disk n ∨
      cx.store.lookup (generateClasses (cx.rerun r g) st' cs).disk n =
        (cx.store.lookup (generateClasses cx st cs).disk n).map fun e => { e with runId := r, generatedAt := g }) ∧
    (outcomes (cx.rerun r g) st' cs).map (fun o => (o.1, o.2.map Error.codeNames)) =
      (outcomes cx st cs).map (fun o => (o.1, o.2.map Error.codeNames)) := by
  have h₀ := Alike.start hrep hd hs' hcache
  have hl' := hrep.second hd hs' hcache
  subst hd
  -- every tree of the two runs keys paths as the tree the first run started from
  have hkF : ∀ x, (generateClasses cx st cs).disk.key x = st.disk.key x :=
    (generateClasses_rewritten cx st cs).key_eq
  have hkF' : ∀ x, (generateClasses (cx.rerun r g) st' cs).disk.key x = st.disk.key x := fun x => by
    rw [(generateClasses_rewritten (cx.rerun r g) st' cs).key_eq, hs', hkF]
  -- a path at the key of another holds in both final trees what the other holds
  have hat : ∀ p q, st.disk.key p = st.disk.key q →
      (generateClasses (cx.rerun r g) st' cs).disk.entry? p = (generateClasses (cx.rerun r g) st' cs).disk.entry? q ∧
        (generateClasses cx st cs).disk.entry? p = (generateClasses cx st cs).disk.entry? q := fun p q hpq =>
    ⟨entry?_eq_of_key_eq (by rw [hkF', hkF']; exact hpq), entry?_eq_of_key_eq (by rw [hkF, hkF]; exact hpq)⟩
  refine ⟨fun p hp => ?_, fun n => ?_, (outcomes_alike hrep (fun _ h => h) h₀).1⟩
  · by_cases hk : st.disk.key p ∈ runKeys cx st.disk cs
    · simp only [runKeys, List.mem_append, List.mem_map, List.mem_cons, List.not_mem_nil, or_false] at hk
      rcases hk with ⟨c, hc, hkc⟩ | hkt | hkp
      · -- a class's file
        obtain ⟨e₁, e₂⟩ := hat p (targetOf c) hkc.symm
        rw [e₁, e₂, (generateClasses_repeats_class hrep rfl hs' hcache hc).1]
      · -- the class map's temporary file, which neither run leaves
        have hnone : (generateClasses cx st cs).disk.entry? cx.store.tempName = none :=
          generateClasses_noTemp hrep.tempApart hrep.noTemp hrep.apart
        have hnone' : (generateClasses (cx.rerun r g) st' cs).disk.entry? cx.store.tempName = none :=
          generateClasses_noTemp (by rw [hs', hkF, hkF]; exact hrep.tempApart) (by rw [hs']; exact hnone) hl'.apart
        obtain ⟨e₁, e₂⟩ := hat p cx.store.tempName hkt
        rw [e₁, e₂, hnone, hnone']
      · exact absurd hkp hp
    · -- elsewhere the second run changes nothing
      rw [(generateClasses_changedAt (cx.rerun r g) st' cs).entry?_eq p
        (by simp only [hs', hkF, ClassContext.rerun_store]; exact hk), hs']
  · by_cases hn : n ∈ cs.map (·.name)
    · obtain ⟨c, hc, rfl⟩ := List.mem_map.1 hn
      exact .inr (generateClasses_repeats_class hrep rfl hs' hcache hc).2
    · -- a name of no class keeps its entry
      have hkeep := @generateClasses_lookup_of_not_mem (cx.rerun r g) V hrep.readsBack st' cs h₀.readyB hrep.rerun
        hl'.apart n hn
      simp only [ClassContext.rerun_store] at hkeep
      exact .inl (by rw [hkeep, hs'])

end Rerun

end Repeated

/-! ### What two runs with the same results report -/

section Reports

variable {cx cx' : ClassContext} {st st' : RunState} {cs : List ClassInfo}
  (h : (outcomes cx' st' cs).map (fun o => (o.1, o.2.map Error.codeNames)) =
    (outcomes cx st cs).map (fun o => (o.1, o.2.map Error.codeNames)))
include h

theorem outcomes_results_eq : (outcomes cx' st' cs).map (·.1) = (outcomes cx st cs).map (·.1) := by
  simpa [List.map_map, Function.comp_def] using congrArg (List.map Prod.fst) h

/-- Two runs of classes with the same results raise every counter of their summaries alike. -/
theorem generateClasses_counter_alike (f : Summary → Nat) (P : ClassResult → Bool)
    (hf : ∀ s r t rm, f (s.tally r t rm) = f s + if P r then 1 else 0) (hstart : f st'.summary = f st.summary) :
    f (generateClasses cx' st' cs).summary = f (generateClasses cx st cs).summary := by
  rw [generateClasses_counter cx' f P hf, generateClasses_counter cx f P hf, hstart]
  have hcount := congrArg (List.countP P) (outcomes_results_eq h)
  simp only [List.countP_map] at hcount
  exact congrArg _ hcount

/-- Two runs of classes with the same results list the same generated files after the same start. -/
theorem generateClasses_generatedFiles_alike (hstart : st'.summary.generatedFiles = st.summary.generatedFiles) :
    (generateClasses cx' st' cs).summary.generatedFiles = (generateClasses cx st cs).summary.generatedFiles := by
  rw [generateClasses_generatedFiles, generateClasses_generatedFiles, hstart, outcomes_results_eq h]

/-- Two runs of classes whose steps record errors of the same kinds end with errors of the same
kinds after a start with errors of the same kinds. -/
theorem generateClasses_errors_alike
    (hstart : st'.errors.map Error.codeNames = st.errors.map Error.codeNames) :
    (generateClasses cx' st' cs).errors.map Error.codeNames = (generateClasses cx st cs).errors.map Error.codeNames := by
  have hsteps := congrArg (fun xs => (xs.map Prod.snd).flatten) h
  simp only [List.map_map, Function.comp_def] at hsteps
  rw [generateClasses_errors, generateClasses_errors, List.map_append, List.map_append, hstart, List.map_flatten,
    List.map_flatten, List.map_map, List.map_map, Function.comp_def, hsteps]

end Reports

/-- **The kinds of the errors a run reports**: the codes of each error it records, in order. -/
def Outcome.errorKinds (o : Outcome) : List (List String) :=
  match o.error with
  | some (.multiple es) => es.map Error.codeNames
  | some e => [e.codeNames]
  | none => []

theorem Outcome.errorKinds_of_errors {o : Outcome} {es : List Error}
    (h : o.error = if es.isEmpty then none else some (.multiple es)) : o.errorKinds = es.map Error.codeNames := by
  unfold Outcome.errorKinds
  rw [h]
  cases es with
  | nil => rfl
  | cons e es => rfl

/-! ### A run repeated -/

/-- The context a run of a configuration generates the classes of a module in. -/
def runContext (cfg : Config) (setup : Setup) (m : Module.GoModule) : ClassContext :=
  { goModule := m, store := Store.inDir cfg.generatedDir, provider := ⟨cfg.methodMap.getD [], true⟩,
    templates := Render.TemplateSet.standard,
    runtime := if cfg.runtime.isEmpty then Render.defaultRuntime else cfg.runtime,
    runId := setup.runId, generatedAt := setup.generatedAt }

/-- The state a run of a configuration starts the classes read from package directories in. -/
def runStart (setup : Setup) (disk : Disk) (diag : Diagnostics) (m : Module.GoModule) (dirs : List String) :
    RunState :=
  { disk, diag, errors := packageFailures disk m dirs, cache := some Cache.empty,
    summary := { runId := setup.runId, packages := dirs.length, scanned := (classesRead disk m dirs).length } }

/-- **Generating the classes read** runs them in the run's context from its start, and reports the
summary, the errors and the tree that run leaves. -/
theorem generateAll_runs (cfg : Config) (setup : Setup) (disk : Disk) (diag : Diagnostics) (m : Module.GoModule)
    (dirs : List String) : ∃ diag',
      (generateAll cfg setup disk diag m dirs).summary =
        (generateClasses (runContext cfg setup m) (runStart setup disk diag' m dirs) (classesRead disk m dirs)).summary.sorted ∧
      (generateAll cfg setup disk diag m dirs).error =
        (if (generateClasses (runContext cfg setup m) (runStart setup disk diag' m dirs) (classesRead disk m dirs)).errors.isEmpty
          then none
          else some (.multiple
            (generateClasses (runContext cfg setup m) (runStart setup disk diag' m dirs) (classesRead disk m dirs)).errors)) ∧
      (generateAll cfg setup disk diag m dirs).disk =
        (generateClasses (runContext cfg setup m) (runStart setup disk diag' m dirs) (classesRead disk m dirs)).disk := by
  have hcs : ∀ d, (parsePackages disk m dirs d).1 = classesRead disk m dirs := fun d =>
    (parsePackages_eq disk m dirs d).1
  have hes : ∀ d, (parsePackages disk m dirs d).2.1 = packageFailures disk m dirs := fun d =>
    (parsePackages_eq disk m dirs d).2
  simp only [generateAll, hcs, hes]
  exact ⟨_, rfl, rfl, rfl⟩

/-- A module with one documented class and no generated file yet. -/
def documentedDisk : Disk :=
  ⟨"/work", [("go.mod", .file "module example.com/app\n\ngo 1.22\n"), ("models", .dir),
    ("models/a.go", .file "package models\n\ntype Article struct \x7b\n\t// @Get\n\t// @var string\n\ttitle string\n\x7d\n"),
    (".accessorgen", .dir)]⟩

/-- The class map entry of the documented class, as a run stamps it. -/
def documentedEntry (runId : String) : Entry :=
  ⟨"example.com/app/models.Article", "models/zz_generated.article.accessors.go", runId, Time.zero⟩

/-- The class map in YAML reads back every map of the documented class's entry, under either run. -/
theorem documented_readsBack :
    (Store.inDir ".accessorgen").ReadsBack (· ∈ [documentedEntry "run-1", documentedEntry "run-2"]) :=
  .yaml_same_name rfl rfl (by decide +kernel)

/-- The documented module keeps its class apart from the class map, and nothing a run writes
holds a directory or a source file. -/
theorem documented_repeatable : Repeatable (runContext staleConfig ⟨"run-1", Time.zero, ""⟩ sampleModule) "run-2" Time.zero
    (· ∈ [documentedEntry "run-1", documentedEntry "run-2"]) documentedDisk
    (classesRead documentedDisk sampleModule ["/work/models"]) := by
  have hload : (runContext staleConfig ⟨"run-1", Time.zero, ""⟩ sampleModule).store.load documentedDisk = .ok [] :=
    Except.eq_ok_of_toOption (by decide +kernel)
  -- the facts about the tree and its one class, decided together
  obtain ⟨htargets, hnames, hapart, hbeside, htemp, hentries, hrerun, hmapReached, hmapFile, hnoTemp, htempApart,
      hreached, hfiles, hunread⟩ :
      let cx := runContext staleConfig ⟨"run-1", Time.zero, ""⟩ sampleModule
      let cs := classesRead documentedDisk sampleModule ["/work/models"]
      let V := (· ∈ [documentedEntry "run-1", documentedEntry "run-2"])
      (cs.map fun c => documentedDisk.key (targetOf c)).Nodup ∧ (cs.map (·.name)).Nodup ∧
        (∀ c ∈ cs, cx.store.Apart documentedDisk (targetOf c)) ∧ cx.store.Beside documentedDisk ∧
        documentedDisk.isDir cx.store.tempName = false ∧ (∀ c ∈ cs, V (cx.entryOf c)) ∧
        (∀ c ∈ cs, V ((cx.rerun "run-2" Time.zero).entryOf c)) ∧ documentedDisk.blocked? cx.store.path = none ∧
        documentedDisk.isDir cx.store.path = false ∧ documentedDisk.entry? cx.store.tempName = none ∧
        documentedDisk.key cx.store.tempName ≠ documentedDisk.key cx.store.path ∧
        (∀ c ∈ cs, documentedDisk.blocked? (targetOf c) = none) ∧ (∀ c ∈ cs, documentedDisk.isDir (targetOf c) = false) ∧
        ∀ k ∈ runKeys cx documentedDisk cs, Unread documentedDisk k := by
    decide +kernel
  exact
    { targets_nodup := htargets
      names_nodup := hnames
      apart := hapart
      readsBack := documented_readsBack
      ready := ⟨hbeside, htemp, fun es hl => by rw [hload] at hl; cases hl; simp⟩
      entries := hentries
      rerun := hrerun
      mapReached := hmapReached
      mapFile := hmapFile
      noTemp := hnoTemp
      tempApart := htempApart
      reached := hreached
      files := hfiles
      unread := hunread }

end Generation

end Accessors
