import Accessors.Proofs.Generation.Removal
import Accessors.Proofs.ClassMap.Updates

/-!
# Pruning the class map after a clean

Once the generated files are removed, a clean goes through the entries of the class map in class
order and drops those whose file, read from the module's directory, was not removed by the clean
and does not exist (`keepsEntry`). Each drop writes the whole map back through its temporary
file.

Writing the map changes the text of one file and nothing else about the tree: the map is a file
before and after, and the temporary file is gone again (`Store.save_sameKinds`). Two trees that
differ only in the texts of their files (`Disk.SameKinds`) agree on what can be reached and on
what exists (`SameKinds.stat_isSome_eq`), so every entry is judged on the tree the step started
from. Along the entries the store stays ready and each class dropped so far has no entry while
every other class keeps its own (`Pruned`, `foldl_dropEntry`). At the end the map keeps exactly
the entries that pass the test (`pruneClassMap_spec`).
-/

namespace Accessors.Disk

/-- **Two trees of one shape**: the same working directory, and at every path a directory in one
exactly when in the other and something in one exactly when in the other. Only the texts of
files may differ. -/
structure SameKinds (d d' : Disk) : Prop where
  root_eq : d'.root = d.root
  isDir_eq : ∀ p, d'.isDir p = d.isDir p
  present_eq : ∀ p, d'.present p = d.present p

namespace SameKinds

variable {d d' d'' : Disk} {p : String}

theorem refl (d : Disk) : SameKinds d d := ⟨rfl, fun _ => rfl, fun _ => rfl⟩

theorem symm (h : SameKinds d d') : SameKinds d' d :=
  ⟨h.root_eq.symm, fun p => (h.isDir_eq p).symm, fun p => (h.present_eq p).symm⟩

theorem trans (h₁ : SameKinds d d') (h₂ : SameKinds d' d'') : SameKinds d d'' :=
  ⟨h₂.root_eq.trans h₁.root_eq, fun p => (h₂.isDir_eq p).trans (h₁.isDir_eq p),
    fun p => (h₂.present_eq p).trans (h₁.present_eq p)⟩

/-- Trees whose entries agree except for the texts of some files have one shape. -/
theorem of_entry? (hroot : d'.root = d.root)
    (h : ∀ p, d'.entry? p = d.entry? p ∨
      ∃ t t', d'.entry? p = some (.file t) ∧ d.entry? p = some (.file t')) :
    SameKinds d d' := by
  refine ⟨hroot, fun p => ?_, fun p => ?_⟩ <;>
  rcases h p with he | ⟨t, t', h₁, h₂⟩ <;> simp [isDir, present, *]

/-- At every path two trees of one shape hold nothing, a directory, or a file each. -/
theorem entry?_cases (h : SameKinds d d') (p : String) :
    (d'.entry? p = none ∧ d.entry? p = none) ∨ (d'.entry? p = some .dir ∧ d.entry? p = some .dir) ∨
      ∃ t t', d'.entry? p = some (.file t) ∧ d.entry? p = some (.file t') := by
  have hdir := h.isDir_eq p
  have hpres := h.present_eq p
  unfold isDir at hdir
  unfold present at hpres
  rcases hd' : d'.entry? p with _ | (t' | _) <;> rcases hd : d.entry? p with _ | (t | _) <;>
    simp_all

theorem entry?_eq_none_iff (h : SameKinds d d') : d'.entry? p = none ↔ d.entry? p = none := by
  rcases h.entry?_cases p with ⟨h₁, h₂⟩ | ⟨h₁, h₂⟩ | ⟨t, t', h₁, h₂⟩ <;> simp [h₁, h₂]

theorem exists_file (h : SameKinds d d') {t : String} (he : d.entry? p = some (.file t)) :
    ∃ t', d'.entry? p = some (.file t') := by
  rcases h.entry?_cases p with ⟨-, h₂⟩ | ⟨-, h₂⟩ | ⟨t₁, -, h₁, -⟩
  · rw [h₂] at he
    cases he
  · rw [h₂] at he
    cases he
  · exact ⟨t₁, h₁⟩

theorem key_eq (h : SameKinds d d') (p : String) : d'.key p = d.key p := by
  simp [key, absPath, h.root_eq]

/-- Trees of one shape block the same paths, for the same reason. -/
theorem blocked?_eq (h : SameKinds d d') (p : String) : d'.blocked? p = d.blocked? p := by
  simp only [blocked?, h.key_eq]
  congr 2
  funext a
  rcases h.entry?_cases a with ⟨h₁, h₂⟩ | ⟨h₁, h₂⟩ | ⟨t, t', h₁, h₂⟩ <;> simp only [h₁, h₂]

/-- **Trees of one shape agree on what exists**, as asking for a status finds it. -/
theorem stat_isSome_eq (h : SameKinds d d') (p : String) :
    (d'.stat p).toOption.isSome = (d.stat p).toOption.isSome := by
  unfold stat lookupAs
  rw [h.blocked?_eq]
  cases d.blocked? p with
  | some why => rfl
  | none =>
    rcases h.entry?_cases p with ⟨h₁, h₂⟩ | ⟨h₁, h₂⟩ | ⟨t, t', h₁, h₂⟩ <;>
      simp [h₁, h₂, Except.toOption]

end SameKinds

end Accessors.Disk

namespace Accessors.ClassMap.Store

open Disk

variable {s : Store} {V : Entry → Prop} {d d' : Disk} {es : List Entry} {ks : List String}

/-- A map that exists and reads is a file. -/
theorem exists_file_of_load (hstat : (d.stat s.path).toOption.isSome = true)
    (h : s.load d = .ok es) : ∃ t, d.entry? s.path = some (.file t) := by
  unfold stat lookupAs at hstat
  cases hb : d.blocked? s.path with
  | some why => simp [hb, Except.toOption] at hstat
  | none =>
    cases he : d.entry? s.path with
    | none => simp [hb, he, Except.toOption] at hstat
    | some e =>
      cases e with
      | file t => exact ⟨t, rfl⟩
      | dir =>
        -- a directory fails to read, and not as something missing
        have hf : d.fileText s.path = .error ⟨"read", s.path, "is a directory"⟩ := by
          simp [fileText, lookupAs, hb, he, bind, Except.bind]
        unfold load at h
        simp [hf, DiskError.isNotFound] at h

theorem snapshot_eq_ok (h : s.snapshot d = .ok es) :
    ∃ L, s.load d = .ok L ∧ es = L.mergeSort fun a b => decide (a.name ≤ b.name) := by
  unfold snapshot at h
  cases hl : s.load d with
  | error e => simp [hl, Except.map] at h
  | ok L => exact ⟨L, rfl, by simpa [hl, Except.map, eq_comm] using h⟩

/-- **Writing the map keeps the shape of the tree** when the map is a file and nothing is at its
temporary file: only the map's text changes. -/
theorem save_sameKinds (hs : s.Beside d) (hfile : ∃ t, d.entry? s.path = some (.file t))
    (htemp : d.entry? s.tempName = none) (h : s.save d es = .ok d') : SameKinds d d' := by
  have hc := save_changedAt h
  obtain ⟨t, ht⟩ := hfile
  have hne : d.key s.tempName ≠ d.key s.path := fun hk => by
    rw [entry?_eq_of_key_eq hk, ht] at htemp
    cases htemp
  have hpath : d'.entry? s.path = some (.file (s.format.write (documentItem es))) :=
    (fileText_eq_ok_iff.1 (fileText_save hs h)).2
  -- the temporary file is erased before the map is put, and it was never a directory
  have htemp' : d'.entry? s.tempName = none := by
    have hdir : d'.isDir s.tempName = false :=
      isDir_false_changedAt hc (by simp [isDir, htemp])
    obtain ⟨d₁, hput, -, rfl⟩ := save_eq_ok h
    obtain ⟨rfl, -, -⟩ := putText_eq_ok hput
    rw [isDir, entry?_put_of_key_ne (by simpa using hne)] at hdir
    rw [entry?_put_of_key_ne (by simpa using hne)]
    rcases entry?_erase_self (d := d.put s.tempName _) (q := s.tempName) with h0 | hd
    · exact h0
    · simp [hd] at hdir
  refine SameKinds.of_entry? hc.root_eq fun p => ?_
  by_cases hp : d.key p = d.key s.path
  · right
    refine ⟨s.format.write (documentItem es), t, ?_, by rw [entry?_eq_of_key_eq hp, ht]⟩
    rw [entry?_eq_of_key_eq ((hc.key_eq p).trans (hp.trans (hc.key_eq _).symm)), hpath]
  · left
    by_cases hq : d.key p = d.key s.tempName
    · rw [entry?_eq_of_key_eq ((hc.key_eq p).trans (hq.trans (hc.key_eq _).symm)), htemp',
        entry?_eq_of_key_eq hq, htemp]
    · exact hc.entry?_eq p (by simp [hp, hq])

theorem remove_sameKinds (hs : s.Beside d) (hfile : ∃ t, d.entry? s.path = some (.file t))
    (htemp : d.entry? s.tempName = none) {n : String} (h : s.remove d n = .ok d') :
    SameKinds d d' :=
  let ⟨_, _, hsave⟩ := update_eq_ok h
  save_sameKinds hs hfile htemp hsave

/-- Erasing entries of files keeps the map within `V`: what the map reads afterwards it read
before. -/
theorem Within.eraseKeys (hw : s.Within V d) : s.Within V (d.eraseKeys ks) := by
  intro es hl
  cases hf : (d.eraseKeys ks).fileText s.path with
  | error e =>
    unfold load at hl
    rw [hf] at hl
    by_cases hnf : e.isNotFound = true
    · simp only [hnf, ↓reduceIte, Except.ok.injEq] at hl
      subst hl
      simp
    · simp [hnf] at hl
  | ok text =>
    obtain ⟨hb, he⟩ := fileText_eq_ok_iff.1 hf
    -- the map and its directories were there before the entries were erased
    have hb' : d.blocked? s.path = none := by
      rcases blocked?_eq_none_iff.1 hb with h0 | hdirs
      · exact blocked?_eq_none_iff.2 (.inl h0)
      · exact blocked?_eq_none_iff.2 (.inr fun a ha => changedAt_eraseKeys.isDir_of a (hdirs a ha))
    have hread : d.fileText s.path = .ok text := fileText_eq_ok_iff.2 ⟨hb', entry?_of_eraseKeys he⟩
    rw [load_eq_of_fileText hf] at hl
    exact hw es (by rw [load_eq_of_fileText hread, hl])

/-- Erasing entries of files keeps a store ready. -/
theorem Ready.eraseKeys (hready : s.Ready V d) : s.Ready V (d.eraseKeys ks) :=
  ⟨hready.beside.changedAt changedAt_eraseKeys, isDir_false_changedAt changedAt_eraseKeys hready.tempFree,
    hready.within.eraseKeys⟩

end Accessors.ClassMap.Store

namespace Accessors.Generation

open ClassMap Disk

/-- **Whether a clean keeps a class-map entry**: its file, read from the module's directory, was
not among the files removed and exists. -/
def keepsEntry (removed : List String) (d : Disk) (m : Module.GoModule) (e : Entry) : Bool :=
  !removed.contains (joinPath [m.dir, e.path]) && (d.stat (joinPath [m.dir, e.path])).toOption.isSome

variable {store : Store} {V : Entry → Prop} {m : Module.GoModule} {d₁ D D' : Disk}
  {dropped : List String} {S S' : CleanSummary} {err : Error}

theorem keepsEntry_congr {removed : List String} (h : SameKinds d₁ D) (e : Entry) :
    keepsEntry removed D m e = keepsEntry removed d₁ m e := by
  simp only [keepsEntry, h.stat_isSome_eq]

/-! ### One entry -/

theorem dropEntry_failed (e : Entry) : dropEntry store m (D, S, some err) e = (D, S, some err) := rfl

theorem foldl_dropEntry_failed (es : List Entry) :
    es.foldl (dropEntry store m) (D, S, some err) = (D, S, some err) := by
  induction es with
  | nil => rfl
  | cons e es ih => rw [List.foldl_cons, dropEntry_failed, ih]

theorem dropEntry_of_keeps {e : Entry} (h : keepsEntry S.removedFiles D m e = true) :
    dropEntry store m (D, S, none) e = (D, S, none) := by
  unfold keepsEntry at h
  unfold dropEntry
  simp only [Option.isSome_none, Bool.false_eq_true, ↓reduceIte, h]

theorem dropEntry_of_remove_error {e : Entry} (h : keepsEntry S.removedFiles D m e = false)
    (hrm : store.remove D e.name = .error err) : dropEntry store m (D, S, none) e = (D, S, some err) := by
  unfold keepsEntry at h
  unfold dropEntry
  simp only [Option.isSome_none, Bool.false_eq_true, ↓reduceIte, h, hrm]

theorem dropEntry_of_remove_ok {e : Entry} (h : keepsEntry S.removedFiles D m e = false)
    (hrm : store.remove D e.name = .ok D') :
    dropEntry store m (D, S, none) e =
      (D', { S with removedEntries := S.removedEntries ++ [e.name] }, none) := by
  unfold keepsEntry at h
  unfold dropEntry
  simp only [Option.isSome_none, Bool.false_eq_true, ↓reduceIte, h, hrm]

/-- **The tree while the class map is pruned**, from the tree `d₁` the pruning starts on: the
store stays ready, the tree keeps its shape, and each class dropped so far has no entry while
every other class keeps the entry it had. -/
structure Pruned (store : Store) (V : Entry → Prop) (d₁ d : Disk) (dropped : List String) :
    Prop where
  ready : store.Ready V d
  kinds : SameKinds d₁ d
  lookup_eq : ∀ n, store.lookup d n = if n ∈ dropped then none else store.lookup d₁ n

theorem Pruned.start (hready : store.Ready V d₁) : Pruned store V d₁ d₁ [] :=
  ⟨hready, .refl d₁, fun _ => by simp⟩

section Steps

variable (hr : store.ReadsBack V) (hfile : ∃ t, d₁.entry? store.path = some (.file t))
  (htemp : d₁.entry? store.tempName = none)
include hr hfile htemp

/-- **Dropping one more class** keeps the pruning invariant. -/
theorem Pruned.remove {n : String} (hp : Pruned store V d₁ D dropped)
    (h : store.remove D n = .ok D') : Pruned store V d₁ D' (dropped ++ [n]) := by
  obtain ⟨t, ht⟩ := hp.kinds.exists_file (hfile.choose_spec)
  have htemp' : D.entry? store.tempName = none := hp.kinds.entry?_eq_none_iff.2 htemp
  refine ⟨hp.ready.remove hr h,
    hp.kinds.trans (Store.remove_sameKinds hp.ready.beside ⟨t, ht⟩ htemp' h), fun k => ?_⟩
  rw [Store.lookup_remove hp.ready.beside hr hp.ready.within h, hp.lookup_eq]
  by_cases hk : n = k
  · simp [hk]
  · simp [hk, Ne.symm hk]

/-- **The run over the entries**: a pruning that ends without an error has dropped, in order, the
classes of the entries the test does not keep, judged on the tree it started from. -/
theorem foldl_dropEntry : ∀ (es : List Entry) (D : Disk) (dropped : List String) (S : CleanSummary),
    Pruned store V d₁ D dropped →
    es.foldl (dropEntry store m) (D, S, none) = (D', S', none) →
    Pruned store V d₁ D' (dropped ++ (es.filter fun e => !keepsEntry S.removedFiles d₁ m e).map (·.name)) ∧
      S' = { S with removedEntries :=
        S.removedEntries ++ (es.filter fun e => !keepsEntry S.removedFiles d₁ m e).map (·.name) }
  | [], D, dropped, S, hp, h => by
    simp only [List.foldl_nil, Prod.mk.injEq] at h
    obtain ⟨rfl, rfl, -⟩ := h
    simpa using hp
  | e :: es, D, dropped, S, hp, h => by
    rw [List.foldl_cons] at h
    cases hk : keepsEntry S.removedFiles d₁ m e with
    | true =>
      rw [dropEntry_of_keeps ((keepsEntry_congr hp.kinds e).trans hk)] at h
      simpa [hk] using foldl_dropEntry es D dropped S hp h
    | false =>
      have hk' := (keepsEntry_congr hp.kinds e).trans hk
      cases hrm : store.remove D e.name with
      | error err =>
        rw [dropEntry_of_remove_error hk' hrm, foldl_dropEntry_failed] at h
        cases h
      | ok D'' =>
        rw [dropEntry_of_remove_ok hk' hrm] at h
        -- the summary passed on lists the same removed files, so the test stays the same
        obtain ⟨hp', hS⟩ := foldl_dropEntry es D'' (dropped ++ [e.name]) _ (hp.remove hr hfile htemp hrm) h
        refine ⟨by simpa [hk] using hp', ?_⟩
        rw [hS]
        simp [hk]

end Steps

/-! ### The whole step -/

/-- The entry a pruned map keeps for a class, when the names of the map's entries are distinct:
the entry it had, if the test keeps it. -/
theorem lookup_of_pruned (hr : store.ReadsBack V) {es : List Entry}
    (hsnap : store.snapshot d₁ = .ok es) {keep : Entry → Bool}
    (hp : ∀ n, store.lookup D n =
      if n ∈ (es.filter fun e => !keep e).map (·.name) then none else store.lookup d₁ n)
    (n : String) : store.lookup D n = (store.lookup d₁ n).filter keep := by
  obtain ⟨L, hl, hes⟩ := Store.snapshot_eq_ok hsnap
  have hn := hr.load_nodup hl
  rw [hp, Store.lookup_eq_of_load hl]
  cases hf : L.find? (·.name == n) with
  | none =>
    -- no entry of the class, so none was dropped
    have hnot : n ∉ (es.filter fun e => !keep e).map (·.name) := by
      intro hmem
      obtain ⟨e, he, hen⟩ := List.mem_map.1 hmem
      have heL : e ∈ L := by
        rw [hes] at he
        exact List.mem_mergeSort.1 (List.mem_filter.1 he).1
      have := List.find?_eq_none.1 hf e heL
      simp [hen] at this
    simp [hnot]
  | some e =>
    have he : e ∈ L := List.mem_of_find?_eq_some hf
    have hen : e.name = n := by simpa using List.find?_some hf
    -- the dropped class `n` can only have been dropped through `e`
    have hiff : n ∈ (es.filter fun e => !keep e).map (·.name) ↔ keep e = false := by
      simp only [List.mem_map, List.mem_filter, hes, List.mem_mergeSort]
      constructor
      · rintro ⟨e', ⟨he', hk⟩, hn'⟩
        rw [List.inj_on_of_nodup_map hn he' he (hn'.trans hen.symm)] at hk
        simpa using hk
      · intro hk
        exact ⟨e, ⟨he, by simp [hk]⟩, hen⟩
    by_cases hk : keep e = true
    · simp [hiff, hk, Option.filter]
    · simp [hiff, hk, Option.filter]

/-- **What the class-map step of a clean does**, when it ends without an error: the tree keeps
its shape and the list of removed files is left as it was; and when the map exists and the
module resolves, the map read in class order keeps, for each class, its entry exactly when the
test keeps it, and the classes of the others are listed as removed, in that order. -/
theorem pruneClassMap_spec (hr : store.ReadsBack V) (hready : store.Ready V d₁)
    (htemp : d₁.entry? store.tempName = none) {cfg : Config} {dirs : List String}
    {diag : Diagnostics} {out : CleanOutcome}
    (h : pruneClassMap store cfg dirs d₁ diag S = out) (hok : out.error = none) :
    SameKinds d₁ out.disk ∧ out.summary.removedFiles = S.removedFiles ∧
      ∀ m, (d₁.stat store.path).toOption.isSome = true →
        Module.resolve d₁ cfg.module (dirs.headD "") = .ok m →
        ∃ es, store.snapshot d₁ = .ok es ∧
          (∀ n, store.lookup out.disk n =
            (store.lookup d₁ n).filter (keepsEntry S.removedFiles d₁ m)) ∧
          out.summary.removedEntries = S.removedEntries ++
            (es.filter fun e => !keepsEntry S.removedFiles d₁ m e).map (·.name) := by
  unfold pruneClassMap at h
  by_cases hstat : (d₁.stat store.path).toOption.isSome = true
  · have hnone : (d₁.stat store.path).toOption.isNone = false := by simpa using hstat
    rw [hnone] at h
    cases hres : Module.resolve d₁ cfg.module (dirs.headD "") with
    | error e =>
      simp only [hres, Bool.false_eq_true, ↓reduceIte] at h
      subst h
      refine ⟨.refl d₁, rfl, fun m _ hm => ?_⟩
      cases hm
    | ok m =>
      simp only [hres, Bool.false_eq_true, ↓reduceIte] at h
      cases hsnap : store.snapshot d₁ with
      | error e =>
        simp only [hsnap] at h
        subst h
        cases hok
      | ok es =>
        simp only [hsnap] at h
        obtain ⟨L, hl, -⟩ := Store.snapshot_eq_ok hsnap
        have hfile := Store.exists_file_of_load hstat hl
        -- the run ends without an error exactly when the outcome has none
        rcases hfold : dropEntries store m es d₁ S with ⟨D', S', err'⟩
        rw [hfold] at h
        simp only [dropEntries] at hfold
        subst h
        simp only at hok
        subst hok
        obtain ⟨hp, hS⟩ := foldl_dropEntry hr hfile htemp es d₁ [] S (.start hready) hfold
        refine ⟨hp.kinds, by rw [hS], fun m' _ hm' => ?_⟩
        cases hm'
        refine ⟨es, rfl, lookup_of_pruned hr hsnap (fun n => ?_), by rw [hS]⟩
        simpa using hp.lookup_eq n
  · have hnone : (d₁.stat store.path).toOption.isNone = true := by simpa using hstat
    rw [hnone] at h
    subst h
    exact ⟨.refl d₁, rfl, fun m h _ => absurd h hstat⟩

end Accessors.Generation
