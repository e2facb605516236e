import Accessors.Generation.Clean
import Accessors.Proofs.Disk.Paths
import Accessors.Proofs.Generation.Rereading

/-!
# Removing the generated files of a clean

A tree is keyed by cleaned paths (`Disk.Keyed`) when every entry is at a relative path through
plain names and no path has two entries, which is how a tree is built from the paths a run
writes. In such a tree the names listed in a directory below the working directory are exactly
the last names of the entries one name below it (`Keyed.mem_children`), and a directory outside
it lists nothing (`Keyed.children_eq_nil`).

A clean removes the generated files it lists in each directory, one after another. In a keyed
tree every listed file is reached and is a file, or is already gone, so the removals of one
directory erase the keys of the files listed and record each file removed (`foldl_removeFile`).
Each directory, once its files are removed, lists no generated file (`removeIn_of_listing`),
and later removals only erase more. So when the removals of all directories succeed, the tree is
the first one without the entries of the removed files, and no directory of the scan lists a
generated file (`removeGenerated_spec`): nothing is left at any name of a generated file in
them (`entry?_joinPath_ne_file`).
-/

namespace Accessors.Disk

/-- The tree without the entries at some keys. -/
def eraseKeys (d : Disk) (ks : List String) : Disk :=
  { d with entries := d.entries.filter fun kv => !ks.contains kv.1 }

/-- **The entries of a tree are keyed by their cleaned paths** inside the working directory:
every key is a relative path through plain names, and no key is given twice. -/
structure Keyed (d : Disk) : Prop where
  nodup : (d.entries.map (·.1)).Nodup
  relative : ∀ kv ∈ d.entries, ∃ ts, ts ≠ [] ∧ (∀ t ∈ ts, Plain t) ∧ kv.1 = relOf ts

section Erasing

variable {d : Disk} {ks ks' : List String} {p k : String} {e : DiskEntry}

@[simp] theorem eraseKeys_root : (d.eraseKeys ks).root = d.root := rfl

@[simp] theorem key_eraseKeys : (d.eraseKeys ks).key p = d.key p := rfl

@[simp] theorem isAncestorKey_eraseKeys : (d.eraseKeys ks).isAncestorKey k = d.isAncestorKey k :=
  rfl

theorem eraseKeys_nil (d : Disk) : d.eraseKeys [] = d := by
  simp [eraseKeys]

theorem eraseKeys_eraseKeys : (d.eraseKeys ks).eraseKeys ks' = d.eraseKeys (ks ++ ks') := by
  simp only [eraseKeys, List.filter_filter, List.contains_append, Bool.not_or]
  congr 2
  funext kv
  rw [Bool.and_comm]

/-- Erasing a key already erased changes nothing. -/
theorem eraseKeys_append_of_mem (h : k ∈ ks) : d.eraseKeys (ks ++ [k]) = d.eraseKeys ks := by
  simp only [eraseKeys, List.contains_append, List.contains_cons, List.contains_nil, Bool.or_false,
    Bool.not_or]
  congr 2
  funext kv
  by_cases hk : kv.1 = k
  · simp [hk, h]
  · simp [hk]

theorem erase_eraseKeys : (d.eraseKeys ks).erase p = d.eraseKeys (ks ++ [d.key p]) := by
  rw [← eraseKeys_eraseKeys]
  simp only [erase, eraseKeys, List.contains_cons, List.contains_nil, Bool.or_false]
  rfl

theorem mem_eraseKeys_entries {kv : String × DiskEntry} :
    kv ∈ (d.eraseKeys ks).entries ↔ kv ∈ d.entries ∧ kv.1 ∉ ks := by
  simp [eraseKeys]

theorem lookup_eraseKeys_of_not_mem (l : List (String × DiskEntry)) (h : k ∉ ks) :
    (l.filter fun kv => !ks.contains kv.1).lookup k = l.lookup k := by
  induction l with
  | nil => rfl
  | cons x l ih =>
    obtain ⟨q, e⟩ := x
    by_cases hq : q ∈ ks
    · have hkq : k ≠ q := fun e => h (e ▸ hq)
      rw [List.filter_cons_of_neg (by simpa using hq), ih]
      simp [List.lookup_cons, beq_false_of_ne hkq]
    · rw [List.filter_cons_of_pos (by simpa using hq)]
      by_cases hkq : k = q
      · subst hkq
        simp
      · simp only [List.lookup_cons, beq_false_of_ne hkq]
        exact ih

theorem entry?_eraseKeys_of_not_mem (h : d.key p ∉ ks) : Disk.entry? (d.eraseKeys ks) p = d.entry? p :=
  entry?_congr rfl fun _ => lookup_eraseKeys_of_not_mem _ h

theorem entry?_eraseKeys_of_mem (h : d.key p ∈ ks) (hf : ¬d.FixedKey (d.key p)) :
    Disk.entry? (d.eraseKeys ks) p = none := by
  rw [entry?_of_not_fixedKey (d := d.eraseKeys ks) hf, List.lookup_eq_none_iff]
  intro kv hkv
  have hne : d.key p ≠ kv.1 := fun he => (mem_eraseKeys_entries.1 hkv).2 (he ▸ h)
  simpa using hne

/-- Erasing keys leaves no entry where there was none, and the same one where there was one. -/
theorem entry?_of_eraseKeys (h : Disk.entry? (d.eraseKeys ks) p = some e) : d.entry? p = some e := by
  by_cases hk : d.key p ∈ ks
  · by_cases hf : d.FixedKey (d.key p)
    · rw [entry?_of_fixedKey hf]
      rwa [entry?_of_fixedKey (d := d.eraseKeys ks) hf] at h
    · rw [entry?_eraseKeys_of_mem hk hf] at h
      cases h
  · rwa [entry?_eraseKeys_of_not_mem hk] at h

theorem changedAt_eraseKeys : ChangedAt d (d.eraseKeys ks) ks where
  root_eq := rfl
  entry?_eq := fun _ hp => entry?_eraseKeys_of_not_mem hp
  isDir_of := fun p h => by
    rw [isDir_eq_true_iff] at h ⊢
    exact entry?_of_eraseKeys h

theorem children_subset_of_eraseKeys {x : String × DiskEntry} (h : x ∈ (d.eraseKeys ks).children p) :
    x ∈ d.children p := by
  simp only [children, List.mem_mergeSort, List.mem_map, List.mem_filter, key_eraseKeys,
    mem_eraseKeys_entries] at h ⊢
  obtain ⟨kv, ⟨⟨hmem, -⟩, hw⟩, rfl⟩ := h
  exact ⟨kv, ⟨hmem, hw⟩, rfl⟩

theorem remove_of_file {t : String} (hb : d.blocked? p = none) (he : d.entry? p = some (.file t)) :
    d.remove p = .ok (d.erase p) := by
  unfold remove lookupAs
  rw [hb, he]
  rfl

theorem remove_of_missing (hb : d.blocked? p = none) (he : d.entry? p = none) :
    d.remove p = .error ⟨"remove", p, "no such file or directory"⟩ := by
  unfold remove lookupAs
  rw [hb, he]
  rfl

theorem readDir_eq_ok {l : List (String × DiskEntry)} (h : d.readDir p = .ok l) :
    d.lookupAs "open" p = .ok .dir ∧ l = d.children p := by
  unfold readDir at h
  cases hl : d.lookupAs "open" p with
  | error err => simp [hl, bind, Except.bind] at h
  | ok x =>
    cases x with
    | file t => simp [hl, bind, Except.bind] at h
    | dir =>
      simp only [hl, bind, Except.bind, Except.ok.injEq] at h
      exact ⟨rfl, h.symm⟩

/-- A file at a path is an entry under its key. -/
theorem mem_entries_of_entry? {t : String} (h : d.entry? p = some (.file t)) :
    (d.key p, DiskEntry.file t) ∈ d.entries := by
  by_cases hf : d.FixedKey (d.key p)
  · rw [entry?_of_fixedKey hf] at h
    cases h
  · rw [entry?_of_not_fixedKey hf] at h
    exact mem_of_lookup_eq_some h

end Erasing

/-! ### Keyed trees -/

/-- In a list without repeated keys, the entry found under a key is the one there. -/
theorem lookup_eq_of_mem {l : List (String × DiskEntry)} (hnd : (l.map (·.1)).Nodup)
    (h : (k, e) ∈ l) : l.lookup k = some e := by
  induction l with
  | nil => cases h
  | cons x l ih =>
    obtain ⟨q, e'⟩ := x
    rw [List.map_cons, List.nodup_cons] at hnd
    rcases List.mem_cons.1 h with hx | hx
    · cases hx
      simp
    · have hq : k ≠ q := fun hkq => hnd.1 (hkq ▸ List.mem_map_of_mem (f := (·.1)) hx)
      simp only [List.lookup_cons, beq_false_of_ne hq]
      exact ih hnd.2 hx

namespace Keyed

variable {d : Disk} {ks : List String} {p k : String} {e : DiskEntry}

/-- A tree is keyed when its keys are distinct and each is the relative path through the plain
names its slashes separate: a check that runs on a given tree. -/
theorem of_splitOn (hn : (d.entries.map (·.1)).Nodup)
    (h : ∀ kv ∈ d.entries, Text.splitOn kv.1 "/" ≠ [] ∧ (∀ t ∈ Text.splitOn kv.1 "/", Plain t) ∧
      kv.1 = relOf (Text.splitOn kv.1 "/")) : d.Keyed :=
  ⟨hn, fun kv hkv => ⟨_, (h kv hkv).1, (h kv hkv).2.1, (h kv hkv).2.2⟩⟩

theorem eraseKeys (hk : d.Keyed) (ks : List String) : (d.eraseKeys ks).Keyed where
  nodup := (List.filter_sublist.map _).nodup hk.nodup
  relative := fun kv hkv => hk.relative kv (mem_eraseKeys_entries.1 hkv).1

/-- The key of an entry is neither the working directory nor above it. -/
theorem not_fixedKey (hk : d.Keyed) (h : (k, e) ∈ d.entries) : ¬d.FixedKey k := by
  obtain ⟨ts, hne, hts, hkey⟩ := hk.relative _ h
  simp only at hkey
  subst hkey
  simp [FixedKey, relOf_ne_dot hts hne, isAncestorKey, relOf_startsWith hts]

theorem lookup_eq (hk : d.Keyed) (h : (k, e) ∈ d.entries) : d.entries.lookup k = some e :=
  lookup_eq_of_mem hk.nodup h

/-- **The entry at a path** of a keyed tree is the one under its key. -/
theorem entry?_eq (hk : d.Keyed) (h : (d.key p, e) ∈ d.entries) : d.entry? p = some e := by
  rw [entry?_of_not_fixedKey (hk.not_fixedKey h), hk.lookup_eq h]

/-- **The names listed in a directory below the working directory** of a keyed tree are the
last names of the entries one name below it. -/
theorem mem_children {rs ps : List String} {n : String} (hk : d.Keyed) (hroot : d.root = absOf rs)
    (hrs : ∀ r ∈ rs, Plain r) (hps : ∀ p ∈ ps, Plain p) (hpre : rs <+: ps) :
    (n, e) ∈ d.children (absOf ps) ↔ Plain n ∧ (relOf (ps.drop rs.length ++ [n]), e) ∈ d.entries := by
  have hts : ∀ t ∈ ps.drop rs.length, Plain t := fun t ht => hps t (List.mem_of_mem_drop ht)
  have hkey : d.key (absOf ps) = relOf (ps.drop rs.length) := by
    rw [key_absOf d hroot hrs hps, if_pos hpre]
  simp only [children, hkey, List.mem_mergeSort, List.mem_map, List.mem_filter, Bool.and_eq_true,
    beq_iff_eq, Prod.mk.injEq]
  constructor
  · rintro ⟨⟨q, e'⟩, ⟨hmem, -, hdir⟩, hbase, rfl⟩
    obtain ⟨us, hne, hus, hq⟩ := hk.relative _ hmem
    simp only at hq hdir hbase
    subst hq
    -- the entry's names are the directory's and one more
    obtain ⟨init, last, rfl⟩ : ∃ init last, us = init ++ [last] :=
      ⟨us.dropLast, us.getLast hne, (List.dropLast_append_getLast hne).symm⟩
    have hinit : ∀ t ∈ init, Plain t := fun t ht => hus t (List.mem_append_left _ ht)
    have hlast : Plain last := hus last (by simp)
    rw [dirName_relOf_append hinit hlast] at hdir
    have hsame : init = ps.drop rs.length := by
      rw [← elements_relOf hinit, hdir, elements_relOf hts]
    subst hsame
    rw [baseName_relOf_append hinit hlast] at hbase
    subst hbase
    exact ⟨hlast, hmem⟩
  · rintro ⟨hn, hmem⟩
    exact ⟨_, ⟨hmem, isWithin_relOf_append hts hn, dirName_relOf_append hts hn⟩,
      baseName_relOf_append hts hn, rfl⟩

/-- **A directory outside the working directory** of a keyed tree lists nothing. -/
theorem children_eq_nil {rs ps : List String} (hk : d.Keyed) (hroot : d.root = absOf rs)
    (hrs : ∀ r ∈ rs, Plain r) (hps : ∀ p ∈ ps, Plain p) (hpre : ¬rs <+: ps) :
    d.children (absOf ps) = [] := by
  have hkey : d.key (absOf ps) = absOf ps := by
    rw [key_absOf d hroot hrs hps, if_neg hpre]
  simp only [children, hkey]
  rw [List.filter_eq_nil_iff.2 ?_, List.map_nil, List.mergeSort_nil]
  rintro ⟨q, e'⟩ hmem
  obtain ⟨us, -, hus, hq⟩ := hk.relative _ hmem
  simp only at hq
  subst hq
  -- a relative key lies in no directory that starts with a slash
  have hwithin : isWithin (relOf us) (absOf ps) = false := by
    have hdot : (absOf ps == ".") = false := by
      rw [beq_eq_false_iff_ne]
      intro h
      have := absOf_startsWith ps
      rw [h, startsWith_slash_iff_head] at this
      cases this
    rw [isWithin, if_neg (by simp [hdot]), Bool.eq_false_iff, ne_eq, String.startsWith_string_iff]
    intro hpre'
    have hslash : "/".toList <+: (relOf us).toList := by
      refine List.IsPrefix.trans ?_ hpre'
      rw [String.toList_append]
      exact (String.startsWith_string_iff.mp (absOf_startsWith ps)).trans (List.prefix_append _ _)
    have := relOf_startsWith hus
    rw [← String.startsWith_string_iff] at hslash
    rw [hslash] at this
    cases this
  simp [hwithin]

end Keyed

end Accessors.Disk

namespace Accessors.Generation

open Disk

/-- **No generated accessor file is listed** in a directory of a tree. -/
def NoGenerated (d : Disk) (dir : String) : Prop :=
  ∀ name t, (name, DiskEntry.file t) ∈ d.children dir → PackageDirs.isGeneratedName name = false

theorem NoGenerated.eraseKeys {d : Disk} {dir : String} (h : NoGenerated d dir) (ks : List String) :
    NoGenerated (d.eraseKeys ks) dir :=
  fun name t hc => h name t (children_subset_of_eraseKeys hc)

/-! ### The files listed in a directory -/

section Listing

variable {d : Disk} {dir : String} {files : List String}

theorem generatedIn_eq_ok (h : PackageDirs.generatedIn d dir = .ok files) :
    d.lookupAs "open" dir = .ok .dir ∧
      files = (d.children dir).filterMap fun (name, e) =>
        match e with
        | .file _ => if PackageDirs.isGeneratedName name then some (Disk.joinPath [dir, name]) else none
        | .dir => none := by
  unfold PackageDirs.generatedIn PackageDirs.generatedFiles at h
  cases hr : d.readDir dir with
  | error err => simp [hr, bind, Except.bind, Except.mapError] at h
  | ok l =>
    obtain ⟨hopen, rfl⟩ := readDir_eq_ok hr
    simp only [hr, bind, Except.bind, pure, Except.pure, Except.mapError, Except.ok.injEq] at h
    exact ⟨hopen, h.symm⟩

/-- Every file listed is a generated file directly in the directory. -/
theorem mem_generatedIn (h : PackageDirs.generatedIn d dir = .ok files) {g : String} (hg : g ∈ files) :
    ∃ name t, (name, DiskEntry.file t) ∈ d.children dir ∧ PackageDirs.isGeneratedName name = true ∧
      g = Disk.joinPath [dir, name] := by
  rw [(generatedIn_eq_ok h).2, List.mem_filterMap] at hg
  obtain ⟨⟨name, e⟩, hc, he⟩ := hg
  cases e with
  | dir => cases he
  | file t =>
    by_cases hname : PackageDirs.isGeneratedName name = true
    · simp only [hname, if_true, Option.some.injEq] at he
      exact ⟨name, t, hc, hname, he.symm⟩
    · simp [hname] at he

/-- Every generated file directly in the directory is listed. -/
theorem joinPath_mem_generatedIn (h : PackageDirs.generatedIn d dir = .ok files) {name t : String}
    (hc : (name, DiskEntry.file t) ∈ d.children dir) (hg : PackageDirs.isGeneratedName name = true) :
    Disk.joinPath [dir, name] ∈ files := by
  rw [(generatedIn_eq_ok h).2, List.mem_filterMap]
  exact ⟨(name, .file t), hc, by simp [hg]⟩

end Listing

/-! ### Removing the files of one directory -/

section Removing

variable {d : Disk} {diag : Diagnostics} {s : CleanSummary}

theorem removeFile_of_ok {g : String} {d' : Disk} (h : d.remove g = .ok d') :
    removeFile (d, diag, s, none) g =
      (d', diag.verboseMsg ("Removed " ++ g), { s with removedFiles := s.removedFiles ++ [g] }, none) := by
  simp [removeFile, h]

theorem removeFile_of_notFound {g : String} {e : DiskError} (h : d.remove g = .error e)
    (he : e.isNotFound = true) :
    removeFile (d, diag, s, none) g =
      (d, diag.verboseMsg ("Removed " ++ g), { s with removedFiles := s.removedFiles ++ [g] }, none) := by
  simp [removeFile, h, he]

/-- **The removals of the files listed** in a keyed tree erase their keys, one after another:
each file is reached through directories and is a file, unless an earlier removal already erased
it, and each counts as removed. -/
theorem foldl_removeFile (hk : d.Keyed) :
    ∀ (files ks : List String) (diag : Diagnostics) (s : CleanSummary),
      (∀ k ∈ ks, ∃ t, (k, DiskEntry.file t) ∈ d.entries) →
      (∀ g ∈ files, (∃ t, (d.key g, DiskEntry.file t) ∈ d.entries) ∧
        ∀ a ∈ Disk.ancestors (d.key g), d.isDir a = true) →
      ∃ diag', files.foldl removeFile (d.eraseKeys ks, diag, s, none) =
        (d.eraseKeys (ks ++ files.map d.key), diag', { s with removedFiles := s.removedFiles ++ files }, none)
  | [], ks, diag, s, _, _ => ⟨diag, by simp⟩
  | g :: files, ks, diag, s, hks, hfiles => by
    obtain ⟨⟨t, hmem⟩, hanc⟩ := hfiles g List.mem_cons_self
    -- the directories above the file are no erased files
    have hb : (d.eraseKeys ks).blocked? g = none := by
      refine blocked?_eq_none_iff.2 (.inr fun a ha => ?_)
      have hdir := hanc a (by simpa using ha)
      have hka : d.key a ∉ ks := by
        intro hka
        obtain ⟨t', hfile⟩ := hks _ hka
        rw [isDir_eq_true_iff, hk.entry?_eq hfile] at hdir
        cases hdir
      rw [isDir_eq_true_iff, entry?_eraseKeys_of_not_mem hka, ← isDir_eq_true_iff]
      exact hdir
    -- the file is removed, or found already gone
    have hstep : ∃ diag₁, removeFile (d.eraseKeys ks, diag, s, none) g =
        (d.eraseKeys (ks ++ [d.key g]), diag₁, { s with removedFiles := s.removedFiles ++ [g] }, none) := by
      by_cases hg : d.key g ∈ ks
      · have hnone := entry?_eraseKeys_of_mem hg (hk.not_fixedKey hmem)
        rw [eraseKeys_append_of_mem hg]
        exact ⟨_, removeFile_of_notFound (remove_of_missing hb hnone) rfl⟩
      · have hfile : Disk.entry? (d.eraseKeys ks) g = some (.file t) := by
          rw [entry?_eraseKeys_of_not_mem hg, hk.entry?_eq hmem]
        rw [← erase_eraseKeys]
        exact ⟨_, removeFile_of_ok (remove_of_file hb hfile)⟩
    obtain ⟨diag₁, hstep⟩ := hstep
    have hks' : ∀ k ∈ ks ++ [d.key g], ∃ t, (k, DiskEntry.file t) ∈ d.entries := by
      intro k hk'
      rcases List.mem_append.1 hk' with hk' | hk'
      · exact hks k hk'
      · rw [List.mem_singleton.1 hk']
        exact ⟨t, hmem⟩
    obtain ⟨diag', hrest⟩ := foldl_removeFile hk files (ks ++ [d.key g]) diag₁ _ hks'
      (fun g' hg' => hfiles g' (List.mem_cons_of_mem _ hg'))
    refine ⟨diag', ?_⟩
    rw [List.foldl_cons, hstep, hrest]
    simp

theorem removeIn_failed (e : Error) (dir : String) :
    removeIn (d, diag, s, some e) dir = (d, diag, s, some e) := rfl

theorem foldl_removeIn_failed (e : Error) (dirs : List String) :
    dirs.foldl removeIn (d, diag, s, some e) = (d, diag, s, some e) := by
  induction dirs with
  | nil => rfl
  | cons dir dirs ih => rw [List.foldl_cons, removeIn_failed, ih]

variable {rs ps : List String}

/-- **A file a directory of a keyed tree lists as generated** is a file of the tree, reached
through directories. -/
theorem file_of_mem_generatedIn (hk : d.Keyed) (hroot : d.root = absOf rs)
    (hrs : ∀ r ∈ rs, Plain r) (hps : ∀ p ∈ ps, Plain p) {files : List String}
    (h : PackageDirs.generatedIn d (absOf ps) = .ok files) {g : String} (hg : g ∈ files) :
    (∃ t, (d.key g, DiskEntry.file t) ∈ d.entries) ∧ ∀ a ∈ Disk.ancestors (d.key g), d.isDir a = true := by
  obtain ⟨hopen, -⟩ := generatedIn_eq_ok h
  obtain ⟨hb, hdir⟩ := lookupAs_eq_ok hopen
  obtain ⟨name, t, hc, -, rfl⟩ := mem_generatedIn h hg
  by_cases hpre : rs <+: ps
  · obtain ⟨hn, hmem⟩ := (hk.mem_children hroot hrs hps hpre).1 hc
    have hts : ∀ t ∈ ps.drop rs.length, Plain t := fun t ht => hps t (List.mem_of_mem_drop ht)
    have hkey := key_joinPath_below hroot hrs hps hn hpre
    have hkeyDir : d.key (absOf ps) = relOf (ps.drop rs.length) := by
      rw [key_absOf d hroot hrs hps, if_pos hpre]
    refine ⟨⟨t, hkey ▸ hmem⟩, ?_⟩
    rw [hkey, ancestors_relOf_append hts hn]
    split
    · simp
    · rename_i hne
      -- the directory and the directories above it
      rcases blocked?_eq_none_iff.1 hb with h0 | hup
      · exact absurd (hkeyDir ▸ h0) (relOf_ne_dot hts hne)
      · intro a ha
        rcases List.mem_append.1 ha with ha | ha
        · exact hup a (hkeyDir ▸ ha)
        · rw [List.mem_singleton.1 ha, isDir_eq_of_key_eq (q := absOf ps)
            (by rw [key_relOf d hroot hrs hts, hkeyDir]), isDir_eq_true_iff]
          exact hdir
  · rw [hk.children_eq_nil hroot hrs hps hpre] at hc
    cases hc

/-- **After the files a directory lists as generated are erased**, it lists no generated file. -/
theorem noGenerated_of_listing (hk : d.Keyed) (hroot : d.root = absOf rs)
    (hrs : ∀ r ∈ rs, Plain r) (hps : ∀ p ∈ ps, Plain p) {ks files : List String}
    (h : PackageDirs.generatedIn (d.eraseKeys ks) (absOf ps) = .ok files) :
    NoGenerated (d.eraseKeys (ks ++ files.map d.key)) (absOf ps) := by
  intro name t hc
  -- what the tree lists after the erasing it listed before
  have hcD : (name, DiskEntry.file t) ∈ (d.eraseKeys ks).children (absOf ps) := by
    rw [← eraseKeys_eraseKeys] at hc
    exact children_subset_of_eraseKeys hc
  by_cases hgen : PackageDirs.isGeneratedName name = true
  · exfalso
    by_cases hpre : rs <+: ps
    · -- a generated file still listed was listed before, so its key was erased
      obtain ⟨hn, hmem⟩ := ((hk.eraseKeys (ks ++ files.map d.key)).mem_children hroot hrs hps hpre).1 hc
      have hlisted := joinPath_mem_generatedIn h hcD hgen
      have hkey := key_joinPath_below hroot hrs hps hn hpre
      rw [mem_eraseKeys_entries] at hmem
      exact hmem.2 (List.mem_append_right _ (hkey ▸ List.mem_map_of_mem hlisted))
    · rw [(hk.eraseKeys ks).children_eq_nil hroot hrs hps hpre] at hcD
      cases hcD
  · simpa using hgen

/-- **One directory of a keyed tree, its files removed**: the keys of the files listed are
erased, each of them a file of the tree, and the directory lists no generated file any more. -/
theorem removeIn_of_listing (hk : d.Keyed) (hroot : d.root = absOf rs) (hrs : ∀ r ∈ rs, Plain r)
    (hps : ∀ p ∈ ps, Plain p) {ks files : List String}
    (h : PackageDirs.generatedIn (d.eraseKeys ks) (absOf ps) = .ok files) :
    (∃ diag', removeIn (d.eraseKeys ks, diag, s, none) (absOf ps) =
      (d.eraseKeys (ks ++ files.map d.key), diag', { s with removedFiles := s.removedFiles ++ files }, none)) ∧
    NoGenerated (d.eraseKeys (ks ++ files.map d.key)) (absOf ps) ∧
    ∀ g ∈ files, ∃ t, (d.key g, DiskEntry.file t) ∈ d.entries := by
  have hfiles := fun g (hg : g ∈ files) => file_of_mem_generatedIn (hk.eraseKeys ks) hroot hrs hps h hg
  obtain ⟨diag', hfold⟩ := foldl_removeFile (hk.eraseKeys ks) files [] diag s (by simp) hfiles
  rw [eraseKeys_nil, List.nil_append, eraseKeys_eraseKeys] at hfold
  refine ⟨⟨diag', ?_⟩, noGenerated_of_listing hk hroot hrs hps h, fun g hg => ?_⟩
  · unfold removeIn
    simp only [Option.isSome_none, Bool.false_eq_true, if_false, h]
    exact hfold
  · obtain ⟨t, hmem⟩ := (hfiles g hg).1
    exact ⟨t, (mem_eraseKeys_entries.1 hmem).1⟩

/-- **The removals of a run of directories** of a keyed tree, when none fails: the tree without
the entries of the files removed, each of them a file of the tree, and no directory of the run
lists a generated file. -/
theorem foldl_removeIn (hk : d.Keyed) (hroot : d.root = absOf rs) (hrs : ∀ r ∈ rs, Plain r) :
    ∀ (dirs ks : List String) (diag : Diagnostics) (s : CleanSummary) (d₁ : Disk)
      (diag₁ : Diagnostics) (s₁ : CleanSummary),
      (∀ dir ∈ dirs, ∃ ps, (∀ p ∈ ps, Plain p) ∧ dir = absOf ps) →
      dirs.foldl removeIn (d.eraseKeys ks, diag, s, none) = (d₁, diag₁, s₁, none) →
      ∃ gs, d₁ = d.eraseKeys (ks ++ gs.map d.key) ∧ s₁ = { s with removedFiles := s.removedFiles ++ gs } ∧
        (∀ g ∈ gs, ∃ t, (d.key g, DiskEntry.file t) ∈ d.entries) ∧ ∀ dir ∈ dirs, NoGenerated d₁ dir
  | [], ks, diag, s, d₁, diag₁, s₁, _, h => by
    simp only [List.foldl_nil, Prod.mk.injEq] at h
    obtain ⟨rfl, -, rfl, -⟩ := h
    exact ⟨[], by simp, by simp, by simp, by simp⟩
  | dir :: dirs, ks, diag, s, d₁, diag₁, s₁, hdirs, h => by
    obtain ⟨ps, hps, rfl⟩ := hdirs dir List.mem_cons_self
    rw [List.foldl_cons] at h
    cases hgen : PackageDirs.generatedIn (d.eraseKeys ks) (absOf ps) with
    | error e =>
      -- a directory that cannot be listed fails the removals
      have hstep : removeIn (d.eraseKeys ks, diag, s, none) (absOf ps) = (d.eraseKeys ks, diag, s, some e) := by
        unfold removeIn
        simp [hgen]
      rw [hstep, foldl_removeIn_failed] at h
      cases h
    | ok files =>
      obtain ⟨⟨diag', hstep⟩, hno, hfiles⟩ := @removeIn_of_listing _ diag s _ _ hk hroot hrs hps _ _ hgen
      rw [hstep] at h
      obtain ⟨gs, hd₁, hs₁, hgs, hrest⟩ := foldl_removeIn hk hroot hrs dirs _ diag' _ d₁ diag₁ s₁
        (fun dir hdir => hdirs dir (List.mem_cons_of_mem _ hdir)) h
      refine ⟨files ++ gs, by rw [hd₁]; simp, by rw [hs₁]; simp, ?_, ?_⟩
      · intro g hg
        rcases List.mem_append.1 hg with hg | hg
        · exact hfiles g hg
        · exact hgs g hg
      · intro dir' hdir'
        rcases List.mem_cons.1 hdir' with rfl | hdir'
        · -- later removals only erase more
          rw [hd₁, ← eraseKeys_eraseKeys]
          exact hno.eraseKeys _
        · exact hrest dir' hdir'

end Removing

/-! ### All the directories of a clean -/

/-- **The removals of a clean**, when none fails, in a keyed tree whose working directory is a
cleaned absolute path: the tree without the entries of the files removed, each of them a file of
the tree, recorded in order, and no directory of the scan lists a generated file. -/
theorem removeGenerated_spec {d d₁ : Disk} {dirs : List String} {diag diag₁ : Diagnostics}
    {s₁ : CleanSummary} (hk : d.Keyed) (hroot : d.CleanRoot)
    (hdirs : ∀ dir ∈ dirs, ∃ x, dir = d.absPath x)
    (h : removeGenerated dirs d diag {} = (d₁, diag₁, s₁, none)) :
    ∃ gs, d₁ = d.eraseKeys (gs.map d.key) ∧ s₁ = { removedFiles := gs } ∧
      (∀ g ∈ gs, ∃ t, (d.key g, DiskEntry.file t) ∈ d.entries) ∧ ∀ dir ∈ dirs, NoGenerated d₁ dir := by
  obtain ⟨rs, hrs, hr⟩ := hroot.exists_absOf
  have hdirs' : ∀ dir ∈ dirs, ∃ ps, (∀ p ∈ ps, Plain p) ∧ dir = absOf ps := by
    intro dir hdir
    obtain ⟨x, rfl⟩ := hdirs dir hdir
    obtain ⟨ps, hps, heq⟩ := absPath_eq_absOf hroot x
    exact ⟨ps, hps, heq⟩
  unfold removeGenerated at h
  rw [← eraseKeys_nil d] at h
  obtain ⟨gs, hd₁, hs₁, hgs, hno⟩ := foldl_removeIn hk hr hrs dirs [] diag {} d₁ diag₁ s₁ hdirs' h
  exact ⟨gs, by rw [hd₁, List.nil_append], by rw [hs₁]; rfl, hgs, hno⟩

/-- A generated file name without a slash is a plain name. -/
theorem plain_of_isGeneratedName {n : String} (hg : PackageDirs.isGeneratedName n = true)
    (hs : '/' ∉ n.toList) : Plain n := by
  have hpre : Source.generatedPrefix.toList <+: n.toList := by
    unfold PackageDirs.isGeneratedName at hg
    exact String.startsWith_string_iff.mp (Bool.and_eq_true_iff.mp hg).1
  have h13 : Source.generatedPrefix.toList.length = 13 := by decide
  have hlen : 13 ≤ n.toList.length := h13 ▸ hpre.length_le
  refine ⟨?_, ?_, ?_, hs⟩ <;> rintro rfl <;> simp at hlen

/-- **Nothing is left at the name of a generated file** in a directory of a keyed tree that lists
no generated file. -/
theorem entry?_joinPath_ne_file {d : Disk} {ps : List String} {n : String} (hk : d.Keyed)
    (hroot : d.CleanRoot) (hps : ∀ p ∈ ps, Plain p) (hno : NoGenerated d (absOf ps)) (hn : Plain n)
    (hg : PackageDirs.isGeneratedName n = true) (t : String) :
    d.entry? (Disk.joinPath [absOf ps, n]) ≠ some (.file t) := by
  obtain ⟨rs, hrs, hr⟩ := hroot.exists_absOf
  intro he
  have hmem := mem_entries_of_entry? he
  by_cases hpre : rs <+: ps
  · rw [key_joinPath_below hr hrs hps hn hpre] at hmem
    have hc := (hk.mem_children hr hrs hps hpre).2 ⟨hn, hmem⟩
    rw [hno n t hc] at hg
    cases hg
  · -- outside the working directory the key is no key of an entry
    obtain ⟨us, hne, hus, hkey⟩ := hk.relative _ hmem
    simp only at hkey
    rcases key_joinPath_not_below hr hrs hps hn hpre with h0 | habs
    · exact relOf_ne_dot hus hne (hkey ▸ h0)
    · have := relOf_startsWith hus
      rw [← hkey, habs, absOf_startsWith] at this
      cases this

end Accessors.Generation
