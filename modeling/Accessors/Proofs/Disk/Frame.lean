import Accessors.Disk

/-!
# What a change to a tree of files leaves in place

Writing a file or erasing an entry changes the tree at one key: every other path keeps its
entry, and a path none of whose ancestors is the changed one is reached as before. Neither
change makes a directory, so what could not be reached or read before stays so.

Main statements: a tree changed only at some keys (`ChangedAt`) reads as before at a path that
neither is nor lies below one of them (`ChangedAt.fileText_eq`), and what could not be read there
before still cannot (`ChangedAt.fileText_error`); after a file is removed nothing can be read at
its path (`fileText_erase_self`).
-/

namespace Accessors.Disk

variable {d : Disk} {p q : String} {e : DiskEntry}

/-! ### Keys -/

@[simp] theorem key_put : (d.put q e).key p = d.key p := rfl

@[simp] theorem key_erase : (d.erase q).key p = d.key p := rfl

@[simp] theorem isAncestorKey_put (k : String) : (d.put q e).isAncestorKey k = d.isAncestorKey k :=
  rfl

@[simp] theorem isAncestorKey_erase (k : String) : (d.erase q).isAncestorKey k = d.isAncestorKey k :=
  rfl

@[simp] theorem put_entries : (d.put q e).entries = d.entries.filter (·.1 != d.key q) ++ [(d.key q, e)] :=
  rfl

@[simp] theorem erase_entries : (d.erase q).entries = d.entries.filter (·.1 != d.key q) := rfl

theorem isDir_eq_true_iff : d.isDir p = true ↔ d.entry? p = some .dir := by
  unfold isDir
  cases d.entry? p with
  | none => simp
  | some x => cases x <;> simp <;> rfl

/-- The working directory and the directories above it, which are directories in every tree. -/
def FixedKey (d : Disk) (k : String) : Prop := (k == "." || d.isAncestorKey k) = true

theorem entry?_of_fixedKey (h : d.FixedKey (d.key p)) : d.entry? p = some .dir := by
  simp only [FixedKey] at h
  simp [Disk.entry?, h]

theorem entry?_of_not_fixedKey (h : ¬ d.FixedKey (d.key p)) : d.entry? p = d.entries.lookup (d.key p) := by
  simp only [FixedKey, Bool.not_eq_true] at h
  simp [Disk.entry?, h]

/-- Two trees with one working directory hold the same entry at a path when their lists agree
at its key. -/
theorem entry?_congr {d' : Disk} (hroot : d'.root = d.root)
    (h : ¬ d.FixedKey (d.key p) → d'.entries.lookup (d.key p) = d.entries.lookup (d.key p)) :
    d'.entry? p = d.entry? p := by
  have hkey : d'.key p = d.key p := by simp [key, absPath, hroot]
  have hfix : d'.FixedKey (d'.key p) ↔ d.FixedKey (d.key p) := by
    simp [FixedKey, hkey, isAncestorKey, hroot]
  by_cases hf : d.FixedKey (d.key p)
  · rw [entry?_of_fixedKey hf, entry?_of_fixedKey (hfix.2 hf)]
  · rw [entry?_of_not_fixedKey hf, entry?_of_not_fixedKey (mt hfix.1 hf), hkey]
    exact h hf

theorem entry?_eq_of_key_eq (h : d.key p = d.key q) : d.entry? p = d.entry? q := by
  simp only [Disk.entry?, h]

theorem isDir_eq_of_key_eq (h : d.key p = d.key q) : d.isDir p = d.isDir q := by
  simp only [isDir, entry?_eq_of_key_eq h]

/-! ### Entries -/

theorem lookup_filter_of_ne {l : List (String × DiskEntry)} {k k' : String} (h : k' ≠ k) :
    (l.filter (·.1 != k)).lookup k' = l.lookup k' := by
  induction l with
  | nil => rfl
  | cons x l ih =>
    obtain ⟨k'', v⟩ := x
    by_cases hk : k'' = k
    · subst hk
      have hne : (k' == k'') = false := by simpa using h
      simp [List.lookup_cons, hne, ih]
    · have hne : (k'' != k) = true := by simpa using hk
      simp only [List.filter_cons, hne, if_true, List.lookup_cons, ih]

theorem lookup_filter_self (l : List (String × DiskEntry)) (k : String) :
    (l.filter (·.1 != k)).lookup k = none := by
  rw [List.lookup_eq_none_iff]
  intro x hx
  have := (List.mem_filter.1 hx).2
  simp only [bne_iff_ne, ne_eq] at this ⊢
  exact fun h => this h.symm

theorem entry?_put_of_key_ne (h : d.key p ≠ d.key q) : Disk.entry? (d.put q e) p = d.entry? p := by
  refine entry?_congr rfl fun _ => ?_
  have hne : (d.key p == d.key q) = false := by simpa using h
  simp [List.lookup_append, lookup_filter_of_ne h, List.lookup_cons, hne]

theorem entry?_erase_of_key_ne (h : d.key p ≠ d.key q) : Disk.entry? (d.erase q) p = d.entry? p :=
  entry?_congr rfl fun _ => lookup_filter_of_ne h

/-- What is written at a path that is not a directory is read back there. -/
theorem entry?_put_self (h : d.isDir q = false) : Disk.entry? (d.put q e) q = some e := by
  have hfix : ¬ d.FixedKey (d.key q) := fun hf => by
    rw [← Bool.not_eq_true, isDir_eq_true_iff, entry?_of_fixedKey hf] at h
    exact h rfl
  rw [entry?_of_not_fixedKey (d := d.put q e) hfix]
  simp [List.lookup_append, lookup_filter_self]

theorem entry?_erase_self : Disk.entry? (d.erase q) q = none ∨ Disk.entry? (d.erase q) q = some .dir := by
  by_cases hfix : d.FixedKey (d.key q)
  · exact .inr (entry?_of_fixedKey (d := d.erase q) hfix)
  · left
    rw [entry?_of_not_fixedKey (d := d.erase q) hfix]
    exact lookup_filter_self _ _

/-! ### Directories are never made by writing a file or erasing an entry -/

theorem isDir_of_isDir_put_file {t : String} (h : (d.put q (.file t)).isDir p = true) :
    d.isDir p = true := by
  rw [isDir_eq_true_iff] at h ⊢
  by_cases hk : d.key p = d.key q
  · by_cases hfix : d.FixedKey (d.key p)
    · exact entry?_of_fixedKey hfix
    · rw [entry?_of_not_fixedKey (d := d.put q (.file t)) hfix] at h
      simp [hk, List.lookup_append, lookup_filter_self] at h
  · rwa [entry?_put_of_key_ne hk] at h

theorem isDir_of_isDir_erase (h : (d.erase q).isDir p = true) : d.isDir p = true := by
  rw [isDir_eq_true_iff] at h ⊢
  by_cases hk : d.key p = d.key q
  · by_cases hfix : d.FixedKey (d.key p)
    · exact entry?_of_fixedKey hfix
    · rw [entry?_of_not_fixedKey (d := d.erase q) hfix] at h
      simp [hk, lookup_filter_self] at h
  · rwa [entry?_erase_of_key_ne hk] at h

/-! ### Reaching a path -/

theorem blocked?_eq_none_iff :
    d.blocked? p = none ↔ d.key p = "." ∨ ∀ a ∈ ancestors (d.key p), d.isDir a = true := by
  unfold blocked?
  by_cases hk : d.key p = "."
  · simp [hk]
  · simp only [hk, beq_iff_eq, if_false, false_or, List.findSome?_eq_none_iff]
    refine forall₂_congr fun a _ => ?_
    cases h : d.entry? a with
    | none => simp [isDir_eq_true_iff, h]
    | some x => cases x <;> simp [isDir_eq_true_iff, h]

private theorem findSome?_congr {α β : Type} {f g : α → Option β} {l : List α}
    (h : ∀ a ∈ l, f a = g a) : l.findSome? f = l.findSome? g := by
  induction l with
  | nil => rfl
  | cons a l ih =>
    rw [List.findSome?_cons, List.findSome?_cons, h a List.mem_cons_self,
      ih fun b hb => h b (List.mem_cons_of_mem a hb)]

/-- Two trees with one working directory reach a path alike when its ancestors hold the same
entries. -/
theorem blocked?_congr {d' : Disk} (hroot : d'.root = d.root)
    (h : ∀ a ∈ ancestors (d.key p), d'.entry? a = d.entry? a) : d'.blocked? p = d.blocked? p := by
  have hkey : d'.key p = d.key p := by simp [key, absPath, hroot]
  unfold blocked?
  rw [hkey]
  dsimp only
  split
  · rfl
  · exact findSome?_congr fun a ha => by rw [h a ha]

theorem lookupAs_congr {d' : Disk} {op : String} (hb : d'.blocked? p = d.blocked? p)
    (he : d'.entry? p = d.entry? p) : d'.lookupAs op p = d.lookupAs op p := by
  simp only [lookupAs, hb, he]

theorem fileText_congr {d' : Disk} (hb : d'.blocked? p = d.blocked? p)
    (he : d'.entry? p = d.entry? p) : d'.fileText p = d.fileText p := by
  simp only [fileText, lookupAs_congr hb he]

/-- A path that can be reached and is no directory is none of its own ancestors. -/
theorem key_ne_of_mem_ancestors (hb : d.blocked? p = none) (hdir : d.isDir p = false) :
    ∀ a ∈ ancestors (d.key p), d.key a ≠ d.key p := by
  intro a ha hk
  rcases blocked?_eq_none_iff.1 hb with h0 | hdirs
  · have hnil : ancestors "." = [] := by decide +kernel
    rw [h0, hnil] at ha
    cases ha
  · have := hdirs a ha
    rw [isDir_eq_of_key_eq hk, hdir] at this
    exact absurd this (by decide)

/-! ### Reading a file -/

theorem fileText_eq_ok_iff {t : String} :
    d.fileText p = .ok t ↔ d.blocked? p = none ∧ d.entry? p = some (.file t) := by
  unfold fileText lookupAs
  cases hb : d.blocked? p with
  | some why => simp [bind, Except.bind]
  | none =>
    cases he : d.entry? p with
    | none => simp [bind, Except.bind]
    | some x => cases x <;> simp [bind, Except.bind]

/-- Where asking for the status fails, nothing can be read. -/
theorem fileText_error_of_stat {err : DiskError} (h : d.stat p = .error err) : ∀ t, d.fileText p ≠ .ok t := by
  intro t hread
  obtain ⟨hb, he⟩ := fileText_eq_ok_iff.1 hread
  simp [stat, lookupAs, hb, he] at h

/-- After the entry at a path is erased nothing can be read there. -/
theorem fileText_erase_self : ∀ t, (d.erase p).fileText p ≠ .ok t := by
  intro t hread
  have he := (fileText_eq_ok_iff.1 hread).2
  rcases entry?_erase_self (d := d) (q := p) with h0 | hd
  · simp [h0] at he
  · simp [hd] at he

/-! ### Writing and removing -/

theorem putText_eq_ok {d' : Disk} {t : String} (h : d.putText p t = .ok d') :
    d' = d.put p (.file t) ∧ d.blocked? p = none ∧ d.isDir p = false := by
  unfold putText at h
  cases hb : d.blocked? p with
  | some why => simp [hb] at h
  | none =>
    have hdir : d.entry? p ≠ some .dir := fun he => by simp [hb, he] at h
    refine ⟨?_, rfl, ?_⟩
    · cases he : d.entry? p with
      | none => simpa [hb, he, eq_comm] using h
      | some x => cases x <;> simp_all [eq_comm]
    · rwa [← Bool.not_eq_true, isDir_eq_true_iff]

theorem putText_eq_ok_of {t : String} (hb : d.blocked? p = none) (hdir : d.isDir p = false) :
    d.putText p t = .ok (d.put p (.file t)) := by
  have hne : d.entry? p ≠ some .dir := by rwa [← Bool.not_eq_true, isDir_eq_true_iff] at hdir
  unfold putText
  cases he : d.entry? p with
  | none => simp [hb]
  | some x =>
    cases x with
    | file => simp [hb]
    | dir => exact absurd he hne

theorem remove_eq_ok {d' : Disk} (h : d.remove p = .ok d') : d' = d.erase p := by
  unfold remove at h
  cases hl : d.lookupAs "remove" p with
  | error err => simp [hl, bind, Except.bind] at h
  | ok x =>
    cases x with
    | file t => simpa [hl, bind, Except.bind, eq_comm] using h
    | dir =>
      simp only [hl, bind, Except.bind] at h
      split at h
      · cases h
      · simpa [eq_comm] using h

/-- Making a directory whose parents and itself are directories leaves the tree as it is. -/
theorem mkdirAll_existing (h : ∀ q ∈ ancestors (d.key p) ++ [d.key p], d.entry? q = some .dir) :
    d.mkdirAll p = .ok d := by
  unfold mkdirAll
  dsimp only
  split
  · rfl
  · -- each step of the fold finds a directory and returns the tree it was given
    generalize ancestors (d.key p) ++ [d.key p] = qs at h ⊢
    induction qs with
    | nil => rfl
    | cons q qs ih =>
      simp only [List.mem_cons, forall_eq_or_imp] at h
      simp only [List.foldlM_cons, h.1]
      exact ih h.2

/-! ### Changes at a few keys -/

/-- **`d'` differs from `d` only at the keys `ks`**: on the same working directory, every other
path holds the same entry, and `d'` has no directory that `d` lacks. -/
structure ChangedAt (d d' : Disk) (ks : List String) : Prop where
  root_eq : d'.root = d.root
  entry?_eq : ∀ p, d.key p ∉ ks → d'.entry? p = d.entry? p
  isDir_of : ∀ p, d'.isDir p = true → d.isDir p = true

namespace ChangedAt

variable {d' d'' : Disk} {ks ks' : List String}

theorem refl (d : Disk) (ks : List String) : ChangedAt d d ks :=
  ⟨rfl, fun _ _ => rfl, fun _ h => h⟩

theorem key_eq (h : ChangedAt d d' ks) (p : String) : d'.key p = d.key p := by
  simp [key, absPath, h.root_eq]

theorem mono (h : ChangedAt d d' ks) (hks : ∀ k ∈ ks, k ∈ ks') : ChangedAt d d' ks' :=
  ⟨h.root_eq, fun p hp => h.entry?_eq p fun hk => hp (hks _ hk), h.isDir_of⟩

theorem trans (h₁ : ChangedAt d d' ks) (h₂ : ChangedAt d' d'' ks) : ChangedAt d d'' ks := by
  refine ⟨h₂.root_eq.trans h₁.root_eq, fun p hp => ?_, fun p hp => h₁.isDir_of p (h₂.isDir_of p hp)⟩
  rw [h₂.entry?_eq p (by rwa [h₁.key_eq]), h₁.entry?_eq p hp]

theorem append (h₁ : ChangedAt d d' ks) (h₂ : ChangedAt d' d'' ks') : ChangedAt d d'' (ks ++ ks') :=
  (h₁.mono fun _ hk => List.mem_append_left _ hk).trans (h₂.mono fun _ hk => List.mem_append_right _ hk)

theorem put_file {t : String} : ChangedAt d (d.put q (.file t)) [d.key q] :=
  ⟨rfl, fun _ hp => entry?_put_of_key_ne (by simpa using hp), fun _ h => isDir_of_isDir_put_file h⟩

theorem erase : ChangedAt d (d.erase q) [d.key q] :=
  ⟨rfl, fun _ hp => entry?_erase_of_key_ne (by simpa using hp), fun _ h => isDir_of_isDir_erase h⟩

/-- A path none of whose ancestors changed is reached as before. -/
theorem blocked?_eq (h : ChangedAt d d' ks) (ha : ∀ a ∈ ancestors (d.key p), d.key a ∉ ks) :
    d'.blocked? p = d.blocked? p :=
  blocked?_congr h.root_eq fun a hm => h.entry?_eq a (ha a hm)

/-- A path that did not change, nor did any of its ancestors, reads as before. -/
theorem fileText_eq (h : ChangedAt d d' ks) (hp : d.key p ∉ ks)
    (ha : ∀ a ∈ ancestors (d.key p), d.key a ∉ ks) : d'.fileText p = d.fileText p :=
  fileText_congr (h.blocked?_eq ha) (h.entry?_eq p hp)

/-- What can be reached after the change could be reached before. -/
theorem blocked?_eq_none (h : ChangedAt d d' ks) (hb : d'.blocked? p = none) : d.blocked? p = none := by
  rw [blocked?_eq_none_iff, h.key_eq] at hb
  rcases hb with hk | hdirs
  · exact blocked?_eq_none_iff.2 (.inl hk)
  · refine blocked?_eq_none_iff.2 (.inr fun a ha => h.isDir_of a ?_)
    exact hdirs a ha

/-- A path that did not change and could not be read before cannot be read after. -/
theorem fileText_error (h : ChangedAt d d' ks) (hp : d.key p ∉ ks) (hr : ∀ t, d.fileText p ≠ .ok t) :
    ∀ t, d'.fileText p ≠ .ok t := by
  intro t hread
  obtain ⟨hb, he⟩ := fileText_eq_ok_iff.1 hread
  rw [h.entry?_eq p hp] at he
  exact hr t (fileText_eq_ok_iff.2 ⟨h.blocked?_eq_none hb, he⟩)

end ChangedAt

end Accessors.Disk
