import Accessors.Proofs.Generation.Accounting

/-!
# What a second run reads

A run writes the files of the classes it generates, removes the stale files of the classes it
skips, and rewrites the class map. None of these is read as code by a later run, as long as
none of the paths a run writes or removes holds a directory: such a path holds no hand-written Go
source file, so a later scan names the same package directories and reads the same packages from
them. A stale file that is a directory is the exception: removing it, when it is empty, can
remove a directory that a later scan names.

* `filter_mergeSort`: merge sort is stable, so filtering its result is sorting the filtered list.
* `Disk.ReplacedAt`, `Disk.Unread`: a change of the tree at one key that writes a file there or
  removes what is there, and a key that holds no directory and no source file.
* `PackageDirs.scan_replacedAt`, `Source.parseDirectory_replacedAt`: such a change keeps the
  directories a scan names and the package read from a reachable directory.
* `Disk.Rewritten`, `generateClasses_rewritten`: a run rewrites the tree only by such changes, at
  its classes' files and the class map's files.
* `run_rereads`: after a run whose classes' files and class map hold no directories, a scan names
  the same package directories, and the classes and package failures read from them are the same.
-/

namespace Accessors

/-! ### Sorting and filtering -/

section Sorting

variable {α : Type} {le : α → α → Bool}

/-- Two splittings of one list, each into elements failing a test followed by elements passing
it, are the same splitting. -/
theorem split_unique {q : α → Bool} {x₁ x₂ y₁ y₂ : List α} (h : x₁ ++ x₂ = y₁ ++ y₂)
    (hx₁ : ∀ b ∈ x₁, q b = false) (hx₂ : ∀ b ∈ x₂, q b = true)
    (hy₁ : ∀ b ∈ y₁, q b = false) (hy₂ : ∀ b ∈ y₂, q b = true) : x₁ = y₁ := by
  rcases List.append_eq_append_iff.1 h with ⟨c, rfl, hc⟩ | ⟨c, rfl, hc⟩
  · -- what follows `x₁` in `y₁` would both fail and pass the test
    cases c with
    | nil => simp
    | cons b c =>
      have hfail := hy₁ b (by simp)
      have hpass := hx₂ b (by simp [hc])
      rw [hfail] at hpass
      cases hpass
  · cases c with
    | nil => simp
    | cons b c =>
      have hfail := hx₁ b (by simp)
      have hpass := hy₂ b (by simp [hc])
      rw [hfail] at hpass
      cases hpass

/-- In a sorted list, what the sort places after the head of the list comes after it. -/
theorem le_of_mergeSort_cons (trans : ∀ a b c, le a b → le b c → le a c)
    (total : ∀ a b, (le a b || le b a) = true) {a : α} {l l₁ l₂ : List α}
    (h : (a :: l).mergeSort le = l₁ ++ a :: l₂) : ∀ b ∈ l₂, le a b = true := by
  have hs := List.pairwise_mergeSort trans total (a :: l)
  rw [h, List.pairwise_append] at hs
  exact fun b hb => List.rel_of_pairwise_cons hs.2.1 hb

/-- **Merge sort is stable**: filtering a sorted list is sorting the filtered list. -/
theorem filter_mergeSort (trans : ∀ a b c, le a b → le b c → le a c) (total : ∀ a b, (le a b || le b a) = true)
    (p : α → Bool) (l : List α) : (l.mergeSort le).filter p = (l.filter p).mergeSort le := by
  induction l with
  | nil => simp
  | cons a l ih =>
    -- in the sorted list, `a` stands after what it does not come before, and before the rest
    obtain ⟨l₁, l₂, h₁, h₂, h₃⟩ := List.mergeSort_cons trans total a l
    rw [h₁, List.filter_append, List.filter_cons]
    by_cases hp : p a
    · obtain ⟨m₁, m₂, g₁, g₂, g₃⟩ := List.mergeSort_cons trans total a (l.filter p)
      have hsplit : l₁.filter p ++ l₂.filter p = m₁ ++ m₂ := by
        rw [← List.filter_append, ← h₂, ih, g₂]
      have hfirst : l₁.filter p = m₁ :=
        split_unique hsplit (q := le a)
          (fun b hb => by simpa using h₃ b (List.mem_filter.1 hb).1)
          (fun b hb => le_of_mergeSort_cons trans total h₁ b (List.mem_filter.1 hb).1)
          (fun b hb => by simpa using g₃ b hb) (le_of_mergeSort_cons trans total g₁)
      have hrest : l₂.filter p = m₂ := by
        rw [hfirst] at hsplit
        exact List.append_cancel_left hsplit
      simp [hp, g₁, hfirst, hrest]
    · rw [List.filter_cons_of_neg (by simpa using hp), ← ih, h₂, List.filter_append]
      simp [hp]

end Sorting

/-! ### A change at one key -/

deriving instance ReflBEq, LawfulBEq for DiskEntry

namespace Disk

/-- **A tree changed at one key**: the entries at the key give way to at most one file there,
as writing a file or removing what is there does. -/
def ReplacedAt (d d' : Disk) (k : String) : Prop :=
  d'.root = d.root ∧ ∃ extra : List (String × DiskEntry), (∀ x ∈ extra, x.1 = k ∧ x.2 ≠ .dir) ∧
    d'.entries = d.entries.filter (·.1 != k) ++ extra

/-- **A key whose change a run does not read**: no directory is there, and its name is not that
of a hand-written Go source file. -/
def Unread (d : Disk) (k : String) : Prop :=
  (k, DiskEntry.dir) ∉ d.entries ∧ Source.isSourceFileName (baseName k) = false

instance (d : Disk) (k : String) : Decidable (Unread d k) :=
  inferInstanceAs (Decidable (_ ∧ _))

variable {d d' : Disk} {k : String}

theorem ReplacedAt.put_file (d : Disk) (p t : String) : ReplacedAt d (d.put p (.file t)) (d.key p) :=
  ⟨rfl, [(d.key p, .file t)], by simp, rfl⟩

theorem ReplacedAt.erase (d : Disk) (p : String) : ReplacedAt d (d.erase p) (d.key p) :=
  ⟨rfl, [], by simp, by simp⟩

theorem ReplacedAt.key_eq (h : ReplacedAt d d' k) (p : String) : d'.key p = d.key p := by
  simp [key, absPath, h.1]

/-- A change at a key keeps every other key's entries, and adds no directory. -/
theorem ReplacedAt.mem_entries (h : ReplacedAt d d' k) {x : String × DiskEntry} (hx : x ∈ d'.entries) :
    x ∈ d.entries ∨ (x.1 = k ∧ x.2 ≠ .dir) := by
  obtain ⟨-, extra, hextra, he⟩ := h
  rw [he, List.mem_append] at hx
  rcases hx with hx | hx
  · exact .inl (List.mem_filter.1 hx).1
  · exact .inr (hextra x hx)

theorem ReplacedAt.unread (h : ReplacedAt d d' k) {k' : String} (hu : Unread d k') : Unread d' k' := by
  refine ⟨fun hx => ?_, hu.2⟩
  rcases h.mem_entries hx with hx | ⟨-, hdir⟩
  · exact hu.1 hx
  · exact hdir rfl

/-- Dropping the entries at a key that map to nothing changes nothing. -/
theorem filterMap_filter_key {β : Type} (f : String × DiskEntry → Option β) (l : List (String × DiskEntry))
    (hf : ∀ e, (k, e) ∈ l → f (k, e) = none) : (l.filter (·.1 != k)).filterMap f = l.filterMap f := by
  induction l with
  | nil => rfl
  | cons x l ih =>
    have ih' := ih fun e he => hf e (List.mem_cons_of_mem x he)
    obtain ⟨q, e⟩ := x
    by_cases hq : q = k
    · subst hq
      simp [hf e List.mem_cons_self, ih']
    · have hne : (q != k) = true := by simpa using hq
      simp only [List.filter_cons, hne, if_true, List.filterMap_cons, ih']

/-- **What a change at a key holding no directory leaves**: every map of the entries that sends
what is no directory at the key to nothing. -/
theorem ReplacedAt.filterMap_eq (h : ReplacedAt d d' k) (hu : (k, DiskEntry.dir) ∉ d.entries) {β : Type}
    (f : String × DiskEntry → Option β) (hf : ∀ e, e ≠ .dir → f (k, e) = none) :
    d'.entries.filterMap f = d.entries.filterMap f := by
  obtain ⟨-, extra, hextra, he⟩ := h
  have hnil : extra.filterMap f = [] := by
    rw [List.filterMap_eq_nil_iff]
    intro x hx
    obtain ⟨hk, hdir⟩ := hextra x hx
    obtain ⟨q, e⟩ := x
    simp only at hk hdir
    subst hk
    exact hf e hdir
  rw [he, List.filterMap_append, hnil, List.append_nil]
  exact filterMap_filter_key f _ fun e he' => hf e fun hdir => hu (hdir ▸ he')

theorem ReplacedAt.filter_eq (h : ReplacedAt d d' k) (hu : (k, DiskEntry.dir) ∉ d.entries)
    (P : String × DiskEntry → Bool) (hP : ∀ e, e ≠ .dir → P (k, e) = false) :
    d'.entries.filter P = d.entries.filter P := by
  rw [← List.filterMap_eq_filter]
  exact h.filterMap_eq hu _ fun e he => by simp [hP e he]

theorem mem_of_lookup_eq_some {l : List (String × DiskEntry)} {q : String} {e : DiskEntry}
    (h : l.lookup q = some e) : (q, e) ∈ l := by
  induction l with
  | nil => cases h
  | cons x l ih =>
    obtain ⟨q', e'⟩ := x
    by_cases hq : q = q'
    · subst hq
      simp only [List.lookup_cons, beq_self_eq_true, Option.some.injEq] at h
      simp [h]
    · have hne : (q == q') = false := by simpa using hq
      simp only [List.lookup_cons, hne] at h
      exact List.mem_cons_of_mem _ (ih h)

/-- A directory reached through directories keeps its entry under a change at a key holding no
directory. -/
theorem ReplacedAt.entry?_eq (h : ReplacedAt d d' k) (hu : (k, DiskEntry.dir) ∉ d.entries) {p : String}
    (hp : d.isDir p = true) : d'.entry? p = d.entry? p := by
  refine entry?_congr h.1 fun hfix => ?_
  have hk : d.key p ≠ k := by
    rintro rfl
    rw [isDir_eq_true_iff, entry?_of_not_fixedKey hfix] at hp
    exact hu (mem_of_lookup_eq_some hp)
  obtain ⟨-, extra, hextra, he⟩ := h
  have hextra' : extra.lookup (d.key p) = none := by
    rw [List.lookup_eq_none_iff]
    intro x hx
    simpa [(hextra x hx).1] using hk
  rw [he, List.lookup_append, lookup_filter_of_ne hk, hextra']
  cases d.entries.lookup (d.key p) <;> rfl

/-- A path reached through directories is reached the same way after a change at a key holding
no directory. -/
theorem ReplacedAt.blocked?_eq (h : ReplacedAt d d' k) (hu : (k, DiskEntry.dir) ∉ d.entries) {p : String}
    (hb : d.blocked? p = none) : d'.blocked? p = d.blocked? p := by
  refine blocked?_congr h.1 fun a ha => h.entry?_eq hu ?_
  rcases blocked?_eq_none_iff.1 hb with h0 | hdirs
  · -- the working directory has no ancestors
    have hnil : ancestors "." = [] := by decide +kernel
    rw [h0, hnil] at ha
    cases ha
  · exact hdirs a ha

theorem ReplacedAt.lookupAs_eq (h : ReplacedAt d d' k) (hu : (k, DiskEntry.dir) ∉ d.entries) {p : String}
    (hb : d.blocked? p = none) (hp : d.isDir p = true) (op : String) :
    d'.lookupAs op p = d.lookupAs op p :=
  lookupAs_congr (h.blocked?_eq hu hb) (h.entry?_eq hu hp)

theorem lookupAs_eq_ok {op p : String} {e : DiskEntry} (h : d.lookupAs op p = .ok e) :
    d.blocked? p = none ∧ d.entry? p = some e := by
  unfold lookupAs at h
  cases hb : d.blocked? p with
  | some why => simp [hb] at h
  | none =>
    cases he : d.entry? p with
    | none => simp [hb, he] at h
    | some x =>
      simp only [hb, he, Except.ok.injEq] at h
      exact ⟨rfl, h ▸ rfl⟩

theorem ReplacedAt.absPath_eq (h : ReplacedAt d d' k) : d'.absPath = d.absPath :=
  funext fun p => by simp [absPath, h.1]

/-- Listing a directory by name: a total order. -/
theorem byName_trans (a b c : String × DiskEntry) (hab : decide (a.1 ≤ b.1) = true)
    (hbc : decide (b.1 ≤ c.1) = true) : decide (a.1 ≤ c.1) = true := by
  simpa using String.le_trans (by simpa using hab) (by simpa using hbc)

theorem byName_total (a b : String × DiskEntry) : (decide (a.1 ≤ b.1) || decide (b.1 ≤ a.1)) = true := by
  simpa using String.le_total a.1 b.1

/-- **A directory's listing after a change** at a key holding no directory: what passes a test
that the entry at the key fails is the same. -/
theorem ReplacedAt.children_filter (h : ReplacedAt d d' k) (hu : (k, DiskEntry.dir) ∉ d.entries)
    (Q : String × DiskEntry → Bool) (hQ : ∀ e, e ≠ .dir → Q (baseName k, e) = false) (p : String) :
    (d'.children p).filter Q = (d.children p).filter Q := by
  unfold children
  rw [filter_mergeSort byName_trans byName_total, filter_mergeSort byName_trans byName_total, h.key_eq,
    List.filter_map, List.filter_map, List.filter_filter, List.filter_filter,
    h.filter_eq hu _ fun e he => by simp [hQ e he]]

/-- Lists with the same entries passing a test have one passing it or none both. -/
theorem any_eq_of_filter_eq {α : Type} {l l' : List α} {Q : α → Bool} (h : l'.filter Q = l.filter Q) :
    l'.any Q = l.any Q := by
  -- only the entries passing the test count
  have hself : ∀ l : List α, (l.filter Q).any Q = l.any Q := fun l => by simp [List.any_filter]
  rw [← hself l', h, hself]

/-- A map that sends what fails a test to nothing sees only what passes it. -/
theorem filterMap_eq_filterMap_filter {α β : Type} (l : List α) {Q : α → Bool} {g : α → Option β}
    (hg : ∀ x, Q x = false → g x = none) : l.filterMap g = (l.filter Q).filterMap g := by
  induction l with
  | nil => rfl
  | cons x l ih =>
    cases hq : Q x
    · simp [hq, hg x hq, ih]
    · simp [hq, List.filterMap_cons, ih]

theorem readDir_of_dir {p : String} (h : d.lookupAs "open" p = .ok .dir) : d.readDir p = .ok (d.children p) := by
  unfold readDir
  rw [h]
  rfl

theorem ReplacedAt.children_filterMap (h : ReplacedAt d d' k) (hu : (k, DiskEntry.dir) ∉ d.entries) {β : Type}
    (g : String × DiskEntry → Option β) (hg : ∀ e, e ≠ .dir → g (baseName k, e) = none) (p : String) :
    (d'.children p).filterMap g = (d.children p).filterMap g := by
  have hsome : ∀ x, (g x).isSome = false → g x = none := fun x => by simp
  rw [filterMap_eq_filterMap_filter _ hsome, filterMap_eq_filterMap_filter (d.children p) hsome,
    h.children_filter hu _ fun e he => by simp [hg e he]]

end Disk

/-! ### What a scan reads -/

namespace PackageDirs

open Disk

variable {d d' : Disk} {k : String}

theorem below_replacedAt (h : ReplacedAt d d' k) (hu : Unread d k) (rootKey : String) :
    below d' rootKey = below d rootKey :=
  h.filterMap_eq hu.1 _ fun e he => by
    cases e with
    | file t => rfl
    | dir => exact absurd rfl he

theorem hasSourceFiles_replacedAt (h : ReplacedAt d d' k) (hu : Unread d k) :
    hasSourceFiles d' = hasSourceFiles d := by
  funext dir
  refine any_eq_of_filter_eq (h.children_filter hu.1 _ (fun e he => ?_) dir)
  cases e with
  | file t => simpa using hu.2
  | dir => exact absurd rfl he

theorem walk_replacedAt (h : ReplacedAt d d' k) (hu : Unread d k) (root : String) :
    walk d' root = walk d root := by
  simp only [walk, h.key_eq, below_replacedAt h hu, hasSourceFiles_replacedAt h hu]

theorem expandOne_replacedAt (h : ReplacedAt d d' k) (hu : Unread d k) {pat : String} {dirs : List String}
    (he : expandOne d pat = .ok dirs) : expandOne d' pat = .ok dirs := by
  unfold expandOne at he ⊢
  generalize rootOf pat = r at he ⊢
  obtain ⟨root, recursive⟩ := r
  dsimp only at he ⊢
  cases hs : d.stat root with
  | error e => simp [hs] at he
  | ok x =>
    cases x with
    | file t => simp [hs] at he
    | dir =>
      -- the root is a directory reached through directories, which the change keeps
      obtain ⟨hb, hdir⟩ := lookupAs_eq_ok hs
      have hs' : d'.stat root = d.stat root :=
        h.lookupAs_eq hu.1 hb (isDir_eq_true_iff.2 hdir) "stat"
      rw [hs', hs]
      simpa [hs, walk_replacedAt h hu] using he

theorem foldlM_expandOne_replacedAt (h : ReplacedAt d d' k) (hu : Unread d k) (ps acc r : List String)
    (he : ps.foldlM (fun acc p => (acc ++ ·) <$> expandOne d p) acc = .ok r) :
    ps.foldlM (fun acc p => (acc ++ ·) <$> expandOne d' p) acc = .ok r := by
  induction ps generalizing acc with
  | nil =>
    rw [List.foldlM_nil] at he ⊢
    exact he
  | cons p ps ih =>
    rw [List.foldlM_cons] at he ⊢
    cases hp : expandOne d p with
    | error e =>
      rw [hp] at he
      cases he
    | ok ds =>
      rw [hp] at he
      rw [expandOne_replacedAt h hu hp]
      exact ih (acc ++ ds) he

theorem expand_replacedAt (h : ReplacedAt d d' k) (hu : Unread d k) {pats dirs : List String}
    (he : expand d pats = .ok dirs) : expand d' pats = .ok dirs := by
  unfold expand at he ⊢
  dsimp only at he ⊢
  generalize (if pats.isEmpty = true then ["./..."] else pats) = ps at he ⊢
  cases hf : ps.foldlM (fun acc p => (acc ++ ·) <$> expandOne d p) [] with
  | error e =>
    rw [hf] at he
    cases he
  | ok r =>
    rw [foldlM_expandOne_replacedAt h hu _ _ _ hf]
    rw [hf] at he
    exact he

/-- **A scan after a change** at a key holding no directory and no source file names the
directories it named before. -/
theorem scan_replacedAt (h : ReplacedAt d d' k) (hu : Unread d k) {pats dirs : List String}
    (hs : scan d pats = .ok dirs) : scan d' pats = .ok dirs := by
  unfold scan at hs ⊢
  cases he : expand d pats with
  | error e =>
    rw [he] at hs
    cases hs
  | ok r =>
    rw [expand_replacedAt h hu he, h.absPath_eq]
    rw [he] at hs
    exact hs

end PackageDirs

/-! ### What reading a package reads -/

namespace Source

open Disk

variable {d d' : Disk} {k : String}

/-- **The package read from a directory after a change** at a key holding no directory and no
source file is the one read before, when the directory is reached through directories. -/
theorem parseDirectory_replacedAt (h : ReplacedAt d d' k) (hu : Unread d k) {dir : String}
    (hb : d.blocked? dir = none) (hdir : d.isDir dir = true) :
    parseDirectory d' dir = parseDirectory d dir := by
  have hl : d.lookupAs "open" dir = .ok .dir := by
    unfold lookupAs
    rw [hb, isDir_eq_true_iff.1 hdir]
  have hl' : d'.lookupAs "open" dir = .ok .dir := (h.lookupAs_eq hu.1 hb hdir _).trans hl
  unfold parseDirectory
  rw [readDir_of_dir hl, readDir_of_dir hl']
  simp only [Except.mapError, bind, Except.bind]
  rw [h.children_filterMap hu.1 _ ?_]
  rintro (_ | t) hne
  · simp [hu.2]
  · exact absurd rfl hne

end Source

/-! ### Changes one after another -/

namespace Disk

/-- **A tree rewritten at some keys**: changed one key after another, each change writing a file
at one of the keys or removing what is there. -/
inductive Rewritten (ks : List String) : Disk → Disk → Prop
  | refl (d : Disk) : Rewritten ks d d
  | head {d d' d'' : Disk} {k : String} (h : ReplacedAt d d' k) (hk : k ∈ ks) (rest : Rewritten ks d' d'') :
      Rewritten ks d d''

namespace Rewritten

variable {ks ks' : List String} {d d' d'' : Disk} {k : String}

theorem single (h : ReplacedAt d d' k) (hk : k ∈ ks) : Rewritten ks d d' :=
  .head h hk (.refl d')

theorem trans (h₁ : Rewritten ks d d') (h₂ : Rewritten ks d' d'') : Rewritten ks d d'' := by
  induction h₁ with
  | refl => exact h₂
  | head h hk _ ih => exact .head h hk (ih h₂)

theorem mono (h : Rewritten ks d d') (hks : ∀ k ∈ ks, k ∈ ks') : Rewritten ks' d d' := by
  induction h with
  | refl d => exact .refl d
  | head h hk _ ih => exact .head h (hks _ hk) ih

theorem root_eq (h : Rewritten ks d d') : d'.root = d.root := by
  induction h with
  | refl => rfl
  | head h _ _ ih => exact ih.trans h.1

theorem key_eq (h : Rewritten ks d d') (p : String) : d'.key p = d.key p := by
  simp [key, absPath, h.root_eq]

theorem unread (h : Rewritten ks d d') (hu : Unread d k) : Unread d' k := by
  induction h with
  | refl => exact hu
  | head h _ _ ih => exact ih (h.unread hu)

/-- **A scan after a rewriting** at keys holding no directory and no source file names the
directories it named before. -/
theorem scan_eq (h : Rewritten ks d d') (hu : ∀ k ∈ ks, Unread d k) {pats dirs : List String}
    (hs : PackageDirs.scan d pats = .ok dirs) : PackageDirs.scan d' pats = .ok dirs := by
  induction h with
  | refl => exact hs
  | head h hk _ ih => exact ih (fun k' hk' => h.unread (hu k' hk')) (PackageDirs.scan_replacedAt h (hu _ hk) hs)

/-- **The package read from a directory after a rewriting** at keys holding no directory and no
source file is the one read before, when the directory is reached through directories. -/
theorem parseDirectory_eq (h : Rewritten ks d d') (hu : ∀ k ∈ ks, Unread d k) {dir : String}
    (hb : d.blocked? dir = none) (hdir : d.isDir dir = true) :
    Source.parseDirectory d' dir = Source.parseDirectory d dir := by
  induction h with
  | refl => rfl
  | @head d₁ d₂ d₃ k h hk _ ih =>
    -- the directory stays reached through directories after the first change
    have hb₂ : d₂.blocked? dir = none := (h.blocked?_eq (hu _ hk).1 hb).trans hb
    have hdir₂ : d₂.isDir dir = true := by
      rw [isDir, h.entry?_eq (hu _ hk).1 hdir]
      exact hdir
    rw [ih (fun k' hk' => h.unread (hu k' hk')) hb₂ hdir₂, Source.parseDirectory_replacedAt h (hu _ hk) hb hdir]

end Rewritten

end Disk

/-! ### What a run rewrites -/

namespace ClassMap.Store

open Disk

variable {s : Store} {d d' : Disk}

/-- Writing the class map writes its temporary file, removes it, and writes the map. -/
theorem save_rewritten {es : List Entry} (h : s.save d es = .ok d') :
    Rewritten [d.key s.tempName, d.key s.path] d d' := by
  obtain ⟨d₁, hp, -, rfl⟩ := save_eq_ok h
  obtain ⟨rfl, -, -⟩ := Disk.putText_eq_ok hp
  refine .head (.put_file _ _ _) (by simp) (.head (.erase _ _) ?_ (.single (.put_file _ _ _) ?_)) <;> simp

theorem update_rewritten {change : List Entry → List Entry} (h : s.update d change = .ok d') :
    Rewritten [d.key s.tempName, d.key s.path] d d' := by
  obtain ⟨es, -, hs⟩ := update_eq_ok h
  exact save_rewritten hs

end ClassMap.Store

namespace Generation

open Disk ClassMap

variable {cx : ClassContext} {st : RunState}

theorem writeAtomic_rewritten {d d' : Disk} {p t : String} (h : writeAtomic d p t = .ok d') :
    Rewritten [d.key p] d d' := by
  obtain ⟨rfl, -⟩ := writeAtomic_eq_ok h
  exact .single (.put_file d p t) (by simp)

theorem failClass_rewritten (name : String) (stage : Stage) (e : Error) :
    Rewritten [st.disk.key cx.store.tempName, st.disk.key cx.store.path] st.disk
      (failClass cx st name stage e).disk := by
  rw [failClass_disk]
  split
  · exact Store.update_rewritten ‹_›
  · exact .refl _

theorem skip_rewritten (name target : String) :
    Rewritten [st.disk.key target, st.disk.key cx.store.tempName, st.disk.key cx.store.path] st.disk
      (skip cx st name target).1.disk := by
  obtain ⟨d, hd, hs⟩ := skip_disk cx st name target
  -- the stale file, then the entry
  have h₁ : Rewritten [st.disk.key target, st.disk.key cx.store.tempName, st.disk.key cx.store.path]
      st.disk d := by
    rcases hd with rfl | ⟨-, rfl⟩
    · exact .refl _
    · exact .single (.erase _ _) (by simp)
  rcases hs with hs | hs
  · rw [hs]
    exact h₁
  · refine h₁.trans ((Store.update_rewritten hs).mono ?_)
    simp [h₁.key_eq]

/-- **A step rewrites the tree only at the class's file and the class map's files.** -/
theorem classStep_rewritten (cx : ClassContext) (st : RunState) (c : ClassInfo) :
    Rewritten (stepKeys cx st.disk c) st.disk (classStep cx st c).1.disk := by
  rcases classStep_cases cx st c with ⟨st', hd, -, -, heq⟩ | ⟨st', stage, e, hd, -, -, -, heq⟩ |
      ⟨spec, file, d₁, -, -, hw, hp, -, -, -⟩ | ⟨st', content, e, hw, -, -, heq⟩
  · rw [heq, ← hd]
    exact skip_rewritten _ _
  · rw [heq, ← hd]
    exact (failClass_rewritten _ _ _).mono (by simp [stepKeys])
  · have h₁ : Rewritten (stepKeys cx st.disk c) st.disk d₁ :=
      (writeAtomic_rewritten hw).mono (by simp [stepKeys])
    exact h₁.trans ((Store.update_rewritten (Store.put_eq_update hp)).mono (by simp [stepKeys, h₁.key_eq]))
  · have h₀ : Rewritten (stepKeys cx st.disk c) st.disk st'.disk :=
      (writeAtomic_rewritten hw).mono (by simp [stepKeys])
    rw [heq]
    exact h₀.trans ((failClass_rewritten _ _ _).mono (by simp [stepKeys, h₀.key_eq]))

/-- **A run rewrites the tree only at its classes' files and the class map's files.** -/
theorem generateClasses_rewritten (cx : ClassContext) (st : RunState) (cs : List ClassInfo) :
    Rewritten (cs.map (fun c => st.disk.key (targetOf c)) ++ [st.disk.key cx.store.tempName, st.disk.key cx.store.path])
      st.disk (generateClasses cx st cs).disk := by
  induction cs generalizing st with
  | nil => exact .refl _
  | cons c cs ih =>
    have h₁ := classStep_rewritten cx st c
    rw [generateClasses_cons]
    refine (h₁.mono ?_).trans ((ih (classStep cx st c).1).mono ?_)
    · simp [stepKeys]
    · simp only [h₁.key_eq, List.map_cons, List.cons_append]
      exact fun k hk => List.mem_cons_of_mem _ hk

/-- The tree a generation of the classes read leaves: the one the class runs leave, from the tree
the generation started from, with the class map in the generated files directory. -/
theorem generateAll_disk (cfg : Config) (setup : Setup) (disk : Disk) (diag : Diagnostics)
    (m : Module.GoModule) (dirs : List String) :
    ∃ cx st, cx.store = Store.inDir cfg.generatedDir ∧ st.disk = disk ∧
      (generateAll cfg setup disk diag m dirs).disk = (generateClasses cx st (classesRead disk m dirs)).disk := by
  have hcs : ∀ d, (parsePackages disk m dirs d).1 = classesRead disk m dirs := fun d =>
    (parsePackages_eq disk m dirs d).1
  simp only [generateAll, hcs]
  exact ⟨_, _, rfl, rfl, rfl⟩

/-- The package read from a directory reached through directories, with its import path, is the
same after a rewriting at keys holding no directory and no source file. -/
theorem parsePackage_rewritten {ks : List String} {d d' : Disk} (h : Rewritten ks d d')
    (hu : ∀ k ∈ ks, Unread d k) (m : Module.GoModule) {dir : String} (hb : d.blocked? dir = none)
    (hdir : d.isDir dir = true) : parsePackage d' m dir = parsePackage d m dir := by
  have hpath : m.packagePath d' dir = m.packagePath d dir := by
    simp [Module.GoModule.packagePath, Module.GoModule.importPath, absPath, h.root_eq]
  unfold parsePackage
  rw [h.parseDirectory_eq hu hb hdir, hpath]

/-- **What a second run reads.** After a run whose classes' files and class map files hold no
directory and are not named as hand-written source files, a scan of the tree it leaves names the
package directories it scanned, and reading them gives the classes and the package failures it
read: the files a run writes are never read back as code. -/
theorem run_rereads {cfg : Config} {setup : Setup} {disk d₁ : Disk} {diag : Diagnostics}
    {first : String} {rest : List String} {m : Module.GoModule}
    (hv : cfg.validate = none) (hd : disk.mkdirAll cfg.generatedDir = .ok d₁)
    (hs : PackageDirs.scan d₁ cfg.directories = .ok (first :: rest))
    (hm : Module.resolve d₁ cfg.module (if setup.workingDir.isEmpty then first else setup.workingDir) = .ok m)
    (hu : ∀ k ∈ (classesRead d₁ m (first :: rest)).map (fun c => d₁.key (targetOf c)) ++
        [d₁.key (Store.inDir cfg.generatedDir).tempName, d₁.key (Store.inDir cfg.generatedDir).path],
      Unread d₁ k)
    (hdirs : ∀ dir ∈ first :: rest, d₁.blocked? dir = none ∧ d₁.isDir dir = true) :
    PackageDirs.scan (run cfg setup disk diag).disk cfg.directories = .ok (first :: rest) ∧
      classesRead (run cfg setup disk diag).disk m (first :: rest) = classesRead d₁ m (first :: rest) ∧
      packageFailures (run cfg setup disk diag).disk m (first :: rest) = packageFailures d₁ m (first :: rest) := by
  obtain ⟨diag', hrun⟩ := @run_eq_generateAll cfg setup disk d₁ diag first rest m hv hd hs hm
  obtain ⟨cx, st, hstore, hdisk, hout⟩ := generateAll_disk cfg setup d₁ diag' m (first :: rest)
  -- the run rewrites the tree it scanned only at its classes' files and the class map's files
  have hw := generateClasses_rewritten cx st (classesRead d₁ m (first :: rest))
  rw [hdisk, hstore, ← hout, ← hrun] at hw
  have hread : ∀ dir ∈ first :: rest,
      parsePackage (run cfg setup disk diag).disk m dir = parsePackage d₁ m dir := fun dir hdir =>
    parsePackage_rewritten hw hu m (hdirs dir hdir).1 (hdirs dir hdir).2
  refine ⟨hw.scan_eq hu hs, ?_, ?_⟩
  · exact List.flatMap_congr fun dir hdir => by rw [hread dir hdir]
  · exact List.filterMap_congr fun dir hdir => by rw [hread dir hdir]

end Generation

end Accessors
