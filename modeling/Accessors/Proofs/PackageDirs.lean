import Accessors.PackageDirs
import Accessors.Proofs.Render.ImportTable
import Mathlib.Data.String.Basic

/-!
# The package directories of a run

Every pattern whose root is a directory names directories (`named`): the root itself for a
plain pattern, and for a pattern ending in `/...` the root and the directories below it that the
walk enters and that hold a hand-written Go file (`walk`). When every root is a directory, the
patterns expand to those directories (`foldlM_expandOne`), and a scan that succeeds holds the
cleaned form of every directory a pattern names (`scan_eq_ok`).

The scan then cleans the paths, keeps each spelling once and sorts the spellings, and only after
that makes each path absolute (`scan_eq_absPath_sorted`). So the list is strictly increasing, and
free of repeats, as a list of cleaned spellings, not as a list of absolute paths: `.` and `/`,
read from the working directory `/w`, come out as `/w` before `/`, and a directory named once
relative and once absolute comes out twice.
-/

namespace Accessors.PackageDirs

/-- Removing repeated elements leaves no repeats. -/
theorem eraseDups_nodup {α : Type} [BEq α] [LawfulBEq α] : (l : List α) → l.eraseDups.Nodup
  | [] => by simp
  | a :: as => by
    rw [List.eraseDups_cons, List.nodup_cons]
    refine ⟨?_, eraseDups_nodup (as.filter fun b => !b == a)⟩
    rw [List.mem_eraseDups, List.mem_filter]
    rintro ⟨-, hne⟩
    simp at hne
termination_by l => l.length
decreasing_by exact Nat.lt_succ_of_le (List.length_filter_le _ _)

variable {disk : Disk}

/-- **The directories a pattern names** when its root is a directory: the root of a plain
pattern, or what the walk from the root of a recursive one finds. -/
def named (disk : Disk) (pattern : String) : List String :=
  if (rootOf pattern).2 then walk disk (rootOf pattern).1 else [(rootOf pattern).1]

theorem expandOne_of_stat {p : String} (h : disk.stat (rootOf p).1 = .ok .dir) :
    expandOne disk p = .ok (named disk p) := by
  unfold expandOne named
  cases hr : rootOf p with
  | mk root recursive =>
    simp only [hr] at h ⊢
    rw [h]
    rfl

/-- Patterns whose roots are directories expand, in order, to the directories they name. -/
theorem foldlM_expandOne (acc ps : List String)
    (h : ∀ p ∈ ps, disk.stat (rootOf p).1 = .ok .dir) :
    ps.foldlM (fun acc p => (acc ++ ·) <$> expandOne disk p) acc =
      .ok (acc ++ ps.flatMap (named disk)) := by
  induction ps generalizing acc with
  | nil =>
    simp only [List.foldlM_nil, List.flatMap_nil, List.append_nil]
    rfl
  | cons p ps ih =>
    rw [List.foldlM_cons, expandOne_of_stat (h p List.mem_cons_self)]
    simp only [List.flatMap_cons, ← List.append_assoc]
    exact ih _ fun q hq => h q (List.mem_cons_of_mem _ hq)

/-- A pattern that expands names its directories. -/
theorem expandOne_eq_ok {p : String} {xs : List String} (h : expandOne disk p = .ok xs) :
    xs = named disk p := by
  unfold expandOne at h
  unfold named
  cases hr : rootOf p with
  | mk root recursive =>
    simp only [hr] at h ⊢
    cases hs : disk.stat root with
    | error e =>
      rw [hs] at h
      cases h
    | ok e =>
      rw [hs] at h
      cases e with
      | file t => cases h
      | dir =>
        cases h
        rfl

/-- Patterns that expand, in order, expand to the directories they name. -/
theorem foldlM_expandOne_eq_ok : ∀ (acc ps : List String) {xs : List String},
    ps.foldlM (fun acc p => (acc ++ ·) <$> expandOne disk p) acc = .ok xs →
      xs = acc ++ ps.flatMap (named disk)
  | acc, [], xs, h => by
    cases h
    simp
  | acc, p :: ps, xs, h => by
    rw [List.foldlM_cons] at h
    cases he : expandOne disk p with
    | error e =>
      rw [he] at h
      cases h
    | ok ys =>
      rw [he] at h
      rw [foldlM_expandOne_eq_ok (acc ++ ys) ps h, expandOne_eq_ok he, List.flatMap_cons,
        List.append_assoc]

/-- **What a scan that succeeds holds**: absolute forms of cleaned paths, among them the cleaned
form of every directory a pattern names (`./...` when there is no pattern). -/
theorem scan_eq_ok {patterns dirs : List String} (h : scan disk patterns = .ok dirs) :
    ∃ rel : List String, dirs = rel.map disk.absPath ∧
      ∀ p ∈ (if patterns.isEmpty then ["./..."] else patterns), ∀ x ∈ named disk p,
        Disk.cleanPath x ∈ rel := by
  unfold scan at h
  cases he : expand disk patterns with
  | error e =>
    rw [he] at h
    cases h
  | ok rel =>
    rw [he] at h
    cases h
    refine ⟨rel, rfl, fun p hp x hx => ?_⟩
    unfold expand at he
    cases hf : (if patterns.isEmpty then ["./..."] else patterns).foldlM
        (fun acc p => (acc ++ ·) <$> expandOne disk p) [] with
    | error e =>
      simp only [hf, bind, Except.bind] at he
      cases he
    | ok ys =>
      simp only [hf, bind, Except.bind, pure, Except.pure, Except.ok.injEq] at he
      rw [foldlM_expandOne_eq_ok [] _ hf, List.nil_append] at he
      rw [← he, List.mem_mergeSort, List.mem_eraseDups, List.mem_map]
      exact ⟨x, List.mem_flatMap.2 ⟨p, hp, hx⟩, rfl⟩

/-- **The scan of patterns whose roots are directories**: the absolute forms of a strictly
increasing list of cleaned paths, which holds exactly the cleaned directories the patterns name
(`./...` when there is no pattern). -/
theorem scan_eq_absPath_sorted (disk : Disk) (patterns : List String)
    (hdirs : ∀ p ∈ (if patterns.isEmpty then ["./..."] else patterns),
      disk.stat (rootOf p).1 = .ok .dir) :
    ∃ rel : List String, scan disk patterns = .ok (rel.map disk.absPath) ∧
      rel.Pairwise (· < ·) ∧
      ∀ d, d ∈ rel ↔ ∃ p ∈ (if patterns.isEmpty then ["./..."] else patterns),
        ∃ x ∈ named disk p, Disk.cleanPath x = d := by
  -- the cleaned spellings of the directories named, each once
  obtain ⟨cleaned, hcleaned⟩ : ∃ c, c = (((if patterns.isEmpty then ["./..."] else patterns).flatMap
      (named disk)).map Disk.cleanPath).eraseDups := ⟨_, rfl⟩
  have hexpand : expand disk patterns = .ok (Render.ImportSet.sortLines cleaned) := by
    unfold expand
    dsimp only
    rw [foldlM_expandOne [] _ hdirs, hcleaned]
    rfl
  obtain ⟨hperm, hle⟩ := Render.ImportSet.sortLines_spec cleaned
  refine ⟨Render.ImportSet.sortLines cleaned, by simp only [scan, hexpand], ?_, fun d => ?_⟩
  · have hnd := hperm.nodup_iff.mpr (hcleaned ▸ eraseDups_nodup _)
    exact (hle.and hnd).imp fun h => lt_of_le_of_ne h.1 h.2
  · rw [hperm.mem_iff, hcleaned, List.mem_eraseDups, List.mem_map]
    simp only [List.mem_flatMap]
    constructor
    · rintro ⟨x, ⟨p, hp, hx⟩, rfl⟩
      exact ⟨p, hp, x, hx, rfl⟩
    · rintro ⟨p, hp, x, hx, rfl⟩
      exact ⟨x, ⟨p, hp, hx⟩, rfl⟩

/-- The working directory and the root of the file system, named from `/w`. -/
theorem scan_eq_absPath_sorted_dot_slash :
    (∀ p ∈ (if [".", "/"].isEmpty then ["./..."] else [".", "/"]),
      (Disk.atRoot "/w").stat (rootOf p).1 = .ok .dir) ∧
    ∃ rel : List String,
      scan (Disk.atRoot "/w") [".", "/"] = .ok (rel.map (Disk.atRoot "/w").absPath) ∧
      rel.Pairwise (· < ·) ∧
      ∀ d, d ∈ rel ↔ ∃ p ∈ (if [".", "/"].isEmpty then ["./..."] else [".", "/"]),
        ∃ x ∈ named (Disk.atRoot "/w") p, Disk.cleanPath x = d := by
  have hdirs : ∀ p ∈ (if [".", "/"].isEmpty then ["./..."] else [".", "/"]),
      (Disk.atRoot "/w").stat (rootOf p).1 = .ok .dir := by
    have hok : ∀ {x : Except DiskError DiskEntry}, x.toOption = some .dir → x = .ok .dir := by
      intro x hx
      cases x <;> simp_all [Except.toOption]
    simp only [List.isEmpty_cons, Bool.false_eq_true, ↓reduceIte, List.mem_cons, List.not_mem_nil,
      or_false, forall_eq_or_imp, forall_eq]
    exact ⟨hok (by decide +kernel), hok (by decide +kernel)⟩
  exact ⟨hdirs, scan_eq_absPath_sorted _ _ hdirs⟩

end Accessors.PackageDirs
