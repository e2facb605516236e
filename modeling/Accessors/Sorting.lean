/-!
# Sorting that evaluates

The stable merge sort of the library, written so that its definitions unfold when a statement
about a fixed input is checked by evaluation: the merge recurses on the total length with a
decrease the checker can follow, and the sort on fuel that is the length of its input. Both are
the library's functions (`merge_eq`, `sort_eq`), for every comparator.
-/

namespace Accessors.Sorting

variable {α : Type}

/-- **Merges two lists**, taking the head of the first while it comes before the head of the
second. -/
def merge (le : α → α → Bool) (xs ys : List α) : List α :=
  match xs, ys with
  | [], ys => ys
  | xs, [] => xs
  | x :: xs, y :: ys =>
    if le x y then x :: merge le xs (y :: ys) else y :: merge le (x :: xs) ys
termination_by xs.length + ys.length
decreasing_by all_goals simp_wf

theorem merge_eq (le : α → α → Bool) (xs ys : List α) : merge le xs ys = xs.merge ys le := by
  induction xs generalizing ys with
  | nil => simp [merge]
  | cons x xs ih =>
    induction ys with
    | nil => simp [merge]
    | cons y ys ihy =>
      rw [merge, List.cons_merge_cons]
      split <;> simp_all

/-- **Sorts a list** stably by `le`: the halves sorted and merged. The fuel is the length of the
list, which bounds the depth of the halving. -/
def sort (le : α → α → Bool) (xs : List α) : List α := go xs.length xs
where
  go : Nat → List α → List α
    | 0, xs => xs
    | _ + 1, [] => []
    | _ + 1, [x] => [x]
    | fuel + 1, x :: y :: xs =>
      let all := x :: y :: xs
      let half := (all.length + 1) / 2
      merge le (go fuel (all.take half)) (go fuel (all.drop half))

theorem sort_go_eq (le : α → α → Bool) (fuel : Nat) (xs : List α) (h : xs.length ≤ fuel) :
    sort.go le fuel xs = xs.mergeSort le := by
  induction fuel generalizing xs with
  | zero =>
    obtain rfl : xs = [] := List.eq_nil_of_length_eq_zero (Nat.le_zero.1 h)
    simp [sort.go]
  | succ fuel ih =>
    match xs with
    | [] => simp [sort.go]
    | [x] => simp [sort.go]
    | x :: y :: xs =>
      -- both halves are shorter than the fuel left
      rw [sort.go, List.mergeSort]
      simp only [List.MergeSort.Internal.splitInTwo_fst, List.MergeSort.Internal.splitInTwo_snd]
      rw [ih _ (by simp only [List.length_take, List.length_cons] at *; omega),
        ih _ (by simp only [List.length_drop, List.length_cons] at *; omega), merge_eq]

/-- **The sort is the library's stable merge sort**, for every comparator. -/
@[simp] theorem sort_eq (le : α → α → Bool) (xs : List α) : sort le xs = xs.mergeSort le :=
  sort_go_eq le xs.length xs (Nat.le_refl _)

end Accessors.Sorting
