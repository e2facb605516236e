import Accessors.Text.Basic

/-!
# Lines and trimming

Text joined with line breaks splits back into its lines when none of them holds a line break
(`splitOn_joinWith_newline`), and replacing a pattern whose first character the text does not
hold leaves the text as it is (`replaceAll_of_not_mem`). Both rest on how `splitChars` scans:
characters that start no separator go on the current piece (`splitChars_append_of_not_mem`).

Trimming leaves text alone when nothing at its ends is trimmed: blanks (`trimSpace_of_ends`), a
prefix (`trimPrefix_of_head_ne`) or a suffix (`trimSuffix_of_getLast_ne`) that is not there.
-/

namespace Accessors.Text

/-! ### Splitting -/

section Split

variable {s : Char} {sep : List Char}

/-- A character other than the separator's first one starts no separator. -/
theorem dropPrefix?_cons_of_ne {c : Char} (hc : c ≠ s) (cs : List Char) :
    dropPrefix? (s :: sep) (c :: cs) = none := by
  simp [dropPrefix?, Ne.symm hc]

/-- **Characters that start no separator go on the current piece.** -/
theorem splitChars_append_of_not_mem (h : s :: sep ≠ []) {xs : List Char} (hx : s ∉ xs)
    (rest cur : List Char) (acc : List (List Char)) :
    splitChars (s :: sep) h (xs ++ rest) cur acc =
      splitChars (s :: sep) h rest (xs.reverse ++ cur) acc := by
  induction xs generalizing cur with
  | nil => rfl
  | cons x xs ih =>
    have hxs : x ≠ s := fun e => hx (e ▸ List.mem_cons_self)
    rw [List.cons_append, splitChars]
    split
    · rename_i r hp
      rw [dropPrefix?_cons_of_ne hxs] at hp
      cases hp
    · rw [ih (fun e => hx (List.mem_cons_of_mem _ e))]
      simp

/-- A line break ends the current piece. -/
theorem splitChars_newline (h : ['\n'] ≠ []) (rest cur : List Char) (acc : List (List Char)) :
    splitChars ['\n'] h ('\n' :: rest) cur acc = splitChars ['\n'] h rest [] (cur.reverse :: acc) := by
  rw [splitChars]
  split
  · rename_i r hp
    simp only [dropPrefix?, if_true, Option.some.injEq] at hp
    subst hp
    rfl
  · rename_i hp
    simp [dropPrefix?] at hp

/-- The end of the text ends the current piece. -/
theorem splitChars_nil (h : sep ≠ []) (cur : List Char) (acc : List (List Char)) :
    splitChars sep h [] cur acc = (cur.reverse :: acc).reverse := by
  rw [splitChars]

/-- Lines joined with line breaks split into the lines, after the pieces already split, by
induction on the lines. -/
theorem splitChars_intercalate (h : ['\n'] ≠ []) :
    ∀ (l : List Char) (ls : List (List Char)) (acc : List (List Char)),
      '\n' ∉ l → (∀ m ∈ ls, '\n' ∉ m) →
        splitChars ['\n'] h (['\n'].intercalate (l :: ls)) [] acc = acc.reverse ++ l :: ls
  | l, [], acc, hl, _ => by
    have := splitChars_append_of_not_mem h hl [] [] acc
    rw [List.append_nil] at this
    rw [List.intercalate_singleton, this, splitChars_nil]
    simp
  | l, m :: ms, acc, hl, hms => by
    rw [List.intercalate_cons_cons, List.append_assoc, splitChars_append_of_not_mem h hl,
      List.singleton_append, splitChars_newline,
      splitChars_intercalate h m ms _ (hms m List.mem_cons_self)
        (fun m' hm' => hms m' (List.mem_cons_of_mem _ hm'))]
    simp

/-- **Lines joined with line breaks split back into the lines**, when none of them holds a
line break. -/
theorem splitOn_joinWith_newline (l : String) (ls : List String)
    (hls : ∀ m ∈ l :: ls, '\n' ∉ m.toList) : splitOn (joinWith "\n" (l :: ls)) "\n" = l :: ls := by
  have hsep : "\n".toList = ['\n'] := rfl
  unfold splitOn
  rw [dif_neg (by simp)]
  -- the separator is the line break whatever proof of its non-emptiness is used
  have key : ∀ (sep : List Char) (h : sep ≠ []), sep = ['\n'] →
      (splitChars sep h (joinWith "\n" (l :: ls)).toList [] []).map String.ofList = l :: ls := by
    rintro sep h rfl
    rw [joinWith, String.toList_intercalate, hsep, List.map_cons,
      splitChars_intercalate h _ _ [] (hls l List.mem_cons_self)
        (fun m hm => by
          obtain ⟨m', hm', rfl⟩ := List.mem_map.1 hm
          exact hls m' (List.mem_cons_of_mem _ hm'))]
    simp
  exact key _ _ hsep

/-- **Replacing a pattern the text does not hold** leaves the text as it is: no character of it
starts the pattern. -/
theorem replaceAll_of_not_mem {t old new : String} {c : Char} {cs : List Char}
    (hold : old.toList = c :: cs) (ht : c ∉ t.toList) : replaceAll t old new = t := by
  have hne : old.isEmpty = false := by
    rw [String.isEmpty_eq_false_iff]
    rintro rfl
    cases hold
  have key : ∀ (sep : List Char) (h : sep ≠ []), sep = c :: cs →
      splitChars sep h t.toList [] [] = [t.toList] := by
    rintro sep h rfl
    have := splitChars_append_of_not_mem h ht [] [] []
    rw [List.append_nil] at this
    rw [this, splitChars_nil]
    simp
  unfold replaceAll splitOn
  rw [if_neg (by simp [hne]), dif_neg (by simp [hold]), key _ _ hold]
  simp [joinWith]

end Split

/-! ### Trimming -/

/-- Trimming leaves characters alone that start with no blank. -/
theorem trimLeftChars_of_head {c : Char} (hc : isSpace c = false) (cs : List Char) :
    trimLeftChars (c :: cs) = c :: cs := by
  simp [trimLeftChars, hc]

/-- Trimming leaves characters alone that end with no blank. -/
theorem trimRightChars_of_getLast {cs : List Char}
    (h : ∀ c, cs.getLast? = some c → isSpace c = false) : trimRightChars cs = cs := by
  unfold trimRightChars
  cases hr : cs.reverse with
  | nil => simp_all
  | cons c rest =>
    have hc : isSpace c = false := h c (by rw [← List.head?_reverse, hr]; rfl)
    rw [List.dropWhile_cons_of_neg (by simp [hc]), ← hr, List.reverse_reverse]

/-- **Trimming text that starts and ends with no blank** leaves it as it is. -/
theorem trimSpace_of_ends {t : String} (hh : ∀ c, t.toList.head? = some c → isSpace c = false)
    (hl : ∀ c, t.toList.getLast? = some c → isSpace c = false) : trimSpace t = t := by
  unfold trimSpace
  cases ht : t.toList with
  | nil =>
    show String.ofList [] = t
    rw [← ht, String.ofList_toList]
  | cons c cs =>
    rw [trimLeftChars_of_head (hh c (by rw [ht]; rfl)), ← ht,
      trimRightChars_of_getLast hl, String.ofList_toList]

/-- Trimming a blank in front of text that starts and ends with no blank leaves the text. -/
theorem trimSpace_space_append {t : String} (hh : ∀ c, t.toList.head? = some c → isSpace c = false)
    (hl : ∀ c, t.toList.getLast? = some c → isSpace c = false) : trimSpace (" " ++ t) = t := by
  have hleft : trimLeftChars (" " ++ t).toList = trimLeftChars t.toList := by
    simp [trimLeftChars, String.toList_append, isSpace]
  unfold trimSpace
  rw [hleft]
  exact trimSpace_of_ends hh hl

/-- Trimming a prefix that the text does not start with leaves it as it is. -/
theorem trimPrefix_of_head_ne {t p : String} {c : Char} {cs : List Char} (hp : p.toList = c :: cs)
    (ht : t.toList.head? ≠ some c) : trimPrefix t p = t := by
  unfold trimPrefix
  rw [hp]
  cases htl : t.toList with
  | nil => rfl
  | cons d ds =>
    have hdc : c ≠ d := fun e => ht (by rw [htl, e]; rfl)
    simp [dropPrefix?, hdc]

/-- Trimming a suffix whose last character the text does not end with leaves it as it is. -/
theorem trimSuffix_of_getLast_ne {t p : String} {c : Char} (hp : p.toList.getLast? = some c)
    (ht : t.toList.getLast? ≠ some c) : trimSuffix t p = t := by
  unfold trimSuffix
  obtain ⟨cs, hpr⟩ : ∃ cs, p.toList.reverse = c :: cs := by
    cases h : p.toList.reverse with
    | nil => simp_all
    | cons d ds =>
      rw [← List.head?_reverse, h] at hp
      cases hp
      exact ⟨ds, rfl⟩
  rw [hpr]
  cases htl : t.toList.reverse with
  | nil => rfl
  | cons d ds =>
    have hdc : c ≠ d := fun e => ht (by rw [← List.head?_reverse, htl, e]; rfl)
    simp [dropPrefix?, hdc]

end Accessors.Text
