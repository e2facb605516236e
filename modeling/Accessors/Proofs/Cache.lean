import Mathlib.Data.Bool.Basic
import Accessors.Cache

/-!
# What a memo table finds after a store

Storing replaces the entry of a key in place, or appends one when the key is new. Either way
the key then holds the new value and every other key keeps its own (`lookup_replaceOrAppend`,
`Cache.find?_set`); counting a look-up changes no entry (`Cache.find?_get`). Association lists
updated the same way elsewhere cite the first lemma.
-/

namespace Accessors

/-- Replacing the entries of a key in place. -/
theorem lookup_map_replace {α : Type} (k k' : String) (v : α) :
    ∀ ys : List (String × α),
      (ys.map fun e => if e.1 == k then (k, v) else e).lookup k' =
        if k' = k then (if ys.any (·.1 == k) then some v else none) else ys.lookup k'
  | [] => by simp
  | (a, b) :: ys => by
    rw [List.map_cons, List.lookup_cons, List.lookup_cons, lookup_map_replace k k' v ys]
    by_cases hak : a = k <;> by_cases hk : k' = k <;> grind

/-- **Replacing or appending** the entry of a key: the key has the new value, every other key
keeps its own. -/
theorem lookup_replaceOrAppend {α : Type} (xs : List (String × α)) (k k' : String) (v : α) :
    (if xs.any (·.1 == k) then xs.map (fun e => if e.1 == k then (k, v) else e)
      else xs ++ [(k, v)]).lookup k' = if k' = k then some v else xs.lookup k' := by
  split
  · rename_i hany
    rw [lookup_map_replace, if_pos hany]
  · rename_i hnone
    rw [List.lookup_append]
    by_cases hk : k' = k
    · subst hk
      -- the key is new, so only the appended entry has it
      have hfree : xs.lookup k' = none := by
        rw [List.lookup_eq_none_iff]
        intro p hp
        have hpk : p.1 ≠ k' := fun hpk => hnone (List.any_eq_true.2 ⟨p, hp, by simp [hpk]⟩)
        rw [bne_iff_ne]
        exact fun h => hpk h.symm
      simp [hfree]
    · cases xs.lookup k' <;> simp [hk]

namespace Cache

variable {α : Type}

/-- **Storing** a value: the key has it, every other key keeps its own. -/
theorem find?_set (c : Cache α) (key key' : String) (v : α) :
    (c.set key v).find? key' = if key' = key then some v else c.find? key' := by
  have hitems : (c.set key v).items =
      if c.items.any (·.1 == key) then c.items.map (fun e => if e.1 == key then (key, v) else e)
      else c.items ++ [(key, v)] := by
    unfold set
    split <;> rfl
  rw [find?, hitems, lookup_replaceOrAppend]
  rfl

/-- Counting a look-up changes no entry. -/
@[simp] theorem find?_get (c : Cache α) (key key' : String) :
    (c.get key).2.find? key' = c.find? key' := by
  unfold get
  split <;> rfl

end Cache
end Accessors
