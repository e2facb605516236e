import Accessors.Value.Convert
import Accessors.Value.Equal
import Mathlib.Data.List.InsertIdx

/-!
# Conversion to a storage type

`Value.convert` keeps what a type admits, and otherwise converts by `Value.convertTo`, giving the
zero value with a failure where that does not convert (`convert_of_convertTo`). What a generated
accessor stores for a value is its conversion (`Value.converted`).

* a value whose type the target admits converts to itself (`convert_of_assignable`), and every
  value converts to the empty interface as it is (`convert_any_self`);
* items convert one by one, and all of them exactly when each does (`convertItems_eq_some_iff`);
* a sequence of another type converts to a slice type by being rebuilt, in new storage, from its
  converted items (`convert_sequence`), and only when each item converts
  (`converts_of_convert_sequence`);
* among items mapped by conversion, the first one equal to a converted element stands where the
  first item equal to the element does, when conversion neither merges the element with an item
  nor separates the two (`indexIn_map`), so removal commutes with it (`removeFrom_map`).
-/

namespace Accessors
namespace Value

/-- **What a generated accessor stores for a value** as type `t`: its conversion, or the zero
value of `t` when it does not convert. -/
def converted (t : VType) (v : Value) : Value := (v.convert t).1

/-- The items of a sequence; any other value has none. -/
def elements (v : Value) : List Value := v.items?.getD []

@[simp] theorem elements_null : Value.null.elements = [] := rfl

@[simp] theorem elements_slice (e : VType) (xs : Option (List Value)) (r : Nat) :
    (slice e xs r).elements = xs.getD [] := rfl

@[simp] theorem elements_array (e : VType) (xs : List Value) : (array e xs).elements = xs := rfl

/-! ### Conversion of one value -/

/-- Only the missing value has no type. -/
theorem typeOf_eq_none_iff {v : Value} : v.typeOf = none ↔ v = .null := by
  cases v <;> simp [typeOf]

/-- No value has an interface as its own type. -/
theorem typeOf_ne_iface (v : Value) (k : Iface) : v.typeOf ≠ some (.iface k) := by
  cases v <;> simp [typeOf]

/-- A value of a slice type is a slice of that element type. -/
theorem eq_slice_of_typeOf {v : Value} {e : VType} (h : v.typeOf = some (.slice e)) :
    ∃ xs r, v = .slice e xs r := by
  cases v <;> simp_all [typeOf]

/-- **A value whose type the target admits converts to itself.** -/
theorem convert_of_assignable {v : Value} {u t : VType} (hv : v.typeOf = some u)
    (h : u.assignable t = true) : v.convert t = (v, true) := by
  have hu : ∀ k, u ≠ .iface k := fun k hk => typeOf_ne_iface v k (hk ▸ hv)
  -- an interface holds what implements it, any other type only itself
  cases t <;> simp_all [convert, VType.assignable]

theorem convertTo_of_assignable {v : Value} {u t : VType} (hv : v.typeOf = some u)
    (h : u.assignable t = true) : v.convertTo t = some v := by
  rw [convertTo, hv]
  simp only [h, if_true]

/-- **Conversion is `convertTo`** where that succeeds, and the zero value with a failure where it
does not: what the target admits is kept by both. -/
theorem convert_of_convertTo {v : Value} {t : VType} {r : Option Value} (h : v.convertTo t = r) :
    v.convert t = (r.getD t.zero, r.isSome) := by
  rcases hv : v.typeOf with _ | u
  · rw [convertTo, hv] at h
    subst h
    simp only [convert, hv, Option.getD_some, Option.isSome_some]
  · by_cases hA : u.assignable t = true
    · rw [convertTo_of_assignable hv hA] at h
      subst h
      exact convert_of_assignable hv hA
    · have hu : ∀ k, u ≠ .iface k := fun k hk => typeOf_ne_iface v k (hk ▸ hv)
      -- what is not admitted is not held either: the conversion proper decides
      cases r <;> cases t <;> simp_all [convert, VType.assignable]

/-- A value that converts is stored as its conversion. -/
theorem convert_eq_converted {v : Value} {t : VType} (h : (v.convert t).2 = true) :
    v.convert t = (converted t v, true) :=
  Prod.ext rfl h

/-- Every value converts to the empty interface as it is, the missing value to itself. -/
theorem convert_any_self (v : Value) : v.convert VType.any = (v, true) := by
  rcases hv : v.typeOf with _ | u
  · rw [typeOf_eq_none_iff.1 hv]
    rfl
  · exact convert_any v u hv

/-! ### Conversion of items -/

/-- **Items convert one by one**: to their conversions exactly when each converts. -/
theorem convertItems_eq_some_iff (e : VType) :
    ∀ {xs ys : List Value}, convertItems xs e = some ys ↔
      (∀ x ∈ xs, (x.convert e).2 = true) ∧ ys = xs.map (converted e)
  | [], ys => by
    rw [convertItems, Option.some.injEq, List.map_nil]
    exact ⟨fun h => ⟨fun _ hx => (nomatch hx), h.symm⟩, fun h => h.2.symm⟩
  | x :: xs, ys => by
    rw [convertItems, List.forall_mem_cons, List.map_cons]
    cases hx : x.convertTo e with
    | none =>
      rw [convert_of_convertTo hx]
      exact ⟨fun h => (nomatch h), fun h => (nomatch h.1.1)⟩
    | some y =>
      have hc : x.convert e = (y, true) := convert_of_convertTo hx
      have hy : converted e x = y := by rw [converted, hc]
      rw [hc, hy]
      dsimp only
      cases hxs : convertItems xs e with
      | none =>
        -- some later item does not convert
        have ih : convertItems xs e = some (xs.map (converted e)) ↔ _ := convertItems_eq_some_iff e
        rw [hxs] at ih
        refine ⟨fun h => (nomatch h), ?_⟩
        rintro ⟨⟨-, hall⟩, -⟩
        exact nomatch ih.2 ⟨hall, rfl⟩
      | some zs =>
        have ih : convertItems xs e = some zs ↔ _ := convertItems_eq_some_iff e
        rw [hxs] at ih
        obtain ⟨hall, rfl⟩ := ih.1 rfl
        rw [Option.map_some, Option.some.injEq]
        exact ⟨fun h => ⟨⟨rfl, hall⟩, h.symm⟩, fun h => h.2.symm⟩

/-- The conversion proper of a sequence of another type to a slice type rebuilds it, in new
storage, from its converted items. -/
theorem convertTo_sequence {v : Value} {e : VType} (hv : v.isSequence = true)
    (hne : v.typeOf ≠ some (.slice e)) :
    v.convertTo (.slice e) = (convertItems v.elements e).map fun ys => .slice e (some ys) 0 := by
  -- a slice type admits only itself
  cases v with
  | slice e' xs r =>
    have hA : (VType.slice e').assignable (.slice e) = false := by
      simp only [typeOf, ne_eq, Option.some.injEq, VType.slice.injEq] at hne
      simp [VType.assignable, hne]
    rw [convertTo]
    simp only [typeOf, hA, Bool.false_eq_true, if_false]
    rcases xs with _ | xs <;> rfl
  | array e' xs =>
    have hA : (VType.array xs.length e').assignable (.slice e) = false := by
      simp [VType.assignable]
    rw [convertTo]
    simp only [typeOf, hA, Bool.false_eq_true, if_false]
    rfl
  | _ => cases hv

/-- **A sequence of another type converts to a slice type** by being rebuilt, in new storage,
from its converted items, when every item converts. -/
theorem convert_sequence {v : Value} {e : VType} (hv : v.isSequence = true)
    (hne : v.typeOf ≠ some (.slice e)) (hall : ∀ x ∈ v.elements, (x.convert e).2 = true) :
    v.convert (.slice e) = (.slice e (some (v.elements.map (converted e))) 0, true) := by
  have hto := convertTo_sequence hv hne
  rw [(convertItems_eq_some_iff e).2 ⟨hall, rfl⟩, Option.map_some] at hto
  rw [convert_of_convertTo hto]
  rfl

/-- A sequence of another type converts to a slice type only when every item converts. -/
theorem converts_of_convert_sequence {v : Value} {e : VType} (hv : v.isSequence = true)
    (hne : v.typeOf ≠ some (.slice e)) (h : (v.convert (.slice e)).2 = true) :
    ∀ x ∈ v.elements, (x.convert e).2 = true := by
  cases hitems : convertItems v.elements e with
  | some ys => exact ((convertItems_eq_some_iff e).1 hitems).1
  | none =>
    -- the conversion proper fails, and so does the conversion
    have hto := convertTo_sequence hv hne
    rw [hitems, Option.map_none] at hto
    rw [convert_of_convertTo hto] at h
    cases h

/-! ### Looking up converted items -/

/-- The position of the first item equal to a value: here, or one further than in the rest. -/
theorem indexIn_cons (x : Value) (xs : List Value) (a : Value) :
    indexIn (x :: xs) a = if equal x a then some 0 else (indexIn xs a).map (· + 1) := by
  unfold indexIn
  rw [List.findIdx?_cons]

/-- **Among items mapped by `f`**, the first one equal to `f a` stands where the first item equal
to `a` does, when `f` neither merges `a` with an item nor separates the two. -/
theorem indexIn_map {f : Value → Value} {a : Value} :
    ∀ {xs : List Value}, (∀ x ∈ xs, equal (f x) (f a) = equal x a) →
      indexIn (xs.map f) (f a) = indexIn xs a
  | [], _ => rfl
  | x :: xs, h => by
    rw [List.map_cons, indexIn_cons, indexIn_cons, h x List.mem_cons_self,
      indexIn_map fun y hy => h y (List.mem_cons_of_mem _ hy)]

/-- Removing the converted element from converted items removes the element first. -/
theorem removeFrom_map {f : Value → Value} {a : Value} {xs : List Value}
    (h : ∀ x ∈ xs, equal (f x) (f a) = equal x a) :
    removeFrom (xs.map f) (f a) = (removeFrom xs a).map f := by
  unfold removeFrom
  rw [indexIn_map h]
  cases indexIn xs a with
  | none => rfl
  | some i => exact List.eraseIdx_map f xs i

/-- What remains after a removal was there before. -/
theorem mem_of_mem_removeFrom {xs : List Value} {a x : Value} (h : x ∈ removeFrom xs a) :
    x ∈ xs := by
  unfold removeFrom at h
  split at h
  · exact List.mem_of_mem_eraseIdx h
  · exact h

end Value
end Accessors
