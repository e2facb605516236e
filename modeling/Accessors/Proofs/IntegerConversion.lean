import Mathlib.Data.List.Forall2
import Accessors.Value.Convert

/-!
# Converting integers

Storing an integer as another integer type never fails: conversion within the integer family
keeps the low bits, as two's complement does. The stored number is the one of the target's
range that agrees with the original modulo `2 ^ width`, which is the original itself exactly
when that lies in the range. A sequence of integers converts to a slice of an integer type item
by item in the same way.

* `IntKind.wrap_eq_self_iff`, `IntKind.holds_wrap`, `IntKind.dvd_wrap_sub`: wrapping is the
  identity on the range, lands in it, and changes a number by a multiple of `2 ^ width`;
* `Value.convert_eq_convertTo`: outside interfaces, conversion is `convertTo` with the zero value
  for a failure;
* `Value.convertTo_integer`, `Value.convertTo_integerSequence`: the two shapes of integer
  conversion.

Main statement: `Value.convert_integer_wraps`, with `Value.convert_int_to_int8_wraps` for the
number `300`, which becomes `44`.
-/

namespace Accessors

/-! ### Wrapping -/

namespace IntKind

/-- The modulus of a kind: two to the number of bits. -/
def modulus (k : IntKind) : Int := (Nat.pow 2 k.width : Nat)

/-- **Wrapping keeps a number of the range**, and only those. -/
theorem wrap_eq_self_iff (k : IntKind) (x : Int) : k.wrap x = x ↔ k.holds x = true := by
  cases k <;> simp [wrap, holds, least, greatest, width, signed] <;> omega

/-- **Wrapping lands in the range.** -/
theorem holds_wrap (k : IntKind) (x : Int) : k.holds (k.wrap x) = true := by
  cases k <;> simp [wrap, holds, least, greatest, width, signed] <;> omega

/-- **Wrapping changes a number by a multiple of the modulus.** -/
theorem dvd_wrap_sub (k : IntKind) (x : Int) : k.modulus ∣ k.wrap x - x := by
  cases k <;> simp [modulus, wrap, width, signed] <;> omega

end IntKind

/-! ### Integer types and values -/

/-- **The integer types**: each integer kind, and durations, which count nanoseconds in a
64-bit integer. -/
def VType.intKind? : VType → Option IntKind
  | .int k => some k
  | .declared .duration => some .int64
  | _ => none

/-- The kind and number of an integer value; a duration is a 64-bit integer. -/
def Value.intView : Value → Option (IntKind × Int)
  | .int k x => some (k, x)
  | .duration x => some (.int64, x)
  | _ => none

theorem VType.intKind?_eq_some {t : VType} {k : IntKind} :
    t.intKind? = some k ↔ t = .int k ∨ (t = .declared .duration ∧ k = .int64) := by
  cases t with
  | int k' => simp [intKind?]
  | declared d => cases d <;> simp [intKind?, eq_comm]
  | _ => simp [intKind?]

/-- An integer type is no interface. -/
theorem VType.ne_iface_of_intKind? {t : VType} {k : IntKind} (h : t.intKind? = some k) (i : Iface) :
    t ≠ .iface i := by
  rcases intKind?_eq_some.1 h with rfl | ⟨rfl, -⟩ <;> simp

/-- **`out` stores the integer `x` as type `t`** of kind `k`: a value of type `t` whose number
lies in the range of `k` and agrees with `x` modulo `2 ^ width`. -/
def Value.StoresInteger (t : VType) (k : IntKind) (x : Int) (out : Value) : Prop :=
  ∃ y, out.typeOf = some t ∧ out.intView = some (k, y) ∧ k.holds y = true ∧ k.modulus ∣ y - x

namespace Value

/-- The type of an integer value is the integer type of its kind, and its number is the one
conversion reads. -/
theorem typeOf_of_intView {v : Value} {k : IntKind} {x : Int} (h : v.intView = some (k, x)) :
    ∃ t, v.typeOf = some t ∧ t.intKind? = some k ∧ v.integer? = some x := by
  cases v <;> simp only [intView, Option.some.injEq, Prod.mk.injEq, reduceCtorEq] at h
  · obtain ⟨rfl, rfl⟩ := h
    exact ⟨_, rfl, rfl, rfl⟩
  · obtain ⟨rfl, rfl⟩ := h
    exact ⟨.declared .duration, rfl, rfl, rfl⟩

/-- **Outside interfaces, conversion is `convertTo`**, the zero value standing for a failure. -/
theorem convert_eq_convertTo (v : Value) {t : VType} (ht : ∀ i, t ≠ .iface i) :
    convert v t = ((convertTo v t).getD t.zero, (convertTo v t).isSome) := by
  unfold convert
  rcases hv : v.typeOf with _ | u
  · unfold convertTo
    rw [hv]
    rfl
  · by_cases hut : u = t
    · -- the type itself is held, as `convertTo` keeps what is assignable
      subst hut
      have hto : convertTo v u = some v := by
        unfold convertTo
        rw [hv]
        exact if_pos (VType.assignable_refl u)
      rw [hto]
      cases u <;> simp_all
    · cases convertTo v t <;> cases t <;> simp_all

/-- **An integer converts to an integer type**, kept when it is of that type and converted
within the family otherwise. The result is the wrapped number. -/
theorem convertTo_integer {v : Value} {k k' : IntKind} {x : Int} {t : VType}
    (hv : v.intView = some (k, x)) (hx : k.holds x = true) (ht : t.intKind? = some k') :
    ∃ out, convertTo v t = some out ∧ out.typeOf = some t ∧ out.intView = some (k', k'.wrap x) := by
  obtain ⟨u, hu, hk, hint⟩ := typeOf_of_intView hv
  unfold convertTo
  rw [hu]
  dsimp only
  by_cases hut : u = t
  · -- the value is of the target type already: its kind is the target's, its number in range
    subst hut
    have hkk : k = k' := Option.some.inj (hk.symm.trans ht)
    subst hkk
    rw [if_pos (VType.assignable_refl u)]
    exact ⟨v, rfl, hu, by rw [hv, (IntKind.wrap_eq_self_iff k x).2 hx]⟩
  · have hassign : u.assignable t = false := by
      have := VType.ne_iface_of_intKind? ht
      cases t <;> simp_all [VType.assignable]
    rw [if_neg (by simp [hassign])]
    rcases VType.intKind?_eq_some.1 hk with rfl | ⟨rfl, rfl⟩ <;>
      rcases VType.intKind?_eq_some.1 ht with rfl | ⟨rfl, rfl⟩ <;>
      simp [VType.family, convertScalar, hint, typeOf, intView]

/-- Items that each convert convert together, item by item. -/
theorem convertItems_of_forall {items : List Value} {t : VType}
    (h : ∀ it ∈ items, ∃ out, convertTo it t = some out) :
    ∃ outs, convertItems items t = some outs ∧
      List.Forall₂ (fun it o => convertTo it t = some o) items outs := by
  induction items with
  | nil => exact ⟨[], by simp [convertItems], .nil⟩
  | cons it items ih =>
    obtain ⟨out, hP⟩ := h it List.mem_cons_self
    obtain ⟨outs, houts, hall⟩ := ih fun it' hit' => h it' (List.mem_cons_of_mem _ hit')
    refine ⟨out :: outs, ?_, .cons hP hall⟩
    unfold convertItems
    rw [hP, houts]
    rfl

/-- **A sequence converts to a slice item by item**: a slice of the target's element type is
kept, and any other slice or array has each item converted into a new slice. -/
theorem convertTo_integerSequence {v : Value} {e t : VType} {items : List Value} {k' : IntKind}
    (hv : v.items? = some items) (hseq : v.typeOf = some (.slice e) ∨ ∃ n, v.typeOf = some (.array n e))
    (hitems : ∀ it ∈ items, (∃ k x, it.intView = some (k, x) ∧ k.holds x = true) ∧
      (e = .any ∨ it.typeOf = some e))
    (ht : t.intKind? = some k') :
    ∃ out outs, convertTo v (.slice t) = some out ∧ out.typeOf = some (.slice t) ∧
      out.items? = some outs ∧ List.Forall₂ (fun it o => convertTo it t = some o) items outs := by
  -- each item converts on its own, whichever way the sequence goes
  have hone : ∀ it ∈ items, ∃ o, convertTo it t = some o := by
    intro it hit
    obtain ⟨⟨k, x, hix, hx⟩, -⟩ := hitems it hit
    obtain ⟨o, ho, -⟩ := convertTo_integer hix hx ht
    exact ⟨o, ho⟩
  obtain ⟨outs, houts, hall⟩ := convertItems_of_forall hone
  by_cases hkept : v.typeOf = some (.slice t)
  · -- a slice of the element type is kept, and so is each of its items
    have het : e = t := by
      rcases hseq with h | ⟨n, h⟩ <;> rw [h] at hkept <;> simp_all
    subst het
    have hany : e ≠ .any := VType.ne_iface_of_intKind? ht .any
    refine ⟨v, items, ?_, hkept, hv, ?_⟩
    · unfold convertTo
      rw [hkept]
      exact if_pos (VType.assignable_refl _)
    · refine List.forall₂_same.2 fun it hit => ?_
      have hit' : it.typeOf = some e := ((hitems it hit).2).resolve_left hany
      unfold convertTo
      rw [hit']
      exact if_pos (VType.assignable_refl _)
  · rcases hseq with hs | ⟨n, hs⟩
    · have hassign : VType.assignable (.slice e) (.slice t) = false := by
        simp_all [VType.assignable]
      cases v <;> simp only [typeOf, Option.some.injEq, reduceCtorEq] at hs
      rename_i e' its r
      simp only [VType.slice.injEq] at hs
      subst hs
      cases its with
      | none =>
        simp only [items?, Option.getD_none, Option.some.injEq] at hv
        subst hv
        refine ⟨slice t (some []) 0, [], ?_, rfl, rfl, .nil⟩
        unfold convertTo
        simp [typeOf, hassign]
      | some its =>
        simp only [items?, Option.getD_some, Option.some.injEq] at hv
        subst hv
        refine ⟨slice t (some outs) 0, outs, ?_, rfl, rfl, hall⟩
        unfold convertTo
        simp [typeOf, hassign, houts]
    · cases v <;> simp only [typeOf, Option.some.injEq, reduceCtorEq] at hs
      rename_i e' its
      simp only [VType.array.injEq] at hs
      obtain ⟨-, rfl⟩ := hs
      simp only [items?, Option.some.injEq] at hv
      subst hv
      refine ⟨slice t (some outs) 0, outs, ?_, rfl, rfl, hall⟩
      unfold convertTo
      simp [typeOf, VType.assignable, houts]

/-- The stored integer is the number of the range that agrees with the original modulo the
width, and it is the original exactly when that lies in the range. -/
theorem storesInteger_wrap {v out : Value} {k k' : IntKind} {x : Int} {t : VType}
    (hv : v.intView = some (k, x)) (hx : k.holds x = true) (ht : t.intKind? = some k')
    (hout : convertTo v t = some out) :
    StoresInteger t k' x out ∧ (out.intView = some (k', x) ↔ k'.holds x = true) := by
  obtain ⟨out', hout', htype, hview⟩ := convertTo_integer hv hx ht
  rw [hout] at hout'
  cases hout'
  refine ⟨⟨k'.wrap x, htype, hview, IntKind.holds_wrap k' x, IntKind.dvd_wrap_sub k' x⟩, ?_⟩
  rw [hview, ← IntKind.wrap_eq_self_iff]
  simp

/-- **Integer conversion never fails, and wraps.** A Go integer of any kind, durations included,
stored as any integer type is accepted; the stored value is of that type, and its number is the
one of the type's range that agrees with the original modulo `2 ^ width`, so it is the original
exactly when that lies in the range. A slice or array of such integers (of one integer type, or
held as `any`) stored as a slice of an integer type is accepted too, item by item in the same
way. -/
theorem convert_integer_wraps {t : VType} {k' : IntKind} (ht : t.intKind? = some k') :
    (∀ (v : Value) (k : IntKind) (x : Int), v.intView = some (k, x) → k.holds x = true →
      (convert v t).2 = true ∧ StoresInteger t k' x (convert v t).1 ∧
        ((convert v t).1.intView = some (k', x) ↔ k'.holds x = true)) ∧
    (∀ (v : Value) (e : VType) (items : List Value), v.items? = some items →
      (v.typeOf = some (.slice e) ∨ ∃ n, v.typeOf = some (.array n e)) →
      (∀ it ∈ items, (∃ k x, it.intView = some (k, x) ∧ k.holds x = true) ∧
        (e = .any ∨ it.typeOf = some e)) →
      (convert v (.slice t)).2 = true ∧ (convert v (.slice t)).1.typeOf = some (.slice t) ∧
        ∃ outs, (convert v (.slice t)).1.items? = some outs ∧
          List.Forall₂ (fun it o => ∃ k x, it.intView = some (k, x) ∧ StoresInteger t k' x o ∧
            (o.intView = some (k', x) ↔ k'.holds x = true)) items outs) := by
  refine ⟨fun v k x hv hx => ?_, fun v e items hitems hseq hall => ?_⟩
  · obtain ⟨out, hout, -⟩ := convertTo_integer hv hx ht
    rw [convert_eq_convertTo v (VType.ne_iface_of_intKind? ht), hout]
    exact ⟨rfl, storesInteger_wrap hv hx ht hout⟩
  · obtain ⟨out, outs, hout, htype, houts, hpairs⟩ :=
      convertTo_integerSequence hitems hseq hall ht
    rw [convert_eq_convertTo v (fun i => by simp), hout]
    refine ⟨rfl, htype, outs, houts, ((List.forall₂_and_left _ _).2 ⟨hall, hpairs⟩).imp ?_⟩
    rintro it o ⟨⟨⟨k, x, hix, hx⟩, -⟩, ho⟩
    exact ⟨k, x, hix, storesInteger_wrap hix hx ht ho⟩

/-- `300` stored as `uint8` is accepted as `44`, and the slice of `any` holding `300` and
`int8(-1)` stored as `[]uint8` is accepted item by item. -/
theorem convert_integer_wraps_uint8 :
    ((convert (.int .int 300) (.int .uint8)).2 = true ∧
      StoresInteger (.int .uint8) .uint8 300 (convert (.int .int 300) (.int .uint8)).1 ∧
      ((convert (.int .int 300) (.int .uint8)).1.intView = some (.uint8, 300) ↔
        IntKind.uint8.holds 300 = true)) ∧
    ((convert (.slice .any (some [.int .int 300, .int .int8 (-1)]) 0) (.slice (.int .uint8))).2 = true ∧
      (convert (.slice .any (some [.int .int 300, .int .int8 (-1)]) 0) (.slice (.int .uint8))).1.typeOf =
        some (.slice (.int .uint8)) ∧
      ∃ outs, (convert (.slice .any (some [.int .int 300, .int .int8 (-1)]) 0)
          (.slice (.int .uint8))).1.items? = some outs ∧
        List.Forall₂ (fun (it o : Value) => ∃ k x, it.intView = some (k, x) ∧
          StoresInteger (.int .uint8) .uint8 x o ∧ (o.intView = some (.uint8, x) ↔
            IntKind.uint8.holds x = true)) [Value.int .int 300, Value.int .int8 (-1)] outs) :=
  ⟨(convert_integer_wraps rfl).1 (.int .int 300) .int 300 rfl (by decide),
    (convert_integer_wraps rfl).2 _ .any _ rfl (.inl rfl) (by
      intro it hit
      simp only [List.mem_cons, List.not_mem_nil, or_false] at hit
      rcases hit with rfl | rfl
      · exact ⟨⟨.int, 300, rfl, by decide⟩, .inl rfl⟩
      · exact ⟨⟨.int8, -1, rfl, by decide⟩, .inl rfl⟩)⟩

/-- **`300` stored as `int8` is accepted as `44`**: conversion reports success for a number
outside the range of the target. -/
theorem convert_int_to_int8_wraps :
    convert (.int .int 300) (.int .int8) = (.int .int8 44, true) ∧ IntKind.int8.holds 300 = false :=
  ⟨rfl, by decide⟩

end Value
end Accessors
