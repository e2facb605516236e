import Accessors.Value.Equal
import Mathlib

/-!
# Equality of elements is an equivalence

`Value.equal` takes null values as one, values of different types as different, comparable values
by `==` and all other values apart. On the values a program holds it is an equivalence, with two
exceptions: a float that is not a number equals nothing under `==`, itself included, and a
function that is not absent is alike to nothing taken apart, itself included.

* `equal_self`: a value none of whose parts is such a float, a complex number with such a part,
  or a function that is not absent equals itself (`equal_nan` and `equal_func` are the
  exceptions);
* `equal_comm`: equality is symmetric;
* `equal_trans`: equality is transitive for values of one heap, where slices of one storage and
  length hold the same items, maps of one storage the same entries and pointers to one address
  the same value (`OneHeap`).

Maps have distinct keys (`WellKeyed`); the first two need it.

The proofs rest on three things: a view of two values of one type side by side (`Twins`),
induction along what values hold (`children_induction`), and the fact that a comparable value is
neither the same as nor alike to a value of its type that is not comparable
(`same_alike_of_comparable`), so that `equal` takes one of its two ways for both sides.
-/

namespace Accessors

/-! ### Floats

Equality of floats is IEEE equality of their unpacked forms: two zeros of any signs, or one
value that is a number. -/

namespace Ieee

open Float.Model

/-- A float that is a number is equal to itself. -/
theorem compare_self {a : UnpackedFloat} (h : a ≠ .notANumber) : a.compare a = some .eq := by
  cases a with
  | infinity s => cases s <;> rfl
  | notANumber => exact absurd rfl h
  | zero s => rfl
  | finite s m e _ => cases s <;> simp [UnpackedFloat.compare, Ordering.then]

/-- **IEEE equality**: two zeros of any signs, or one value that is a number. -/
theorem compare_eq_eq_iff {a b : UnpackedFloat} :
    a.compare b = some .eq ↔
      (∃ s t, a = .zero s ∧ b = .zero t) ∨ (a = b ∧ a ≠ .notANumber) := by
  constructor
  · intro h
    unfold UnpackedFloat.compare at h
    split at h <;> simp_all
    -- two infinities are equal when their signs compare equal
    rename_i s t
    cases s <;> cases t <;> simp_all [compare]
  · rintro (⟨s, t, rfl, rfl⟩ | ⟨rfl, hn⟩)
    · rfl
    · exact compare_self hn

theorem beq_comm (a b : UnpackedFloat) : a.beq b = b.beq a := by
  unfold UnpackedFloat.beq
  rw [Bool.eq_iff_iff]
  simp only [beq_iff_eq, compare_eq_eq_iff]
  grind

theorem beq_trans {a b c : UnpackedFloat} (hab : a.beq b = true) (hbc : b.beq c = true) :
    a.beq c = true := by
  simp only [UnpackedFloat.beq, beq_iff_eq, compare_eq_eq_iff] at *
  grind

theorem beq_self {a : UnpackedFloat} (h : a.isNaN = false) : a.beq a = true := by
  have hn : a ≠ .notANumber := by rintro rfl; cases h
  simp [UnpackedFloat.beq, compare_self hn]

theorem beq_nan {a b : UnpackedFloat} (h : a.isNaN = true) : a.beq b = false := by
  cases a <;> simp [UnpackedFloat.isNaN] at h
  cases b <;> rfl

theorem float_beq_nan {x y : Float} (h : x.isNaN = true) : (x == y) = false :=
  beq_nan h

theorem float_beq_comm (x y : Float) : (x == y) = (y == x) :=
  beq_comm x.toModel.unpack y.toModel.unpack

theorem float_beq_trans {x y z : Float} (hxy : (x == y) = true) (hyz : (y == z) = true) :
    (x == z) = true :=
  beq_trans (b := y.toModel.unpack) hxy hyz

theorem float_beq_self {x : Float} (h : x.isNaN = false) : (x == x) = true :=
  beq_self h

theorem float32_beq_comm (x y : Float32) : (x == y) = (y == x) :=
  beq_comm x.toModel.unpack y.toModel.unpack

theorem float32_beq_trans {x y z : Float32} (hxy : (x == y) = true) (hyz : (y == z) = true) :
    (x == z) = true :=
  beq_trans (b := y.toModel.unpack) hxy hyz

theorem float32_beq_self {x : Float32} (h : x.isNaN = false) : (x == x) = true :=
  beq_self h

end Ieee

theorem Zone.alike_swap {z w : Zone} (h : z.alike w = true) : w.alike z = true := by
  cases z <;> cases w <;> simp [Zone.alike] at h ⊢
  omega

theorem Zone.alike_trans {z w u : Zone} (h : z.alike w = true) (h' : w.alike u = true) :
    z.alike u = true := by
  cases z <;> cases w <;> cases u <;> simp_all [Zone.alike]

theorem Zone.alike_self (z : Zone) : z.alike z = true := by
  cases z <;> simp [Zone.alike]

namespace Value

/-! ### What values hold -/

/-- **The values a value holds** directly: the items of a slice or an array, the values of a
map's entries, the target of a pointer and the value a validation failure holds. -/
def children : Value → List Value
  | slice _ (some xs) _ => xs
  | array _ xs => xs
  | map (some es) _ => es.map (·.2)
  | pointer _ (some (_, x)) => [x]
  | fieldError _ x _ => [x]
  | _ => []

theorem sizeOf_lt_of_mem_children {x v : Value} (h : x ∈ v.children) : sizeOf x < sizeOf v := by
  match v with
  | slice _ (some xs) _ =>
    have := List.sizeOf_lt_of_mem (show x ∈ xs from h)
    simp only [slice.sizeOf_spec, Option.some.sizeOf_spec]; omega
  | array _ xs =>
    have := List.sizeOf_lt_of_mem (show x ∈ xs from h)
    simp only [array.sizeOf_spec]; omega
  | map (some es) _ =>
    obtain ⟨⟨k, y⟩, hy, rfl⟩ := List.mem_map.1 (show x ∈ es.map (·.2) from h)
    have := List.sizeOf_lt_of_mem hy
    simp only [map.sizeOf_spec, Option.some.sizeOf_spec, Prod.mk.sizeOf_spec] at *; omega
  | pointer _ (some (_, y)) =>
    rcases List.mem_singleton.1 (show x ∈ [y] from h) with rfl
    simp only [pointer.sizeOf_spec, Option.some.sizeOf_spec, Prod.mk.sizeOf_spec]; omega
  | fieldError _ y _ =>
    rcases List.mem_singleton.1 (show x ∈ [y] from h) with rfl
    simp only [fieldError.sizeOf_spec]; omega
  | null | bool _ | str _ | int .. | double _ | single _ | complex .. | slice _ none _ | map none _
  | pointer _ none | chan .. | func _ | time _ | duration _ | label _ | point .. | bag _
  | errorRecord _ => nomatch h

/-- **Induction along what values hold**: a property that holds of a value whenever it holds of
the values it holds, holds of every value. -/
theorem children_induction {P : Value → Prop} (step : ∀ v, (∀ x ∈ v.children, P x) → P v)
    (v : Value) : P v := by
  induction h : sizeOf v using Nat.strongRecOn generalizing v with
  | _ n ih => exact step v fun x hx => ih _ (h ▸ sizeOf_lt_of_mem_children hx) x rfl

mutual
/-- **The parts of a value**: the value, and the parts of every value it holds. -/
def parts : Value → List Value
  | slice e (some xs) r => slice e (some xs) r :: itemParts xs
  | array e xs => array e xs :: itemParts xs
  | map (some es) r => map (some es) r :: entryParts es
  | pointer t (some (a, x)) => pointer t (some (a, x)) :: parts x
  | fieldError f x r => fieldError f x r :: parts x
  | v => [v]

/-- The parts of items. -/
def itemParts : List Value → List Value
  | [] => []
  | x :: xs => parts x ++ itemParts xs

/-- The parts of the values of map entries. -/
def entryParts : List (String × Value) → List Value
  | [] => []
  | (_, x) :: es => parts x ++ entryParts es
end

theorem itemParts_eq (xs : List Value) : itemParts xs = xs.flatMap parts := by
  induction xs with
  | nil => rfl
  | cons x xs ih => rw [itemParts, ih, List.flatMap_cons]

theorem entryParts_eq (es : List (String × Value)) :
    entryParts es = (es.map (·.2)).flatMap parts := by
  induction es with
  | nil => rfl
  | cons e es ih => rw [entryParts, ih]; simp

/-- A value's parts are the value and the parts of what it holds. -/
theorem parts_eq (v : Value) : parts v = v :: v.children.flatMap parts := by
  match v with
  | slice _ (some xs) _ => rw [parts, itemParts_eq]; rfl
  | array _ xs => rw [parts, itemParts_eq]; rfl
  | map (some es) _ => rw [parts, entryParts_eq]; rfl
  | pointer _ (some (_, y)) => simp [parts, children]
  | fieldError _ y _ => simp [parts, children]
  | null | bool _ | str _ | int .. | double _ | single _ | complex .. | slice _ none _ | map none _
  | pointer _ none | chan .. | func _ | time _ | duration _ | label _ | point .. | bag _
  | errorRecord _ => rfl

theorem self_mem_parts (v : Value) : v ∈ v.parts := by
  rw [parts_eq]; exact List.mem_cons_self

theorem parts_subset_of_mem_children {x v : Value} (h : x ∈ v.children) : x.parts ⊆ v.parts := by
  intro u hu
  rw [parts_eq v]
  exact List.mem_cons_of_mem _ (List.mem_flatMap.2 ⟨x, h, hu⟩)

/-- **A property of every part** of a value. -/
def AllParts (p : Value → Prop) (v : Value) : Prop := ∀ u ∈ v.parts, p u

instance (p : Value → Prop) [DecidablePred p] : DecidablePred (AllParts p) :=
  fun v => inferInstanceAs (Decidable (∀ u ∈ v.parts, p u))

theorem AllParts.self {p : Value → Prop} {v : Value} (h : AllParts p v) : p v :=
  h v (self_mem_parts v)

theorem AllParts.child {p : Value → Prop} {x v : Value} (h : AllParts p v) (hx : x ∈ v.children) :
    AllParts p x :=
  fun u hu => h u (parts_subset_of_mem_children hx hu)

/-- Whether a value is unequal to itself taken alone: a float or a complex number with a part
that is not a number, or a function that is not absent. -/
def selfUnequal : Value → Bool
  | double x => x.isNaN
  | single x => x.isNaN
  | complex re im => re.isNaN || im.isNaN
  | func (some _) => true
  | _ => false

/-- Whether the keys of a map are distinct. -/
def keysDistinct : Value → Bool
  | map (some es) _ => decide (es.map (·.1)).Nodup
  | _ => true

/-- **Maps with distinct keys** in every part, as maps have. -/
def WellKeyed (v : Value) : Prop := AllParts (keysDistinct · = true) v

/-- **No part unequal to itself**: no float or complex number with a part that is not a number,
and no function that is not absent. -/
def SelfEqualParts (v : Value) : Prop := AllParts (selfUnequal · = false) v

/-- **Two parts of one heap agree** where they share storage: slices of one type, storage and
length hold the same items, maps of one storage the same entries, pointers of one type and
address the same value. Storage numbered zero is shared with nothing. -/
def Agree : Value → Value → Prop
  | slice e (some xs) r, slice e' (some ys) s =>
    e = e' → r ≠ 0 → r = s → xs.length = ys.length → xs = ys
  | map (some es) r, map (some fs) s => r ≠ 0 → r = s → es = fs
  | pointer t (some (a, x)), pointer t' (some (b, y)) => t = t' → a = b → x = y
  | _, _ => True

/-- **Values of one heap**: any two of their parts agree. -/
def OneHeap (vs : List Value) : Prop := ∀ u ∈ vs.flatMap parts, ∀ w ∈ vs.flatMap parts, Agree u w

/-! ### Two values of one type -/

/-- **Two values of one type**, side by side. -/
inductive Twins : Value → Value → Prop
  | null : Twins null null
  | bool (x y : Bool) : Twins (bool x) (bool y)
  | str (x y : String) : Twins (str x) (str y)
  | int (k : IntKind) (x y : Int) : Twins (int k x) (int k y)
  | double (x y : Float) : Twins (double x) (double y)
  | single (x y : Float32) : Twins (single x) (single y)
  | complex (a b c d : Float) : Twins (complex a b) (complex c d)
  | slice (e : VType) (xs ys : Option (List Value)) (r s : Nat) :
      Twins (slice e xs r) (slice e ys s)
  | array (e : VType) (xs ys : List Value) (h : xs.length = ys.length) :
      Twins (array e xs) (array e ys)
  | map (es fs : Option (List (String × Value))) (r s : Nat) : Twins (map es r) (map fs s)
  | pointer (t : VType) (x y : Option (Nat × Value)) : Twins (pointer t x) (pointer t y)
  | chan (e : VType) (x y : Option (Nat × Nat)) : Twins (chan e x) (chan e y)
  | func (x y : Option Nat) : Twins (func x) (func y)
  | time (s t : Time) : Twins (time s) (time t)
  | duration (x y : Int) : Twins (duration x) (duration y)
  | label (x y : String) : Twins (label x) (label y)
  | point (a b c d : Int) : Twins (point a b) (point c d)
  | bag (xs ys : List String) : Twins (bag xs) (bag ys)
  | fieldError (f g : String) (x y : Value) (r s : String) :
      Twins (fieldError f x r) (fieldError g y s)
  | errorRecord (x y : String) : Twins (errorRecord x) (errorRecord y)

/-- Values of one type are twins: the type fixes the constructor, a slice's or a pointer's
element type and an array's length. -/
theorem twins_of_typeOf_eq {a b : Value} (h : a.typeOf = b.typeOf) : Twins a b := by
  cases a <;> cases b <;> simp [typeOf] at h
  case int.int => subst h; constructor
  case slice.slice => subst h; constructor
  case array.array => obtain ⟨hl, rfl⟩ := h; exact .array _ _ _ hl
  case pointer.pointer => subst h; constructor
  case chan.chan => subst h; constructor
  all_goals constructor

/-! ### Items held in interfaces -/

/-- **Items held in interfaces compared by `f`**: both missing, or both present, of one type,
and related by `f`. -/
def held (f : Value → Value → Bool) (x y : Value) : Bool :=
  match heldTogether x y with
  | some r => r
  | none => f x y

theorem heldTogether_of_ne {x y : Value} (hx : x ≠ null) (hy : y ≠ null) :
    heldTogether x y = if x.typeOf = y.typeOf then none else some false := by
  unfold heldTogether
  split <;> simp_all

theorem held_iff {f : Value → Value → Bool} {x y : Value} :
    held f x y = true ↔
      (x = null ∧ y = null) ∨ (x ≠ null ∧ y ≠ null ∧ x.typeOf = y.typeOf ∧ f x y = true) := by
  by_cases hx : x = null <;> by_cases hy : y = null
  · subst hx hy; simp [held, heldTogether]
  · subst hx; cases y <;> simp_all [held, heldTogether]
  · subst hy; cases x <;> simp_all [held, heldTogether]
  · by_cases ht : x.typeOf = y.typeOf <;> simp [held, heldTogether_of_ne hx hy, ht, hx, hy]

/-- Items related by `f` one way are related by `g` the other way, where `f` and `g` do so for
items present and of one type. -/
theorem held_swap {f g : Value → Value → Bool} {x y : Value}
    (hfg : x ≠ null → y ≠ null → x.typeOf = y.typeOf → f x y = true → g y x = true)
    (h : held f x y = true) : held g y x = true := by
  rcases held_iff.1 h with ⟨rfl, rfl⟩ | ⟨hx, hy, ht, hf⟩
  · exact held_iff.2 (.inl ⟨rfl, rfl⟩)
  · exact held_iff.2 (.inr ⟨hy, hx, ht.symm, hfg hx hy ht hf⟩)

theorem held_trans {f : Value → Value → Bool} {x y z : Value}
    (hf : x ≠ null → y ≠ null → z ≠ null → x.typeOf = y.typeOf → y.typeOf = z.typeOf →
      f x y = true → f y z = true → f x z = true)
    (hxy : held f x y = true) (hyz : held f y z = true) : held f x z = true := by
  rcases held_iff.1 hxy with ⟨rfl, rfl⟩ | ⟨hx, hy, ht, h1⟩
  · rcases held_iff.1 hyz with ⟨-, rfl⟩ | ⟨hy, -⟩
    · exact held_iff.2 (.inl ⟨rfl, rfl⟩)
    · exact absurd rfl hy
  · rcases held_iff.1 hyz with ⟨rfl, -⟩ | ⟨-, hz, ht', h2⟩
    · exact absurd rfl hy
    · exact held_iff.2 (.inr ⟨hx, hz, ht.trans ht', hf hx hy hz ht ht' h1 h2⟩)

theorem held_self {f : Value → Value → Bool} {x : Value} (hf : x ≠ null → f x x = true) :
    held f x x = true := by
  by_cases hx : x = null
  · exact held_iff.2 (.inl ⟨hx, hx⟩)
  · exact held_iff.2 (.inr ⟨hx, hx, rfl, hf hx⟩)

/-- Items compared one by one. -/
theorem sameItems_iff {xs ys : List Value} :
    sameItems xs ys = true ↔ List.Forall₂ (fun x y => held same x y = true) xs ys := by
  induction xs generalizing ys with
  | nil => cases ys <;> simp [sameItems]
  | cons x xs ih =>
    cases ys with
    | nil => simp [sameItems]
    | cons y ys =>
      rw [show sameItems (x :: xs) (y :: ys) = (held same x y && sameItems xs ys) from rfl]
      simp [ih]

theorem alikeItems_iff {xs ys : List Value} :
    alikeItems xs ys = true ↔ List.Forall₂ (fun x y => held alike x y = true) xs ys := by
  induction xs generalizing ys with
  | nil => cases ys <;> simp [alikeItems]
  | cons x xs ih =>
    cases ys with
    | nil => simp [alikeItems]
    | cons y ys =>
      rw [show alikeItems (x :: xs) (y :: ys) = (held alike x y && alikeItems xs ys) from rfl]
      simp [ih]

/-- Entries of one map are alike to the entries of the same keys in another. -/
theorem alikeEntries_iff {es fs : List (String × Value)} :
    alikeEntries es fs = true ↔ ∀ e ∈ es, ∃ y, fs.lookup e.1 = some y ∧ held alike e.2 y = true := by
  induction es with
  | nil => simp [alikeEntries]
  | cons e es ih =>
    obtain ⟨k, x⟩ := e
    rw [List.forall_mem_cons, ← ih]
    cases hk : fs.lookup k with
    | none => simp [alikeEntries, hk]
    | some y => cases hh : heldTogether x y <;> simp [alikeEntries, hk, held, hh]

theorem itemsComparable_iff {xs : List Value} :
    itemsComparable xs = true ↔ ∀ x ∈ xs, comparable x = true := by
  induction xs with
  | nil => simp [itemsComparable]
  | cons x xs ih =>
    rw [show itemsComparable (x :: xs) = (comparable x && itemsComparable xs) by cases x <;> rfl]
    simp [ih]

/-- Related items one way are related the other way. -/
theorem forall₂_swap_of_mem {R S : Value → Value → Prop} {xs ys : List Value}
    (hR : ∀ x ∈ xs, ∀ y ∈ ys, R x y → S y x) (h : List.Forall₂ R xs ys) :
    List.Forall₂ S ys xs := by
  induction h with
  | nil => exact .nil
  | cons hxy _ ih =>
    exact .cons (hR _ List.mem_cons_self _ List.mem_cons_self hxy)
      (ih fun x hx y hy => hR x (List.mem_cons_of_mem _ hx) y (List.mem_cons_of_mem _ hy))

theorem forall₂_trans_of_mem {R : Value → Value → Prop} {xs ys zs : List Value}
    (hR : ∀ x ∈ xs, ∀ y ∈ ys, ∀ z ∈ zs, R x y → R y z → R x z) (h : List.Forall₂ R xs ys)
    (h' : List.Forall₂ R ys zs) : List.Forall₂ R xs zs := by
  induction h generalizing zs with
  | nil => exact h'
  | cons hxy _ ih =>
    cases h' with
    | cons hyz h' =>
      refine .cons (hR _ List.mem_cons_self _ List.mem_cons_self _ List.mem_cons_self hxy hyz)
        (ih (fun x hx y hy z hz => hR x (List.mem_cons_of_mem _ hx) y (List.mem_cons_of_mem _ hy)
          z (List.mem_cons_of_mem _ hz)) h')

/-! ### Entries of maps -/

theorem lookup_eq_some_of_mem {es : List (String × Value)} {k : String} {x : Value}
    (hnd : (es.map (·.1)).Nodup) (h : (k, x) ∈ es) : es.lookup k = some x := by
  induction es with
  | nil => cases h
  | cons e es ih =>
    obtain ⟨k', x'⟩ := e
    rw [List.map_cons, List.nodup_cons] at hnd
    rcases List.mem_cons.1 h with he | he
    · cases he; exact List.lookup_cons_self
    · have hk : k ≠ k' := fun hk => hnd.1 (hk ▸ List.mem_map_of_mem (f := (·.1)) he)
      rw [List.lookup_cons, beq_false_of_ne hk]
      exact ih hnd.2 he

theorem mem_of_lookup_eq_some {es : List (String × Value)} {k : String} {x : Value}
    (h : es.lookup k = some x) : (k, x) ∈ es := by
  obtain ⟨l₁, l₂, rfl, -⟩ := List.lookup_eq_some_iff.1 h
  simp

/-- Entries alike one way are alike the other way, when both maps have distinct keys and as
many entries: every key of one is then a key of the other. -/
theorem alikeEntries_swap {es fs : List (String × Value)} (hes : (es.map (·.1)).Nodup)
    (hfs : (fs.map (·.1)).Nodup) (hlen : es.length = fs.length)
    (hR : ∀ x ∈ es.map (·.2), ∀ y ∈ fs.map (·.2), held alike x y = true → held alike y x = true)
    (h : alikeEntries es fs = true) : alikeEntries fs es = true := by
  rw [alikeEntries_iff] at h ⊢
  rintro ⟨k, y⟩ hky
  -- the keys of `es` are keys of `fs`; as many and distinct, they are all of them
  have hsub : es.map (·.1) ⊆ fs.map (·.1) := by
    intro k' hk'
    obtain ⟨⟨k'', x⟩, he, rfl⟩ := List.mem_map.1 hk'
    obtain ⟨y', hy', -⟩ := h _ he
    exact List.mem_map_of_mem (f := (·.1)) (mem_of_lookup_eq_some hy')
  have hperm := (List.subperm_of_subset hes hsub).perm_of_length_le (by simp [hlen])
  obtain ⟨⟨k', x⟩, hx, hk'⟩ := List.mem_map.1
    (hperm.symm.subset (List.mem_map_of_mem (f := (·.1)) hky))
  simp only at hk'
  subst hk'
  obtain ⟨y', hy', hxy⟩ := h _ hx
  rw [lookup_eq_some_of_mem hfs hky] at hy'
  cases hy'
  exact ⟨x, lookup_eq_some_of_mem hes hx,
    hR x (List.mem_map_of_mem (f := (·.2)) hx) y (List.mem_map_of_mem (f := (·.2)) hky) hxy⟩

theorem alikeEntries_trans {es fs gs : List (String × Value)}
    (hR : ∀ x ∈ es.map (·.2), ∀ y ∈ fs.map (·.2), ∀ z ∈ gs.map (·.2),
      held alike x y = true → held alike y z = true → held alike x z = true)
    (h : alikeEntries es fs = true) (h' : alikeEntries fs gs = true) : alikeEntries es gs = true := by
  rw [alikeEntries_iff] at h h' ⊢
  intro e he
  obtain ⟨y, hy, hxy⟩ := h e he
  obtain ⟨z, hz, hyz⟩ := h' (e.1, y) (mem_of_lookup_eq_some hy)
  exact ⟨z, hz, hR e.2 (List.mem_map_of_mem he) y
    (List.mem_map_of_mem (f := (·.2)) (mem_of_lookup_eq_some hy)) z
    (List.mem_map_of_mem (f := (·.2)) (mem_of_lookup_eq_some hz)) hxy hyz⟩

theorem alikeEntries_self {es : List (String × Value)} (hes : (es.map (·.1)).Nodup)
    (hR : ∀ x ∈ es.map (·.2), held alike x x = true) : alikeEntries es es = true := by
  rw [alikeEntries_iff]
  intro e he
  exact ⟨e.2, lookup_eq_some_of_mem hes he, hR e.2 (List.mem_map_of_mem he)⟩

/-! ### Each comparison, one constructor at a time -/

theorem same_array (e e' : VType) (xs ys : List Value) :
    same (array e xs) (array e' ys) = true ↔
      List.Forall₂ (fun x y => held same x y = true) xs ys :=
  sameItems_iff

theorem alike_array (e e' : VType) (xs ys : List Value) :
    alike (array e xs) (array e' ys) = true ↔
      List.Forall₂ (fun x y => held alike x y = true) xs ys :=
  alikeItems_iff

theorem alike_slice (e e' : VType) (xs ys : List Value) (r s : Nat) :
    alike (slice e (some xs) r) (slice e' (some ys) s) = true ↔
      xs.length = ys.length ∧
        ((r ≠ 0 ∧ r = s) ∨ List.Forall₂ (fun x y => held alike x y = true) xs ys) := by
  rw [← alikeItems_iff]
  show (xs.length == ys.length && ((r != 0 && r == s) || alikeItems xs ys)) = true ↔ _
  simp

theorem alike_map (es fs : List (String × Value)) (r s : Nat) :
    alike (map (some es) r) (map (some fs) s) = true ↔
      es.length = fs.length ∧ ((r ≠ 0 ∧ r = s) ∨ alikeEntries es fs = true) := by
  show (es.length == fs.length && ((r != 0 && r == s) || alikeEntries es fs)) = true ↔ _
  simp

theorem alike_pointer (t t' : VType) (p q : Nat) (x y : Value) :
    alike (pointer t (some (p, x))) (pointer t' (some (q, y))) = true ↔
      p = q ∨ held alike x y = true := by
  show (p == q || held alike x y) = true ↔ _
  simp

theorem alike_time (s t : Time) :
    alike (time s) (time t) = true ↔ s.sec = t.sec ∧ s.nsec = t.nsec ∧ s.zone.alike t.zone = true := by
  show (s.sec == t.sec && s.nsec == t.nsec && s.zone.alike t.zone) = true ↔ _
  simp [and_assoc]

theorem alike_bag (xs ys : List String) : alike (bag xs) (bag ys) = true ↔ xs = ys := by
  show (xs == ys) = true ↔ _
  simp

theorem alike_func (x y : Option Nat) : alike (func x) (func y) = true ↔ x = none ∧ y = none := by
  rcases x with _ | c <;> rcases y with _ | d
  · simp only [and_self, iff_true]
    rfl
  all_goals simp only [reduceCtorEq, false_and, and_false, iff_false, Bool.not_eq_true]; rfl

theorem same_fieldError (f g : String) (x y : Value) (r s : String) :
    same (fieldError f x r) (fieldError g y s) = true ↔ f = g ∧ held same x y = true ∧ r = s := by
  show (f == g && held same x y && r == s) = true ↔ _
  simp [and_assoc]

theorem alike_fieldError (f g : String) (x y : Value) (r s : String) :
    alike (fieldError f x r) (fieldError g y s) = true ↔ f = g ∧ held alike x y = true ∧ r = s := by
  show (f == g && held alike x y && r == s) = true ↔ _
  simp [and_assoc]

/-- A validation failure is comparable when the value it holds is, or is missing. -/
theorem comparable_fieldError (f : String) (x : Value) (r : String) :
    comparable (fieldError f x r) = comparable x := by
  cases x <;> rfl

/-! ### Scalars -/

theorem scalarSame_swap {a b : Value} (htw : Twins a b) (h : scalarSame a b = true) :
    scalarSame b a = true := by
  cases htw
  case double x y => show (y == x) = true; rw [Ieee.float_beq_comm]; exact h
  case single x y => show (y == x) = true; rw [Ieee.float32_beq_comm]; exact h
  case complex a b c d =>
    show (c == a && d == b) = true
    rw [Ieee.float_beq_comm c a, Ieee.float_beq_comm d b]
    exact h
  case pointer t x y =>
    rcases x with _ | ⟨p, _⟩ <;> rcases y with _ | ⟨q, _⟩ <;> simp_all [scalarSame]
  case chan e x y =>
    rcases x with _ | ⟨p, _⟩ <;> rcases y with _ | ⟨q, _⟩ <;> simp_all [scalarSame]
  all_goals simp_all [scalarSame, Zone.same]

theorem scalarSame_trans {a b c : Value} (htw : Twins a b) (htw' : Twins b c)
    (h : scalarSame a b = true) (h' : scalarSame b c = true) : scalarSame a c = true := by
  cases htw <;> cases htw'
  case double.double => exact Ieee.float_beq_trans h h'
  case single.single => exact Ieee.float32_beq_trans h h'
  case complex.complex =>
    simp only [scalarSame, Bool.and_eq_true] at h h' ⊢
    exact ⟨Ieee.float_beq_trans h.1 h'.1, Ieee.float_beq_trans h.2 h'.2⟩
  case pointer.pointer x y z =>
    rcases x with _ | ⟨p, _⟩ <;> rcases y with _ | ⟨q, _⟩ <;> rcases z with _ | ⟨w, _⟩ <;>
      simp_all [scalarSame]
  case chan.chan x y z =>
    rcases x with _ | ⟨p, _⟩ <;> rcases y with _ | ⟨q, _⟩ <;> rcases z with _ | ⟨w, _⟩ <;>
      simp_all [scalarSame]
  all_goals simp_all [scalarSame, Zone.same]

/-- A complex number with no part that is not a number is `==` to itself. -/
theorem scalarSame_complex_self {re im : Float} (h : (complex re im).selfUnequal = false) :
    scalarSame (complex re im) (complex re im) = true := by
  simp only [selfUnequal, Bool.or_eq_false_iff] at h
  show (re == re && im == im) = true
  rw [Ieee.float_beq_self h.1, Ieee.float_beq_self h.2]
  rfl

/-! ### Symmetry -/

/-- Sameness is symmetric. -/
theorem same_swap : ∀ a b : Value, Twins a b → same a b = true → same b a = true := by
  intro a
  induction a using children_induction with
  | step a ih =>
    intro b htw h
    cases htw
    case array e xs ys _ =>
      rw [same_array] at h ⊢
      exact forall₂_swap_of_mem (fun x hx y _ => held_swap fun _ _ ht hxy =>
        ih x hx y (twins_of_typeOf_eq ht) hxy) h
    case fieldError f g x y r s =>
      rw [same_fieldError] at h ⊢
      exact ⟨h.1.symm, held_swap (fun _ _ ht hxy =>
        ih x (List.mem_singleton_self x) y (twins_of_typeOf_eq ht) hxy) h.2.1, h.2.2.symm⟩
    all_goals
      simp only [same] at h ⊢
      exact scalarSame_swap (by constructor) h

/-- Likeness is symmetric on values whose maps have distinct keys. -/
theorem alike_swap : ∀ a b : Value, a.WellKeyed → b.WellKeyed → Twins a b → alike a b = true →
    alike b a = true := by
  intro a
  induction a using children_induction with
  | step a ih =>
    intro b ha hb htw h
    -- what `a` and `b` hold is alike the other way, by induction
    have hheld : ∀ x ∈ a.children, ∀ y ∈ b.children, held alike x y = true →
        held alike y x = true := fun x hx y hy => held_swap fun _ _ ht hxy =>
      ih x hx y (ha.child hx) (hb.child hy) (twins_of_typeOf_eq ht) hxy
    cases htw
    case slice e xs ys r s =>
      rcases xs with _ | xs <;> rcases ys with _ | ys
      · rfl
      · cases h
      · cases h
      · rw [alike_slice] at h ⊢
        obtain ⟨hl, hst | hit⟩ := h
        · exact ⟨hl.symm, .inl ⟨hst.2 ▸ hst.1, hst.2.symm⟩⟩
        · exact ⟨hl.symm, .inr (forall₂_swap_of_mem hheld hit)⟩
    case array e xs ys _ =>
      rw [alike_array] at h ⊢
      exact forall₂_swap_of_mem hheld h
    case map es fs r s =>
      rcases es with _ | es <;> rcases fs with _ | fs
      · rfl
      · cases h
      · cases h
      · rw [alike_map] at h ⊢
        obtain ⟨hl, hst | hent⟩ := h
        · exact ⟨hl.symm, .inl ⟨hst.2 ▸ hst.1, hst.2.symm⟩⟩
        · refine ⟨hl.symm, .inr (alikeEntries_swap ?_ ?_ hl hheld hent)⟩
          · simpa [keysDistinct] using ha.self
          · simpa [keysDistinct] using hb.self
    case pointer t x y =>
      rcases x with _ | ⟨p, x⟩ <;> rcases y with _ | ⟨q, y⟩
      · rfl
      · cases h
      · cases h
      · rw [alike_pointer] at h ⊢
        exact h.imp Eq.symm (hheld x (List.mem_singleton_self x) y (List.mem_singleton_self y))
    case time s t =>
      rw [alike_time] at h ⊢
      exact ⟨h.1.symm, h.2.1.symm, Zone.alike_swap h.2.2⟩
    case bag xs ys =>
      rw [alike_bag] at h ⊢
      exact h.symm
    case func x y =>
      rw [alike_func] at h ⊢
      exact ⟨h.2, h.1⟩
    case fieldError f g x y r s =>
      rw [alike_fieldError] at h ⊢
      exact ⟨h.1.symm, hheld x (List.mem_singleton_self x) y (List.mem_singleton_self y) h.2.1,
        h.2.2.symm⟩
    all_goals
      simp only [alike] at h ⊢
      exact scalarSame_swap (by constructor) h

/-! ### Values that are not comparable -/

/-- **An item present and not comparable** is neither the same as another nor alike to it, where
that holds of the two when they have one type. -/
theorem held_of_comparable {x y : Value}
    (hR : Twins x y → same x y = false ∧ alike y x = false) (hy : y.comparable = false) :
    held same x y = false ∧ held alike y x = false := by
  have hyn : y ≠ null := by rintro rfl; cases hy
  constructor
  · refine Bool.eq_false_iff.2 fun h => ?_
    rcases held_iff.1 h with ⟨-, rfl⟩ | ⟨-, -, ht, hxy⟩
    · exact hyn rfl
    · rw [(hR (twins_of_typeOf_eq ht)).1] at hxy
      cases hxy
  · refine Bool.eq_false_iff.2 fun h => ?_
    rcases held_iff.1 h with ⟨rfl, -⟩ | ⟨-, -, ht, hyx⟩
    · exact hyn rfl
    · rw [(hR (twins_of_typeOf_eq ht.symm)).2] at hyx
      cases hyx

theorem items_of_comparable {xs ys : List Value}
    (hR : ∀ x ∈ xs, ∀ y, Twins x y → x.comparable = true → y.comparable = false →
      same x y = false ∧ alike y x = false)
    (hx : itemsComparable xs = true) (hy : itemsComparable ys = false) :
    sameItems xs ys = false ∧ alikeItems ys xs = false := by
  induction xs generalizing ys with
  | nil =>
    cases ys with
    | nil => cases hy
    | cons y ys => exact ⟨rfl, rfl⟩
  | cons x xs ih =>
    cases ys with
    | nil => exact ⟨rfl, rfl⟩
    | cons y ys =>
      rw [show sameItems (x :: xs) (y :: ys) = (held same x y && sameItems xs ys) from rfl,
        show alikeItems (y :: ys) (x :: xs) = (held alike y x && alikeItems ys xs) from rfl]
      rw [show itemsComparable (x :: xs) = (comparable x && itemsComparable xs) by cases x <;> rfl,
        Bool.and_eq_true] at hx
      rw [show itemsComparable (y :: ys) = (comparable y && itemsComparable ys) by cases y <;> rfl,
        Bool.and_eq_false_iff] at hy
      rcases hy with hy | hy
      · -- this item is present and not comparable: it is neither the same nor alike
        obtain ⟨hs, ha⟩ :=
          held_of_comparable (fun htw => hR x List.mem_cons_self y htw hx.1 hy) hy
        simp [hs, ha]
      · have := ih (fun x' hx' => hR x' (List.mem_cons_of_mem _ hx')) hx.2 hy
        simp [this]

/-- **A comparable value is neither the same as nor alike to a value of its type that is not
comparable**: they are arrays or validation failures, and some item of the second, or the value
it holds, is present and not comparable where the first holds a missing value, a value of
another type or a comparable one. -/
theorem same_alike_of_comparable : ∀ a b : Value, Twins a b → a.comparable = true →
    b.comparable = false → same a b = false ∧ alike b a = false := by
  intro a
  induction a using children_induction with
  | step a ih =>
    intro b htw ha hb
    cases htw
    case array e xs ys _ => exact items_of_comparable ih ha hb
    case fieldError f g x y r s =>
      rw [comparable_fieldError] at ha hb
      obtain ⟨hs, hal⟩ :=
        held_of_comparable (fun htw => ih x (List.mem_singleton_self x) y htw ha hb) hb
      refine ⟨?_, ?_⟩
      · show (f == g && held same x y && r == s) = false
        simp [hs]
      · show (g == f && held alike y x && s == r) = false
        simp [hal]
    all_goals simp [comparable] at ha hb

/-! ### Reflexivity -/

/-- A comparable value with no part unequal to itself is the same as itself. -/
theorem same_self : ∀ a : Value, a ≠ null → a.comparable = true → a.SelfEqualParts →
    same a a = true := by
  intro a
  induction a using children_induction with
  | step a ih =>
    intro hnull hc hn
    cases a
    case null => exact absurd rfl hnull
    case array e xs =>
      rw [same_array]
      have hxs := itemsComparable_iff.1 hc
      exact List.forall₂_same.2 fun x hx => held_self fun hx0 => ih x hx hx0 (hxs x hx) (hn.child hx)
    case fieldError f x r =>
      rw [comparable_fieldError] at hc
      have hx : x ∈ (fieldError f x r).children := List.mem_singleton_self x
      exact (same_fieldError f f x x r r).2
        ⟨rfl, held_self fun hx0 => ih x hx hx0 hc (hn.child hx), rfl⟩
    case double x => exact Ieee.float_beq_self hn.self
    case single x => exact Ieee.float32_beq_self hn.self
    case complex re im => exact scalarSame_complex_self hn.self
    case pointer t x => rcases x with _ | ⟨p, x⟩ <;> simp [same, scalarSame]
    case chan e x => rcases x with _ | ⟨p, x⟩ <;> simp [same, scalarSame]
    -- slices, maps, functions and bags are not comparable; every other scalar is `==` to itself
    case slice => simp [comparable] at hc
    case map => simp [comparable] at hc
    case func => simp [comparable] at hc
    case bag => simp [comparable] at hc
    case bool b => exact beq_self_eq_true b
    case str s => exact beq_self_eq_true s
    case int k n => exact beq_self_eq_true n
    case time t => simp [same, scalarSame, Zone.same]
    case duration n => exact beq_self_eq_true n
    case label s => exact beq_self_eq_true s
    case point x y => simp [same, scalarSame]
    case errorRecord m => exact beq_self_eq_true m

/-- A value with distinct keys in its maps and no part unequal to itself is alike to itself. -/
theorem alike_self : ∀ a : Value, a ≠ null → a.WellKeyed → a.SelfEqualParts →
    alike a a = true := by
  intro a
  induction a using children_induction with
  | step a ih =>
    intro hnull hk hn
    have hheld : ∀ x ∈ a.children, held alike x x = true := fun x hx =>
      held_self fun hx0 => ih x hx hx0 (hk.child hx) (hn.child hx)
    cases a
    case null => exact absurd rfl hnull
    case slice e xs r =>
      rcases xs with _ | xs
      · rfl
      · exact (alike_slice e e xs xs r r).2 ⟨rfl, .inr (List.forall₂_same.2 hheld)⟩
    case array e xs => exact (alike_array e e xs xs).2 (List.forall₂_same.2 hheld)
    case map es r =>
      rcases es with _ | es
      · rfl
      · refine (alike_map es es r r).2 ⟨rfl, .inr (alikeEntries_self ?_ hheld)⟩
        simpa [keysDistinct] using hk.self
    case pointer t x =>
      rcases x with _ | ⟨p, x⟩
      · rfl
      · exact (alike_pointer t t p p x x).2 (.inl rfl)
    case time t => exact (alike_time t t).2 ⟨rfl, rfl, Zone.alike_self _⟩
    case double x => exact Ieee.float_beq_self hn.self
    case single x => exact Ieee.float32_beq_self hn.self
    case complex re im => exact scalarSame_complex_self hn.self
    case func code =>
      rcases code with _ | c
      · rfl
      · cases hn.self
    case fieldError f x r =>
      exact (alike_fieldError f f x x r r).2 ⟨rfl, hheld x (List.mem_singleton_self x), rfl⟩
    case chan e x => rcases x with _ | ⟨p, x⟩ <;> simp [alike, scalarSame]
    all_goals simp [alike, scalarSame]

/-! ### Transitivity -/

/-- Sameness is transitive. -/
theorem same_trans : ∀ a b c : Value, Twins a b → Twins b c → same a b = true → same b c = true →
    same a c = true := by
  intro a
  induction a using children_induction with
  | step a ih =>
    intro b c htw htw' h h'
    cases htw <;> cases htw'
    case array.array e xs ys _ zs _ =>
      rw [same_array] at h h' ⊢
      exact forall₂_trans_of_mem (fun x hx y _ z _ => held_trans fun _ _ _ ht ht' hxy hyz =>
        ih x hx y z (twins_of_typeOf_eq ht) (twins_of_typeOf_eq ht') hxy hyz) h h'
    case fieldError.fieldError f g x y r s g' z s' =>
      rw [same_fieldError] at h h' ⊢
      exact ⟨h.1.trans h'.1, held_trans (fun _ _ _ ht ht' hxy hyz =>
        ih x (List.mem_singleton_self x) y z (twins_of_typeOf_eq ht) (twins_of_typeOf_eq ht')
          hxy hyz) h.2.1 h'.2.1, h.2.2.trans h'.2.2⟩
    all_goals
      simp only [same] at h h' ⊢
      exact scalarSame_trans (by constructor) (by constructor) h h'

section Heap

variable {S : Value → Prop} (hS : ∀ u w, S u → S w → Agree u w)
include hS

/-- **Likeness is transitive** on the parts of one heap: storage shared on one side holds what
the other side is alike to. -/
theorem alike_trans : ∀ a b c : Value, AllParts S a → AllParts S b → AllParts S c → Twins a b →
    Twins b c → alike a b = true → alike b c = true → alike a c = true := by
  intro a
  induction a using children_induction with
  | step a ih =>
    intro b c ha hb hc htw htw' h h'
    -- what `a`, `b` and `c` hold is alike along the chain, by induction
    have hheld : ∀ x ∈ a.children, ∀ y ∈ b.children, ∀ z ∈ c.children, held alike x y = true →
        held alike y z = true → held alike x z = true :=
      fun x hx y hy z hz => held_trans fun _ _ _ ht ht' hxy hyz =>
        ih x hx y z (ha.child hx) (hb.child hy) (hc.child hz) (twins_of_typeOf_eq ht)
          (twins_of_typeOf_eq ht') hxy hyz
    cases htw <;> cases htw'
    case slice.slice e xs ys r s zs t =>
      rcases xs with _ | xs <;> rcases ys with _ | ys <;> rcases zs with _ | zs
      all_goals try cases h
      all_goals try cases h'
      · rfl
      · rw [alike_slice] at h h' ⊢
        obtain ⟨hl, hab⟩ := h
        obtain ⟨hl', hbc⟩ := h'
        have hxy : r ≠ 0 → r = s → xs = ys := fun h0 hrs => hS _ _ ha.self hb.self rfl h0 hrs hl
        have hyz : s ≠ 0 → s = t → ys = zs := fun h0 hst => hS _ _ hb.self hc.self rfl h0 hst hl'
        refine ⟨hl.trans hl', ?_⟩
        rcases hab with ⟨h0, rfl⟩ | hit <;> rcases hbc with ⟨h0', rfl⟩ | hit'
        · exact .inl ⟨h0, rfl⟩
        · exact .inr (hxy h0 rfl ▸ hit')
        · exact .inr (hyz h0' rfl ▸ hit)
        · exact .inr (forall₂_trans_of_mem hheld hit hit')
    case array.array e xs ys _ zs _ =>
      rw [alike_array] at h h' ⊢
      exact forall₂_trans_of_mem hheld h h'
    case map.map es fs r s gs t =>
      rcases es with _ | es <;> rcases fs with _ | fs <;> rcases gs with _ | gs
      all_goals try cases h
      all_goals try cases h'
      · rfl
      · rw [alike_map] at h h' ⊢
        obtain ⟨hl, hab⟩ := h
        obtain ⟨hl', hbc⟩ := h'
        have hef : r ≠ 0 → r = s → es = fs := fun h0 hrs => hS _ _ ha.self hb.self h0 hrs
        have hfg : s ≠ 0 → s = t → fs = gs := fun h0 hst => hS _ _ hb.self hc.self h0 hst
        refine ⟨hl.trans hl', ?_⟩
        rcases hab with ⟨h0, rfl⟩ | hent <;> rcases hbc with ⟨h0', rfl⟩ | hent'
        · exact .inl ⟨h0, rfl⟩
        · exact .inr (hef h0 rfl ▸ hent')
        · exact .inr (hfg h0' rfl ▸ hent)
        · exact .inr (alikeEntries_trans hheld hent hent')
    case pointer.pointer t x y z =>
      rcases x with _ | ⟨p, x⟩ <;> rcases y with _ | ⟨q, y⟩ <;> rcases z with _ | ⟨w, z⟩
      all_goals try cases h
      all_goals try cases h'
      · rfl
      · rw [alike_pointer] at h h' ⊢
        have hxy : p = q → x = y := hS _ _ ha.self hb.self rfl
        have hyz : q = w → y = z := hS _ _ hb.self hc.self rfl
        rcases h with rfl | hab <;> rcases h' with rfl | hbc
        · exact .inl rfl
        · exact .inr (hxy rfl ▸ hbc)
        · exact .inr (hyz rfl ▸ hab)
        · exact .inr (hheld x (List.mem_singleton_self x) y (List.mem_singleton_self y) z
            (List.mem_singleton_self z) hab hbc)
    case time.time s t u =>
      rw [alike_time] at h h' ⊢
      exact ⟨h.1.trans h'.1, h.2.1.trans h'.2.1, Zone.alike_trans h.2.2 h'.2.2⟩
    case bag.bag xs ys zs =>
      rw [alike_bag] at h h' ⊢
      exact h.trans h'
    case func.func x y z =>
      rw [alike_func] at h h' ⊢
      exact ⟨h.1, h'.2⟩
    case fieldError.fieldError f g x y r s g' z s' =>
      rw [alike_fieldError] at h h' ⊢
      exact ⟨h.1.trans h'.1, hheld x (List.mem_singleton_self x) y (List.mem_singleton_self y) z
        (List.mem_singleton_self z) h.2.1 h'.2.1, h.2.2.trans h'.2.2⟩
    all_goals
      simp only [alike] at h h' ⊢
      exact scalarSame_trans (by constructor) (by constructor) h h'

end Heap

/-! ### Equality -/

theorem ne_null_of_isNull {a : Value} (h : a.isNull = false) : a ≠ null := by
  rintro rfl; cases h

/-- Equality of two values present and of one type: sameness for a comparable value,
likeness otherwise. -/
theorem equal_of_typeOf_eq {a b : Value} (ha : a.isNull = false) (hb : b.isNull = false)
    (ht : a.typeOf = b.typeOf) : equal a b = if a.comparable then a.same b else a.alike b := by
  simp [equal, ha, hb, ht]

theorem equal_of_typeOf_ne {a b : Value} (ha : a.isNull = false) (hb : b.isNull = false)
    (ht : a.typeOf ≠ b.typeOf) : equal a b = false := by
  simp [equal, ha, hb, ht]

/-- A value equal to one present is present and of its type. -/
theorem equal_typeOf {a b : Value} (ha : a.isNull = false) (h : equal a b = true) :
    b.isNull = false ∧ a.typeOf = b.typeOf := by
  cases hb : b.isNull
  · refine ⟨rfl, Classical.byContradiction fun ht => ?_⟩
    rw [equal_of_typeOf_ne ha hb ht] at h
    cases h
  · simp [equal, ha, hb] at h

/-- **Symmetry**: values whose maps have distinct keys are equal either way round or neither. -/
theorem equal_comm {a b : Value} (ha : a.WellKeyed) (hb : b.WellKeyed) : equal a b = equal b a := by
  cases hna : a.isNull <;> cases hnb : b.isNull
  · by_cases ht : a.typeOf = b.typeOf
    · have htw := twins_of_typeOf_eq ht
      have htw' := twins_of_typeOf_eq ht.symm
      rw [equal_of_typeOf_eq hna hnb ht, equal_of_typeOf_eq hnb hna ht.symm]
      -- both sides compare the same way, or each compares to `false`
      cases hca : a.comparable <;> cases hcb : b.comparable <;> simp only [Bool.false_eq_true, if_false, if_true]
      · exact Bool.eq_iff_iff.2 ⟨alike_swap a b ha hb htw, alike_swap b a hb ha htw'⟩
      · rw [(same_alike_of_comparable b a htw' hcb hca).1, (same_alike_of_comparable b a htw' hcb hca).2]
      · rw [(same_alike_of_comparable a b htw hca hcb).1, (same_alike_of_comparable a b htw hca hcb).2]
      · exact Bool.eq_iff_iff.2 ⟨same_swap a b htw, same_swap b a htw'⟩
    · rw [equal_of_typeOf_ne hna hnb ht, equal_of_typeOf_ne hnb hna (Ne.symm ht)]
  all_goals simp [equal, hna, hnb]

/-- **Reflexivity**: a value whose maps have distinct keys and with no part unequal to itself
equals itself. -/
theorem equal_self {a : Value} (hk : a.WellKeyed) (hn : a.SelfEqualParts) : equal a a = true := by
  cases hna : a.isNull
  · rw [equal_of_typeOf_eq hna hna rfl]
    cases hc : a.comparable
    · simpa using alike_self a (ne_null_of_isNull hna) hk hn
    · simpa using same_self a (ne_null_of_isNull hna) hc hn
  · exact equal_null a a hna hna

/-- A float that is not a number is not equal to itself. -/
theorem equal_nan {x : Float} (hx : x.isNaN = true) : equal (double x) (double x) = false := by
  rw [equal_of_typeOf_eq rfl rfl rfl]
  exact Ieee.float_beq_nan hx

/-- A function that is not absent is not equal to itself: it is not comparable, and taken apart
it is alike to nothing. -/
theorem equal_func (c : Nat) : equal (func (some c)) (func (some c)) = false := rfl

/-- The parts of values of one heap are parts of that heap. -/
theorem allParts_heap {vs : List Value} {v : Value} (hv : v ∈ vs) :
    AllParts (· ∈ vs.flatMap parts) v :=
  fun _ hu => List.mem_flatMap.2 ⟨v, hv, hu⟩

/-- **Transitivity** on values of one heap. -/
theorem equal_trans {a b c : Value} (hheap : OneHeap [a, b, c]) (hab : equal a b = true)
    (hbc : equal b c = true) : equal a c = true := by
  cases hna : a.isNull
  · obtain ⟨hnb, ht⟩ := equal_typeOf hna hab
    obtain ⟨hnc, ht'⟩ := equal_typeOf hnb hbc
    have htw := twins_of_typeOf_eq ht
    have htw' := twins_of_typeOf_eq ht'
    rw [equal_of_typeOf_eq hna hnb ht] at hab
    rw [equal_of_typeOf_eq hnb hnc ht'] at hbc
    rw [equal_of_typeOf_eq hna hnc (ht.trans ht')]
    -- one way of comparing all along; a change of way compares to `false`
    cases hca : a.comparable <;> cases hcb : b.comparable <;> cases hcc : c.comparable <;>
      simp only [hca, hcb, Bool.false_eq_true, if_false, if_true] at hab hbc ⊢
    · exact alike_trans (fun u w hu hw => hheap u hu w hw) a b c (allParts_heap (by simp))
        (allParts_heap (by simp)) (allParts_heap (by simp)) htw htw' hab hbc
    · rw [(same_alike_of_comparable c b (twins_of_typeOf_eq ht'.symm) hcc hcb).2] at hbc
      cases hbc
    · rw [(same_alike_of_comparable b a (twins_of_typeOf_eq ht.symm) hcb hca).2] at hab
      cases hab
    · rw [(same_alike_of_comparable b a (twins_of_typeOf_eq ht.symm) hcb hca).2] at hab
      cases hab
    · rw [(same_alike_of_comparable a b htw hca hcb).1] at hab
      cases hab
    · rw [(same_alike_of_comparable a b htw hca hcb).1] at hab
      cases hab
    · rw [(same_alike_of_comparable b c htw' hcb hcc).1] at hbc
      cases hbc
    · exact same_trans a b c htw htw' hab hbc
  · have hnb : b.isNull = true := by
      cases hnb : b.isNull
      · rw [equal_null_left a b hna hnb] at hab; cases hab
      · rfl
    have hnc : c.isNull = true := by
      cases hnc : c.isNull
      · rw [equal_null_left b c hnb hnc] at hbc; cases hbc
      · rfl
    exact equal_null a c hna hnc

/-- **Equality of elements is an equivalence** on the values a program holds, floats that are
not a number and functions apart: it is reflexive on values with no part unequal to itself,
symmetric, and transitive on values of one heap; all null values are equal, a null value equals
no value that is not null, and equal values that are not null have one type. -/
theorem equal_equivalence (a b c : Value) (hka : a.WellKeyed) (hkb : b.WellKeyed)
    (hheap : OneHeap [a, b, c]) :
    (a.SelfEqualParts → equal a a = true) ∧ equal a b = equal b a ∧
      (equal a b = true → equal b c = true → equal a c = true) ∧
      (a.isNull = true → b.isNull = true → equal a b = true) ∧
      (a.isNull = true → b.isNull = false → equal a b = false) ∧
      (a.isNull = false → b.isNull = false → equal a b = true → a.typeOf = b.typeOf) :=
  ⟨equal_self hka, equal_comm hka hkb, equal_trans hheap, equal_null a b, equal_null_left a b,
    fun ha _ h => (equal_typeOf ha h).2⟩

/-- A slice of one integer, in storage `1`. -/
def storedOne : Value := slice .any (some [int .int 1]) 1

/-- A copy of it, in storage `2`. -/
def copiedOne : Value := slice .any (some [int .int 1]) 2

theorem equal_equivalence_storage :
    storedOne.WellKeyed ∧ copiedOne.WellKeyed ∧ OneHeap [storedOne, copiedOne, storedOne] ∧
      (storedOne.SelfEqualParts → equal storedOne storedOne = true) ∧
      equal storedOne copiedOne = equal copiedOne storedOne ∧
      (equal storedOne copiedOne = true → equal copiedOne storedOne = true →
        equal storedOne storedOne = true) ∧
      (storedOne.isNull = true → copiedOne.isNull = true → equal storedOne copiedOne = true) ∧
      (storedOne.isNull = true → copiedOne.isNull = false → equal storedOne copiedOne = false) ∧
      (storedOne.isNull = false → copiedOne.isNull = false → equal storedOne copiedOne = true →
        storedOne.typeOf = copiedOne.typeOf) := by
  have hk : storedOne.WellKeyed := by unfold WellKeyed; decide
  have hk' : copiedOne.WellKeyed := by unfold WellKeyed; decide
  -- the two slices in storage `1` hold the same item
  have hheap : OneHeap [storedOne, copiedOne, storedOne] := by
    intro u hu w hw
    simp only [storedOne, copiedOne, List.flatMap_cons, List.flatMap_nil, parts, itemParts,
      List.append_nil, List.cons_append, List.nil_append, List.mem_cons, List.not_mem_nil,
      or_false] at hu hw
    rcases hu with rfl | rfl | rfl | rfl | rfl | rfl <;> rcases hw with rfl | rfl | rfl | rfl | rfl | rfl <;>
      simp [Agree]
  exact ⟨hk, hk', hheap, equal_equivalence storedOne copiedOne storedOne hk hk' hheap⟩

end Value
end Accessors
