import Accessors.Proofs.Generated

/-!
# The laws of bound accessors

What the accessors of a property do to each other in every state a bound instance reaches. Two
facts of reachable states carry the laws (`Instance.Coherent`): the accessors of one property
share one checker, the one binding gave the property's name; and the slot of a property whose
checker is of sequence type holds the missing value or a slice, never an array or a scalar.
Binding starts every slot as the missing value or an empty slice, and a call keeps both facts,
since it writes one slot, through a method of that slot's property (`Coherent.call`).

From them, for a sequence property holding the items `s` and an element `v` that its checker
accepts:

* `add` appends: a getter then returns `s` followed by `v` (`Coherent.call_add`);
* `remove` drops the first item equal to `v`, or nothing when there is none
  (`Coherent.call_remove`, `Value.ErasesFirst`);
* `contains` tells whether some item of `s` equals `v` (`Coherent.call_contains`).

So a membership test after `add v` finds `v` when `v` equals itself, and `add v` then `remove v`
gives `s` back when moreover no item of `s` equals `v`. Equality of elements compares scalars
with `==`, so a float that is not a number equals nothing, itself included.

A writer's value comes back: until the property is written again, every getter returns null for
a null value, a copy for a sequence property (a typed slice keeps its type, an absent slice stays
absent, an array becomes a slice of any values) and the value itself otherwise.

The generic helpers that generated code calls agree with what a bound instance does on every
slice: membership is having a position, and removal stores the same slice
(`slice_helpers_agree`).

Main statements: `sequence_accessor_laws`, `set_get_round_trip` and `slice_helpers_agree`.
-/

namespace Accessors

/-! ### Items of sequences -/

namespace Value

/-- **Removing the first equal item**: `r` is `s` without its first item equal to `v`, or `s`
itself when no item equals `v`. -/
def ErasesFirst (v : Value) (s r : List Value) : Prop :=
  (∃ pre x post, s = pre ++ x :: post ∧ (∀ y ∈ pre, y.equal v = false) ∧ x.equal v = true ∧
      r = pre ++ post) ∨
    ((∀ y ∈ s, y.equal v = false) ∧ r = s)

theorem removeFrom_cons (x : Value) (xs : List Value) (v : Value) :
    removeFrom (x :: xs) v = if x.equal v then xs else x :: removeFrom xs v := by
  unfold removeFrom indexIn
  rw [List.findIdx?_cons]
  cases hx : x.equal v
  · cases hi : xs.findIdx? (equal · v) <;> simp
  · simp

/-- `removeFrom` drops the first item equal to the value. -/
theorem erasesFirst_removeFrom (v : Value) : ∀ s, ErasesFirst v s (removeFrom s v)
  | [] => .inr ⟨nofun, rfl⟩
  | x :: xs => by
    rw [removeFrom_cons]
    cases hx : x.equal v
    · -- `x` stays in front of what the rest drops
      rcases erasesFirst_removeFrom v xs with ⟨pre, y, post, rfl, hpre, hy, hr⟩ | ⟨hall, hr⟩
      · refine .inl ⟨x :: pre, y, post, rfl, ?_, hy, by simp [hr]⟩
        intro z hz
        rcases List.mem_cons.1 hz with rfl | hz
        · exact hx
        · exact hpre z hz
      · refine .inr ⟨?_, by simp [hr]⟩
        intro z hz
        rcases List.mem_cons.1 hz with rfl | hz
        · exact hx
        · exact hall z hz
    · exact .inl ⟨[], x, xs, rfl, nofun, hx, rfl⟩

/-- **A value is found among items** exactly when some item equals it. -/
theorem indexIn_isSome_iff (s : List Value) (v : Value) :
    (indexIn s v).isSome = true ↔ ∃ x ∈ s, x.equal v = true := by
  simp [indexIn, List.findIdx?_isSome]

/-- After the items of `s`, a value that equals itself is found. -/
theorem indexIn_append_self (s : List Value) {v : Value} (hv : v.equal v = true) :
    (indexIn (s ++ [v]) v).isSome = true :=
  (indexIn_isSome_iff _ _).2 ⟨v, by simp, hv⟩

/-- Dropping from `s ++ [v]` the first item equal to `v` gives `s`, when `v` equals itself and
no item of `s` does. -/
theorem removeFrom_append_self {s : List Value} {v : Value} (hnone : ∀ y ∈ s, y.equal v = false)
    (hv : v.equal v = true) : removeFrom (s ++ [v]) v = s := by
  induction s with
  | nil => simp [removeFrom_cons, hv]
  | cons x xs ih =>
    rw [List.cons_append, removeFrom_cons, hnone x (by simp)]
    simp only [Bool.false_eq_true, if_false]
    rw [ih fun y hy => hnone y (List.mem_cons_of_mem _ hy)]

/-- No position is found among items none of which equals the value. -/
theorem indexIn_eq_none {s : List Value} {v : Value} (h : ∀ y ∈ s, y.equal v = false) :
    indexIn s v = none := by
  simpa [indexIn] using h

/-- **The generic helpers agree with the bound instance's** on every slice, of any element type:
membership is having a position, which the instance always finds; and removing gives what the
instance stores, the items without the first one equal to the value, or the slice itself when
no item equals it. -/
theorem slice_helpers_agree (e : VType) (items : Option (List Value)) (r : Nat) (v : Value) :
    (∃ k, (slice e items r).position v = .ok k ∧ (slice e items r).containsElement v = k.isSome) ∧
      (slice e items r).removeFromStored v = .ok ((slice e items r).removeElement v) ∧
      ErasesFirst v (items.getD []) ((slice e items r).removeElement v).elements ∧
      ((∀ y ∈ items.getD [], y.equal v = false) →
        (slice e items r).removeElement v = slice e items r) := by
  refine ⟨⟨_, rfl, rfl⟩, removeFromStored_slice e items r v, ?_, fun hnone => ?_⟩
  · obtain ⟨ys, r', hrem, hel⟩ := removeElement_slice e items r v
    rw [hrem, hel]
    exact erasesFirst_removeFrom v _
  · rcases items with _ | xs
    · rfl
    · have hi : indexIn xs v = none := indexIn_eq_none hnone
      simp [removeElement, hi]

/-- A sequence of items copies to a slice or the missing value. -/
theorem nullOrSlice_copySequence {v : Value} {xs : List Value} (h : v.items? = some xs) :
    v.copySequence.NullOrSlice := by
  cases v <;> simp only [items?, reduceCtorEq] at h
  case slice e items r =>
    obtain ⟨r', h⟩ := copySequence_slice_eq e items r
    exact .inr ⟨_, _, _, h⟩
  case array e items => exact .inr ⟨_, _, _, rfl⟩

/-- A copy of a copy is the copy. -/
@[simp] theorem copySequence_copySequence (v : Value) :
    v.copySequence.copySequence = v.copySequence := by
  cases v with
  | slice e xs r => cases xs <;> rfl
  | _ => rfl

/-- The items of a slot that holds a sequence are those of a slice. -/
theorem items?_of_slot {v : Value} {s : List Value} (h : v.NullOrSlice) (hs : v.items? = some s) :
    ∃ e xs r, v = .slice e xs r ∧ v.elements = s := by
  rcases h with rfl | ⟨e, xs, r, rfl⟩
  · cases hs
  · exact ⟨e, xs, r, rfl, by simp [elements, hs]⟩

/-- A slice copies to a slice of the same items. -/
theorem items?_copySequence_slice {v : Value} (h : ∃ e xs r, v = .slice e xs r) :
    v.copySequence.items? = some v.elements := by
  obtain ⟨e, xs, r, rfl⟩ := h
  cases xs <;> rfl

end Value

namespace Instance

/-! ### Accessors of a property -/

/-- **An accessor of a property**: the method bound under `name` performs `op` on `prop`, and a
call with the given privilege reaches it (the call is privileged, or the method public). -/
def Serves (i : Instance) (name : String) (op : Operation) (prop : String) (privileged : Bool) :
    Prop :=
  ∃ b, i.methods.lookup name = some b ∧ b.spec.operation = op ∧ b.spec.property = prop ∧
    (privileged = true ∨ b.spec.visibility = .publicAccess)

/-- **The checker of a property**: the checker of a method bound to it. -/
def BoundChecker (i : Instance) (prop : String) (ch : Checker) : Prop :=
  ∃ name b, i.methods.lookup name = some b ∧ b.spec.property = prop ∧ b.checker = ch

/-- A call reaches the bound method when it is privileged or the method public. -/
theorem call_of_visible {i : Instance} {name : String} {args : List Value} {privileged : Bool}
    {b : BoundMethod} (hb : i.methods.lookup name = some b)
    (hvis : privileged = true ∨ b.spec.visibility = .publicAccess) :
    i.call name args privileged = i.run b args := by
  unfold call
  rw [hb]
  rcases hvis with rfl | hpub
  · simp
  · simp [hpub]

theorem Serves.call {i : Instance} {name : String} {op : Operation} {prop : String} {p : Bool}
    (hs : i.Serves name op prop p) (n : String) (args : List Value) (privileged : Bool) :
    (i.call n args privileged).2.Serves name op prop p := by
  unfold Serves
  rw [call_methods]
  exact hs

theorem BoundChecker.call {i : Instance} {prop : String} {ch : Checker}
    (hch : i.BoundChecker prop ch) (n : String) (args : List Value) (privileged : Bool) :
    (i.call n args privileged).2.BoundChecker prop ch := by
  unfold BoundChecker
  rw [call_methods]
  exact hch

/-! ### One call of each operation -/

section Run

variable {i : Instance} {b : BoundMethod} {v : Value}

theorem run_get (hop : b.spec.operation = .get) :
    i.run b [] = (.returned (if b.checker.type.isCollection then
      (i.valueOf b.spec.property).copySequence else i.valueOf b.spec.property), i) := by
  simp [run, hop]

theorem run_set (hop : b.spec.operation = .set) (hv : b.checker.checkValue v = .ok ()) :
    i.run b [v] = (.returned .null, i.store b.spec.property
      (if v.isNull then .null else if b.checker.type.isCollection then v.copySequence else v)) := by
  simp [run, hop, hv]

theorem run_add {s : Value} (hop : b.spec.operation = .add) (hv : b.checker.checkElement v = .ok ())
    (hs : (i.valueOf b.spec.property).appendTo v = .ok s) :
    i.run b [v] = (.returned .null, i.store b.spec.property s) := by
  simp [run, hop, hv, hs]

theorem run_remove {s : Value} (hop : b.spec.operation = .remove)
    (hv : b.checker.checkElement v = .ok ())
    (hs : (i.valueOf b.spec.property).removeFromStored v = .ok s) :
    i.run b [v] = (.returned .null, i.store b.spec.property s) := by
  simp [run, hop, hv, hs]

theorem run_contains {k : Option Nat} (hop : b.spec.operation = .contains)
    (hv : b.checker.checkElement v = .ok ()) (hk : (i.valueOf b.spec.property).position v = .ok k) :
    i.run b [v] = (.returned (.bool k.isSome), i) := by
  simp [run, hop, hv, hk]

end Run

/-! ### The invariant of reachable states -/

/-- **Coherent slots**: methods bound to one property share its checker, and a property whose
checker is of sequence type holds the missing value or a slice. -/
structure Coherent (i : Instance) : Prop where
  shared : ∀ n n' b b', i.methods.lookup n = some b → i.methods.lookup n' = some b' →
    b.spec.property = b'.spec.property → b.checker = b'.checker
  sequences : ∀ n b, i.methods.lookup n = some b → b.checker.type.isCollection = true →
    (i.valueOf b.spec.property).NullOrSlice

/-- **Binding starts coherent**: every method takes the checker stored under its property's
name, and every slot starts as an empty slice or the missing value. -/
theorem Coherent.bind {c : ClassSpec} {reg : Registry} {i : Instance}
    (h : Instance.bind c reg = .ok i) : i.Coherent := by
  unfold Instance.bind at h
  split at h
  · cases h
  rename_i checkers values hprops
  split at h
  · cases h
  rename_i methods hmethods
  cases h
  refine ⟨?_, ?_⟩
  · intro n n' b b' hb hb' hprop
    rcases bindMethods_lookup hmethods n b hb with ⟨-, hchk⟩ | hnone
    · rcases bindMethods_lookup hmethods n' b' hb' with ⟨-, hchk'⟩ | hnone
      · rw [hprop, hchk'] at hchk
        exact (Option.some.inj hchk).symm
      · cases hnone
    · cases hnone
  · intro n b _ _
    show ((values.lookup b.spec.property).getD .null).NullOrSlice
    rw [bindProperties_values hprops]
    split
    · exact .inr ⟨_, _, _, rfl⟩
    · exact .inl rfl

/-- **What a sequence method writes is a slot of a sequence**: a writer's checked sequence is
copied into a slice, `add` appends to a slice, `remove` keeps the slot's shape. -/
theorem Writes.nullOrSlice {b : BoundMethod} {cur v s : Value} (hw : Writes b cur v s)
    (hcur : cur.NullOrSlice) (hcoll : b.checker.type.isCollection = true) : s.NullOrSlice := by
  have hval := isValidated_of_isCollection hcoll
  cases hw with
  | set _ hv =>
    by_cases hnull : v.isNull = true
    · rw [if_pos hnull]
      exact .inl rfl
    · rw [if_neg hnull, if_pos hcoll]
      obtain ⟨xs, hxs, -⟩ :=
        (Checker.checkValue_eq_ok_iff.1 hv hval).2.2 (by simpa using hnull) hcoll
      exact Value.nullOrSlice_copySequence hxs
  | add _ hv happ =>
    have hne : v ≠ .null := by
      intro h
      have := Checker.isNull_of_checkElement hval hv
      rw [h] at this
      cases this
    obtain ⟨s', hs', hslice, -⟩ := Value.appendTo_of_slot hcur hne
    rw [happ] at hs'
    cases hs'
    exact .inr hslice
  | remove _ _ hrem =>
    obtain ⟨s', hs', hslot, -⟩ := Value.removeFromStored_of_slot hcur v
    rw [hrem] at hs'
    cases hs'
    exact hslot

/-- **Every call keeps the slots coherent**: it writes, if anything, the slot of its method's
property, whose sequence methods all share the method's checker. -/
theorem Coherent.call {i : Instance} (hc : i.Coherent) (name : String) (args : List Value)
    (privileged : Bool) : (i.call name args privileged).2.Coherent := by
  have hmethods := call_methods i name args privileged
  refine ⟨?_, ?_⟩
  · rw [hmethods]
    exact hc.shared
  · intro n b hb hcoll
    rw [hmethods] at hb
    rcases call_cases i name args privileged with ⟨o, hcall, -⟩ | ⟨b₀, v, s, hb₀, hcall, hw, -⟩
    · rw [hcall]
      exact hc.sequences n b hb hcoll
    · rw [hcall, valueOf_store]
      split
      · rename_i hprop
        have hchk := hc.shared n name b b₀ hb hb₀ hprop
        rw [hchk] at hcoll
        exact hw.nullOrSlice (hc.sequences name b₀ hb₀ hcoll) hcoll
      · exact hc.sequences n b hb hcoll

/-- **Every reachable state is coherent**, by induction on the calls that reach it. -/
theorem Reachable.coherent {c : ClassSpec} {reg : Registry} {i : Instance} {written : List String}
    (h : Reachable c reg i written) : i.Coherent := by
  induction h with
  | bind hbind => exact Coherent.bind hbind
  | call name args privileged _ ih => exact ih.call name args privileged

/-! ### The laws of one call -/

section Laws

variable {i : Instance} (hc : i.Coherent) {P : String} {ch : Checker} (hch : i.BoundChecker P ch)
include hc hch

/-- **Every accessor of a property runs with the property's checker.** -/
theorem Coherent.serves {name : String} {op : Operation} {p : Bool} (hs : i.Serves name op P p) :
    ∃ b, i.methods.lookup name = some b ∧ b.spec.operation = op ∧ b.spec.property = P ∧
      b.checker = ch ∧ ∀ args, i.call name args p = i.run b args := by
  obtain ⟨b, hb, hop, hprop, hvis⟩ := hs
  obtain ⟨n, b', hb', hprop', rfl⟩ := hch
  exact ⟨b, hb, hop, hprop, hc.shared name n b b' hb hb' (hprop.trans hprop'.symm),
    fun _ => call_of_visible hb hvis⟩

/-- **A getter** returns the slot, copied for a sequence property, and changes nothing. -/
theorem Coherent.call_get {name : String} {p : Bool} (hs : i.Serves name .get P p) :
    i.call name [] p =
      (.returned (if ch.type.isCollection then (i.valueOf P).copySequence else i.valueOf P),
        i) := by
  obtain ⟨b, hb, hop, rfl, rfl, hcall⟩ := hc.serves hch hs
  rw [hcall, run_get hop]

/-- **A writer** stores its checked value: null as the missing value, a value of a sequence
property as a copy. -/
theorem Coherent.call_set {name : String} {p : Bool} (hs : i.Serves name .set P p) {v : Value}
    (hv : ch.checkValue v = .ok ()) :
    i.call name [v] p = (.returned .null, i.store P
      (if v.isNull then .null else if ch.type.isCollection then v.copySequence else v)) := by
  obtain ⟨b, hb, hop, rfl, rfl, hcall⟩ := hc.serves hch hs
  rw [hcall, run_set hop hv]

section Sequence

variable (hcoll : ch.type.isCollection = true)
include hcoll

/-- **`add` appends** an accepted element to the slot, which becomes a slice. -/
theorem Coherent.call_add {name : String} {p : Bool} (hs : i.Serves name .add P p) {v : Value}
    (hv : ch.checkElement v = .ok ()) :
    ∃ s, i.call name [v] p = (.returned .null, i.store P s) ∧
      (∃ e xs r, s = .slice e xs r) ∧ s.elements = (i.valueOf P).elements ++ [v] := by
  obtain ⟨b, hb, hop, rfl, rfl, hcall⟩ := hc.serves hch hs
  have hne : v ≠ .null := by
    intro h
    have := Checker.isNull_of_checkElement (isValidated_of_isCollection hcoll) hv
    rw [h] at this
    cases this
  obtain ⟨s, happ, hslice, helems⟩ :=
    Value.appendTo_of_slot (hc.sequences name b hb hcoll) hne
  exact ⟨s, by rw [hcall, run_add hop hv happ], hslice, helems⟩

/-- **`remove` drops** the first item equal to an accepted element; a slice stays a slice. -/
theorem Coherent.call_remove {name : String} {p : Bool} (hs : i.Serves name .remove P p) {v : Value}
    (hv : ch.checkElement v = .ok ()) :
    ∃ s, i.call name [v] p = (.returned .null, i.store P s) ∧
      (i.valueOf P ≠ .null → ∃ e xs r, s = .slice e xs r) ∧
      s.elements = Value.removeFrom (i.valueOf P).elements v := by
  obtain ⟨b, hb, hop, rfl, rfl, hcall⟩ := hc.serves hch hs
  have hslot := hc.sequences name b hb hcoll
  obtain ⟨s, hrem, -, helems⟩ := Value.removeFromStored_of_slot hslot v
  refine ⟨s, by rw [hcall, run_remove hop hv hrem], ?_, helems⟩
  intro hne
  -- the slot is a slice, given back or copied without one item
  rcases Value.removeFromStored_cases hrem with rfl | ⟨e, items, r, k, -, rfl⟩
  · rcases hslot with hnull | hslice
    · exact absurd hnull hne
    · exact hslice
  · exact ⟨_, _, _, rfl⟩

/-- **`contains`** tells whether an item of the slot equals an accepted element. -/
theorem Coherent.call_contains {name : String} {p : Bool} (hs : i.Serves name .contains P p)
    {v : Value} (hv : ch.checkElement v = .ok ()) :
    i.call name [v] p = (.returned (.bool (Value.indexIn (i.valueOf P).elements v).isSome), i) := by
  obtain ⟨b, hb, hop, rfl, rfl, hcall⟩ := hc.serves hch hs
  rw [hcall, run_contains hop hv (Value.position_of_slot (hc.sequences name b hb hcoll) v)]

/-- The slot of a sequence property holds the missing value or a slice. -/
theorem Coherent.slot : (i.valueOf P).NullOrSlice := by
  obtain ⟨n, b, hb, rfl, rfl⟩ := hch
  exact hc.sequences n b hb hcoll

/-- **A getter of a slice** returns a slice of its items. -/
theorem Coherent.get_slice {name : String} {p : Bool} (hs : i.Serves name .get P p)
    (hslice : ∃ e xs r, i.valueOf P = .slice e xs r) :
    ∃ w, (i.call name [] p).1 = .returned w ∧ w.items? = some (i.valueOf P).elements := by
  rw [hc.call_get hch hs, if_pos hcoll]
  exact ⟨_, rfl, Value.items?_copySequence_slice hslice⟩

end Sequence

end Laws

/-- A stored value is what its property then holds. -/
theorem valueOf_store_self (i : Instance) (prop : String) (v : Value) :
    (i.store prop v).valueOf prop = v := by
  rw [valueOf_store, if_pos rfl]

/-- **The sequence accessors of a property**: a coherent instance whose checker for `P` is `ch`
and whose methods `adder`, `remover`, `finder` and `getter` serve `P` with the same access. -/
structure SequenceAccess (i : Instance) (P : String) (ch : Checker)
    (adder remover finder getter : String) (p : Bool) : Prop where
  coherent : i.Coherent
  checker : i.BoundChecker P ch
  adds : i.Serves adder .add P p
  removes : i.Serves remover .remove P p
  finds : i.Serves finder .contains P p
  gets : i.Serves getter .get P p

/-- Every call keeps the sequence accessors. -/
theorem SequenceAccess.call {i : Instance} {P : String} {ch : Checker}
    {adder remover finder getter : String} {p : Bool}
    (h : SequenceAccess i P ch adder remover finder getter p) (n : String) (args : List Value)
    (privileged : Bool) :
    SequenceAccess (i.call n args privileged).2 P ch adder remover finder getter p :=
  ⟨h.coherent.call n args privileged, h.checker.call n args privileged,
    h.adds.call n args privileged, h.removes.call n args privileged,
    h.finds.call n args privileged, h.gets.call n args privileged⟩

/-! ### Runs of calls -/

/-- **The property a call writes**: that of its method, when the method is a writer (`set`,
`add` or `remove`) and the call returned. -/
def writtenBy (i : Instance) (name : String) (args : List Value) (privileged : Bool) :
    Option String :=
  match i.methods.lookup name, (i.call name args privileged).1 with
  | some b, .returned _ =>
    if b.spec.operation = .set ∨ b.spec.operation = .add ∨ b.spec.operation = .remove then
      some b.spec.property
    else none
  | _, _ => none

/-- **A call that writes another property** leaves the slot as it was. -/
theorem valueOf_call_of_writtenBy_ne {i : Instance} {name : String} {args : List Value}
    {privileged : Bool} {P : String} (h : i.writtenBy name args privileged ≠ some P) :
    (i.call name args privileged).2.valueOf P = i.valueOf P := by
  rcases call_cases i name args privileged with ⟨o, hcall, -⟩ | ⟨b, v, s, hb, hcall, hw, -⟩
  · rw [hcall]
  · have hwriter : b.spec.operation = .set ∨ b.spec.operation = .add ∨
        b.spec.operation = .remove := by
      cases hw with
      | set hop _ => exact .inl hop
      | add hop _ _ => exact .inr (.inl hop)
      | remove hop _ _ => exact .inr (.inr hop)
    have hP : P ≠ b.spec.property := by
      intro hprop
      apply h
      unfold writtenBy
      rw [hb, hcall]
      dsimp only
      rw [if_pos hwriter, hprop]
    rw [hcall, valueOf_store, if_neg hP]

/-- **A run of calls**, by name with arguments and privilege, each on the state the previous one
left. -/
def callAll (i : Instance) : List (String × List Value × Bool) → Instance
  | [] => i
  | (n, a, p) :: cs => (i.call n a p).2.callAll cs

/-- **No call of a run writes the property.** -/
def Keeps (prop : String) : Instance → List (String × List Value × Bool) → Prop
  | _, [] => True
  | i, (n, a, p) :: cs => i.writtenBy n a p ≠ some prop ∧ Keeps prop (i.call n a p).2 cs

theorem methods_callAll (i : Instance) : ∀ calls, (i.callAll calls).methods = i.methods
  | [] => rfl
  | (n, a, p) :: cs => (methods_callAll _ cs).trans (call_methods i n a p)

theorem Coherent.callAll {i : Instance} (hc : i.Coherent) : ∀ calls, (i.callAll calls).Coherent
  | [] => hc
  | (n, a, p) :: cs => (hc.call n a p).callAll cs

/-- **A run that keeps a property** leaves its slot as it was. -/
theorem Keeps.valueOf_callAll {P : String} :
    ∀ {i : Instance} {calls}, Keeps P i calls → (i.callAll calls).valueOf P = i.valueOf P
  | _, [], _ => rfl
  | _, (_, _, _) :: _, ⟨hn, hcs⟩ =>
    (Keeps.valueOf_callAll hcs).trans (valueOf_call_of_writtenBy_ne hn)

/-! ### The laws -/

/-- **Set, then get.** In every state a bound instance reaches, a writer of a property called
with a value `v` that the property's checker accepts returns null; after it and any run of calls
that writes the property no more, every getter of the property returns null when `v` is null;
for a sequence property, a sequence of the items of `v` in their order, where a slice keeps its
element type (an absent slice stays absent) and an array becomes a slice of any values; and `v`
itself otherwise. -/
theorem set_get_round_trip {c : ClassSpec} {reg : Registry} {i : Instance} {written : List String}
    (h : Reachable c reg i written) {P : String} {ch : Checker} (hch : i.BoundChecker P ch)
    {setter getter : String} {p p' : Bool} (hset : i.Serves setter .set P p)
    (hget : i.Serves getter .get P p') {v : Value} (hv : ch.checkValue v = .ok ())
    {calls : List (String × List Value × Bool)} (hkeep : Keeps P (i.call setter [v] p).2 calls) :
    (i.call setter [v] p).1 = .returned .null ∧
    ∃ w, (((i.call setter [v] p).2.callAll calls).call getter [] p').1 = .returned w ∧
      (v.isNull = true → w = .null) ∧
      (v.isNull = false → ch.type.isCollection = true →
        w.items? = v.items? ∧ (∀ e xs r, v = .slice e xs r → ∃ r', w = .slice e xs r') ∧
        ∀ e xs, v = .array e xs → w = .slice .any (some xs) 0) ∧
      (v.isNull = false → ch.type.isCollection = false → w = v) := by
  have hc := h.coherent
  have hset_call := hc.call_set hch hset hv
  -- the state after the run is coherent, with the same accessors and the written slot
  have hcj := (hc.call setter [v] p).callAll calls
  have hmethods : ((i.call setter [v] p).2.callAll calls).methods = i.methods := by
    rw [methods_callAll, call_methods]
  have hchj : ((i.call setter [v] p).2.callAll calls).BoundChecker P ch := by
    unfold BoundChecker
    rw [hmethods]
    exact hch
  have hgetj : ((i.call setter [v] p).2.callAll calls).Serves getter .get P p' := by
    unfold Serves
    rw [hmethods]
    exact hget
  have hslot : ((i.call setter [v] p).2.callAll calls).valueOf P =
      if v.isNull then .null else if ch.type.isCollection then v.copySequence else v := by
    rw [hkeep.valueOf_callAll, hset_call, valueOf_store_self]
  rw [hcj.call_get hchj hgetj, hslot, hset_call]
  refine ⟨rfl, _, rfl, ?_, ?_, ?_⟩
  · intro hnull
    simp only [hnull, if_true]
    split <;> rfl
  · intro hnull hcoll
    simp only [hnull, hcoll, Bool.false_eq_true, if_false, if_true, Value.copySequence_copySequence,
      Value.items?_copySequence]
    refine ⟨trivial, ?_, ?_⟩
    · rintro e xs r rfl
      exact Value.copySequence_slice_eq e xs r
    · rintro e xs rfl
      rfl
  · intro hnull hcoll
    simp [hnull, hcoll]

/-- A sample class: a sequence of texts with a getter, a writer and the three sequence
accessors. -/
def tagsClass : ClassSpec :=
  ⟨"models.Post", "models", "Post", [⟨"tags", "[]string", ⟨.arrayOfScalar, false, "string", "string[]"⟩⟩],
    [⟨"getTags", .get, "tags", .publicAccess, ""⟩, ⟨"setTags", .set, "tags", .publicAccess, "array"⟩,
      ⟨"addTag", .add, "tags", .publicAccess, "string"⟩,
      ⟨"removeTag", .remove, "tags", .publicAccess, "string"⟩,
      ⟨"containsTag", .contains, "tags", .publicAccess, "string"⟩]⟩

/-- The checker of the sample's sequence of texts. -/
def tagsChecker : Checker := ⟨⟨.arrayOfScalar, false, "string", "string[]"⟩, none⟩

/-- The sample, bound: a slice of texts is set, read twice and looked up in, then read back. -/
theorem set_get_round_trip_tags :
    ∃ i written, Reachable tagsClass Registry.empty i written ∧ i.BoundChecker "tags" tagsChecker ∧
      i.Serves "setTags" .set "tags" false ∧ i.Serves "getTags" .get "tags" true ∧
      tagsChecker.checkValue (.slice .string (some [.str "a", .str "b"]) 7) = .ok () ∧
      Keeps "tags" (i.call "setTags" [.slice .string (some [.str "a", .str "b"]) 7] false).2
        [("getTags", [], false), ("containsTag", [.str "a"], false)] ∧
      (i.call "setTags" [.slice .string (some [.str "a", .str "b"]) 7] false).1 = .returned .null ∧
      ∃ w, (((i.call "setTags" [.slice .string (some [.str "a", .str "b"]) 7] false).2.callAll
          [("getTags", [], false), ("containsTag", [.str "a"], false)]).call "getTags" [] true).1 =
          .returned w ∧
        ((Value.slice .string (some [.str "a", .str "b"]) 7).isNull = true → w = .null) ∧
        ((Value.slice .string (some [.str "a", .str "b"]) 7).isNull = false →
          tagsChecker.type.isCollection = true →
          w.items? = (Value.slice .string (some [.str "a", .str "b"]) 7).items? ∧
          (∀ e xs r, Value.slice .string (some [.str "a", .str "b"]) 7 = .slice e xs r →
            ∃ r', w = .slice e xs r') ∧
          ∀ e xs, Value.slice .string (some [.str "a", .str "b"]) 7 = .array e xs →
            w = .slice .any (some xs) 0) ∧
        ((Value.slice .string (some [.str "a", .str "b"]) 7).isNull = false →
          tagsChecker.type.isCollection = false → w = .slice .string (some [.str "a", .str "b"]) 7) := by
  have h : Reachable tagsClass Registry.empty _ [] := .bind rfl
  refine ⟨_, _, h, ⟨"getTags", _, rfl, rfl, rfl⟩, ⟨_, rfl, rfl, rfl, .inr rfl⟩,
    ⟨_, rfl, rfl, rfl, .inl rfl⟩, rfl, ⟨by decide, by decide, trivial⟩, ?_⟩
  exact @set_get_round_trip _ _ _ _ h "tags" tagsChecker ⟨"getTags", _, rfl, rfl, rfl⟩
    "setTags" "getTags" false true ⟨_, rfl, rfl, rfl, .inr rfl⟩ ⟨_, rfl, rfl, rfl, .inl rfl⟩ _ rfl
    _ ⟨by decide, by decide, trivial⟩

/-- **The sequence accessors.** In every state a bound instance reaches, for a property whose
checker is of sequence type, holding the items `s`, and an element `v` that the checker accepts:

* `add v` returns null, and a getter then returns `s` followed by `v`; a membership test then
  finds `v` when `v` equals itself;
* `remove v` returns null, and a getter then returns `s` without its first item equal to `v`,
  or `s` when there is none;
* `add v` then `remove v` gives `s` back when `v` equals itself and no item of `s` does;
* a membership test of `v` tells whether some item of `s` equals `v`. -/
theorem sequence_accessor_laws {c : ClassSpec} {reg : Registry} {i : Instance}
    {written : List String} (h : Reachable c reg i written) {P : String} {ch : Checker}
    (hch : i.BoundChecker P ch) (hcoll : ch.type.isCollection = true) {s : List Value}
    (hs : (i.valueOf P).items? = some s) {v : Value} (hv : ch.checkElement v = .ok ())
    {adder remover finder getter : String} {p : Bool} (hadd : i.Serves adder .add P p)
    (hrem : i.Serves remover .remove P p) (hfind : i.Serves finder .contains P p)
    (hget : i.Serves getter .get P p) :
    (i.call adder [v] p).1 = .returned .null ∧
    (∃ w, ((i.call adder [v] p).2.call getter [] p).1 = .returned w ∧ w.items? = some (s ++ [v])) ∧
    (v.equal v = true → ((i.call adder [v] p).2.call finder [v] p).1 = .returned (.bool true)) ∧
    (i.call remover [v] p).1 = .returned .null ∧
    (∃ w r, ((i.call remover [v] p).2.call getter [] p).1 = .returned w ∧ w.items? = some r ∧
      Value.ErasesFirst v s r) ∧
    ((∀ x ∈ s, x.equal v = false) → v.equal v = true →
      ∃ w, (((i.call adder [v] p).2.call remover [v] p).2.call getter [] p).1 = .returned w ∧
        w.items? = some s) ∧
    ∃ found, (i.call finder [v] p).1 = .returned (.bool found) ∧
      (found = true ↔ ∃ x ∈ s, x.equal v = true) := by
  have hc := h.coherent
  have hacc : SequenceAccess i P ch adder remover finder getter p :=
    ⟨hc, hch, hadd, hrem, hfind, hget⟩
  obtain ⟨e₀, xs₀, r₀, hslice, helems⟩ := Value.items?_of_slot (hc.slot hch hcoll) hs
  -- after `add v`: the slot is a slice of `s` and `v`, in a state with the same accessors
  obtain ⟨sa, hadd_call, hsa, hsa_elems⟩ := hc.call_add hch hcoll hadd hv
  rw [helems] at hsa_elems
  have hA := hacc.call adder [v] p
  rw [hadd_call] at hA
  -- after `remove v`: the slot is a slice of `s` less its first item equal to `v`
  obtain ⟨sr, hrem_call, hsr, hsr_elems⟩ := hc.call_remove hch hcoll hrem hv
  rw [helems] at hsr_elems
  have hR := hacc.call remover [v] p
  rw [hrem_call] at hR
  refine ⟨by rw [hadd_call], ?_, ?_, by rw [hrem_call], ?_, ?_, ?_⟩
  · rw [hadd_call]
    obtain ⟨w, hw, hitems⟩ :=
      hA.coherent.get_slice hA.checker hcoll hA.gets (by rwa [valueOf_store_self])
    exact ⟨w, hw, by rw [hitems, valueOf_store_self, hsa_elems]⟩
  · intro hself
    rw [hadd_call, hA.coherent.call_contains hA.checker hcoll hA.finds hv, valueOf_store_self,
      hsa_elems, Value.indexIn_append_self s hself]
  · rw [hrem_call]
    have hne : i.valueOf P ≠ .null := by
      rw [hslice]
      exact nofun
    obtain ⟨w, hw, hitems⟩ := hR.coherent.get_slice hR.checker hcoll hR.gets
      (by rw [valueOf_store_self]; exact hsr hne)
    refine ⟨w, _, hw, hitems, ?_⟩
    rw [valueOf_store_self, hsr_elems]
    exact Value.erasesFirst_removeFrom v s
  · intro hnone hself
    -- removing `v` again from the slice of `s` and `v`
    obtain ⟨sar, hrem_callA, hsar, hsar_elems⟩ :=
      hA.coherent.call_remove hA.checker hcoll hA.removes hv
    rw [valueOf_store_self, hsa_elems, Value.removeFrom_append_self hnone hself] at hsar_elems
    have hAR := hA.call remover [v] p
    rw [hrem_callA] at hAR
    have hne : (i.store P sa).valueOf P ≠ .null := by
      rw [valueOf_store_self]
      obtain ⟨e, xs, r, rfl⟩ := hsa
      exact nofun
    obtain ⟨w, hw, hitems⟩ := hAR.coherent.get_slice hAR.checker hcoll hAR.gets
      (by rw [valueOf_store_self]; exact hsar hne)
    refine ⟨w, ?_, by rw [hitems, valueOf_store_self, hsar_elems]⟩
    rw [hadd_call, hrem_callA]
    exact hw
  · rw [hc.call_contains hch hcoll hfind hv, helems]
    exact ⟨_, rfl, Value.indexIn_isSome_iff s v⟩

/-- The sample, given the sequence `["news"]`, with the element `"go"`. -/
theorem sequence_accessor_laws_tags :
    ∃ i written, Reachable tagsClass Registry.empty i written ∧ i.BoundChecker "tags" tagsChecker ∧
      (i.valueOf "tags").items? = some [.str "news"] ∧ tagsChecker.checkElement (.str "go") = .ok () ∧
      i.Serves "addTag" .add "tags" false ∧ i.Serves "removeTag" .remove "tags" false ∧
      i.Serves "containsTag" .contains "tags" false ∧ i.Serves "getTags" .get "tags" false ∧
      (i.call "addTag" [.str "go"] false).1 = .returned .null ∧
      (∃ w, ((i.call "addTag" [.str "go"] false).2.call "getTags" [] false).1 = .returned w ∧
        w.items? = some [.str "news", .str "go"]) ∧
      ((Value.str "go").equal (.str "go") = true →
        ((i.call "addTag" [.str "go"] false).2.call "containsTag" [.str "go"] false).1 =
          .returned (.bool true)) ∧
      (i.call "removeTag" [.str "go"] false).1 = .returned .null ∧
      (∃ w r, ((i.call "removeTag" [.str "go"] false).2.call "getTags" [] false).1 = .returned w ∧
        w.items? = some r ∧ Value.ErasesFirst (.str "go") [.str "news"] r) ∧
      ((∀ x ∈ [Value.str "news"], x.equal (.str "go") = false) → (Value.str "go").equal (.str "go") = true →
        ∃ w, (((i.call "addTag" [.str "go"] false).2.call "removeTag" [.str "go"] false).2.call
          "getTags" [] false).1 = .returned w ∧ w.items? = some [.str "news"]) ∧
      ∃ found, (i.call "containsTag" [.str "go"] false).1 = .returned (.bool found) ∧
        (found = true ↔ ∃ x ∈ [Value.str "news"], x.equal (.str "go") = true) := by
  have h := @Reachable.call tagsClass Registry.empty _ _ "setTags"
    [.slice .string (some [.str "news"]) 1] false (.bind rfl)
  refine ⟨_, _, h, ⟨"getTags", _, rfl, rfl, rfl⟩, rfl, rfl, ⟨_, rfl, rfl, rfl, .inr rfl⟩,
    ⟨_, rfl, rfl, rfl, .inr rfl⟩, ⟨_, rfl, rfl, rfl, .inr rfl⟩, ⟨_, rfl, rfl, rfl, .inr rfl⟩, ?_⟩
  exact sequence_accessor_laws h ⟨"getTags", _, rfl, rfl, rfl⟩ rfl rfl rfl ⟨_, rfl, rfl, rfl, .inr rfl⟩
    ⟨_, rfl, rfl, rfl, .inr rfl⟩ ⟨_, rfl, rfl, rfl, .inr rfl⟩ ⟨_, rfl, rfl, rfl, .inr rfl⟩

end Instance
end Accessors
