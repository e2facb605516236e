import Accessors.Proofs.Dispatch
import Accessors.Proofs.Cache
import Mathlib.Data.List.Nodup

/-!
# The stored values of a bound instance

The representation invariant of bound instances: in every state an instance reaches by calls,
the value stored for a property whose type is checked passes the check of the property, unless
the property is no sequence, holds the missing value and was never set by a writer. So a
sequence property holds a sequence whose items all pass as elements, or the missing value after
a writer set null on a type that admits it; and once set, a property that does not admit null
never holds it.

This needs two things of the class that binding does not check: property names are pairwise
distinct (two properties of one name share one slot and one checker, the last one's), and `add`
is declared only on properties of sequence type (on any other it turns the missing value into a
sequence). Synthesis guarantees the second only. `ClassSpec.Consistent` names them.

The proof follows one call at a time. A call stores nothing, or what its method writes in the
slot of the method's property (`Instance.call_cases`); what a writer stores passes the check
(`Checker.checkValue_stored`); `add` keeps a sequence of passing items (`Instance.Slot.appendTo`),
and `remove` gives back the sequence or a shorter copy of it (`Value.removeFromStored_cases`).
Binding starts every sequence as an empty one and every other slot empty
(`Instance.valueOf_bind`), with the checker of the property behind each method
(`Instance.bind_methods`). The invariant `Instance.Represented` then holds of every reachable
state (`Instance.Reachable.represented`).

Main statement: `reachable_represented`.
-/

namespace Accessors

/-! ### Sequences held by properties -/

namespace Value

@[simp] theorem isNull_copySequence (v : Value) : v.copySequence.isNull = v.isNull := by
  unfold copySequence
  split <;> rfl

@[simp] theorem items?_copySequence (v : Value) : v.copySequence.items? = v.items? := by
  unfold copySequence
  split <;> rfl

/-- Appending to the missing value starts a sequence. -/
theorem appendTo_null (v : Value) : Value.null.appendTo v = .ok (slice .any (some [v]) 0) := rfl

/-- **Appending to a sequence** gives a sequence of its items and the element. -/
theorem appendTo_items {seq v s : Value} {xs : List Value} (hxs : seq.items? = some xs)
    (h : seq.appendTo v = .ok s) : s.items? = some (xs ++ [v]) ∧ s.isNull = false := by
  cases seq with
  | slice e items r =>
    simp only [items?, Option.some.injEq] at hxs
    subst hxs
    have hseq : (slice e items r).typeOf = some (.slice e) := rfl
    rcases hv : v.typeOf with _ | t <;> simp only [appendTo, hseq, hv, VType.elem?] at h
    · cases h
    -- an element of the slice's type keeps the type; any other turns it into `[]any`
    split at h
    · cases h
      exact ⟨rfl, rfl⟩
    · simp only [itemsView, Except.map] at h
      cases h
      exact ⟨rfl, rfl⟩
  | array e items =>
    simp only [items?, Option.some.injEq] at hxs
    subst hxs
    have hseq : (array e items).typeOf = some (.array items.length e) := rfl
    rcases hv : v.typeOf with _ | t <;> simp only [appendTo, hseq, hv, VType.elem?] at h
    · cases h
    split at h
    · cases h
    · simp only [itemsView, Except.map] at h
      cases h
      exact ⟨rfl, rfl⟩
  | _ => cases hxs

/-- A null value reads as no items, or faults: absent maps, channels and pointers to arrays
have length zero, or a length and no items by position. -/
theorem itemsView_of_isNull {seq : Value} {xs : List Value} (hnull : seq.isNull = true)
    (h : seq.itemsView = .ok xs) : xs = [] := by
  unfold itemsView at h
  split at h
  -- the values that are never null, then the ones that fault at once
  all_goals first | cases hnull | skip
  all_goals first | cases h | skip
  -- the ones with a length, read as no items or faulting at the first
  all_goals
    split at h
    · cases h
      rfl
    · cases h

/-- **Appending to a null value** gives a sequence of the element alone: the missing value, an
absent pointer to an array of no items and an absent channel read as no items; appending to any
other null value fails. -/
theorem appendTo_of_isNull {seq v s : Value} (hnull : seq.isNull = true)
    (h : seq.appendTo v = .ok s) : s = slice .any (some [v]) 0 := by
  unfold appendTo at h
  split at h
  · cases h
    rfl
  -- past the missing value: no type, no element type and a slice cannot be; anything else is
  -- read as its items
  · split at h <;> try cases h
    split at h <;> try cases h
    split at h
    · split at h
      · cases hnull
      · cases h
    · cases hi : seq.itemsView with
      | error e =>
        rw [hi] at h
        cases h
      | ok xs =>
        rw [hi] at h
        cases h
        rw [itemsView_of_isNull hnull hi]
        rfl

/-- **Removing from a stored value** gives it back, or a slice of its items less one. -/
theorem removeFromStored_cases {seq v s : Value} (h : seq.removeFromStored v = .ok s) :
    s = seq ∨
      ∃ e items r k, seq = slice e items r ∧ s = slice e (some ((items.getD []).eraseIdx k)) 0 := by
  unfold removeFromStored at h
  simp only [bind, Except.bind] at h
  rcases hp : seq.position v with _ | _ | k <;> rw [hp] at h
  · cases h
  · cases h
    exact .inl rfl
  · dsimp only at h
    split at h
    · cases h
      exact .inr ⟨_, _, _, k, rfl, rfl⟩
    · cases h

end Value

/-! ### Checks of stored values -/

namespace Checker

theorem checkItems_eq_ok_iff {c : Checker} :
    ∀ {xs : List Value}, c.checkItems xs = .ok () ↔ ∀ x ∈ xs, c.checkElement x = .ok ()
  | [] => by simp [checkItems]
  | x :: xs => by
    unfold checkItems
    cases hx : c.checkElement x with
    | error e => simp [bind, Except.bind, hx]
    | ok u => simp [bind, Except.bind, hx, checkItems_eq_ok_iff]

/-- **When a whole value passes**: always for a type that is never checked; otherwise a null
value when the type admits null, a value that matches a type that is no sequence, and a
sequence whose items all pass as elements. -/
theorem checkValue_eq_ok_iff {c : Checker} {v : Value} :
    c.checkValue v = .ok () ↔
      (c.type.isValidated = true →
        (v.isNull = true → c.type.nullable = true) ∧
        (v.isNull = false → c.type.isCollection = false → c.accepts v = true) ∧
        (v.isNull = false → c.type.isCollection = true →
          ∃ xs, v.items? = some xs ∧ ∀ x ∈ xs, c.checkElement x = .ok ())) := by
  unfold checkValue
  cases hval : c.type.isValidated
  · simp
  cases hnull : v.isNull
  · cases hcoll : c.type.isCollection
    · cases c.accepts v <;> simp [reject]
    · cases hxs : v.items? with
      | none => simp [reject]
      | some xs => simp [checkItems_eq_ok_iff]
  · cases c.type.nullable <;> simp [reject]

/-- Whether a slice matches a type does not depend on its items. -/
theorem accepts_slice (c : Checker) (e : VType) (items items' : Option (List Value)) (r r' : Nat) :
    c.accepts (.slice e items r) = c.accepts (.slice e items' r') := rfl

/-- **What a writer stores passes** where its argument passed: null as the missing value, a
sequence as a copy. -/
theorem checkValue_stored {c : Checker} {v : Value} (h : c.checkValue v = .ok ()) :
    c.checkValue (if v.isNull then .null else if c.type.isCollection then v.copySequence else v) =
      .ok () := by
  rw [checkValue_eq_ok_iff] at h ⊢
  intro hval
  obtain ⟨hnull, haccepts, hitems⟩ := h hval
  by_cases hv : v.isNull = true
  · rw [if_pos hv]
    exact ⟨fun _ => hnull hv, nofun, nofun⟩
  · rw [if_neg hv]
    split
    · rename_i hcoll
      rw [Value.isNull_copySequence, Value.items?_copySequence]
      exact ⟨hnull, fun _ hcoll' => absurd hcoll (by simp [hcoll']), hitems⟩
    · exact ⟨hnull, haccepts, hitems⟩

end Checker

/-! ### Slots -/

/-- **Setting a key**: the key has the new value, every other key keeps its own. -/
theorem lookup_assocSet {α : Type} (xs : List (String × α)) (k k' : String) (v : α) :
    (assocSet xs k v).lookup k' = if k' = k then some v else xs.lookup k' := by
  unfold assocSet
  exact lookup_replaceOrAppend xs k k' v

namespace Instance

/-- Storing a value changes the slot of its property only. -/
theorem valueOf_store (i : Instance) (prop prop' : String) (v : Value) :
    (i.store prop v).valueOf prop' = if prop' = prop then v else i.valueOf prop' := by
  unfold valueOf store
  rw [lookup_assocSet]
  split <;> rfl

/-- A call never changes the bound methods. -/
theorem call_methods (i : Instance) (name : String) (args : List Value) (privileged : Bool) :
    (i.call name args privileged).2.methods = i.methods := by
  unfold call
  cases i.methods.lookup name with
  | none => rfl
  | some b =>
    dsimp only
    split
    · rfl
    · rcases run_cases i b args with ⟨o, hrun, -⟩ | ⟨v, s, -, hrun, -⟩
      · rw [hrun]
      · rw [hrun]
        rfl

/-! ### Binding -/

/-- The sequence every sequence property starts as. -/
abbrev emptySequence : Value := .slice .any (some []) 0

/-- Binding gives the sequence properties empty sequences, and no other property a value. -/
theorem bindProperties_values {c : ClassSpec} {reg : Registry} :
    ∀ {ps : List PropertySpec} {cs cs' : List (String × Checker)} {vs vs' : List (String × Value)},
      bindProperties c reg ps cs vs = .ok (cs', vs') → ∀ k,
        vs'.lookup k =
          if ps.any (fun p => p.type.isCollection && p.name == k) then some emptySequence
          else vs.lookup k
  | [], cs, cs', vs, vs', h, k => by
    cases h
    rfl
  | p :: ps, cs, cs', vs, vs', h, k => by
    unfold bindProperties at h
    split at h
    · cases h
    rw [bindProperties_values h k]
    by_cases hk : p.name = k
    · subst hk
      by_cases hcoll : p.type.isCollection = true <;> simp [hcoll, lookup_assocSet]
    · have hk' : k ≠ p.name := fun h => hk h.symm
      by_cases hcoll : p.type.isCollection = true <;> simp [hcoll, hk, hk', lookup_assocSet]

/-- Binding gives each property name the checker of a property of that name. -/
theorem bindProperties_checkers {c : ClassSpec} {reg : Registry} :
    ∀ {ps : List PropertySpec} {cs cs' : List (String × Checker)} {vs vs' : List (String × Value)},
      bindProperties c reg ps cs vs = .ok (cs', vs') → ∀ k ch, cs'.lookup k = some ch →
        (∃ p ∈ ps, p.name = k ∧ checkerFor p.type reg = .ok ch) ∨ cs.lookup k = some ch
  | [], cs, cs', vs, vs', h, k, ch, hk => by
    cases h
    exact .inr hk
  | p :: ps, cs, cs', vs, vs', h, k, ch, hk => by
    unfold bindProperties at h
    split at h
    · cases h
    rename_i chp hchp
    rcases bindProperties_checkers h k ch hk with ⟨q, hq, hqk, hqch⟩ | hold
    · exact .inl ⟨q, List.mem_cons_of_mem _ hq, hqk, hqch⟩
    · rw [lookup_assocSet] at hold
      split at hold
      · rename_i hkp
        cases hold
        exact .inl ⟨p, List.mem_cons_self .., hkp.symm, hchp⟩
      · exact .inr hold

/-- Binding gives each method name a method of the class, with the checker of its property. -/
theorem bindMethods_lookup {c : ClassSpec} {checkers : List (String × Checker)} :
    ∀ {ms : List MethodSpec} {bs bs' : List (String × BoundMethod)},
      bindMethods c checkers ms bs = .ok bs' → ∀ name b, bs'.lookup name = some b →
        (b.spec ∈ ms ∧ checkers.lookup b.spec.property = some b.checker) ∨ bs.lookup name = some b
  | [], bs, bs', h, name, b, hb => by
    cases h
    exact .inr hb
  | m :: ms, bs, bs', h, name, b, hb => by
    unfold bindMethods at h
    split at h
    · cases h
    rename_i ch hch
    split at h
    · cases h
    rcases bindMethods_lookup h name b hb with ⟨hm, hchk⟩ | hold
    · exact .inl ⟨List.mem_cons_of_mem _ hm, hchk⟩
    · rw [List.lookup_append] at hold
      cases hprev : bs.lookup name with
      | some b' =>
        rw [hprev] at hold
        exact .inr hold
      | none =>
        rw [hprev, Option.none_or] at hold
        simp only [List.lookup_cons, List.lookup_nil] at hold
        split at hold
        · cases hold
          exact .inl ⟨List.mem_cons_self .., hch⟩
        · cases hold

/-- **The bound methods**: each is a method of the class, with the checker of a property of its
property's name. -/
theorem bind_methods {c : ClassSpec} {reg : Registry} {i : Instance} (h : bind c reg = .ok i)
    (name : String) (b : BoundMethod) (hb : i.methods.lookup name = some b) :
    b.spec ∈ c.methods ∧
      ∃ q ∈ c.properties, q.name = b.spec.property ∧ checkerFor q.type reg = .ok b.checker := by
  unfold bind at h
  split at h
  · cases h
  rename_i checkers values hprops
  split at h
  · cases h
  rename_i methods hmethods
  cases h
  rcases bindMethods_lookup hmethods name b hb with ⟨hm, hchk⟩ | hnone
  · refine ⟨hm, ?_⟩
    rcases bindProperties_checkers hprops _ _ hchk with hq | hnone
    · exact hq
    · cases hnone
  · cases hnone

/-- **The starting values**: with property names pairwise distinct, a sequence property starts
as an empty sequence and any other property empty. -/
theorem valueOf_bind {c : ClassSpec} {reg : Registry} {i : Instance} (h : bind c reg = .ok i)
    (hnames : (c.properties.map (·.name)).Nodup) {p : PropertySpec} (hp : p ∈ c.properties) :
    i.valueOf p.name = if p.type.isCollection then emptySequence else .null := by
  unfold bind at h
  split at h
  · cases h
  rename_i checkers values hprops
  split at h
  · cases h
  cases h
  unfold valueOf
  rw [bindProperties_values hprops]
  by_cases hcoll : p.type.isCollection = true
  · have hany : c.properties.any (fun q => q.type.isCollection && q.name == p.name) = true :=
      List.any_eq_true.2 ⟨p, hp, by simp [hcoll]⟩
    rw [if_pos hany, if_pos hcoll]
    rfl
  · -- the only property of this name is `p`, which is no sequence
    have hany : c.properties.any (fun q => q.type.isCollection && q.name == p.name) = false := by
      rw [List.any_eq_false]
      intro q hq hqp
      have hname : q.name = p.name := by simpa using (Bool.and_eq_true_iff.1 hqp).2
      have hqp : q = p := List.inj_on_of_nodup_map hnames hq hp hname
      subst hqp
      simp_all
    rw [if_neg (by simp [hany]), if_neg hcoll]
    rfl

/-- A checker holds the type it was made for. -/
theorem checkerFor_type {t : DeclaredType} {reg : Registry} {ch : Checker}
    (h : checkerFor t reg = .ok ch) : ch.type = t := by
  unfold checkerFor at h
  split at h
  · cases h
    rfl
  · split at h
    · cases h
      rfl
    · cases h

/-! ### Reachable states -/

/-- The property a call sets: that of the called method, when the method is a writer and the
call returned. -/
def setBy (i : Instance) (name : String) (args : List Value) (privileged : Bool) : Option String :=
  match i.methods.lookup name, (i.call name args privileged).1 with
  | some b, .returned _ => if b.spec.operation = .set then some b.spec.property else none
  | _, _ => none

/-- **The states an instance reaches** from binding a class through a registry, by calls of any
names with any arguments, each with the properties that a writer has set on the way. -/
inductive Reachable (c : ClassSpec) (reg : Registry) : Instance → List String → Prop
  | bind {i : Instance} : Instance.bind c reg = .ok i → Reachable c reg i []
  | call {i : Instance} {written : List String} (name : String) (args : List Value)
      (privileged : Bool) : Reachable c reg i written →
      Reachable c reg (i.call name args privileged).2
        (written ++ (i.setBy name args privileged).toList)

/-- **A call by name** stores nothing, and sets nothing; or it stores what its method writes in
the slot of the method's property, and sets that property when the method is a writer. -/
theorem call_cases (i : Instance) (name : String) (args : List Value) (privileged : Bool) :
    (∃ o, i.call name args privileged = (o, i) ∧ i.setBy name args privileged = none) ∨
    ∃ b v s, i.methods.lookup name = some b ∧
      i.call name args privileged = (.returned .null, i.store b.spec.property s) ∧
      Writes b (i.valueOf b.spec.property) v s ∧
      i.setBy name args privileged =
        if b.spec.operation = .set then some b.spec.property else none := by
  unfold setBy call
  cases hb : i.methods.lookup name with
  | none => exact .inl ⟨_, rfl, rfl⟩
  | some b =>
    dsimp only
    split
    · exact .inl ⟨_, rfl, rfl⟩
    · rcases run_cases i b args with ⟨o, hrun, hquiet⟩ | ⟨v, s, -, hrun, hwrites⟩
      · -- a quiet outcome of a writer is never a returned value
        refine .inl ⟨o, hrun, ?_⟩
        rw [hrun]
        cases o with
        | returned x => exact if_neg hquiet
        | failed e r => rfl
        | panicked msg => rfl
      · exact .inr ⟨b, v, s, rfl, hrun, hwrites, by rw [hrun]⟩

end Instance

/-! ### The invariant -/

/-- **A class whose slots are unambiguous**: no two properties share a name (they would share
one slot and one checker), and `add` is declared only on properties of sequence type, or of a
type that is never checked. Binding checks neither. -/
structure ClassSpec.Consistent (c : ClassSpec) : Prop where
  names_nodup : (c.properties.map (·.name)).Nodup
  add_sequence : ∀ m ∈ c.methods, m.operation = .add → ∀ q ∈ c.properties, q.name = m.property →
    q.type.isCollection = true ∨ q.type.isValidated = false

namespace Instance

/-- **The invariant of a slot**: its value passes the property's check and, for a sequence
property, is null only after a writer set it; or the property is no sequence, the slot holds
the missing value, and no writer set it. -/
def Slot (ch : Checker) (v : Value) (set : Prop) : Prop :=
  (ch.checkValue v = .ok () ∧ (ch.type.isCollection = true → v.isNull = true → set)) ∨
    (ch.type.isCollection = false ∧ v = .null ∧ ¬set)

theorem Slot.of_iff {ch : Checker} {v : Value} {set set' : Prop} (hs : Slot ch v set)
    (h : set ↔ set') : Slot ch v set' := by
  rwa [← propext h]

/-- A sequence type is always checked. -/
theorem isValidated_of_isCollection {t : DeclaredType} (h : t.isCollection = true) :
    t.isValidated = true := by
  unfold DeclaredType.isCollection at h
  unfold DeclaredType.isValidated
  cases hk : t.kind <;> simp_all

/-- A sequence of items that all pass as elements passes as a whole. -/
theorem checkValue_of_items {ch : Checker} {s : Value} {xs : List Value}
    (hcoll : ch.type.isCollection = true) (hnull : s.isNull = false) (hxs : s.items? = some xs)
    (hall : ∀ x ∈ xs, ch.checkElement x = .ok ()) : ch.checkValue s = .ok () := by
  rw [Checker.checkValue_eq_ok_iff]
  intro _
  refine ⟨fun h => absurd h (by simp [hnull]), fun _ h => absurd hcoll (by simp [h]), ?_⟩
  intro _ _
  exact ⟨xs, hxs, hall⟩

/-- **Appending keeps a sequence slot**: to the missing value or to a sequence of passing
items, a passing element gives a sequence of passing items. -/
theorem Slot.appendTo {ch : Checker} {cur v s : Value} {set : Prop} (hs : Slot ch cur set)
    (hcoll : ch.type.isCollection = true) (hv : ch.checkElement v = .ok ())
    (happ : cur.appendTo v = .ok s) : ch.checkValue s = .ok () ∧ s.isNull = false := by
  rcases hs with ⟨hcheck, -⟩ | ⟨hnot, -, -⟩
  · rw [Checker.checkValue_eq_ok_iff] at hcheck
    obtain ⟨-, -, hitems⟩ := hcheck (isValidated_of_isCollection hcoll)
    cases hnull : cur.isNull with
    | true =>
      obtain rfl := Value.appendTo_of_isNull hnull happ
      refine ⟨checkValue_of_items hcoll rfl rfl ?_, rfl⟩
      intro x hx
      rw [List.mem_singleton.1 hx]
      exact hv
    | false =>
      obtain ⟨xs, hxs, hall⟩ := hitems hnull hcoll
      obtain ⟨hs', hsnull⟩ := Value.appendTo_items hxs happ
      refine ⟨checkValue_of_items hcoll hsnull hs' ?_, hsnull⟩
      intro x hx
      rcases List.mem_append.1 hx with hx | hx
      · exact hall x hx
      · rw [List.mem_singleton.1 hx]
        exact hv
  · rw [hcoll] at hnot
    cases hnot

/-- **Removing keeps a slot**: the value comes back, or a shorter copy of a passing slice. -/
theorem Slot.removeFromStored {ch : Checker} {cur v s : Value} {set : Prop}
    (hs : Slot ch cur set) (hrem : cur.removeFromStored v = .ok s) : Slot ch s set := by
  rcases Value.removeFromStored_cases hrem with rfl | ⟨e, items, r, k, rfl, rfl⟩
  · exact hs
  · rcases hs with ⟨hcheck, -⟩ | ⟨-, hnull, -⟩
    · refine .inl ⟨?_, fun _ h => absurd h (by simp [Value.isNull])⟩
      rw [Checker.checkValue_eq_ok_iff] at hcheck ⊢
      intro hval
      obtain ⟨-, haccepts, hitems⟩ := hcheck hval
      refine ⟨nofun, ?_, ?_⟩
      · intro _ hcoll
        rw [Checker.accepts_slice ch e _ items 0 r]
        exact haccepts rfl hcoll
      · intro _ hcoll
        obtain ⟨xs, hxs, hall⟩ := hitems rfl hcoll
        simp only [Value.items?, Option.some.injEq] at hxs
        subst hxs
        exact ⟨_, rfl, fun x hx => hall x (List.mem_of_mem_eraseIdx hx)⟩
    · cases hnull

/-- **What a method writes keeps its slot**, when `add` is declared on sequences only; a writer
sets the property. -/
theorem Slot.writes {b : BoundMethod} {cur v s : Value} {set : Prop}
    (hs : Slot b.checker cur set) (hw : Writes b cur v s)
    (hadd : b.spec.operation = .add →
      b.checker.type.isCollection = true ∨ b.checker.type.isValidated = false) :
    Slot b.checker s (set ∨ b.spec.operation = .set) := by
  cases hw with
  | set hop hv =>
    exact .inl ⟨Checker.checkValue_stored hv, fun _ _ => .inr hop⟩
  | add hop hv happ =>
    rcases hadd hop with hcoll | hval
    · obtain ⟨hcheck, hnull⟩ := hs.appendTo hcoll hv happ
      exact .inl ⟨hcheck, fun _ h => absurd h (by simp [hnull])⟩
    · -- a type that is never checked is no sequence, and every value passes it
      have hcoll : b.checker.type.isCollection = false := by
        cases h : b.checker.type.isCollection
        · rfl
        · rw [isValidated_of_isCollection h] at hval
          cases hval
      exact .inl ⟨Checker.checkValue_unvalidated _ _ hval, fun h => absurd h (by simp [hcoll])⟩
  | remove hop hv hrem =>
    refine (hs.removeFromStored hrem).of_iff ?_
    rw [hop]
    simp

/-- **The representation invariant**: every bound method serves a declared method of the class
through the checker of its property, and every property's slot keeps its invariant, with the
properties set so far. -/
structure Represented (c : ClassSpec) (reg : Registry) (i : Instance) (written : List String) :
    Prop where
  methods : ∀ name b, i.methods.lookup name = some b → b.spec ∈ c.methods ∧
    ∃ q ∈ c.properties, q.name = b.spec.property ∧ checkerFor q.type reg = .ok b.checker
  slots : ∀ p ∈ c.properties, ∀ ch, checkerFor p.type reg = .ok ch →
    Slot ch (i.valueOf p.name) (p.name ∈ written)

/-- A property counts as set after a store when it was before, or when it is the stored one and
a writer stored it. -/
theorem mem_append_written {written : List String} {name prop : String} {op : Operation} :
    name ∈ written ++ (if op = .set then some prop else none).toList ↔
      name ∈ written ∨ (name = prop ∧ op = .set) := by
  by_cases hop : op = .set
  · simp [hop]
  · simp [hop]

section Invariant

variable {c : ClassSpec} {reg : Registry} (hc : c.Consistent)
include hc

/-- **Binding establishes the invariant**: sequences start empty and every other slot missing. -/
theorem Represented.bind {i : Instance} (h : Instance.bind c reg = .ok i) :
    Represented c reg i [] := by
  refine ⟨bind_methods h, ?_⟩
  intro p hp ch hch
  have htype : ch.type = p.type := checkerFor_type hch
  rw [valueOf_bind h hc.names_nodup hp]
  by_cases hcoll : p.type.isCollection = true
  · rw [if_pos hcoll]
    refine .inl ⟨?_, fun _ h => absurd h (by decide)⟩
    exact checkValue_of_items (htype ▸ hcoll) rfl rfl nofun
  · rw [if_neg hcoll]
    exact .inr ⟨by simpa [htype] using hcoll, rfl, List.not_mem_nil⟩

/-- **Every call keeps the invariant**: a call that stores writes the slot of its method's
property, through that property's own checker, since names are distinct. -/
theorem Represented.call {i : Instance} {written : List String} (hr : Represented c reg i written)
    (name : String) (args : List Value) (privileged : Bool) :
    Represented c reg (i.call name args privileged).2
      (written ++ (i.setBy name args privileged).toList) := by
  refine ⟨by rw [call_methods]; exact hr.methods, ?_⟩
  intro p hp ch hch
  rcases call_cases i name args privileged with ⟨o, hcall, hset⟩ | ⟨b, v, s, hb, hcall, hw, hset⟩
  · rw [hcall, hset, Option.toList_none, List.append_nil]
    exact hr.slots p hp ch hch
  · obtain ⟨hm, q, hq, hqname, hqch⟩ := hr.methods name b hb
    rw [hcall, hset, valueOf_store]
    by_cases hpn : p.name = b.spec.property
    · -- the written slot is that of `p`, which is `q`, so its checker is the method's
      have hpq : p = q := List.inj_on_of_nodup_map hc.names_nodup hp hq (hpn.trans hqname.symm)
      subst hpq
      obtain rfl : ch = b.checker := by
        rw [hch] at hqch
        cases hqch
        rfl
      have hadd : b.spec.operation = .add →
          b.checker.type.isCollection = true ∨ b.checker.type.isValidated = false := by
        intro hop
        rw [checkerFor_type hch]
        exact hc.add_sequence _ hm hop p hp hpn
      rw [if_pos hpn]
      rw [← hpn] at hw
      refine ((hr.slots p hp _ hch).writes hw hadd).of_iff ?_
      rw [mem_append_written]
      simp [hpn]
    · rw [if_neg hpn]
      refine (hr.slots p hp ch hch).of_iff ?_
      rw [mem_append_written]
      simp [hpn]

/-- **Every reachable state is represented**, by induction on the calls that reach it. -/
theorem Reachable.represented {i : Instance} {written : List String}
    (h : Reachable c reg i written) : Represented c reg i written := by
  induction h with
  | bind hbind => exact Represented.bind hc hbind
  | call name args privileged _ ih => exact ih.call hc name args privileged

/-- **The representation invariant of a bound instance.** In every state reached from a
consistent class by calls of any names with any arguments, each checked property `p` holds a
value that passes its checker, or, when `p` is no sequence and no writer has set it, the
missing value. So a sequence property holds null only after a writer set it on a nullable
type, and otherwise a sequence whose every item passes as an element; and a property that is
not nullable holds null only while it was never set. -/
theorem reachable_represented {i : Instance} {written : List String}
    (h : Reachable c reg i written) {p : PropertySpec} (hp : p ∈ c.properties)
    (hvalid : p.type.isValidated = true) {ch : Checker} (hch : checkerFor p.type reg = .ok ch) :
    (ch.checkValue (i.valueOf p.name) = .ok () ∨
      (p.type.isCollection = false ∧ i.valueOf p.name = .null ∧ p.name ∉ written)) ∧
    (p.type.isCollection = true →
      ((i.valueOf p.name).isNull = true ∧ p.type.nullable = true ∧ p.name ∈ written) ∨
      ∃ items, (i.valueOf p.name).items? = some items ∧ ∀ x ∈ items, ch.checkElement x = .ok ()) ∧
    (p.type.nullable = false → (i.valueOf p.name).isNull = true → p.name ∉ written) := by
  have htype : ch.type = p.type := checkerFor_type hch
  rcases (h.represented hc).slots p hp ch hch with ⟨hcheck, hset⟩ | ⟨hcoll, hnull, hunset⟩
  · -- the slot passes its checker: read null and items off the check
    have hparts := (Checker.checkValue_eq_ok_iff.1 hcheck) (htype ▸ hvalid)
    refine ⟨.inl hcheck, ?_, ?_⟩
    · intro hcoll
      cases hnull : (i.valueOf p.name).isNull with
      | true =>
        have hnullable := hparts.1 hnull
        rw [htype] at hnullable hset
        exact .inl ⟨rfl, hnullable, hset hcoll hnull⟩
      | false => exact .inr (hparts.2.2 hnull (htype ▸ hcoll))
    · intro hnotnull hnull
      have hnullable := hparts.1 hnull
      rw [htype, hnotnull] at hnullable
      cases hnullable
  · -- the slot is missing: the property is no sequence and was never set
    rw [htype] at hcoll
    refine ⟨.inr ⟨hcoll, hnull, hunset⟩, ?_, fun _ _ => hunset⟩
    intro hcoll'
    rw [hcoll] at hcoll'
    cases hcoll'

end Invariant

/-- A class with one sequence property and its `add` method reaches, through a call, a state
where the slot holds one passing item. -/
theorem reachable_represented_tags :
    ∃ i written, Reachable ⟨"Post", "models", "Post",
        [⟨"tags", "[]string", ⟨.arrayOfScalar, false, "string", "string[]"⟩⟩],
        [⟨"addTag", .add, "tags", .publicAccess, "string"⟩]⟩ Registry.empty i written ∧
      ((Checker.checkValue ⟨⟨.arrayOfScalar, false, "string", "string[]"⟩, none⟩ (i.valueOf "tags") = .ok () ∨
        (true = false ∧ i.valueOf "tags" = .null ∧ "tags" ∉ written)) ∧
      (true = true →
        ((i.valueOf "tags").isNull = true ∧ false = true ∧ "tags" ∈ written) ∨
        ∃ items, (i.valueOf "tags").items? = some items ∧
          ∀ x ∈ items, Checker.checkElement ⟨⟨.arrayOfScalar, false, "string", "string[]"⟩, none⟩ x = .ok ()) ∧
      (false = false → (i.valueOf "tags").isNull = true → "tags" ∉ written)) := by
  have hreach : Reachable ⟨"Post", "models", "Post",
      [⟨"tags", "[]string", ⟨.arrayOfScalar, false, "string", "string[]"⟩⟩],
      [⟨"addTag", .add, "tags", .publicAccess, "string"⟩]⟩ Registry.empty _ _ :=
    Reachable.call "addTag" [.str "go"] false (Reachable.bind rfl)
  exact ⟨_, _, hreach,
    reachable_represented ⟨by decide, by decide⟩ hreach (List.mem_singleton_self _) rfl rfl⟩

end Instance
end Accessors
