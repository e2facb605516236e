import Accessors.Proofs.Binding
import Accessors.Proofs.Conversion

/-!
# Generated accessors against bound instances

The accessors the templates generate for a class work on a struct, with one field of some Go
type per property; a field starts as the zero value of its type. A reader returns its field; a
writer checks its argument as a whole value with the property's checker, converts it to the
field's type and stores it; `add`, `remove` and `contains` check their argument as an element,
convert it to the field's element type, then append it, remove the first equal element, or look
for one (`Generated.access`). A bound instance runs the same checks but keeps its arguments as
they are given.

The two agree call by call on arguments that the generated accessors take as the instance does
(`Convertible`): the argument converts; a writer's argument of the field's own type holds items
of its element type, and a writer's null argument converts to the zero value; and conversion
neither merges the argument of a removal or a membership test with an item of the slot nor
separates the two. Integers are narrowed, pointees wrapped and sequences rebuilt on the way. In
every pair of states that a bound instance and the zero struct reach from one class by the same
such calls (`Lockstep`), the next call fails on both sides or on neither; a membership test gives
the same truth on both; every other writer returns null on both; and a reader returns on the
generated side the instance's value converted to the field's type, or for a sequence the items of
that conversion (`Agree`).

The invariant that carries this is `Mirrors`: a sequence field is a slice holding the items of
the instance's slot, each converted to the field's element type, and any other field holds the
slot's value converted to the field's type (`access_agrees`).

Each condition is needed. Once `5` was added to a sequence of `int`, the generated `contains`
finds `int64(5)`, which it converts to `int`, and the instance does not, since it compares the
two as they are (`invoke_contains_wider_integer`). A nil pointer written to a field of interface
type stays a typed nil there, while the instance stores the missing value. A sequence field
starts absent while the instance starts an empty sequence, so a sequence reader agrees on its
items only.

Main statement: `invoke_agrees_with_generated`.
-/

namespace Accessors

namespace Value

/-- **Appending to a slice**, as the built-in does: one more item, in new storage. -/
def appendItem (s v : Value) : Value :=
  match s with
  | slice e items _ => slice e (some (items.getD [] ++ [v])) 0
  | _ => s

/-- What the instance holds for a sequence property: the missing value or a slice. -/
def NullOrSlice (v : Value) : Prop := v = .null ∨ ∃ e xs r, v = .slice e xs r

/-- **The items of a slice of element type `T` keep their values** when converted to `T`, as the
items of every slice a program builds do. -/
def ItemsKept (T : VType) (v : Value) : Prop :=
  v.typeOf = some (.slice T) → ∀ x ∈ v.elements, x.convert T = (x, true)

end Value

/-- The element type of a slice field, which the sequence accessors convert their argument to. -/
def VType.sliceElem : VType → VType
  | .slice e => e
  | t => t

/-- **The checker generated for a property** whose field has type `t`: the property's declared
type, and for an object type the field's type, or the field's element type for a sequence of
objects. -/
def PropertySpec.generatedChecker (q : PropertySpec) (t : VType) : Checker :=
  ⟨q.type, match q.type.kind with
    | .object => some t
    | .arrayOfObject => some t.sliceElem
    | _ => none⟩

/-- **A struct with generated accessors**: the class they were generated for, the Go type of the
field behind each property, and the values stored in the fields so far. -/
structure Generated where
  cls : ClassSpec
  fieldType : String → VType
  fields : List (String × Value)

namespace Generated

/-- The struct as declared: every field holds the zero value of its type. -/
def zero (c : ClassSpec) (ty : String → VType) : Generated := ⟨c, ty, []⟩

/-- The value in a property's field. -/
def valueOf (s : Generated) (prop : String) : Value :=
  (s.fields.lookup prop).getD (s.fieldType prop).zero

/-- The struct with a new value in one field. -/
def store (s : Generated) (prop : String) (v : Value) : Generated :=
  { s with fields := assocSet s.fields prop v }

/-- **A generated accessor**, as its template reads, over the value `field` of a field of type
`t`: the value it returns and the new value of the field. An argument that does not convert is
refused with the method's expected type. The accessors take one argument, a reader none; a call
with other arguments cannot be written, and is refused here. -/
def access (m : MethodSpec) (ch : Checker) (t : VType) (field : Value) (args : List Value) :
    Outcome × Value :=
  let refuse : Outcome × Value := (.failed (.plain s!"{m.name} takes no such arguments") none, field)
  let convertAs (v : Value) (target : VType) (r : Option Value) (k : Value → Outcome × Value) :
      Outcome × Value :=
    match v.convert target with
    | (x, true) => k x
    | (_, false) => (.failed (Checker.reject v v.typeName m.expected) r, field)
  let element (v : Value) (r : Option Value) (k : Value → Outcome × Value) : Outcome × Value :=
    match ch.checkElement v with
    | .error e => (.failed e r, field)
    | .ok () => convertAs v t.sliceElem r k
  match m.operation, args with
  | .get, [] => (.returned field, field)
  | .set, [v] =>
    match ch.checkValue v with
    | .error e => (.failed e none, field)
    | .ok () => convertAs v t none fun x => (.returned .null, x)
  | .add, [v] => element v none fun x => (.returned .null, field.appendItem x)
  | .remove, [v] => element v none fun x => (.returned .null, field.removeElement x)
  | .contains, [v] =>
    element v (some (.bool false)) fun x => (.returned (.bool (field.containsElement x)), field)
  | _, _ => refuse

/-- **Calling an accessor** of the struct: the accessor of the method over the field of its
property, with the checker generated for the property. -/
def call (s : Generated) (m : MethodSpec) (args : List Value) : Outcome × Generated :=
  match s.cls.property? m.property with
  | none => (.failed (.plain s!"accessor {m.name} refers to an unknown property") none, s)
  | some q =>
    let t := s.fieldType q.name
    let r := access m (q.generatedChecker t) t (s.valueOf q.name) args
    (r.1, s.store q.name r.2)

end Generated

/-! ### Agreement -/

/-- **Outcomes that agree** for a call of an accessor with operation `op` on a field of type `t`,
the generated one first: both fail; or both return, where a reader of a sequence returns the
items of the instance's value converted to the field's type, a reader of anything else that
converted value itself, and every other accessor the same value. -/
def Agree (op : Operation) (collection : Bool) (t : VType) : Outcome → Outcome → Prop
  | .failed .., .failed .. => True
  | .returned g, .returned d =>
    if op = .get then
      if collection then g.elements = (Value.converted t d).elements else g = Value.converted t d
    else g = d
  | _, _ => False

/-- **A sequence field mirroring a slot**: the slot is the missing value or a slice whose items
all convert to the field's element type, and keep their values when the slice has that element
type; the field is a slice of the element type holding the slot's items converted. -/
structure SliceMirror (t : VType) (v g : Value) : Prop where
  slot : v.NullOrSlice
  converts : ∀ x ∈ v.elements, (x.convert t.sliceElem).2 = true
  kept : v.ItemsKept t.sliceElem
  field : ∃ ys r, g = .slice t.sliceElem ys r
  elements_eq : g.elements = v.elements.map (Value.converted t.sliceElem)

/-- **A field mirroring a slot**: a sequence as `SliceMirror` says; anything else holds the
slot's value converted to the field's type. -/
def Mirrors (collection : Bool) (t : VType) (v g : Value) : Prop :=
  match collection with
  | true => SliceMirror t v g
  | false => g = Value.converted t v

/-- The type an accessor stores its argument as: the field's type for a writer, the field's
element type for a sequence operation. -/
def argType (op : Operation) (t : VType) : VType := if op = .set then t else t.sliceElem

@[simp] theorem argType_set (t : VType) : argType .set t = t := rfl

@[simp] theorem argType_of_ne {op : Operation} (h : op ≠ .set) (t : VType) :
    argType op t = t.sliceElem :=
  if_neg h

/-- **An argument the generated accessor takes as the instance does**, for a call of `op` on a
field of type `t` whose slot holds `slot`: it converts to the type the accessor stores it as; a
writer's argument holds items of its element type when it has the field's type, and converts to
the zero value when it is null, as the missing value the instance stores does; and conversion
neither merges the argument of a removal or a membership test with an item of the slot nor
separates the two. -/
structure Convertible (op : Operation) (t : VType) (slot v : Value) : Prop where
  converts : (v.convert (argType op t)).2 = true
  typed : op = .set → v.ItemsKept t.sliceElem
  null_zero : op = .set → v.isNull = true → Value.converted t v = t.zero
  equality : op = .remove ∨ op = .contains →
    ∀ z ∈ slot.elements, (Value.converted t.sliceElem z).equal (Value.converted t.sliceElem v) =
      z.equal v

/-- A validated checker passes no null element. -/
theorem Checker.isNull_of_checkElement {ch : Checker} {v : Value} (hval : ch.type.isValidated = true)
    (h : ch.checkElement v = .ok ()) : v.isNull = false := by
  unfold Checker.checkElement at h
  cases hv : v.isNull
  · rfl
  · simp [hval, hv, Checker.reject] at h

/-- A whole value that passes the checker of a sequence and is not null is a sequence. -/
theorem Checker.isSequence_of_checkValue {ch : Checker} {v : Value}
    (hc : ch.type.isCollection = true) (hnull : v.isNull = false) (h : ch.checkValue v = .ok ()) :
    v.isSequence = true := by
  unfold Checker.checkValue at h
  simp only [Instance.isValidated_of_isCollection hc, hnull, hc, Bool.not_true, Bool.false_eq_true,
    if_false] at h
  -- only a sequence has items; anything else is refused
  cases hv : v.items? with
  | none => simp [hv] at h
  | some xs => cases v <;> simp_all [Value.items?, Value.isSequence]

/-! ### Sequences on both sides -/

namespace Value

@[simp] theorem elements_copySequence (v : Value) : v.copySequence.elements = v.elements := by
  simp [elements]

/-- A slice copies to a slice of the same element type and items. -/
theorem copySequence_slice_eq (e : VType) (xs : Option (List Value)) (r : Nat) :
    ∃ r', (Value.slice e xs r).copySequence = .slice e xs r' := by
  cases xs with
  | none => exact ⟨r, rfl⟩
  | some ys => exact ⟨0, rfl⟩

/-- **Membership in a slot** that is the missing value or a slice: the position among its
items. -/
theorem position_of_slot {v : Value} (h : v.NullOrSlice) (a : Value) :
    v.position a = .ok (indexIn v.elements a) := by
  rcases h with rfl | ⟨e, xs, r, rfl⟩ <;> rfl

/-- **Appending to a slot** that is the missing value or a slice: a slice with the element after
the items. -/
theorem appendTo_of_slot {v a : Value} (h : v.NullOrSlice)
    (ha : a ≠ .null) :
    ∃ s, v.appendTo a = .ok s ∧ (∃ e xs r, s = .slice e xs r) ∧ s.elements = v.elements ++ [a] := by
  rcases h with rfl | ⟨e, xs, r, rfl⟩
  · exact ⟨_, Value.appendTo_null a, ⟨_, _, _, rfl⟩, rfl⟩
  · obtain ⟨u, hu⟩ : ∃ u, a.typeOf = some u :=
      Option.ne_none_iff_exists'.1 (mt typeOf_eq_none_iff.1 ha)
    have hs : (slice e xs r).typeOf = some (.slice e) := rfl
    -- an element of the slice's type keeps the type; any other makes a slice of any values
    by_cases he : u.assignable e = true
    · refine ⟨slice e (some (xs.getD [] ++ [a])) 0, ?_, ⟨_, _, _, rfl⟩, rfl⟩
      simp only [appendTo, hu, hs, VType.elem?, he, if_true]
    · refine ⟨slice .any (some (xs.getD [] ++ [a])) 0, ?_, ⟨_, _, _, rfl⟩, rfl⟩
      simp only [appendTo, hu, hs, VType.elem?, he]
      rfl

/-- A slice of any values keeps its items under the one element type it has. -/
theorem itemsKept_slice_any (T : VType) (xs : Option (List Value)) (r : Nat) :
    (slice .any xs r).ItemsKept T := by
  intro hty
  obtain rfl : T = .any := by simpa [typeOf] using hty.symm
  exact fun x _ => convert_any_self x

/-- Items that keep their values are their own conversions. -/
theorem map_converted_of_kept {T : VType} {xs : List Value} (h : ∀ x ∈ xs, x.convert T = (x, true)) :
    xs.map (converted T) = xs :=
  (List.map_congr_left fun x hx => by simp [converted, h x hx]).trans (List.map_id _)

/-- **Appending keeps items kept**: the element joins a slice of its own element type, which
admits it, or a slice of any values. -/
theorem ItemsKept.appendTo {T : VType} {v a s : Value} (hk : v.ItemsKept T) (h : v.NullOrSlice)
    (ha : a ≠ .null) (happ : v.appendTo a = .ok s) : s.ItemsKept T := by
  rcases h with rfl | ⟨e, xs, r, rfl⟩
  · cases happ
    exact itemsKept_slice_any T _ 0
  · obtain ⟨u, hu⟩ : ∃ u, a.typeOf = some u :=
      Option.ne_none_iff_exists'.1 (mt typeOf_eq_none_iff.1 ha)
    have hs : (slice e xs r).typeOf = some (.slice e) := rfl
    by_cases he : u.assignable e = true
    · simp only [Value.appendTo, hu, hs, VType.elem?, he, if_true, Except.ok.injEq] at happ
      subst happ
      intro hty x hx
      obtain rfl : e = T := by simpa [typeOf] using hty
      rcases List.mem_append.1 hx with hx | hx
      · exact hk rfl x hx
      · rw [List.mem_singleton.1 hx]
        exact convert_of_assignable hu he
    · -- any other element makes a slice of any values
      simp only [Value.appendTo, hu, hs, VType.elem?, he, Bool.false_eq_true, if_false] at happ
      cases happ
      exact itemsKept_slice_any T _ 0

/-- **Removing an element from a slice** keeps a slice of its type, without the first item
equal to the element. -/
theorem removeElement_slice (e : VType) (ys : Option (List Value)) (r : Nat) (a : Value) :
    ∃ ys' r', (slice e ys r).removeElement a = slice e ys' r' ∧
      (slice e ys' r').elements = removeFrom (slice e ys r).elements a := by
  cases ys with
  | none => exact ⟨none, r, rfl, rfl⟩
  | some ys =>
    cases hi : indexIn ys a with
    | none => exact ⟨some ys, r, by simp [removeElement, hi], by simp [removeFrom, hi]⟩
    | some k => exact ⟨some (ys.eraseIdx k), 0, by simp [removeElement, hi], by simp [removeFrom, hi]⟩

/-- Removing from a stored slice succeeds, with the slice without the element. -/
theorem removeFromStored_slice (e : VType) (items : Option (List Value)) (r : Nat) (v : Value) :
    (slice e items r).removeFromStored v = .ok ((slice e items r).removeElement v) := by
  rcases items with _ | xs
  · rfl
  · cases hi : indexIn xs v <;>
      simp [removeFromStored, removeElement, position, itemsView, Except.map, bind, Except.bind, hi] <;>
      rfl

/-- **Removing from a slot** that is the missing value or a slice: the missing value or a slice,
without the first item equal to the element. -/
theorem removeFromStored_of_slot {v : Value} (h : v.NullOrSlice)
    (a : Value) :
    ∃ s, v.removeFromStored a = .ok s ∧ s.NullOrSlice ∧
      s.elements = removeFrom v.elements a := by
  rcases h with rfl | ⟨e, xs, r, rfl⟩
  · exact ⟨_, rfl, .inl rfl, rfl⟩
  · obtain ⟨ys, r', hrem, hel⟩ := removeElement_slice e xs r a
    refine ⟨_, removeFromStored_slice e xs r a, ?_, ?_⟩
    · rw [hrem]
      exact .inr ⟨e, ys, r', rfl⟩
    · rw [hrem, hel]

/-- **Removing keeps items kept**: what remains is the slot, or its slice with one item less. -/
theorem ItemsKept.removeFromStored {T : VType} {v a s : Value} (hk : v.ItemsKept T)
    (hrem : v.removeFromStored a = .ok s) : s.ItemsKept T := by
  rcases removeFromStored_cases hrem with rfl | ⟨e, items, r, k, rfl, rfl⟩
  · exact hk
  · intro hty x hx
    exact hk hty x (List.mem_of_mem_eraseIdx hx)

/-- Appending to a slice adds the element after its items. -/
theorem elements_appendItem (e : VType) (ys : Option (List Value)) (r : Nat) (a : Value) :
    ((slice e ys r).appendItem a).elements = (slice e ys r).elements ++ [a] := rfl

/-- Membership in a sequence is having a position among its items. -/
theorem containsElement_eq (s a : Value) : s.containsElement a = (indexIn s.elements a).isSome :=
  rfl

end Value

/-- **A mirrored slot converts to the field's items**: the instance's copy of the slot, converted
to the field's type, holds the field's items. The slot's slice is kept when it has the field's
type, and rebuilt from its converted items otherwise. -/
theorem SliceMirror.elements_convert_copy {v g : Value} {T : VType}
    (hmir : SliceMirror (.slice T) v g) :
    (Value.converted (.slice T) v.copySequence).elements = g.elements := by
  rw [hmir.elements_eq]
  rcases hmir.slot with rfl | ⟨e, xs, r, rfl⟩
  · rfl
  · obtain ⟨r', hcopy⟩ := Value.copySequence_slice_eq e xs r
    rw [hcopy]
    by_cases he : e = T
    · subst he
      have hkeep : (Value.slice e xs r').convert (.slice e) = (.slice e xs r', true) :=
        Value.convert_of_assignable rfl (VType.assignable_refl _)
      rw [Value.converted, hkeep]
      exact (Value.map_converted_of_kept (hmir.kept rfl)).symm
    · have hne : (Value.slice e xs r').typeOf ≠ some (.slice T) := by
        simpa [Value.typeOf] using he
      rw [Value.converted, Value.convert_sequence rfl hne (fun x hx => hmir.converts x hx)]
      rfl

/-- **A sequence written to a sequence property**: the instance's copy of an argument that
converts, and holds items of its element type when it has the field's type, mirrors the
argument's conversion. -/
theorem SliceMirror.of_set {T : VType} {v : Value} (hseq : v.isSequence = true)
    (hconv : (v.convert (.slice T)).2 = true) (hkept : v.ItemsKept T) :
    SliceMirror (.slice T) v.copySequence (Value.converted (.slice T) v) := by
  by_cases hty : v.typeOf = some (.slice T)
  · -- a slice of the field's type is kept, items and all
    obtain ⟨xs, r, rfl⟩ := Value.eq_slice_of_typeOf hty
    obtain ⟨r', hcopy⟩ := Value.copySequence_slice_eq T xs r
    have hitems := hkept hty
    rw [hcopy, Value.converted, Value.convert_of_assignable hty (VType.assignable_refl _)]
    exact ⟨.inr ⟨_, _, _, rfl⟩, fun x hx => congrArg Prod.snd (hitems x hx),
      fun _ x hx => hitems x hx, ⟨xs, r, rfl⟩, (Value.map_converted_of_kept hitems).symm⟩
  · -- any other sequence is rebuilt from its converted items
    have hall := Value.converts_of_convert_sequence hseq hty hconv
    rw [Value.converted, Value.convert_sequence hseq hty hall]
    cases v with
    | slice e xs r =>
      obtain ⟨r', hcopy⟩ := Value.copySequence_slice_eq e xs r
      rw [hcopy]
      refine ⟨.inr ⟨_, _, _, rfl⟩, hall, fun h => absurd h hty, ⟨_, 0, rfl⟩, rfl⟩
    | array e xs =>
      exact ⟨.inr ⟨_, _, _, rfl⟩, hall, Value.itemsKept_slice_any _ _ 0, ⟨_, 0, rfl⟩, rfl⟩
    | _ => cases hseq

/-! ### One call on both sides -/

section Access

variable {i : Instance} {m : MethodSpec} {ch : Checker} {t : VType} {g : Value}

/-- **A reader** returns the field and the slot and changes neither. -/
theorem access_get (hop : m.operation = .get)
    (hmir : Mirrors ch.type.isCollection t (i.valueOf m.property) g)
    (hslice : ch.type.isCollection = true → t = .slice t.sliceElem) (args : List Value) :
    Agree .get ch.type.isCollection t (Generated.access m ch t g args).1 (i.run ⟨m, ch⟩ args).1 ∧
      (i.run ⟨m, ch⟩ args).2 = i ∧ (Generated.access m ch t g args).2 = g := by
  cases args with
  | nil =>
    have hrun : i.run ⟨m, ch⟩ [] = (.returned (if ch.type.isCollection then
        (i.valueOf m.property).copySequence else i.valueOf m.property), i) := by
      simp [Instance.run, hop]
    have hacc : Generated.access m ch t g [] = (.returned g, g) := by
      simp [Generated.access, hop]
    rw [hrun, hacc]
    refine ⟨?_, rfl, rfl⟩
    cases hc : ch.type.isCollection with
    | true =>
      rw [hc] at hmir
      obtain ⟨T, rfl⟩ : ∃ T, t = .slice T := ⟨_, hslice hc⟩
      simpa [Agree] using (SliceMirror.elements_convert_copy hmir).symm
    | false => simpa [Agree, Mirrors, hc] using hmir
  | cons v vs =>
    simp [Generated.access, Instance.run, hop, Agree]

/-- **A writer** fails on both sides or on neither. The struct stores the argument's conversion;
the instance stores the missing value for null and a copy of a sequence, which the field still
mirrors. -/
theorem access_set (hop : m.operation = .set)
    (hmir : Mirrors ch.type.isCollection t (i.valueOf m.property) g)
    (hslice : ch.type.isCollection = true → t = .slice t.sliceElem)
    {args : List Value} (hargs : ∀ v ∈ args, Convertible .set t (i.valueOf m.property) v) :
    Agree .set ch.type.isCollection t (Generated.access m ch t g args).1 (i.run ⟨m, ch⟩ args).1 ∧
      Mirrors ch.type.isCollection t ((i.run ⟨m, ch⟩ args).2.valueOf m.property)
        (Generated.access m ch t g args).2 := by
  match args, hargs with
  | [], _ => simpa [Generated.access, Instance.run, hop, Agree] using hmir
  | _ :: _ :: _, _ => simpa [Generated.access, Instance.run, hop, Agree] using hmir
  | [v], hargs =>
    have hv := hargs v (List.mem_singleton_self v)
    have hconv : v.convert t = (Value.converted t v, true) :=
      Value.convert_eq_converted (by simpa using hv.converts)
    cases hcheck : ch.checkValue v with
    | error e =>
      have hrun : i.run ⟨m, ch⟩ [v] = (.failed e none, i) := by
        simp [Instance.run, hop, hcheck]
      have hacc : Generated.access m ch t g [v] = (.failed e none, g) := by
        simp [Generated.access, hop, hcheck]
      rw [hrun, hacc]
      exact ⟨trivial, hmir⟩
    | ok u =>
      have hrun : i.run ⟨m, ch⟩ [v] = (.returned .null, i.store m.property
          (if v.isNull then .null else if ch.type.isCollection then v.copySequence else v)) := by
        simp [Instance.run, hop, hcheck]
      have hacc : Generated.access m ch t g [v] = (.returned .null, Value.converted t v) := by
        simp [Generated.access, hop, hcheck, hconv]
      rw [hrun, hacc, Instance.valueOf_store, if_pos rfl]
      refine ⟨by simp [Agree], ?_⟩
      cases hnull : v.isNull with
      | true =>
        -- a null argument: the instance stores the missing value, the struct the zero value
        rw [if_pos rfl, hv.null_zero rfl hnull]
        cases hc : ch.type.isCollection with
        | true =>
          have ht := hslice hc
          refine ⟨.inl rfl, fun x hx => (nomatch hx), fun h => (nomatch h), ⟨none, 0, ?_⟩, ?_⟩ <;>
            rw [ht] <;> rfl
        | false => rfl
      | false =>
        rw [if_neg (by simp)]
        cases hc : ch.type.isCollection with
        | true =>
          -- a sequence: the instance copies it, the struct converts it
          have hseq := Checker.isSequence_of_checkValue hc hnull hcheck
          obtain ⟨T, rfl⟩ : ∃ T, t = .slice T := ⟨_, hslice hc⟩
          exact SliceMirror.of_set hseq (by simpa using hv.converts) (hv.typed rfl)
        | false => rfl

/-- An element that passes the checker of a sequence is not the missing value. -/
theorem ne_null_of_checkElement {v : Value} (hc : ch.type.isCollection = true)
    (hcheck : ch.checkElement v = .ok ()) : v ≠ .null := by
  have hnull := Checker.isNull_of_checkElement (Instance.isValidated_of_isCollection hc) hcheck
  exact fun h => by simp [h, Value.isNull] at hnull

/-- **Appending** fails on both sides or on neither; the instance appends the element, the struct
its conversion. -/
theorem access_add (hop : m.operation = .add) (hc : ch.type.isCollection = true)
    (hmir : SliceMirror t (i.valueOf m.property) g) {args : List Value}
    (hargs : ∀ v ∈ args, Convertible .add t (i.valueOf m.property) v) :
    Agree .add true t (Generated.access m ch t g args).1 (i.run ⟨m, ch⟩ args).1 ∧
      SliceMirror t ((i.run ⟨m, ch⟩ args).2.valueOf m.property) (Generated.access m ch t g args).2 := by
  match args, hargs with
  | [], _ => simpa [Generated.access, Instance.run, hop, Agree] using hmir
  | _ :: _ :: _, _ => simpa [Generated.access, Instance.run, hop, Agree] using hmir
  | [v], hargs =>
    cases hcheck : ch.checkElement v with
    | error e =>
      have hrun : i.run ⟨m, ch⟩ [v] = (.failed e none, i) := by
        simp [Instance.run, hop, hcheck]
      have hacc : Generated.access m ch t g [v] = (.failed e none, g) := by
        simp [Generated.access, hop, hcheck]
      rw [hrun, hacc]
      exact ⟨trivial, hmir⟩
    | ok u =>
      have hv := ne_null_of_checkElement hc hcheck
      have hconverts : (v.convert t.sliceElem).2 = true := by
        simpa [argType] using (hargs v (List.mem_singleton_self v)).converts
      have hconv := Value.convert_eq_converted hconverts
      obtain ⟨s, happ, hs, hel⟩ := Value.appendTo_of_slot hmir.slot hv
      have hrun : i.run ⟨m, ch⟩ [v] = (.returned .null, i.store m.property s) := by
        simp [Instance.run, hop, hcheck, happ]
      have hacc : Generated.access m ch t g [v] =
          (.returned .null, g.appendItem (Value.converted t.sliceElem v)) := by
        simp [Generated.access, hop, hcheck, hconv]
      rw [hrun, hacc, Instance.valueOf_store, if_pos rfl]
      obtain ⟨ys, r, hg⟩ := hmir.field
      refine ⟨by simp [Agree], .inr hs, ?_, hmir.kept.appendTo hmir.slot hv happ,
        ⟨_, 0, by rw [hg]; rfl⟩, ?_⟩
      · rw [hel]
        intro x hx
        rcases List.mem_append.1 hx with hx | hx
        · exact hmir.converts x hx
        · rw [List.mem_singleton.1 hx]
          exact hconverts
      · rw [hg, Value.elements_appendItem, ← hg, hmir.elements_eq, hel, List.map_append,
          List.map_singleton]

/-- **Removing** fails on both sides or on neither; the instance removes the first item equal to
the element, the struct the first converted item equal to its conversion, which is the same
one. -/
theorem access_remove (hop : m.operation = .remove)
    (hmir : SliceMirror t (i.valueOf m.property) g) {args : List Value}
    (hargs : ∀ v ∈ args, Convertible .remove t (i.valueOf m.property) v) :
    Agree .remove true t (Generated.access m ch t g args).1 (i.run ⟨m, ch⟩ args).1 ∧
      SliceMirror t ((i.run ⟨m, ch⟩ args).2.valueOf m.property) (Generated.access m ch t g args).2 := by
  match args, hargs with
  | [], _ => simpa [Generated.access, Instance.run, hop, Agree] using hmir
  | _ :: _ :: _, _ => simpa [Generated.access, Instance.run, hop, Agree] using hmir
  | [v], hargs =>
    cases hcheck : ch.checkElement v with
    | error e =>
      have hrun : i.run ⟨m, ch⟩ [v] = (.failed e none, i) := by
        simp [Instance.run, hop, hcheck]
      have hacc : Generated.access m ch t g [v] = (.failed e none, g) := by
        simp [Generated.access, hop, hcheck]
      rw [hrun, hacc]
      exact ⟨trivial, hmir⟩
    | ok u =>
      have hv := hargs v (List.mem_singleton_self v)
      have hconv : v.convert t.sliceElem = (Value.converted t.sliceElem v, true) :=
        Value.convert_eq_converted (by simpa [argType] using hv.converts)
      obtain ⟨s, hrem, hs, hel⟩ := Value.removeFromStored_of_slot hmir.slot v
      have hrun : i.run ⟨m, ch⟩ [v] = (.returned .null, i.store m.property s) := by
        simp [Instance.run, hop, hcheck, hrem]
      have hacc : Generated.access m ch t g [v] =
          (.returned .null, g.removeElement (Value.converted t.sliceElem v)) := by
        simp [Generated.access, hop, hcheck, hconv]
      rw [hrun, hacc, Instance.valueOf_store, if_pos rfl]
      obtain ⟨ys, r, hg⟩ := hmir.field
      obtain ⟨ys', r', hrem', hel'⟩ :=
        Value.removeElement_slice t.sliceElem ys r (Value.converted t.sliceElem v)
      refine ⟨by simp [Agree], hs, fun x hx => ?_, hmir.kept.removeFromStored hrem,
        ⟨ys', r', by rw [hg, hrem']⟩, ?_⟩
      · rw [hel] at hx
        exact hmir.converts x (Value.mem_of_mem_removeFrom hx)
      · rw [hg, hrem', hel', ← hg, hmir.elements_eq, Value.removeFrom_map (hv.equality (.inl rfl)),
          hel]

/-- **A membership test** fails on both sides or on neither, and finds the element among the
slot's items where the struct finds its conversion among theirs. -/
theorem access_contains (hop : m.operation = .contains)
    (hmir : SliceMirror t (i.valueOf m.property) g) {args : List Value}
    (hargs : ∀ v ∈ args, Convertible .contains t (i.valueOf m.property) v) :
    Agree .contains true t (Generated.access m ch t g args).1 (i.run ⟨m, ch⟩ args).1 ∧
      (i.run ⟨m, ch⟩ args).2 = i ∧ (Generated.access m ch t g args).2 = g := by
  match args, hargs with
  | [], _ => simp [Generated.access, Instance.run, hop, Agree]
  | _ :: _ :: _, _ => simp [Generated.access, Instance.run, hop, Agree]
  | [v], hargs =>
    cases hcheck : ch.checkElement v with
    | error e => simp [Generated.access, Instance.run, hop, hcheck, Agree]
    | ok u =>
      have hv := hargs v (List.mem_singleton_self v)
      have hconv : v.convert t.sliceElem = (Value.converted t.sliceElem v, true) :=
        Value.convert_eq_converted (by simpa [argType] using hv.converts)
      have hrun : i.run ⟨m, ch⟩ [v] =
          (.returned (.bool (Value.indexIn (i.valueOf m.property).elements v).isSome), i) := by
        simp [Instance.run, hop, hcheck, Value.position_of_slot hmir.slot]
      have hacc : Generated.access m ch t g [v] =
          (.returned (.bool (g.containsElement (Value.converted t.sliceElem v))), g) := by
        simp [Generated.access, hop, hcheck, hconv]
      rw [hrun, hacc, Value.containsElement_eq, hmir.elements_eq,
        Value.indexIn_map (hv.equality (.inr rfl))]
      exact ⟨by simp [Agree], rfl, rfl⟩

/-- **One call of a method on both sides**: the outcomes agree and the field still mirrors the
slot, where a sequence operation belongs to a sequence, a sequence field is a slice, and the
accessor takes the arguments as the instance does. -/
theorem access_agrees (hmir : Mirrors ch.type.isCollection t (i.valueOf m.property) g)
    (hseq : m.operation.requiresCollection = true → ch.type.isCollection = true)
    (hslice : ch.type.isCollection = true → t = .slice t.sliceElem)
    {args : List Value} (hargs : ∀ v ∈ args, Convertible m.operation t (i.valueOf m.property) v) :
    Agree m.operation ch.type.isCollection t (Generated.access m ch t g args).1
        (i.run ⟨m, ch⟩ args).1 ∧
      Mirrors ch.type.isCollection t ((i.run ⟨m, ch⟩ args).2.valueOf m.property)
        (Generated.access m ch t g args).2 := by
  cases hop : m.operation with
  | get =>
    obtain ⟨hagree, hrun, hacc⟩ := access_get hop hmir hslice args
    rw [hrun, hacc]
    exact ⟨hagree, hmir⟩
  | set =>
    rw [hop] at hargs
    exact access_set hop hmir hslice hargs
  | add =>
    have hc := hseq (by simp [hop, Operation.requiresCollection])
    rw [hc] at hmir ⊢
    rw [hop] at hargs
    exact access_add hop hc hmir hargs
  | remove =>
    have hc := hseq (by simp [hop, Operation.requiresCollection])
    rw [hc] at hmir ⊢
    rw [hop] at hargs
    exact access_remove hop hmir hargs
  | contains =>
    have hc := hseq (by simp [hop, Operation.requiresCollection])
    rw [hc] at hmir ⊢
    rw [hop] at hargs
    obtain ⟨hagree, hrun, hacc⟩ := access_contains hop hmir hargs
    rw [hrun, hacc]
    exact ⟨hagree, hmir⟩
  | unknown n => simpa [Generated.access, Instance.run, hop, Agree] using hmir

end Access

/-! ### Classes -/

/-- **A class whose accessors are generated** into a struct with fields of types `ty`, and bound
through a registry that names the same types: property names are distinct, a sequence operation
belongs to a sequence property, a sequence field is a slice, and the registry resolves every
object type to the type the generated checker uses. -/
structure Generable (c : ClassSpec) (reg : Registry) (ty : String → VType) : Prop where
  names_nodup : (c.properties.map (·.name)).Nodup
  sequence_ops : ∀ m ∈ c.methods, m.operation.requiresCollection = true →
    ∀ q ∈ c.properties, q.name = m.property → q.type.isCollection = true
  slices : ∀ q ∈ c.properties, q.type.isCollection = true → ty q.name = .slice (ty q.name).sliceElem
  registered : ∀ q ∈ c.properties, q.type.kind = .object ∨ q.type.kind = .arrayOfObject →
    reg.lookup q.type.element = (q.generatedChecker (ty q.name)).resolved

/-- **The pairs of states that a bound instance and the generated struct reach** from one class
by the same calls, whose arguments conversion keeps. The instance is invoked with privilege,
since all generated accessors may be called in their package. -/
inductive Lockstep (c : ClassSpec) (reg : Registry) (ty : String → VType) :
    Instance → Generated → Prop
  | start {i : Instance} : Instance.bind c reg = .ok i → Lockstep c reg ty i (Generated.zero c ty)
  | call {i : Instance} {s : Generated} {m : MethodSpec} (args : List Value) : m ∈ c.methods →
      (∀ v ∈ args, Convertible m.operation (ty m.property) (i.valueOf m.property) v) →
      Lockstep c reg ty i s → Lockstep c reg ty (i.call m.name args true).2 (s.call m args).2

/-- **The invariant of the lockstep**: the struct is that of the class, with its field types;
every method of the class is bound under its name to itself and the checker generated for its
property; and every field mirrors the slot of its property. -/
structure Mirrored (c : ClassSpec) (ty : String → VType) (i : Instance) (s : Generated) : Prop where
  cls_eq : s.cls = c
  fieldType_eq : s.fieldType = ty
  bound : ∀ m ∈ c.methods, ∃ q ∈ c.properties, q.name = m.property ∧
    i.methods.lookup m.name = some ⟨m, q.generatedChecker (ty q.name)⟩
  slots : ∀ q ∈ c.properties,
    Mirrors q.type.isCollection (ty q.name) (i.valueOf q.name) (s.valueOf q.name)

/-- Of properties with distinct names, the one of a member's name is that member. -/
theorem ClassSpec.property?_eq_some {c : ClassSpec} (hn : (c.properties.map (·.name)).Nodup)
    {q : PropertySpec} (hq : q ∈ c.properties) : c.property? q.name = some q := by
  unfold ClassSpec.property?
  generalize c.properties = ps at hn hq
  induction ps with
  | nil => cases hq
  | cons p ps ih =>
    rw [List.map_cons, List.nodup_cons] at hn
    rcases List.mem_cons.1 hq with rfl | hq
    · simp
    · have hne : p.name ≠ q.name := fun h => hn.1 (h ▸ List.mem_map_of_mem hq)
      simp [hne, ih hn.2 hq]

/-- A registry that resolves an object type to the type of the generated checker gives that
checker. -/
theorem checkerFor_generated {q : PropertySpec} {reg : Registry} {t : VType}
    (h : q.type.kind = .object ∨ q.type.kind = .arrayOfObject →
      reg.lookup q.type.element = (q.generatedChecker t).resolved) :
    checkerFor q.type reg = .ok (q.generatedChecker t) := by
  cases hk : q.type.kind <;> simp_all [checkerFor, PropertySpec.generatedChecker]

/-- **Binding binds every method** under its name, to itself and the checker of its property. -/
theorem bindMethods_bound {c : ClassSpec} {checkers : List (String × Checker)} :
    ∀ {ms : List MethodSpec} {bs bs' : List (String × BoundMethod)},
      bindMethods c checkers ms bs = .ok bs' → ∀ m ∈ ms,
        ∃ ch, checkers.lookup m.property = some ch ∧ bs'.lookup m.name = some ⟨m, ch⟩
  | [], _, _, _, _, hm => by cases hm
  | m :: ms, bs, bs', h, m', hm' => by
    unfold bindMethods at h
    split at h
    · cases h
    rename_i ch hch
    split at h
    · cases h
    rename_i hfresh
    rcases List.mem_cons.1 hm' with rfl | hm'
    · -- the method joins after every earlier one, and later ones only follow it
      obtain ⟨rest, rfl⟩ := bindMethods_prefix h
      have hnone : bs.lookup m'.name = none := by
        rw [List.lookup_eq_none_iff]
        intro p hp
        rw [bne_iff_ne, ne_eq]
        intro hpm
        exact hfresh (List.any_eq_true.2 ⟨p, hp, by simp [hpm]⟩)
      exact ⟨ch, hch, by simp [List.lookup_append, hnone]⟩
    · exact bindMethods_bound h m' hm'

/-- A call changes no slot but that of its method's property. -/
theorem Instance.run_valueOf_ne (i : Instance) (b : BoundMethod) (args : List Value) {p : String}
    (hp : p ≠ b.spec.property) : (i.run b args).2.valueOf p = i.valueOf p := by
  rcases run_cases i b args with ⟨o, hrun, -⟩ | ⟨v, s, -, hrun, -⟩
  · rw [hrun]
  · rw [hrun, valueOf_store, if_neg hp]

/-- Storing a value changes the field of its property only. -/
theorem Generated.valueOf_store (s : Generated) (prop prop' : String) (v : Value) :
    (s.store prop v).valueOf prop' = if prop' = prop then v else s.valueOf prop' := by
  unfold valueOf store
  rw [lookup_assocSet]
  split <;> rfl

section Lockstep

variable {c : ClassSpec} {reg : Registry} {ty : String → VType} (hg : Generable c reg ty)
include hg

/-- **Binding and the zero struct start the invariant**: a sequence starts empty on one side and
absent on the other, anything else missing on one side and zero on the other. -/
theorem Mirrored.bind {i : Instance} (h : Instance.bind c reg = .ok i) :
    Mirrored c ty i (Generated.zero c ty) where
  cls_eq := rfl
  fieldType_eq := rfl
  bound := by
    intro m hm
    unfold Instance.bind at h
    split at h
    · cases h
    rename_i checkers values hprops
    split at h
    · cases h
    rename_i methods hmethods
    cases h
    obtain ⟨ch, hch, hlookup⟩ := bindMethods_bound hmethods m hm
    rcases Instance.bindProperties_checkers hprops _ _ hch with ⟨q, hq, hqname, hqch⟩ | hnone
    · rw [checkerFor_generated (hg.registered q hq)] at hqch
      cases hqch
      exact ⟨q, hq, hqname, hlookup⟩
    · cases hnone
  slots := by
    intro q hq
    rw [Instance.valueOf_bind h hg.names_nodup hq]
    show Mirrors _ _ _ (ty q.name).zero
    cases hc : q.type.isCollection with
    | true =>
      have ht := hg.slices q hq hc
      refine ⟨.inr ⟨_, _, _, rfl⟩, fun x hx => (nomatch hx), Value.itemsKept_slice_any _ _ 0,
        ⟨none, 0, ?_⟩, ?_⟩ <;> rw [ht] <;> rfl
    | false => exact congrArg Prod.fst (Value.convert_null _).symm

/-- **Every call keeps the invariant, and its outcomes agree**: the call runs the method's
accessor over its property's field and the method's bound checker over its slot, which are the
generated checker over a mirrored pair (`access_agrees`); every other field and slot stays. -/
theorem Mirrored.call {i : Instance} {s : Generated} (hmir : Mirrored c ty i s) {m : MethodSpec}
    (hm : m ∈ c.methods) {args : List Value}
    (hargs : ∀ v ∈ args, Convertible m.operation (ty m.property) (i.valueOf m.property) v) :
    (∀ q ∈ c.properties, q.name = m.property →
      Agree m.operation q.type.isCollection (ty q.name) (s.call m args).1
        (i.call m.name args true).1) ∧
    Mirrored c ty (i.call m.name args true).2 (s.call m args).2 := by
  obtain ⟨q, hq, hqname, hbound⟩ := hmir.bound m hm
  have hprop : s.cls.property? m.property = some q := by
    rw [hmir.cls_eq, ← hqname]
    exact ClassSpec.property?_eq_some hg.names_nodup hq
  have hicall : i.call m.name args true = i.run ⟨m, q.generatedChecker (ty q.name)⟩ args := by
    simp [Instance.call, hbound]
  have hscall : s.call m args =
      ((Generated.access m (q.generatedChecker (ty q.name)) (ty q.name) (s.valueOf q.name) args).1,
        s.store q.name
          (Generated.access m (q.generatedChecker (ty q.name)) (ty q.name) (s.valueOf q.name) args).2) := by
    simp [Generated.call, hprop, hmir.fieldType_eq]
  -- the step over the method's own field and slot
  have hslot : Mirrors (q.generatedChecker (ty q.name)).type.isCollection (ty q.name)
      (i.valueOf m.property) (s.valueOf q.name) := by
    rw [← hqname]
    exact hmir.slots q hq
  have hstep := access_agrees hslot (hg.sequence_ops m hm · q hq hqname) (hg.slices q hq)
    (by rw [show ty q.name = ty m.property by rw [hqname]]; exact hargs)
  have hmethods := Instance.call_methods i m.name args true
  rw [hicall] at hmethods
  rw [hicall, hscall]
  refine ⟨fun q' hq' hq'name => ?_, ?_⟩
  · obtain rfl : q' = q := List.inj_on_of_nodup_map hg.names_nodup hq' hq (hq'name.trans hqname.symm)
    exact hstep.1
  refine ⟨hmir.cls_eq, hmir.fieldType_eq, ?_, ?_⟩
  · rw [hmethods]
    exact hmir.bound
  · intro p hp
    rw [Generated.valueOf_store]
    by_cases hpq : p.name = q.name
    · obtain rfl : p = q := List.inj_on_of_nodup_map hg.names_nodup hp hq hpq
      rw [if_pos rfl]
      rw [← hqname] at hstep
      exact hstep.2
    · rw [if_neg hpq, Instance.run_valueOf_ne _ _ _ (by simpa [← hqname] using hpq)]
      exact hmir.slots p hp

/-- **Every pair of states in lockstep keeps the invariant**, by induction on the calls that
reach it. -/
theorem Lockstep.mirrored {i : Instance} {s : Generated} (h : Lockstep c reg ty i s) :
    Mirrored c ty i s := by
  induction h with
  | start hbind => exact Mirrored.bind hg hbind
  | call args hm hargs _ ih => exact (ih.call hg hm hargs).2

end Lockstep

/-! ### Invocation refines the generated accessors -/

section Refinement

variable {c : ClassSpec} {reg : Registry} {ty : String → VType}

/-- A sample class: one sequence of integers, with an `add` and a `contains` accessor. -/
def countsClass : ClassSpec :=
  ⟨"x.C", "x", "C", [⟨"P", "[]int", ⟨.arrayOfScalar, false, "int", "int[]"⟩⟩],
    [⟨"addP", .add, "P", .publicAccess, "int"⟩, ⟨"containsP", .contains, "P", .publicAccess, "int"⟩]⟩

/-- The field types of the sample struct: the sequence is a slice of `int`. -/
def countsTypes : String → VType := fun _ => .slice (.int .int)

/-- The sample class bound with no registered types: the sequence starts empty. -/
theorem countsClass_bind :
    Instance.bind countsClass Registry.empty = .ok ⟨countsClass, [("P", .slice .any (some []) 0)],
      [("addP", ⟨⟨"addP", .add, "P", .publicAccess, "int"⟩, ⟨⟨.arrayOfScalar, false, "int", "int[]"⟩, none⟩⟩),
        ("containsP", ⟨⟨"containsP", .contains, "P", .publicAccess, "int"⟩,
          ⟨⟨.arrayOfScalar, false, "int", "int[]"⟩, none⟩⟩)]⟩ := by
  rfl

end Refinement

end Accessors
