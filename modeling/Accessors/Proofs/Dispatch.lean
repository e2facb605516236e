import Accessors.Instance

/-!
# Calls on bound instances are atomic

A call of a bound method either leaves the instance exactly as it was or stores one value in the
slot of the method's property. This module says once which (`run_cases`): a writer stores its
checked argument, `add` and `remove` store the current sequence with the checked element
appended or removed (`Writes`), and every other outcome (a read, a failure, a fault) comes with
the instance unchanged (`Quiet`).

From it, calls are atomic: a call that fails, whatever the method, the arguments and the state,
fails with one of the errors of calling (an unknown method or operation, a hidden method, a wrong
number of arguments, an argument of the wrong type) and changes nothing. A privileged call
(`Invoke`) and a plain one (`Call`) agree on every method that is public, and a plain call of a
hidden method fails and changes nothing.

Main statement: `call_atomic`.
-/

namespace Accessors

/-! ### Failures of checks -/

/-- **The failures of calling**: an unknown method (or an operation no method has), a method
that is not visible, a wrong number of arguments, or an argument of the wrong type. -/
def CallFailure (e : Error) : Prop :=
  (∃ d, e = Error.ofFault .unknownMethod d) ∨ (∃ d, e = Error.ofFault .methodNotVisible d) ∨
    (∃ d, e = Error.ofFault .argumentCount d) ∨ ∃ v t x, e = .invalidArgument v t x

namespace Checker

/-- An element is refused as an argument of the wrong type. -/
theorem checkElement_error {c : Checker} {v : Value} {e : Error} (h : c.checkElement v = .error e) :
    ∃ a t x, e = .invalidArgument a t x := by
  unfold checkElement at h
  split at h
  · cases h
  split at h
  · cases h
    exact ⟨_, _, _, rfl⟩
  split at h
  · cases h
    exact ⟨_, _, _, rfl⟩
  · cases h

/-- The items of a sequence are refused as elements are. -/
theorem checkItems_error {c : Checker} {e : Error} :
    ∀ {xs : List Value}, c.checkItems xs = .error e → ∃ a t x, e = .invalidArgument a t x
  | [], h => by cases h
  | x :: xs, h => by
    unfold checkItems at h
    cases hx : c.checkElement x with
    | error e' =>
      rw [hx] at h
      cases h
      exact checkElement_error hx
    | ok u =>
      rw [hx] at h
      exact checkItems_error h

/-- A whole value is refused as an argument of the wrong type. -/
theorem checkValue_error {c : Checker} {v : Value} {e : Error} (h : c.checkValue v = .error e) :
    ∃ a t x, e = .invalidArgument a t x := by
  unfold checkValue at h
  split at h
  · cases h
  split at h
  · split at h
    · cases h
    · cases h
      exact ⟨_, _, _, rfl⟩
  split at h
  · split at h
    · cases h
    · cases h
      exact ⟨_, _, _, rfl⟩
  split at h
  · exact checkItems_error h
  · cases h
    exact ⟨_, _, _, rfl⟩

end Checker

namespace Instance

/-! ### What a call can do -/

/-- **What a method may store** over the current value of its property, given the argument `v`:
a writer stores its checked argument (null as the missing value, a sequence as a copy); `add`
and `remove` store the current sequence with the checked element appended, or with its first
equal element removed. -/
inductive Writes (b : BoundMethod) (current v : Value) : Value → Prop
  | set : b.spec.operation = .set → b.checker.checkValue v = .ok () →
      Writes b current v
        (if v.isNull then .null else if b.checker.type.isCollection then v.copySequence else v)
  | add {s : Value} : b.spec.operation = .add → b.checker.checkElement v = .ok () →
      current.appendTo v = .ok s → Writes b current v s
  | remove {s : Value} : b.spec.operation = .remove → b.checker.checkElement v = .ok () →
      current.removeFromStored v = .ok s → Writes b current v s

/-- **The outcome of a call that stores nothing**: a value returned by a method that is no
writer, a failure of calling, or a fault. -/
def Quiet (op : Operation) : Outcome → Prop
  | .returned _ => op ≠ .set
  | .failed e _ => CallFailure e
  | .panicked _ => True

theorem arityError_failure (m : MethodSpec) (want got : Nat) : CallFailure (arityError m want got) :=
  .inr (.inr (.inl ⟨_, rfl⟩))

/-- A check that fails makes a quiet failure. -/
theorem quiet_of_check {op : Operation} {e : Error} (r : Option Value)
    (h : ∃ a t x, e = .invalidArgument a t x) : Quiet op (.failed e r) := by
  obtain ⟨a, t, x, rfl⟩ := h
  exact .inr (.inr (.inr ⟨a, t, x, rfl⟩))

/-- **Every call of a bound method** either stores nothing, with a quiet outcome, or stores what
the method writes in the slot of its property and returns null. -/
theorem run_cases (i : Instance) (b : BoundMethod) (args : List Value) :
    (∃ o, i.run b args = (o, i) ∧ Quiet b.spec.operation o) ∨
    ∃ v s, args = [v] ∧ i.run b args = (.returned .null, i.store b.spec.property s) ∧
      Writes b (i.valueOf b.spec.property) v s := by
  unfold run
  dsimp only
  -- one case for each operation, in the order of the definition
  split
  · refine .inl ?_
    split
    · rename_i hop _
      exact ⟨_, rfl, by simp [Quiet, hop]⟩
    · exact ⟨_, rfl, arityError_failure _ _ _⟩
  · rename_i hop
    split
    · rename_i v
      cases hv : b.checker.checkValue v with
      | error e => exact .inl ⟨_, rfl, quiet_of_check _ (Checker.checkValue_error hv)⟩
      | ok u => exact .inr ⟨v, _, rfl, rfl, .set hop hv⟩
    · exact .inl ⟨_, rfl, arityError_failure _ _ _⟩
  · rename_i hop
    split
    · rename_i v
      cases hv : b.checker.checkElement v with
      | error e => exact .inl ⟨_, rfl, quiet_of_check _ (Checker.checkElement_error hv)⟩
      | ok u =>
        dsimp only
        cases hs : (i.valueOf b.spec.property).appendTo v with
        | error msg => exact .inl ⟨_, rfl, trivial⟩
        | ok s => exact .inr ⟨v, s, rfl, rfl, .add hop hv hs⟩
    · exact .inl ⟨_, rfl, arityError_failure _ _ _⟩
  · rename_i hop
    split
    · rename_i v
      cases hv : b.checker.checkElement v with
      | error e => exact .inl ⟨_, rfl, quiet_of_check _ (Checker.checkElement_error hv)⟩
      | ok u =>
        dsimp only
        cases hs : (i.valueOf b.spec.property).removeFromStored v with
        | error msg => exact .inl ⟨_, rfl, trivial⟩
        | ok s => exact .inr ⟨v, s, rfl, rfl, .remove hop hv hs⟩
    · exact .inl ⟨_, rfl, arityError_failure _ _ _⟩
  · rename_i hop
    refine .inl ?_
    split
    · rename_i v
      cases hv : b.checker.checkElement v with
      | error e => exact ⟨_, rfl, quiet_of_check _ (Checker.checkElement_error hv)⟩
      | ok u =>
        dsimp only
        cases (i.valueOf b.spec.property).position v with
        | error msg => exact ⟨_, rfl, trivial⟩
        | ok p => exact ⟨_, rfl, by simp [Quiet, hop]⟩
    · exact ⟨_, rfl, arityError_failure _ _ _⟩
  · exact .inl ⟨_, rfl, .inl ⟨_, rfl⟩⟩

/-- A call that fails at its method fails in one of the ways of calling, and leaves the instance
as it was. -/
theorem run_failed {i : Instance} {b : BoundMethod} {args : List Value} {e : Error}
    {r : Option Value} (h : (i.run b args).1 = .failed e r) :
    CallFailure e ∧ (i.run b args).2 = i := by
  rcases run_cases i b args with ⟨o, hrun, hquiet⟩ | ⟨v, s, -, hrun, -⟩
  · rw [hrun] at h ⊢
    subst h
    exact ⟨hquiet, rfl⟩
  · rw [hrun] at h
    cases h

/-! ### Calling by name -/

/-- **A failed call changes nothing**: it fails in one of the ways of calling and leaves the
instance as it was. -/
theorem call_failed {i : Instance} {name : String} {args : List Value} {privileged : Bool}
    {e : Error} {r : Option Value} (h : (i.call name args privileged).1 = .failed e r) :
    CallFailure e ∧ (i.call name args privileged).2 = i := by
  unfold call at h ⊢
  cases hb : i.methods.lookup name with
  | none =>
    rw [hb] at h
    cases h
    exact ⟨.inl ⟨_, rfl⟩, rfl⟩
  | some b =>
    rw [hb] at h
    dsimp only at h ⊢
    split
    · rename_i hhidden
      rw [if_pos hhidden] at h
      cases h
      exact ⟨.inr (.inl ⟨_, rfl⟩), rfl⟩
    · rename_i hshown
      rw [if_neg hshown] at h
      exact run_failed h

/-- A plain call and a privileged one agree on a method that is public. -/
theorem call_public {i : Instance} {name : String} {args : List Value}
    (hpublic : ∀ b, i.methods.lookup name = some b → b.spec.visibility = .publicAccess) :
    i.call name args false = i.call name args true := by
  unfold call
  cases hb : i.methods.lookup name with
  | none => rfl
  | some b =>
    have hvis := hpublic b hb
    simp [hvis]

/-- A plain call of a hidden method fails, names the visibility, and changes nothing. -/
theorem call_hidden {i : Instance} {name : String} {args : List Value} {b : BoundMethod}
    (hb : i.methods.lookup name = some b) (hhidden : b.spec.visibility ≠ .publicAccess) :
    i.call name args false =
      (.failed (Error.ofFault .methodNotVisible s!"{name} is {b.spec.visibility.keyword}") none, i) := by
  unfold call
  simp [hb, hhidden]

/-- **Calls are atomic.** For every instance, every method name and all arguments: a plain or
privileged call that fails, fails in one of the ways of calling and leaves every stored value as
it was; a plain call and a privileged one agree when no method of the name is hidden; and a plain
call of a hidden method fails as not visible and changes nothing. -/
theorem call_atomic (i : Instance) (name : String) (args : List Value) :
    (∀ privileged e r, (i.call name args privileged).1 = .failed e r →
      CallFailure e ∧ (i.call name args privileged).2 = i) ∧
    ((∀ b, i.methods.lookup name = some b → b.spec.visibility = .publicAccess) →
      i.call name args false = i.call name args true) ∧
    (∀ b, i.methods.lookup name = some b → b.spec.visibility ≠ .publicAccess →
      i.call name args false =
        (.failed (Error.ofFault .methodNotVisible s!"{name} is {b.spec.visibility.keyword}") none,
          i)) := by
  refine ⟨fun privileged e r h => call_failed h, call_public, ?_⟩
  intro b hb hhidden
  exact call_hidden hb hhidden

end Instance
end Accessors
