import Accessors.Cli.Execute
import Mathlib.Logic.Relation

/-!
# The codes an error carries

An error stands on its causes: the one error it wraps, or every member of a list of errors
(`Error.causes`). Following causes any number of times reaches the errors below it
(`Error.Reaches`). Every error is a finite tree, so no chain of causes goes on forever
(`causes_wellFounded`), and the search for a code through the tree ends.

An error has a code when some coded error reached from it carries the code
(`hasCode_iff_reaches`). The search reads the error's own code first and then its causes in
order (`hasCode_eq`), so a coded error that carries another code does not hide the codes of its
cause. The exit status 2 of a command line is given by this search for the configuration code
(`exitCode_eq_two_iff`).
-/

namespace Accessors.Error

/-- An error reaches another through its causes: the error it wraps, or each member of a list
of errors, any number of times. -/
def Reaches : Error → Error → Prop := Relation.ReflTransGen fun a b => b ∈ a.causes

/-! ### Error trees are finite -/

/-- The cause an error holds, if any, is smaller than the option holding it. -/
theorem sizeOf_lt_of_mem_toList {c : Error} (cause : Option Error) (h : c ∈ cause.toList) :
    sizeOf c < sizeOf cause := by
  cases cause with
  | none => cases h
  | some x =>
    obtain rfl : c = x := List.mem_singleton.1 h
    rw [Option.some.sizeOf_spec]
    omega

/-- A cause is smaller than the error that stands on it. -/
theorem sizeOf_lt_of_mem_causes {c e : Error} (h : c ∈ e.causes) : sizeOf c < sizeOf e := by
  cases e with
  | wrapped msg cause =>
    obtain rfl : c = cause := List.mem_singleton.1 h
    rw [wrapped.sizeOf_spec]
    omega
  | coded k cause =>
    have := sizeOf_lt_of_mem_toList cause (by cases cause <;> exact h)
    rw [coded.sizeOf_spec]
    omega
  | generation k cause cls p st =>
    have := sizeOf_lt_of_mem_toList cause (by cases cause <;> exact h)
    rw [generation.sizeOf_spec]
    omega
  | multiple errs =>
    have := List.sizeOf_lt_of_mem (by simpa [causes] using h)
    simp only [multiple.sizeOf_spec]
    omega
  | model kind file line msg cause =>
    have := sizeOf_lt_of_mem_toList cause (by cases cause <;> exact h)
    rw [model.sizeOf_spec]
    omega
  | lookup found p tag cause =>
    have := sizeOf_lt_of_mem_toList cause (by cases cause <;> exact h)
    rw [lookup.sizeOf_spec]
    omega
  | joined errs =>
    have := List.sizeOf_lt_of_mem (by simpa [causes] using h)
    simp only [joined.sizeOf_spec]
    omega
  | _ => simp [causes] at h

/-- No chain of causes goes on forever. -/
theorem causes_wellFounded : WellFounded fun c e : Error => c ∈ e.causes :=
  Subrelation.wf sizeOf_lt_of_mem_causes (measure sizeOf).wf

/-! ### One step of the search -/

theorem hasCodeIn_eq_any (code : Int) (es : List Error) :
    hasCodeIn code es = es.any (hasCode code) := by
  induction es with
  | nil => rfl
  | cons e es ih => simp [hasCodeIn, ih]

/-- **One step of the search**: an error has a code when it carries the code itself or one of
its causes has it. -/
theorem hasCode_eq (code : Int) (e : Error) :
    e.hasCode code = (e.code? == some code || e.causes.any (hasCode code)) := by
  cases e with
  | coded k cause => cases cause <;> simp [hasCode, code?, causes]
  | generation k cause cls p st => cases cause <;> simp [hasCode, code?, causes]
  | multiple errs => simp [hasCode, code?, causes, hasCodeIn_eq_any]
  | joined errs => simp [hasCode, code?, causes, hasCodeIn_eq_any]
  | model kind file line msg cause => cases cause <;> simp [hasCode, code?, causes]
  | lookup found p tag cause => cases cause <;> simp [hasCode, code?, causes]
  | _ => simp [hasCode, code?, causes]

/-! ### The whole search -/

theorem reaches_of_hasCode {code : Int} {e : Error} (h : e.hasCode code = true) :
    ∃ d, e.Reaches d ∧ d.code? = some code := by
  -- on the trees below `e`: a cause is smaller than the error it stands under
  induction e using causes_wellFounded.induction with
  | h e ih =>
    rw [hasCode_eq] at h
    rcases Bool.or_eq_true_iff.mp h with hown | hcause
    · exact ⟨e, .refl, by simpa using hown⟩
    · obtain ⟨c, hmem, hc⟩ := List.any_eq_true.mp hcause
      obtain ⟨d, hd, hdc⟩ := ih c hmem hc
      exact ⟨d, .head hmem hd, hdc⟩

theorem hasCode_of_reaches {code : Int} {e d : Error} (hd : e.Reaches d)
    (hdc : d.code? = some code) : e.hasCode code = true := by
  induction hd using Relation.ReflTransGen.head_induction_on with
  | refl => simp [hasCode_eq, hdc]
  | head hstep _ ih =>
    rw [hasCode_eq, Bool.or_eq_true, List.any_eq_true]
    exact .inr ⟨_, hstep, ih⟩

/-- **An error has a code exactly when a coded error reached from it carries the code.** -/
theorem hasCode_iff_reaches (code : Int) (e : Error) :
    e.hasCode code = true ↔ ∃ d, e.Reaches d ∧ d.code? = some code :=
  ⟨reaches_of_hasCode, fun ⟨_, hd, hdc⟩ => hasCode_of_reaches hd hdc⟩

end Accessors.Error

namespace Accessors.Cli

/-- A command line that fails exits with status 2 exactly when a coded error reached from its
error carries the configuration code. -/
theorem exitCode_eq_two_iff (e : Error) :
    exitCode e = 2 ↔ ∃ d, e.Reaches d ∧ d.code? = some ErrorCode.configuration := by
  constructor
  · intro h
    cases hc : e.hasCode ErrorCode.configuration with
    | true => exact Error.reaches_of_hasCode hc
    | false =>
      -- without the configuration code the status is 3 or 1
      unfold exitCode at h
      simp only [hc, Bool.false_eq_true, ↓reduceIte] at h
      split at h <;> omega
  · rintro ⟨d, hd, hdc⟩
    simp [exitCode, Error.hasCode_of_reaches hd hdc]

end Accessors.Cli
