import Accessors.Proofs.Render.Checkers
import Mathlib.Data.List.TakeWhile

/-!
# Which classes rendering rejects

Before any template runs, rendering checks each property of a class against the accessors that
use it and the field of the struct it is read from. A property is **rejected** (`Rejected`) when

* it may be null and has a setter, but its field cannot hold nil;
* an adder, remover or membership test reaches it, or it is an array of objects with a checker,
  and its field is not a slice;
* it has a checker (an accessor other than a reader) and no Go type;
* it is an object, or an array of objects, with a checker, and the declared element and the Go
  type, or the element type of the slice, have different last segments after a backslash or a
  dot (`sameTypeName`). Stars are stripped from the Go type only: a declared element written
  `*Meeting` keeps its star, and never names the type of a field `*Meeting`
  (`sameTypeName_pointer`).

The first loop of the checks, over properties, collects checkers (`checkerStep`); the second, over
accessors, fills their data (`methodsOf`). Whether a step fails depends only on its property,
so each loop fails exactly when one of its steps does (`foldlM_error_iff`, `mapM_error_iff`).
A check that fails is a generation error of the class about the property, at the render stage,
with no cause (`CheckFailure`); a template that cannot be run, or code that cannot be formatted,
fails with its cause.

Main statement: `render_rejects_iff`, for classes whose accessors all name their properties.
-/

namespace Accessors.Render

/-! ### Traversals that fail -/

section Traverse

variable {α β ε : Type}

/-- **A fold fails exactly when one of its steps fails**, when whether a step fails depends on
the element only. -/
theorem foldlM_error_iff {f : β → α → Except ε β} {P : α → Prop}
    (hf : ∀ b a, (∃ e, f b a = .error e) ↔ P a) :
    ∀ (xs : List α) (b : β), (∃ e, xs.foldlM f b = .error e) ↔ ∃ a ∈ xs, P a
  | [], b => by simp [List.foldlM, pure, Except.pure]
  | a :: xs, b => by
    rw [List.foldlM_cons]
    cases hfa : f b a with
    | error e =>
      have hp : P a := (hf b a).1 ⟨e, hfa⟩
      exact ⟨fun _ => ⟨a, List.mem_cons_self, hp⟩, fun _ => ⟨e, rfl⟩⟩
    | ok b' =>
      have hp : ¬ P a := fun hp => by
        obtain ⟨e, he⟩ := (hf b a).2 hp
        rw [hfa] at he
        cases he
      show (∃ e, xs.foldlM f b' = .error e) ↔ _
      rw [foldlM_error_iff hf xs b']
      simp [hp]

/-- The failure of a fold is the failure of one of its steps. -/
theorem foldlM_eq_error {f : β → α → Except ε β} {e : ε} :
    ∀ {xs : List α} {b : β}, xs.foldlM f b = .error e → ∃ a ∈ xs, ∃ b', f b' a = .error e
  | [], _, h => by cases h
  | a :: xs, b, h => by
    rw [List.foldlM_cons] at h
    cases hfa : f b a with
    | error e' =>
      rw [hfa] at h
      cases h
      exact ⟨a, List.mem_cons_self, b, hfa⟩
    | ok b' =>
      rw [hfa] at h
      obtain ⟨x, hx, b'', hx'⟩ := foldlM_eq_error h
      exact ⟨x, List.mem_cons_of_mem _ hx, b'', hx'⟩

/-- **A traversal fails exactly when it fails at one element.** -/
theorem mapM_error_iff {f : α → Except ε β} :
    ∀ xs : List α, (∃ e, xs.mapM f = .error e) ↔ ∃ a ∈ xs, ∃ e, f a = .error e
  | [] => by simp [pure, Except.pure]
  | a :: xs => by
    rw [List.mapM_cons]
    cases hfa : f a with
    | error e => exact ⟨fun _ => ⟨a, List.mem_cons_self, e, hfa⟩, fun _ => ⟨e, rfl⟩⟩
    | ok b =>
      have hrest : (∃ e, (xs.mapM f >>= fun bs => pure (b :: bs)) = Except.error e) ↔
          ∃ e, xs.mapM f = .error e := by
        cases xs.mapM f <;> simp [bind, Except.bind, pure, Except.pure]
      show (∃ e, (xs.mapM f >>= fun bs => pure (b :: bs)) = Except.error e) ↔ _
      rw [hrest, mapM_error_iff xs]
      simp [hfa]

/-- The failure of a traversal is the failure at one of its elements. -/
theorem mapM_eq_error {f : α → Except ε β} {e : ε} :
    ∀ {xs : List α}, xs.mapM f = .error e → ∃ a ∈ xs, f a = .error e
  | [], h => by cases h
  | a :: xs, h => by
    rw [List.mapM_cons] at h
    cases hfa : f a with
    | error e' =>
      rw [hfa] at h
      cases h
      exact ⟨a, List.mem_cons_self, hfa⟩
    | ok b =>
      rw [hfa] at h
      cases hxs : xs.mapM f with
      | error e' =>
        rw [hxs] at h
        cases h
        obtain ⟨x, hx, hx'⟩ := mapM_eq_error hxs
        exact ⟨x, List.mem_cons_of_mem _ hx, hx'⟩
      | ok bs =>
        rw [hxs] at h
        cases h

end Traverse

/-! ### The rules -/

/-- Whether a property has an adder, a remover or a membership test. -/
def hasCollectionAccessor (c : ClassSpec) (property : String) : Bool :=
  c.methods.any fun m => m.property == property && m.operation.requiresCollection

/-- **Why a property cannot have its checker**, or may not be null, in a class rendered for the
struct `info`: the rules of the first loop of the checks. -/
inductive Unchecked (c : ClassSpec) (info : ClassInfo) (p : PropertySpec) : Prop
  /-- A settable property that may be null, whose field cannot hold nil. -/
  | notNilable {f : PropertyInfo} : p.type.nullable = true → hasOperation c p.name .set = true →
      info.property? p.name = some f → f.nilable = false → Unchecked c info p
  /-- A property with a checker and no Go type. -/
  | noGoType : needsChecker c p.name = true → p.goType = "" → Unchecked c info p
  /-- An array of objects with a checker, whose field is not a slice. -/
  | notSlice : needsChecker c p.name = true → p.type.kind = .arrayOfObject →
      sliceElem p.goType = none → Unchecked c info p
  /-- An object with a checker, whose field names another type. -/
  | otherObject : needsChecker c p.name = true → p.type.kind = .object →
      sameTypeName p.type.element p.goType = false → Unchecked c info p
  /-- An array of objects with a checker, whose slice holds another type. -/
  | otherElement {e : String} : needsChecker c p.name = true → p.type.kind = .arrayOfObject →
      sliceElem p.goType = some e → e ≠ "" → sameTypeName p.type.element e = false →
      Unchecked c info p

/-- **Why rendering rejects a property** of a class rendered for the struct `info`. -/
inductive Rejected (c : ClassSpec) (info : ClassInfo) (p : PropertySpec) : Prop
  /-- The property cannot have its checker, or may not be null. -/
  | unchecked : Unchecked c info p → Rejected c info p
  /-- The property an adder, remover or membership test reaches, on a field that is not a
  slice. Accessors reach the first property of their name. -/
  | notCollection : c.property? p.name = some p → hasCollectionAccessor c p.name = true →
      sliceElem p.goType = none → Rejected c info p

/-- **A failed check** of rendering: the generation error of the class about a property, at the
render stage, with no cause. -/
def CheckFailure (cls property : String) (e : Error) : Prop :=
  ∃ coded, e = .generation coded none cls property stage

section Checks

variable {c : ClassSpec} {info : ClassInfo} {p : PropertySpec}

theorem checkFailure_fail (property msg : String) :
    CheckFailure c.name property (fail c info property msg) := by
  unfold fail
  split
  · rename_i h
    rw [String.isEmpty_iff.1 h]
    exact ⟨_, rfl⟩
  · exact ⟨_, rfl⟩

theorem CheckFailure.withSuggestions {cls property : String} {e : Error} (xs : List String)
    (h : CheckFailure cls property e) : CheckFailure cls property (e.withSuggestions xs) := by
  obtain ⟨coded, rfl⟩ := h
  exact ⟨_, rfl⟩

/-- A failure that carries a cause is no failed check. -/
theorem not_checkFailure_withCause (cls property q msg : String) (cause : Error) :
    ¬ CheckFailure cls property ((fail c info q msg).withCause cause) := by
  rintro ⟨coded, h⟩
  unfold fail at h
  split at h <;> cases h

theorem CheckFailure.of_withSuggestions {cls property : String} {e : Error} {xs : List String}
    (h : CheckFailure cls property (e.withSuggestions xs)) : CheckFailure cls property e := by
  obtain ⟨coded, h⟩ := h
  cases e <;> cases h
  exact ⟨_, rfl⟩

/-- A settable property that may be null has a field that cannot hold nil exactly when the
first check of its step fails. -/
theorem nullableProblem?_eq_some_iff :
    (∃ msg, nullableProblem? c info p = some msg) ↔
      ∃ f, p.type.nullable = true ∧ hasOperation c p.name .set = true ∧
        info.property? p.name = some f ∧ f.nilable = false := by
  unfold nullableProblem?
  cases hn : p.type.nullable <;> cases hs : hasOperation c p.name .set <;> simp
  cases hf : info.property? p.name with
  | none => simp
  | some f => cases f.nilable <;> simp

/-- **A property has no checker** exactly when it has no Go type, or an array of objects is not
a slice, or the declared element and the Go type, or the slice's element type, name different
types. -/
theorem checkerFor_error_iff {typeName : String} :
    (∃ msg, checkerFor typeName p = .error msg) ↔
      p.goType = "" ∨ (p.type.kind = .arrayOfObject ∧ sliceElem p.goType = none) ∨
        (p.type.kind = .object ∧ sameTypeName p.type.element p.goType = false) ∨
        ∃ e, p.type.kind = .arrayOfObject ∧ sliceElem p.goType = some e ∧ e ≠ "" ∧
          sameTypeName p.type.element e = false := by
  unfold checkerFor
  by_cases hg : p.goType = ""
  · simp [hg, bind, Except.bind, throw, throwThe, MonadExceptOf.throw]
  · have hne : p.goType.isEmpty = false := by simpa using hg
    simp only [hne, bind, Except.bind, throw, throwThe, MonadExceptOf.throw, hg, false_or]
    -- only objects and arrays of objects name a Go type to compare
    cases hk : p.type.kind <;> simp [pure, Except.pure]
    case object => by_cases hs : sameTypeName p.type.element p.goType = false <;> simp [hs, hg]
    case arrayOfObject =>
      cases hs : sliceElem p.goType with
      | none => simp
      | some e =>
        by_cases he : e = "" <;> by_cases ht : sameTypeName p.type.element e = false <;> simp [he, ht]

/-- The rules of the first loop, read as its two checks: the field of a property that may be
null, and the checker of a property with an accessor other than a reader. -/
theorem unchecked_iff : Unchecked c info p ↔
    (∃ msg, nullableProblem? c info p = some msg) ∨
      needsChecker c p.name = true ∧ ∃ msg, checkerFor c.typeName p = .error msg := by
  rw [nullableProblem?_eq_some_iff, checkerFor_error_iff]
  constructor
  · intro h
    cases h with
    | notNilable hn hs hf hnil => exact .inl ⟨_, hn, hs, hf, hnil⟩
    | noGoType hc hg => exact .inr ⟨hc, .inl hg⟩
    | notSlice hc hk hs => exact .inr ⟨hc, .inr (.inl ⟨hk, hs⟩)⟩
    | otherObject hc hk ht => exact .inr ⟨hc, .inr (.inr (.inl ⟨hk, ht⟩))⟩
    | otherElement hc hk hs he ht => exact .inr ⟨hc, .inr (.inr (.inr ⟨_, hk, hs, he, ht⟩))⟩
  · rintro (⟨f, hn, hs, hf, hnil⟩ | ⟨hc, hg | ⟨hk, hs⟩ | ⟨hk, ht⟩ | ⟨e, hk, hs, he, ht⟩⟩)
    · exact .notNilable hn hs hf hnil
    · exact .noGoType hc hg
    · exact .notSlice hc hk hs
    · exact .otherObject hc hk ht
    · exact .otherElement hc hk hs he ht

/-- **A step of the first loop fails exactly when its property is unchecked**, whatever was
collected before it. -/
theorem checkerStep_error_iff (acc : List Checker) :
    (∃ e, checkerStep c info acc p = .error e) ↔ Unchecked c info p := by
  rw [unchecked_iff]
  unfold checkerStep
  cases hn : nullableProblem? c info p with
  | some msg => simp [bind, Except.bind, throw, throwThe, MonadExceptOf.throw]
  | none =>
    cases hc : needsChecker c p.name <;> cases hk : checkerFor c.typeName p <;>
      simp [pure, Except.pure, throw, throwThe, MonadExceptOf.throw]

/-- A failed step of the first loop is a failed check about its property. -/
theorem checkerStep_checkFailure {acc : List Checker} {e : Error}
    (h : checkerStep c info acc p = .error e) : CheckFailure c.name p.name e := by
  unfold checkerStep at h
  cases hn : nullableProblem? c info p with
  | some msg =>
    simp only [hn, bind, Except.bind, throw, throwThe, MonadExceptOf.throw] at h
    cases h
    exact (checkFailure_fail _ _).withSuggestions _
  | none =>
    cases hc : needsChecker c p.name <;> cases hk : checkerFor c.typeName p <;>
      simp [hn, hc, hk, pure, Except.pure, throw, throwThe, MonadExceptOf.throw] at h
    rw [← h]
    exact checkFailure_fail _ _

/-- **The first loop fails exactly when some property is unchecked.** -/
theorem checkersOf_error_iff :
    (∃ e, checkersOf c info = .error e) ↔ ∃ p ∈ c.properties, Unchecked c info p :=
  foldlM_error_iff (fun acc q => checkerStep_error_iff (p := q) acc) c.properties []

/-- A failure of the first loop is a failed check about one of the properties. -/
theorem checkersOf_checkFailure {e : Error} (h : checkersOf c info = .error e) :
    ∃ p ∈ c.properties, CheckFailure c.name p.name e := by
  obtain ⟨p, hp, acc, hs⟩ := foldlM_eq_error (f := checkerStep c info) h
  exact ⟨p, hp, checkerStep_checkFailure hs⟩

end Checks

/-! ### The second loop: accessors -/

section Methods

variable {c : ClassSpec} {info : ClassInfo} {runtime : String} {checkers : List (String × String)}

/-- One step of the second loop of the checks: the data of an accessor, which needs its property
and, for an adder, remover or membership test, a slice field. -/
def methodStep (c : ClassSpec) (info : ClassInfo) (runtime : String) (checkers : List (String × String))
    (m : MethodSpec) : Except Error MethodData := do
  let some p := c.property? m.property
    | throw (fail c info m.property ("accessor " ++ m.name ++ " refers to an unknown property"))
  let elemType ← if m.operation.requiresCollection then
      match sliceElem p.goType with
      | some e => pure e
      | none => throw (fail c info p.name ("accessor " ++ m.name ++ " needs a slice field, " ++
          c.typeName ++ "." ++ p.name ++ " is " ++ p.goType))
    else pure ""
  return { op := m.operation, identifier := m.identifier, receiver := receiverName c.typeName,
           typeName := c.typeName, field := p.name, goType := p.goType, elemType,
           checker := (checkers.lookup p.name).getD "", expected := m.expected, runtime }

theorem methodsOf_eq (c : ClassSpec) (info : ClassInfo) (runtime : String)
    (checkers : List (String × String)) :
    methodsOf c info runtime checkers = c.methods.mapM (methodStep c info runtime checkers) := rfl

/-- The property an accessor reaches is a property of the class, of the accessor's name. -/
theorem mem_of_property? {n : String} {p : PropertySpec} (h : c.property? n = some p) :
    p ∈ c.properties ∧ p.name = n :=
  ⟨List.mem_of_find?_eq_some h, by simpa using List.find?_some h⟩

/-- An accessor of a property that is found fails exactly when it needs a slice field and the
field is not a slice. -/
theorem methodStep_error_iff {m : MethodSpec} {p : PropertySpec} (hp : c.property? m.property = some p) :
    (∃ e, methodStep c info runtime checkers m = .error e) ↔
      m.operation.requiresCollection = true ∧ sliceElem p.goType = none := by
  unfold methodStep
  cases hr : m.operation.requiresCollection <;> cases hs : sliceElem p.goType <;>
    simp [hp, hs, bind, Except.bind, pure, Except.pure, throw, throwThe, MonadExceptOf.throw]

/-- A failed accessor of a property that is found is a failed check about the property. -/
theorem methodStep_checkFailure {m : MethodSpec} {p : PropertySpec} {e : Error}
    (hp : c.property? m.property = some p) (h : methodStep c info runtime checkers m = .error e) :
    CheckFailure c.name p.name e := by
  unfold methodStep at h
  cases hr : m.operation.requiresCollection <;> cases hs : sliceElem p.goType <;>
    simp [hp, hr, hs, bind, Except.bind, pure, Except.pure, throw, throwThe, MonadExceptOf.throw] at h
  rw [← h]
  exact checkFailure_fail _ _

variable (hrefs : ∀ m ∈ c.methods, ∃ p ∈ c.properties, p.name = m.property)
include hrefs

/-- An accessor of the class reaches a property. -/
theorem property?_of_refs {m : MethodSpec} (hm : m ∈ c.methods) : ∃ p, c.property? m.property = some p := by
  obtain ⟨q, hq, hn⟩ := hrefs m hm
  exact Option.isSome_iff_exists.1 (List.find?_isSome.2 ⟨q, hq, by simp [hn]⟩)

/-- **The second loop fails exactly when an adder, remover or membership test reaches a
property whose field is not a slice**, for a class whose accessors all name its properties. -/
theorem methodsOf_error_iff (runtime : String) (checkers : List (String × String)) :
    (∃ e, methodsOf c info runtime checkers = .error e) ↔
      ∃ p ∈ c.properties, c.property? p.name = some p ∧ hasCollectionAccessor c p.name = true ∧
        sliceElem p.goType = none := by
  rw [methodsOf_eq, mapM_error_iff]
  constructor
  · rintro ⟨m, hm, he⟩
    obtain ⟨p, hp⟩ := property?_of_refs hrefs hm
    obtain ⟨hr, hs⟩ := (methodStep_error_iff hp).1 he
    obtain ⟨hmem, hn⟩ := mem_of_property? hp
    refine ⟨p, hmem, hn ▸ hp, List.any_eq_true.2 ⟨m, hm, ?_⟩, hs⟩
    simp [hn, hr]
  · rintro ⟨p, -, hp, hc, hs⟩
    obtain ⟨m, hm, hmc⟩ := List.any_eq_true.1 hc
    simp only [Bool.and_eq_true, beq_iff_eq] at hmc
    rw [← hmc.1] at hp
    exact ⟨m, hm, (methodStep_error_iff hp).2 ⟨hmc.2, hs⟩⟩

/-- A failure of the second loop is a failed check about one of the properties. -/
theorem methodsOf_checkFailure {e : Error} (h : methodsOf c info runtime checkers = .error e) :
    ∃ p ∈ c.properties, CheckFailure c.name p.name e := by
  obtain ⟨m, hm, he⟩ := mapM_eq_error (f := methodStep c info runtime checkers) h
  obtain ⟨p, hp⟩ := property?_of_refs hrefs hm
  exact ⟨p, (mem_of_property? hp).1, methodStep_checkFailure hp he⟩

end Methods

/-! ### Rendering -/

section Render

variable {templates : TemplateSet} {runtimePath : String} {c : ClassSpec} {info : ClassInfo}

/-- **Rendering runs its checks first**: a failure of the first loop is the failure of
rendering. -/
theorem render_of_checkersOf_error {e : Error} (h : checkersOf c info = .error e) :
    c.render templates runtimePath info = .error e := by
  simp [ClassSpec.render, bind, Except.bind, h]

/-- A failure of the second loop, whatever the runtime package and the checkers, is the failure
of rendering. -/
theorem render_of_methodsOf_error {ks : List Checker} {P : Error → Prop}
    (hk : checkersOf c info = .ok ks)
    (hm : ∀ runtime checkers, ∃ e, methodsOf c info runtime checkers = .error e ∧ P e) :
    ∃ e, c.render templates runtimePath info = .error e ∧ P e := by
  obtain ⟨e, he, hp⟩ := hm ((ImportSet.empty.addImports info.imports).require runtimePath).1
    (ks.reverse.map fun k => (k.property, k.var))
  exact ⟨e, by simp only [ClassSpec.render, bind, Except.bind, hk, he], hp⟩

/-- **A failed check of rendering is a failure of one of its loops**: once both have passed,
a template that cannot be run and code that cannot be formatted fail with their cause. -/
theorem checks_of_render_error {e : Error} {property : String}
    (h : c.render templates runtimePath info = .error e) (hf : CheckFailure c.name property e) :
    checkersOf c info = .error e ∨
      ∃ ks runtime checkers, checkersOf c info = .ok ks ∧ methodsOf c info runtime checkers = .error e := by
  rcases hk : checkersOf c info with e' | ks
  · simp only [ClassSpec.render, bind, Except.bind, hk] at h
    cases h
    exact .inl rfl
  · right
    rcases hm : methodsOf c info ((ImportSet.empty.addImports info.imports).require runtimePath).1
        (ks.reverse.map fun k => (k.property, k.var)) with e' | ms
    · simp only [ClassSpec.render, bind, Except.bind, hk, hm] at h
      cases h
      exact ⟨ks, _, _, rfl, hm⟩
    · -- both loops passed: what fails after them fails with a cause
      exfalso
      simp only [ClassSpec.render, bind, Except.bind, hk, hm, pure, Except.pure, throw, throwThe,
        MonadExceptOf.throw] at h
      split at h
      · split at h
        · cases h
        · cases h
          exact not_checkFailure_withCause _ _ _ _ _ hf.of_withSuggestions
      · cases h
        exact not_checkFailure_withCause _ _ _ _ _ hf

/-- **Rendering rejects exactly the inconsistent classes.** For a class whose accessors all name
properties of it, with any templates and runtime package, rendering fails with a failed check
about one of its properties exactly when some property is rejected. -/
theorem render_rejects_iff (templates : TemplateSet) (runtimePath : String) (c : ClassSpec)
    (info : ClassInfo) (hrefs : ∀ m ∈ c.methods, ∃ p ∈ c.properties, p.name = m.property) :
    (∃ p ∈ c.properties, Rejected c info p) ↔
      ∃ e, c.render templates runtimePath info = .error e ∧
        ∃ p ∈ c.properties, CheckFailure c.name p.name e := by
  constructor
  · rintro ⟨p, hp, hrej⟩
    rcases hk : checkersOf c info with e | ks
    · exact ⟨e, render_of_checkersOf_error hk, checkersOf_checkFailure hk⟩
    · -- every property passed the first loop, so the second one rejects `p`
      have hcoll : c.property? p.name = some p ∧ hasCollectionAccessor c p.name = true ∧
          sliceElem p.goType = none := by
        cases hrej with
        | unchecked hu =>
          obtain ⟨e, he⟩ := checkersOf_error_iff.2 ⟨p, hp, hu⟩
          rw [hk] at he
          cases he
        | notCollection hfound hc hs => exact ⟨hfound, hc, hs⟩
      refine render_of_methodsOf_error hk fun runtime checkers => ?_
      obtain ⟨e, he⟩ := (methodsOf_error_iff hrefs runtime checkers).2 ⟨p, hp, hcoll⟩
      exact ⟨e, he, methodsOf_checkFailure hrefs he⟩
  · rintro ⟨e, he, q, -, hf⟩
    rcases checks_of_render_error he hf with hk | ⟨ks, runtime, checkers, -, hm⟩
    · obtain ⟨p, hp, hu⟩ := checkersOf_error_iff.1 ⟨e, hk⟩
      exact ⟨p, hp, .unchecked hu⟩
    · obtain ⟨p, hp, hfound, hc, hs⟩ := (methodsOf_error_iff hrefs runtime checkers).1 ⟨e, hm⟩
      exact ⟨p, hp, .notCollection hfound hc hs⟩

end Render

/-! ### Names of types -/

/-- A name with no backslash or dot is its own last segment. -/
theorem lastSegment_of_plain {s : String} (h : ∀ ch ∈ s.toList, ch ≠ '\\' ∧ ch ≠ '.') :
    lastSegment s = s := by
  unfold lastSegment
  rw [List.takeWhile_eq_self_iff.2, List.reverse_reverse, String.ofList_toList]
  intro ch hch
  obtain ⟨hb, hd⟩ := h ch (List.mem_reverse.1 hch)
  simp [hb, hd]

/-- **A declared element written as a pointer never names the pointer type of a field**: stars
are stripped from the Go type, and kept in the declared element. -/
theorem sameTypeName_pointer {s : String} (h : ∀ ch ∈ s.toList, ch ≠ '*' ∧ ch ≠ '\\' ∧ ch ≠ '.') :
    sameTypeName ("*" ++ s) ("*" ++ s) = false := by
  have hplain : ∀ ch ∈ ("*" ++ s).toList, ch ≠ '\\' ∧ ch ≠ '.' := by
    intro ch hch
    rw [String.toList_append, List.mem_append] at hch
    rcases hch with hch | hch
    · simp at hch
      simp [hch]
    · exact (h ch hch).2
  have hstrip : (("*" ++ s).toList.dropWhile (· == '*')) = s.toList := by
    rw [String.toList_append, List.dropWhile_append_of_pos (by simp)]
    cases hs : s.toList with
    | nil => rfl
    | cons ch rest =>
      have hch : ch ≠ '*' := (h ch (by simp [hs])).1
      exact List.dropWhile_cons_of_neg (by simpa using hch)
  unfold sameTypeName
  rw [hstrip, String.ofList_toList, lastSegment_of_plain hplain,
    lastSegment_of_plain fun ch hch => (h ch hch).2]
  -- the pointer name is one character longer than the name
  simp only [beq_eq_false_iff_ne, ne_eq]
  intro heq
  have := congrArg String.length heq
  simp at this

/-! ### A pointer element -/

/-- `Book`, with a settable field `m` of type `*Meeting` that declares the type `*Meeting`. -/
def bookClass : ClassInfo :=
  ⟨"Book", "models", "example.com/app/models", "models.go", 5,
    [⟨"models.Book", "m", "*Meeting", true, "@Set\n@var *Meeting", "models.go", 8⟩], [], []⟩

/-- The declared type `*Meeting`. -/
def meetingPointer : DeclaredType := ⟨.object, false, "*Meeting", "*Meeting"⟩

/-- The class `bookClass` is synthesized as. -/
def bookSpec : ClassSpec :=
  ⟨"example.com/app/models.Book", "models", "Book", [⟨"m", "*Meeting", meetingPointer⟩],
    [⟨"setM", .set, "m", .publicAccess, "*Meeting"⟩]⟩

/-- **A pointer element is rejected**: `Book` synthesizes to a class whose object property `m`
declares `*Meeting`, the type of its field, and rendering it fails with a failed check. -/
theorem render_rejects_pointer_element :
    ((bookClass.synthesize defaultProvider).run' none).1 = .ok bookSpec ∧
    (∀ m ∈ bookSpec.methods, ∃ p ∈ bookSpec.properties, p.name = m.property) ∧
    ∃ e, bookSpec.render TemplateSet.standard defaultRuntime bookClass = .error e ∧
      ∃ p ∈ bookSpec.properties, CheckFailure bookSpec.name p.name e := by
  have hrefs : ∀ m ∈ bookSpec.methods, ∃ p ∈ bookSpec.properties, p.name = m.property := by
    decide
  have hname : sameTypeName "*Meeting" "*Meeting" = false :=
    sameTypeName_pointer (s := "Meeting") (by simp)
  have hm : Rejected bookSpec bookClass ⟨"m", "*Meeting", meetingPointer⟩ :=
    .unchecked (.otherObject (by decide) rfl hname)
  exact ⟨Except.eq_ok_of_toOption (by decide +kernel), hrefs,
    (render_rejects_iff _ _ _ _ hrefs).1 ⟨_, List.mem_cons_self, hm⟩⟩

end Accessors.Render
