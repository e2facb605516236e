import Accessors.Spec.Synthesis
import Mathlib.Data.List.Forall2

/-!
# The steps of synthesis

Synthesis reads documentation through the memo table, turns occurrences into methods one at a
time and stops at the first failure. This module says once what each step does, so that the
theorems about whole runs cite these lemmas and never unfold a step again:

* `Reading.run'_bind` and its companions run a reading one step at a time;
* `method_eq_ok`: the method an occurrence becomes, and the checks it passed on the way;
* `clash?_eq_none`: what a method that joins the class is free of;
* `acceptAll_eq_ok`: the methods of one property are appended in the order of its occurrences;
* `run'_acceptProperties_cons`: one property of the loop over properties, and
  `acceptProperties_cons_eq_ok`: what a property of a loop that succeeded went through.
-/

namespace Accessors

open Tag

/-! ### Readings -/

namespace Reading

variable {α β : Type}

@[simp] theorem run'_pure (a : α) (cache : Option OccurrenceCache) :
    Reading.run' (pure a) cache = (.ok a, cache) := rfl

@[simp] theorem run'_of (f : Option OccurrenceCache → Except Error α × Option OccurrenceCache)
    (cache : Option OccurrenceCache) : Reading.run' (Reading.of f) cache = f cache := rfl

/-- A reading runs its first step, and the rest only when the first one succeeded. -/
theorem run'_bind (x : Reading α) (f : α → Reading β) (cache : Option OccurrenceCache) :
    Reading.run' (x >>= f) cache =
      match Reading.run' x cache with
      | (.ok a, cache) => Reading.run' (f a) cache
      | (.error e, cache) => (.error e, cache) := by
  unfold Reading.run'
  rcases h : (ExceptT.run x).run cache with ⟨_ | a, cache'⟩
  · simp only [bind, ExceptT.bind, ExceptT.run, ExceptT.mk, StateT.run, StateT.bind] at h ⊢
    simp [h, ExceptT.bindCont]
    rfl
  · simp only [bind, ExceptT.bind, ExceptT.run, ExceptT.mk, StateT.run, StateT.bind] at h ⊢
    simp [h, ExceptT.bindCont]

/-- Adapting a reading changes its failure only. -/
theorem run'_adapt (g : Error → Error) (x : Reading α) (cache : Option OccurrenceCache) :
    Reading.run' (ExceptT.adapt g x) cache =
      match Reading.run' x cache with
      | (.ok a, cache) => (.ok a, cache)
      | (.error e, cache) => (.error (g e), cache) := by
  unfold ExceptT.adapt Reading.run'
  rcases h : (ExceptT.run x).run cache with ⟨_ | a, cache'⟩
  · simp_all [ExceptT.run, ExceptT.mk, StateT.run, Functor.map, StateT.map, Except.mapError]
  · simp_all [ExceptT.run, ExceptT.mk, StateT.run, Functor.map, StateT.map, Except.mapError]

end Reading

/-- An outcome whose value is some value succeeded with it. -/
theorem Except.eq_ok_of_toOption {ε α : Type} {x : Except ε α} {a : α} (h : x.toOption = some a) :
    x = .ok a := by
  cases x with
  | error e => cases h
  | ok b =>
    cases h
    rfl

namespace Synthesis

/-! ### One occurrence -/

/-- The subject a method is named after: the first `name` field of its occurrence, or else the
field name of the property. -/
def subjectName (p : PropertyInfo) (o : Occurrence) : String := (o.field? nameField).getD p.fieldName

/-- The visibility of an occurrence's method: the keyword of its first `visibility` field,
public when there is none (or when the keyword names none, which synthesis refuses). -/
def declaredVisibility (o : Occurrence) : Visibility :=
  match o.field? visibilityField with
  | some v => (Visibility.parse v).toOption.getD .publicAccess
  | none => .publicAccess

theorem subjectOf_eq_ok {tag : String} {p : PropertyInfo} {o : Occurrence} {s : String}
    (h : subjectOf tag p o = .ok s) : s = subjectName p o := by
  unfold subjectOf at h
  unfold subjectName
  split at h
  · cases h
  · rename_i n _ hn
    cases h
    rw [hn, Option.getD_some]
  · rename_i hn
    cases h
    rw [hn, Option.getD_none]

theorem visibilityOf_eq_ok {tag : String} {o : Occurrence} {v : Visibility}
    (h : visibilityOf tag o = .ok v) : v = declaredVisibility o := by
  unfold visibilityOf at h
  unfold declaredVisibility
  cases hw : o.field? visibilityField with
  | none =>
    simp only [hw] at h
    cases h
    rfl
  | some w =>
    simp only [hw] at h
    cases hvis : Visibility.parse w with
    | error e =>
      simp only [hvis] at h
      cases h
    | ok vis =>
      simp only [hvis] at h
      cases h
      show v = (Visibility.parse w).toOption.getD .publicAccess
      rw [hvis]
      rfl

/-- **The method of an occurrence** is named after its subject and has its visibility, for the
property and the operation; its property has a sequence type when the operation needs one, and
its identifier is valid. -/
theorem method_eq_ok {op : Operation} {p : PropertyInfo} {t : DeclaredType} {o : Occurrence}
    {spec : MethodSpec} (h : method op p t o = .ok spec) :
    spec = ⟨methodName op (subjectName p o), op, p.fieldName, declaredVisibility o,
      expectedType op t⟩ ∧
    (op.requiresCollection = true → t.isCollection = true) ∧
    Text.isIdentifier spec.identifier = true := by
  unfold method at h
  simp only [bind, Except.bind, throw, throwThe, MonadExceptOf.throw, pure, Except.pure] at h
  -- the checks come one after another; each failed one ends in an error
  split at h
  · cases h
  split at h
  · cases h
  split at h
  · cases h
  rename_i hcoll
  split at h
  · cases h
  rename_i subject hsubject
  split at h
  · cases h
  rename_i vis hvis
  split at h
  · cases h
  rename_i hid
  cases h
  refine ⟨by rw [subjectOf_eq_ok hsubject, visibilityOf_eq_ok hvis], ?_, ?_⟩
  · simpa using hcoll
  · simpa using hid

/-- **A method that joins the class** clashes with nothing: no accepted method has its name or
its identifier, and no hand-written method or field is called by its identifier. -/
theorem clash?_eq_none {c : ClassInfo} {taken : Taken} {s : MethodSpec}
    (h : clash? c taken s = none) :
    (∀ x ∈ taken, x.1 ≠ s.name) ∧ (∀ x ∈ taken, x.2 ≠ s.identifier) ∧
    s.identifier ∉ c.methods ∧ ∀ q ∈ c.properties, q.fieldName ≠ s.identifier := by
  unfold clash? at h
  split at h
  · cases h
  rename_i hname
  dsimp only at h
  split at h
  · cases h
  rename_i hid
  split at h
  · cases h
  rename_i hmethod
  split at h
  · cases h
  rename_i hfield
  refine ⟨?_, ?_, ?_, ?_⟩
  · intro x hx hx'
    exact hname (List.any_eq_true.2 ⟨x, hx, by simp [hx']⟩)
  · intro x hx hx'
    exact absurd (List.find?_eq_none.1 hid x hx) (by simp [hx'])
  · simpa [ClassInfo.hasMethod] using hmethod
  · intro q hq hq'
    exact hfield (List.any_eq_true.2 ⟨q, hq, by simp [hq']⟩)

/-! ### The loops -/

/-- A property has occurrences exactly when some operation has one. -/
theorem pairs_eq_nil_iff {occs : List (Operation × List Occurrence)} :
    pairs occs = [] ↔ occs.all (·.2.isEmpty) = true := by
  simp [pairs]

/-- **The methods of one property** are appended in the order of its occurrences, each the
method its occurrence becomes; the properties stay as they are. -/
theorem acceptAll_eq_ok {c : ClassInfo} {p : PropertyInfo} {t : DeclaredType} :
    ∀ {occs : List (Operation × Occurrence)} {acc acc' : Accepted},
      acceptAll c p t occs acc = .ok acc' →
      acc'.props = acc.props ∧
      ∃ specs, List.Forall₂ (fun x s => method x.1 p t x.2 = .ok s) occs specs ∧
        acc'.methods = acc.methods ++ specs ∧
        acc'.taken = acc.taken ++ specs.map fun s => (s.name, s.identifier)
  | [], acc, acc', h => by
    cases h
    exact ⟨rfl, [], .nil, by simp, by simp⟩
  | (op, o) :: rest, acc, acc', h => by
    unfold acceptAll at h
    split at h
    · cases h
    rename_i spec hspec
    split at h
    · cases h
    obtain ⟨hprops, specs, hall, hmethods, htaken⟩ := acceptAll_eq_ok h
    exact ⟨hprops, spec :: specs, .cons hspec hall, by simp [hmethods], by simp [htaken]⟩

/-- **One property of the loop**: its occurrences are read; without any the property is left
out, otherwise its type is read and its occurrences become methods. -/
theorem run'_acceptProperties_cons (m : MethodProvider) (c : ClassInfo) (p : PropertyInfo)
    (ps : List PropertyInfo) (acc : Accepted) (cache : Option OccurrenceCache) :
    Reading.run' (acceptProperties m c (p :: ps) acc) cache =
      match Reading.run' (occurrencesOf m p) cache with
      | (.error e, cache) => (.error ((fail c p "cannot read accessor annotations").withCause e), cache)
      | (.ok occs, cache) =>
        if occs.all (·.2.isEmpty) then Reading.run' (acceptProperties m c ps acc) cache
        else
          match declaredType cache p.handle with
          | (.error e, cache) =>
            (.error (((fail c p "declares accessors but has no resolvable @var type").withCause
              e).withSuggestions [typeSuggestion p]), cache)
          | (.ok t, cache) =>
            match acceptAll c p t (pairs occs)
                { acc with props := acc.props ++ [⟨p.fieldName, p.goType, t⟩] } with
            | .error e => (.error e, cache)
            | .ok acc => Reading.run' (acceptProperties m c ps acc) cache := by
  rw [acceptProperties, Reading.run'_bind, Reading.run'_adapt]
  rcases Reading.run' (occurrencesOf m p) cache with ⟨_ | occs, cache⟩
  · rfl
  · dsimp only
    split
    · rfl
    · rw [Reading.run'_bind, Reading.run'_adapt, Reading.run'_of]
      rcases declaredType cache p.handle with ⟨_ | t, cache⟩
      · rfl
      · dsimp only
        rw [Reading.run'_bind, Reading.run'_of]
        cases acceptAll c p t (pairs occs) _ <;> rfl

/-- **A property of a loop that succeeded**: its occurrences were read; without any, the rest of
the loop ran from there; otherwise its type was read, its occurrences became methods, and the
rest of the loop ran from there. -/
theorem acceptProperties_cons_eq_ok {m : MethodProvider} {c : ClassInfo} {p : PropertyInfo}
    {ps : List PropertyInfo} {acc acc' : Accepted} {cache cache' : Option OccurrenceCache}
    (h : Reading.run' (acceptProperties m c (p :: ps) acc) cache = (.ok acc', cache')) :
    ∃ occs cache₁, Reading.run' (occurrencesOf m p) cache = (.ok occs, cache₁) ∧
      ((occs.all (·.2.isEmpty) = true ∧
          Reading.run' (acceptProperties m c ps acc) cache₁ = (.ok acc', cache')) ∨
        (occs.all (·.2.isEmpty) = false ∧ ∃ t cache₂ acc₁,
          declaredType cache₁ p.handle = (.ok t, cache₂) ∧
          acceptAll c p t (pairs occs)
            { acc with props := acc.props ++ [⟨p.fieldName, p.goType, t⟩] } = .ok acc₁ ∧
          Reading.run' (acceptProperties m c ps acc₁) cache₂ = (.ok acc', cache'))) := by
  rw [run'_acceptProperties_cons] at h
  rcases hocc : Reading.run' (occurrencesOf m p) cache with ⟨_ | occs, cache₁⟩ <;>
    rw [hocc] at h
  · cases h
  refine ⟨occs, cache₁, rfl, ?_⟩
  dsimp only at h
  cases hall : occs.all (·.2.isEmpty) with
  | true =>
    rw [if_pos hall] at h
    exact .inl ⟨rfl, h⟩
  | false =>
    rw [if_neg (by simp [hall])] at h
    rcases htype : declaredType cache₁ p.handle with ⟨_ | t, cache₂⟩ <;> rw [htype] at h
    · cases h
    dsimp only at h
    split at h
    · cases h
    rename_i acc₁ hacc₁
    exact .inr ⟨rfl, t, cache₂, acc₁, rfl, hacc₁, h⟩

/-- Synthesis is the loop over the properties, from nothing accepted. -/
theorem run'_synthesize (m : MethodProvider) (c : ClassInfo) (cache : Option OccurrenceCache) :
    Reading.run' (c.synthesize m) cache =
      match Reading.run' (acceptProperties m c c.properties .empty) cache with
      | (.ok acc, cache) => (.ok ⟨c.name, c.packageName, c.typeName, acc.props, acc.methods⟩, cache)
      | (.error e, cache) => (.error e, cache) := by
  rw [ClassInfo.synthesize, Reading.run'_bind]
  rcases Reading.run' (acceptProperties m c c.properties .empty) cache with ⟨_ | acc, cache⟩ <;> rfl

end Synthesis
end Accessors
