import Accessors.Proofs.Synthesis.Steps
import Accessors.Proofs.Cache

/-!
# Synthesis enumerates the documentation

The methods of a synthesized class are read off its properties' documentation in a fixed order:
the properties in declaration order, those without any accessor tag left out; within one, the
operations in canonical order; within one operation, its tags in document order. The reference
enumeration `Synthesis.enumerate` says so directly on the parsed documentation, with no memo
table, provider or loop in between; each property takes the type its first `@var` declares.

Between the documentation and synthesis stands the memo table. It is keyed by class and field
name, so two properties of one key (two blank fields) share one entry, and the second is read
as the first. Synthesis follows the reference whenever the table agrees with the class
(`Tag.Agrees`): no table, or one whose entries for the class's keys are the parsed
documentation of properties that agree on their key.

The stages:

* `Tag.readOccurrences_agrees`: reading through an agreeing table gives the parsed
  documentation and keeps the table agreeing;
* `Tag.MethodProvider.matching_eq_ok`: the provider answers the occurrences whose tag it maps
  to the operation, renamed, in document order;
* `Tag.declaredType_agrees`: the declared type is the parsed first word of the first `@var`;
* `Reading.run'_mapM`: a loop of readings keeps what each step keeps;
* `Synthesis.acceptProperties_enumerates`: the loop over properties follows the reference,
  by induction on the properties.

Main statement: `Synthesis.synthesize_enumerates`.
-/

namespace Accessors

open Tag

/-! ### Tables that agree with the documentation -/

namespace Tag

/-- **A memo table that agrees with some properties**: none, or a table where properties of
one key have one documentation, and the entry of each property's key, if any, is its parsed
documentation. -/
def Agrees (ps : List Property) : Option OccurrenceCache → Prop
  | none => True
  | some table =>
    (∀ p ∈ ps, ∀ q ∈ ps, p.key = q.key → p.doc = q.doc) ∧
      ∀ p ∈ ps, ∀ occs, table.find? p.key = some occs → occs = (parseText p.doc).1

theorem agrees_some {ps : List Property} {table : OccurrenceCache} :
    Agrees ps (some table) ↔
      (∀ p ∈ ps, ∀ q ∈ ps, p.key = q.key → p.doc = q.doc) ∧
        ∀ p ∈ ps, ∀ occs, table.find? p.key = some occs → occs = (parseText p.doc).1 :=
  Iff.rfl

/-- Reading through a table: a hit gives the entry, a miss parses and stores. -/
theorem readOccurrences_some (table : OccurrenceCache) (p : Property) :
    readOccurrences (some table) p =
      match table.find? p.key with
      | some occs => (occs, some (table.get p.key).2)
      | none => ((parseText p.doc).1, some ((table.get p.key).2.set p.key (parseText p.doc).1)) := by
  unfold readOccurrences Cache.getOrCompute Cache.get
  dsimp only
  cases table.find? p.key <;> rfl

/-- **Reading through an agreeing table** gives the parsed documentation, and the table still
agrees. -/
theorem readOccurrences_agrees {ps : List Property} {cache : Option OccurrenceCache}
    (hc : Agrees ps cache) {p : Property} (hp : p ∈ ps) :
    (readOccurrences cache p).1 = (parseText p.doc).1 ∧ Agrees ps (readOccurrences cache p).2 := by
  cases cache with
  | none => exact ⟨rfl, trivial⟩
  | some table =>
    obtain ⟨hdocs, hentries⟩ := agrees_some.1 hc
    rw [readOccurrences_some]
    cases hfind : table.find? p.key with
    | some occs =>
      refine ⟨hentries p hp occs hfind, agrees_some.2 ⟨hdocs, ?_⟩⟩
      intro q hq occs' hq'
      rw [Cache.find?_get] at hq'
      exact hentries q hq occs' hq'
    | none =>
      refine ⟨rfl, agrees_some.2 ⟨hdocs, ?_⟩⟩
      intro q hq occs' hq'
      rw [Cache.find?_set, Cache.find?_get] at hq'
      by_cases hkey : q.key = p.key
      · -- the stored entry is `p`'s documentation, which is `q`'s: they share the key
        rw [if_pos hkey] at hq'
        cases hq'
        rw [hdocs q hq p hp hkey]
      · rw [if_neg hkey] at hq'
        exact hentries q hq occs' hq'

/-- The type provider's expression: the first word of the first `@var`, when it has one. -/
theorem declaredExpression_eq (occs : List Occurrence) :
    declaredExpression occs = (occs.find? (·.name == varTag)).bind fun o =>
      if (firstWord o.value).isEmpty then none else some (firstWord o.value) := by
  induction occs with
  | nil => rfl
  | cons o occs ih =>
    unfold declaredExpression
    by_cases hvar : o.name = varTag
    · simp [hvar]
    · simp [hvar, ih]

/-- **The declared type** read through an agreeing table is the parsed expression of the
property's documentation; the table still agrees. -/
theorem declaredType_agrees {ps : List Property} {cache : Option OccurrenceCache}
    (hc : Agrees ps cache) {p : Property} (hp : p ∈ ps) :
    (declaredType cache p).1.toOption = (declaredExpression (parseText p.doc).1).map DeclaredType.parse ∧
      Agrees ps (declaredType cache p).2 := by
  obtain ⟨hread, hagrees⟩ := readOccurrences_agrees hc hp
  unfold declaredType typeOccurrence
  rw [if_neg (by simp)]
  rcases hr : readOccurrences cache p with ⟨occs, cache'⟩
  rw [hr] at hread hagrees
  dsimp only at hread hagrees ⊢
  rw [hread]
  cases declaredExpression (parseText p.doc).1 with
  | none => exact ⟨rfl, hagrees⟩
  | some w => exact ⟨rfl, hagrees⟩

namespace MethodProvider

/-- Asked for an operation rather than a type, the provider reads the documentation and
matches. -/
theorem occurrences_of_ne (m : MethodProvider) (cache : Option OccurrenceCache) (p : Property)
    {name : String} (h : name ≠ varTag) :
    m.occurrences cache p name =
      (m.matching p name (readOccurrences cache p).1, (readOccurrences cache p).2) := by
  unfold occurrences
  rw [if_neg (by simp [h])]

/-- **The provider's matches** are the occurrences whose tag it maps to the name, renamed to
it, in document order. -/
theorem matching_eq_ok {m : MethodProvider} {p : Property} {name : String} :
    ∀ {occs os : List Occurrence}, m.matching p name occs = .ok os →
      os = (occs.filter fun o => m.resolves o.name name).map (·.rename name)
  | [], os, h => by
    cases h
    rfl
  | o :: occs, os, h => by
    unfold matching at h
    by_cases hres : m.resolves o.name name = true
    · rw [if_neg (by simp [hres])] at h
      split at h
      · cases h
      · cases hrest : m.matching p name occs with
        | error e =>
          rw [hrest] at h
          cases h
        | ok rest =>
          rw [hrest] at h
          cases h
          rw [matching_eq_ok hrest]
          simp [hres]
    · rw [if_pos (by simpa using hres)] at h
      rw [matching_eq_ok h]
      simp [hres]

end MethodProvider
end Tag

/-! ### Loops of readings -/

namespace Reading

variable {γ β : Type}

/-- **A loop of readings** keeps an invariant of the table that each step keeps, and when each
step gives its value, the loop gives all of them in order. -/
theorem run'_mapM (inv : Option OccurrenceCache → Prop) (step : γ → Reading β) (g : γ → β)
    (hstep : ∀ x cache, inv cache → inv (Reading.run' (step x) cache).2 ∧
      ∀ b, (Reading.run' (step x) cache).1 = .ok b → b = g x) :
    ∀ (xs : List γ) (cache : Option OccurrenceCache), inv cache →
      inv (Reading.run' (xs.mapM step) cache).2 ∧
        ∀ bs, (Reading.run' (xs.mapM step) cache).1 = .ok bs → bs = xs.map g
  | [], cache, hinv => by
    refine ⟨hinv, ?_⟩
    intro bs hbs
    cases hbs
    rfl
  | x :: xs, cache, hinv => by
    obtain ⟨hinv₁, hval₁⟩ := hstep x cache hinv
    rw [List.mapM_cons, run'_bind]
    rcases hrun : Reading.run' (step x) cache with ⟨_ | b, cache₁⟩
    · rw [hrun] at hinv₁
      exact ⟨hinv₁, fun _ h => by cases h⟩
    · rw [hrun] at hinv₁ hval₁
      have hb : b = g x := hval₁ b rfl
      obtain ⟨hinv₂, hval₂⟩ := run'_mapM inv step g hstep xs cache₁ hinv₁
      dsimp only
      rw [run'_bind]
      rcases hrest : Reading.run' (xs.mapM step) cache₁ with ⟨_ | bs, cache₂⟩
      · rw [hrest] at hinv₂
        exact ⟨hinv₂, fun _ h => by cases h⟩
      · rw [hrest] at hinv₂ hval₂
        refine ⟨hinv₂, ?_⟩
        intro bs' hbs'
        cases hbs'
        rw [hb, hval₂ bs rfl]
        rfl

end Reading

/-! ### The reference enumeration -/

namespace Synthesis

/-- The occurrences of a documentation text whose tag the provider maps to an operation, in
document order. -/
def taggedWith (m : MethodProvider) (op : Operation) (doc : String) : List Occurrence :=
  (parseText doc).1.filter fun o => m.resolves o.name op.verb

/-- Whether a property's documentation has a tag that the provider maps to some operation. -/
def hasAccessors (m : MethodProvider) (p : PropertyInfo) : Bool :=
  Operation.all.any fun op => !(taggedWith m op p.doc).isEmpty

/-- The type a property declares: the parsed first word of its first `@var`, none when that
word is missing. -/
def referenceType (p : PropertyInfo) : Option DeclaredType :=
  ((parseText p.doc).1.find? (·.name == varTag)).bind fun o =>
    if (firstWord o.value).isEmpty then none else some (DeclaredType.parse (firstWord o.value))

/-- The method of one occurrence: the verb and the subject, the visibility it declares, and the
argument type of the operation. -/
def referenceMethod (p : PropertyInfo) (t : DeclaredType) (op : Operation) (o : Occurrence) :
    MethodSpec :=
  ⟨methodName op (subjectName p o), op, p.fieldName, declaredVisibility o, expectedType op t⟩

/-- The methods of one property: the operations in canonical order, and for each one method per
occurrence, in document order. -/
def referenceMethods (m : MethodProvider) (p : PropertyInfo) (t : DeclaredType) :
    List MethodSpec :=
  Operation.all.flatMap fun op => (taggedWith m op p.doc).map (referenceMethod p t op)

/-- **The reference enumeration** of some properties: those with accessors, in order, each with
its declared type, and the concatenation of their methods; none when one of them declares no
type. -/
def enumerate (m : MethodProvider) (ps : List PropertyInfo) :
    Option (List PropertySpec × List MethodSpec) := do
  let typed ← (ps.filter (hasAccessors m)).mapM fun p => (referenceType p).map (p, ·)
  pure (typed.map fun (p, t) => ⟨p.fieldName, p.goType, t⟩,
    typed.flatMap fun (p, t) => referenceMethods m p t)

theorem enumerate_cons_skip {m : MethodProvider} {p : PropertyInfo} (ps : List PropertyInfo)
    (h : hasAccessors m p = false) : enumerate m (p :: ps) = enumerate m ps := by
  simp [enumerate, h]

theorem enumerate_cons_typed {m : MethodProvider} {p : PropertyInfo} {t : DeclaredType}
    (ps : List PropertyInfo) (h : hasAccessors m p = true) (ht : referenceType p = some t) :
    enumerate m (p :: ps) = (enumerate m ps).map fun e =>
      (⟨p.fieldName, p.goType, t⟩ :: e.1, referenceMethods m p t ++ e.2) := by
  unfold enumerate
  rw [List.filter_cons_of_pos h, List.mapM_cons, ht]
  cases (ps.filter (hasAccessors m)).mapM fun p => (referenceType p).map (p, ·) <;> rfl

/-- The renamed occurrence gives the same method: the name and visibility come from its fields. -/
@[simp] theorem referenceMethod_rename (p : PropertyInfo) (t : DeclaredType) (op : Operation)
    (o : Occurrence) (name : String) :
    referenceMethod p t op (o.rename name) = referenceMethod p t op o := rfl

/-- The reference type is the type provider's expression, parsed. -/
theorem referenceType_eq (p : PropertyInfo) :
    referenceType p = (declaredExpression (parseText p.doc).1).map DeclaredType.parse := by
  rw [declaredExpression_eq, referenceType]
  cases (parseText p.doc).1.find? (·.name == varTag) with
  | none => rfl
  | some o =>
    dsimp only [Option.bind_some]
    split <;> rfl

/-- No operation is asked for under the reserved tag of types. -/
theorem verb_ne_varTag (op : Operation) : op.verb ≠ varTag := by
  cases op <;> simp [Operation.verb, varTag]

/-! ### Synthesis follows the reference -/

/-- **The occurrences of one property**, read through an agreeing table: for each operation in
canonical order, its tagged occurrences in document order. -/
theorem run'_occurrencesOf (m : MethodProvider) {hs : List Property}
    {cache : Option OccurrenceCache} (hc : Agrees hs cache) {p : PropertyInfo}
    (hp : p.handle ∈ hs) :
    Agrees hs (Reading.run' (occurrencesOf m p) cache).2 ∧
      ∀ occs, (Reading.run' (occurrencesOf m p) cache).1 = .ok occs →
        occs = Operation.all.map fun op => (op, (taggedWith m op p.doc).map (·.rename op.verb)) := by
  unfold occurrencesOf
  refine Reading.run'_mapM (Agrees hs) _ _ ?_ Operation.all cache hc
  intro op cache hc
  obtain ⟨hread, hagrees⟩ := readOccurrences_agrees hc hp
  rw [Reading.run'_bind, Reading.run'_of,
    MethodProvider.occurrences_of_ne m cache p.handle (verb_ne_varTag op), hread]
  cases hmatch : m.matching p.handle op.verb (parseText p.handle.doc).1 with
  | error e => exact ⟨hagrees, fun _ h => by cases h⟩
  | ok os =>
    refine ⟨hagrees, ?_⟩
    intro b hb
    cases hb
    rw [MethodProvider.matching_eq_ok hmatch]
    rfl

/-- A property's occurrences are all empty exactly when it has no accessors. -/
theorem all_isEmpty_eq (m : MethodProvider) (p : PropertyInfo) :
    (Operation.all.map fun op => (op, (taggedWith m op p.doc).map (·.rename op.verb))).all
      (·.2.isEmpty) = !hasAccessors m p := by
  simp [hasAccessors, Operation.all]

/-- The methods that the occurrences of one property become are its reference methods. -/
theorem methods_of_accepted {m : MethodProvider} {p : PropertyInfo} {t : DeclaredType}
    {specs : List MethodSpec}
    (hall : List.Forall₂ (fun x s => method x.1 p t x.2 = .ok s)
      (pairs (Operation.all.map fun op => (op, (taggedWith m op p.doc).map (·.rename op.verb))))
      specs) :
    specs = referenceMethods m p t := by
  have heq : List.Forall₂ (· = ·)
      ((pairs (Operation.all.map fun op => (op, (taggedWith m op p.doc).map (·.rename op.verb)))).map
        fun x => referenceMethod p t x.1 x.2) specs :=
    List.forall₂_map_left_iff.2 (hall.imp fun _ _ hs => (method_eq_ok hs).1.symm)
  rw [List.forall₂_eq_eq_eq] at heq
  rw [← heq]
  simp [pairs, referenceMethods, List.map_flatMap, List.flatMap_map, Function.comp_def]

/-- **The loop over properties follows the reference**, by induction on the properties: a
property without accessors is passed over, and one with accessors adds its declared type and
its reference methods. The table keeps agreeing throughout. -/
theorem acceptProperties_enumerates (m : MethodProvider) (c : ClassInfo) {hs : List Property} :
    ∀ {ps : List PropertyInfo} {acc acc' : Accepted} {cache cache' : Option OccurrenceCache},
      (∀ p ∈ ps, p.handle ∈ hs) → Agrees hs cache →
      Reading.run' (acceptProperties m c ps acc) cache = (.ok acc', cache') →
      ∃ props methods, enumerate m ps = some (props, methods) ∧
        acc'.props = acc.props ++ props ∧ acc'.methods = acc.methods ++ methods
  | [], acc, acc', cache, cache', _, _, h => by
    rw [acceptProperties, Reading.run'_pure] at h
    cases h
    exact ⟨[], [], rfl, by simp, by simp⟩
  | p :: ps, acc, acc', cache, cache', hsub, hc, h => by
    have hp : p.handle ∈ hs := hsub p List.mem_cons_self
    have hrest : ∀ q ∈ ps, q.handle ∈ hs := fun q hq => hsub q (List.mem_cons_of_mem _ hq)
    obtain ⟨occs, cache₁, hrun, hstep⟩ := acceptProperties_cons_eq_ok h
    obtain ⟨hc₁, hoccs⟩ := run'_occurrencesOf m hc hp
    rw [hrun] at hc₁ hoccs
    have hocc := hoccs occs rfl
    rcases hstep with ⟨hall, hloop⟩ | ⟨hall, t, cache₂, acc₁, hdecl, hone, hloop⟩
    · -- no accessors: the property is passed over, and so is it by the reference
      have hskip : hasAccessors m p = false := by
        rw [hocc, all_isEmpty_eq] at hall
        simpa using hall
      rw [enumerate_cons_skip ps hskip]
      exact acceptProperties_enumerates m c hrest hc₁ hloop
    · have hacc : hasAccessors m p = true := by
        rw [hocc, all_isEmpty_eq] at hall
        simpa using hall
      obtain ⟨htype, hc₂⟩ := declaredType_agrees hc₁ hp
      rw [hdecl] at htype hc₂
      -- the type read through the table is the reference type
      have hreft : referenceType p = some t := by
        rw [referenceType_eq]
        exact htype.symm
      obtain ⟨hprops₁, specs, hspecs, hmethods₁, -⟩ := acceptAll_eq_ok hone
      rw [hocc] at hspecs
      obtain ⟨props, methods, henum, hprops, hmethods⟩ :=
        acceptProperties_enumerates m c hrest hc₂ hloop
      refine ⟨⟨p.fieldName, p.goType, t⟩ :: props, referenceMethods m p t ++ methods, ?_, ?_, ?_⟩
      · rw [enumerate_cons_typed ps hacc hreft, henum]
        rfl
      · rw [hprops, hprops₁]
        simp
      · rw [hmethods, hmethods₁, methods_of_accepted hspecs]
        simp

/-- **Synthesis follows the reference enumeration.** Reading through no memo table, or through
one that agrees with the class's properties, a class that synthesizes has exactly the
properties and methods of the reference enumeration: the properties with accessor tags in
declaration order, each with the parsed first word of its first `@var`; and for each of them
in turn, for each operation in canonical order, one method per tag of the operation in
document order, named after the verb and the first `name` field (or the field name), with the
first `visibility` field (or public). So synthesis fails when a property with accessors
declares no type. -/
theorem synthesize_enumerates (m : MethodProvider) (c : ClassInfo)
    {cache : Option OccurrenceCache} (hcache : Agrees (c.properties.map (·.handle)) cache)
    {k : ClassSpec} (h : (Reading.run' (c.synthesize m) cache).1 = .ok k) :
    enumerate m c.properties = some (k.properties, k.methods) := by
  rw [run'_synthesize] at h
  rcases hrun : Reading.run' (acceptProperties m c c.properties .empty) cache with
    ⟨_ | acc, cache'⟩
  · rw [hrun] at h
    cases h
  rw [hrun] at h
  cases h
  obtain ⟨props, methods, henum, hprops, hmethods⟩ :=
    acceptProperties_enumerates m c (fun p hp => List.mem_map_of_mem hp) hcache hrun
  rw [henum, hprops, hmethods]
  rfl

/-- Through a fresh table, a class with a property of two accessor tags and one without any
synthesizes to the reference enumeration: the second property is left out, the getter comes
before the private setter. -/
theorem synthesize_enumerates_post :
    Agrees [⟨"models.Post", "Title", "@Get\n@Set(visibility=\"private\")\n@var string"⟩,
        ⟨"models.Post", "ID", "just an id"⟩] (some Cache.empty) ∧
      (Reading.run' (ClassInfo.synthesize ⟨defaultMethodTags, true⟩
        ⟨"Post", "models", "example.com/models", "post.go", 3,
          [⟨"models.Post", "Title", "string", false,
              "@Get\n@Set(visibility=\"private\")\n@var string", "post.go", 4⟩,
            ⟨"models.Post", "ID", "int", false, "just an id", "post.go", 5⟩], [], []⟩)
        (some Cache.empty)).1 =
        .ok ⟨"example.com/models.Post", "models", "Post",
          [⟨"Title", "string", ⟨.scalar, false, "string", "string"⟩⟩],
          [⟨"getTitle", .get, "Title", .publicAccess, ""⟩,
            ⟨"setTitle", .set, "Title", .privateAccess, "string"⟩]⟩ ∧
      enumerate ⟨defaultMethodTags, true⟩
        [⟨"models.Post", "Title", "string", false,
            "@Get\n@Set(visibility=\"private\")\n@var string", "post.go", 4⟩,
          ⟨"models.Post", "ID", "int", false, "just an id", "post.go", 5⟩] =
        some ([⟨"Title", "string", ⟨.scalar, false, "string", "string"⟩⟩],
          [⟨"getTitle", .get, "Title", .publicAccess, ""⟩,
            ⟨"setTitle", .set, "Title", .privateAccess, "string"⟩]) := by
  have hagrees : Agrees [⟨"models.Post", "Title", "@Get\n@Set(visibility=\"private\")\n@var string"⟩,
      ⟨"models.Post", "ID", "just an id"⟩] (some Cache.empty) :=
    agrees_some.2 ⟨by decide, fun _ _ _ h => by cases h⟩
  refine ⟨hagrees, ?run, synthesize_enumerates _ _ (by exact hagrees) ?run⟩
  exact Except.eq_ok_of_toOption (by decide +kernel)

end Synthesis
end Accessors
