import Accessors.Proofs.Synthesis.Enumeration

/-!
# The memo table does not change what synthesis gives

Classes are synthesized one after another through one memo table of parsed documentation,
keyed by class and field name (`synthesizeAll`). The table is meant to save work only: each
class should synthesize to what it synthesizes to with no table at all. That holds whenever
the table agrees with the properties read through it (`Tag.Agrees`): in particular for a fresh
table, when properties of one key have one documentation. Two blank fields of one struct share
a key and break this: the second is read with the first one's documentation.

A reading is **transparent** for some properties (`Reading.Transparent`) when, through any table
that agrees with them, it gives what it gives with no table and leaves the table agreeing.
Transparency is kept by `pure`, `bind`, `ExceptT.adapt`, `List.mapM` and `if`, so it is proved
for each reading of synthesis once and assembled along the definitions:

* `Synthesis.occurrencesOf_transparent`, `Synthesis.declaredType_transparent`: the two reads of
  documentation;
* `Synthesis.acceptProperties_transparent`: the loop over properties, by induction on them;
* `synthesizeAll_eq_map`: the run over classes, by induction on the classes.

Main statement: `synthesizeAll_fresh_transparent`.
-/

namespace Accessors

open Tag

/-! ### Transparent readings -/

namespace Reading

variable {α β : Type} {hs : List Property}

/-- **A reading the memo table cannot change**: through any table that agrees with the
properties `hs` it gives what it gives with no table, and the table still agrees afterwards. -/
def Transparent (hs : List Property) (r : Reading α) : Prop :=
  ∀ cache, Agrees hs cache → (r.run' cache).1 = (r.run' none).1 ∧ Agrees hs (r.run' cache).2

theorem transparent_pure (a : α) : Transparent hs (pure a) :=
  fun _ hc => ⟨rfl, hc⟩

theorem transparent_of {f : Option OccurrenceCache → Except Error α × Option OccurrenceCache}
    (h : ∀ cache, Agrees hs cache → (f cache).1 = (f none).1 ∧ Agrees hs (f cache).2) :
    Transparent hs (Reading.of f) := h

/-- A computation that does not read the table is transparent. -/
theorem transparent_of_const (x : Except Error α) : Transparent hs (Reading.of fun cache => (x, cache)) :=
  fun _ hc => ⟨rfl, hc⟩

/-- **Transparency is kept by `bind`**: the first step gives the same value with or without the
table, and the rest then runs from a table that still agrees. -/
theorem Transparent.bind {r : Reading α} {f : α → Reading β} (hr : Transparent hs r)
    (hf : ∀ a, Transparent hs (f a)) : Transparent hs (r >>= f) := by
  intro cache hc
  obtain ⟨hval, hagree⟩ := hr cache hc
  obtain ⟨-, hagree₀⟩ := hr none trivial
  rw [run'_bind, run'_bind]
  rcases hrun : r.run' cache with ⟨_ | a, cache₁⟩ <;>
    rcases hrun₀ : r.run' none with ⟨_ | a₀, cache₀⟩ <;>
    rw [hrun, hrun₀] at hval <;> rw [hrun] at hagree <;> rw [hrun₀] at hagree₀ <;> cases hval
  · exact ⟨rfl, hagree⟩
  · -- the rest runs from two agreeing tables, and each run is the one with none
    exact ⟨((hf a cache₁ hagree).1).trans ((hf a cache₀ hagree₀).1).symm, (hf a cache₁ hagree).2⟩

theorem Transparent.adapt {r : Reading α} (g : Error → Error) (hr : Transparent hs r) :
    Transparent hs (ExceptT.adapt g r) := by
  intro cache hc
  obtain ⟨hval, hagree⟩ := hr cache hc
  rw [run'_adapt, run'_adapt]
  rcases hrun : r.run' cache with ⟨_ | a, cache₁⟩ <;>
    rcases hrun₀ : r.run' none with ⟨_ | a₀, cache₀⟩ <;>
    rw [hrun, hrun₀] at hval <;> rw [hrun] at hagree <;> cases hval <;> exact ⟨rfl, hagree⟩

theorem Transparent.ite {r₁ r₂ : Reading α} (b : Prop) [Decidable b] (h₁ : Transparent hs r₁)
    (h₂ : Transparent hs r₂) : Transparent hs (if b then r₁ else r₂) := by
  split
  · exact h₁
  · exact h₂

/-- **A loop of transparent readings is transparent.** -/
theorem transparent_mapM {γ : Type} (step : γ → Reading β) :
    ∀ (xs : List γ), (∀ x ∈ xs, Transparent hs (step x)) → Transparent hs (xs.mapM step)
  | [], _ => transparent_pure []
  | x :: xs, h => by
    rw [List.mapM_cons]
    exact (h x List.mem_cons_self).bind fun b =>
      (transparent_mapM step xs fun y hy => h y (List.mem_cons_of_mem _ hy)).bind fun bs =>
        transparent_pure (b :: bs)

end Reading

/-! ### The readings of synthesis -/

namespace Synthesis

variable {hs : List Property} {p : PropertyInfo}

/-- **Reading a property's occurrences** through an agreeing table is transparent. -/
theorem occurrencesOf_transparent (m : MethodProvider) (hp : p.handle ∈ hs) :
    Reading.Transparent hs (occurrencesOf m p) := by
  refine Reading.transparent_mapM _ _ fun op _ => ?_
  refine (Reading.transparent_of fun cache hc => ?_).bind fun os => Reading.transparent_pure _
  obtain ⟨hread, hagree⟩ := readOccurrences_agrees hc hp
  rw [MethodProvider.occurrences_of_ne m cache p.handle (verb_ne_varTag op),
    MethodProvider.occurrences_of_ne m none p.handle (verb_ne_varTag op), hread]
  exact ⟨rfl, hagree⟩

/-- **Reading a property's declared type** through an agreeing table is transparent. -/
theorem declaredType_transparent (hp : p.handle ∈ hs) :
    Reading.Transparent hs (Reading.of fun cache => declaredType cache p.handle) := by
  refine Reading.transparent_of fun cache hc => ?_
  obtain ⟨hread, hagree⟩ := readOccurrences_agrees hc hp
  unfold declaredType typeOccurrence
  rw [if_neg (by simp), if_neg (by simp)]
  rcases hr : readOccurrences cache p.handle with ⟨occs, cache'⟩
  rw [hr] at hread hagree
  have hnone : readOccurrences none p.handle = ((parseText p.handle.doc).1, none) := rfl
  dsimp only at hread hagree
  rw [hnone, hread]
  dsimp only
  cases declaredExpression (parseText p.handle.doc).1 <;> exact ⟨rfl, hagree⟩

/-- **The loop over properties is transparent**, by induction on the properties: each one is
read through the table, and the rest of the loop runs from a table that still agrees. -/
theorem acceptProperties_transparent (m : MethodProvider) (c : ClassInfo) :
    ∀ (ps : List PropertyInfo) (acc : Accepted), (∀ p ∈ ps, p.handle ∈ hs) →
      Reading.Transparent hs (acceptProperties m c ps acc)
  | [], acc, _ => Reading.transparent_pure acc
  | p :: ps, acc, hsub => by
    have hp : p.handle ∈ hs := hsub p List.mem_cons_self
    have hrest : ∀ q ∈ ps, q.handle ∈ hs := fun q hq => hsub q (List.mem_cons_of_mem _ hq)
    rw [acceptProperties]
    refine ((occurrencesOf_transparent m hp).adapt _).bind fun occs => ?_
    refine Reading.Transparent.ite _ (acceptProperties_transparent m c ps acc hrest) ?_
    refine ((declaredType_transparent hp).adapt _).bind fun t => ?_
    exact (Reading.transparent_of_const _).bind fun acc' =>
      acceptProperties_transparent m c ps acc' hrest

/-- **Synthesizing a class** through a table that agrees with its properties is transparent. -/
theorem synthesize_transparent (m : MethodProvider) (c : ClassInfo)
    (hsub : ∀ p ∈ c.properties, p.handle ∈ hs) : Reading.Transparent hs (c.synthesize m) :=
  (acceptProperties_transparent m c c.properties .empty hsub).bind fun _ => Reading.transparent_pure _

end Synthesis

/-! ### Classes one after another -/

/-- **Synthesis of classes one after another** through one memo table: the outcome of each
class, and the table after them all. -/
def synthesizeAll (m : MethodProvider) :
    List ClassInfo → Option OccurrenceCache → List (Except Error ClassSpec) × Option OccurrenceCache
  | [], cache => ([], cache)
  | c :: cs, cache =>
    let (r, cache) := (c.synthesize m).run' cache
    let (rs, cache) := synthesizeAll m cs cache
    (r :: rs, cache)

/-- The handles of the properties of some classes. -/
def handlesOf (classes : List ClassInfo) : List Property :=
  classes.flatMap fun c => c.properties.map (·.handle)

/-- **Through an agreeing table, each class synthesizes as with no table**, by induction on the
classes: each synthesis is transparent and leaves the table agreeing for the next. -/
theorem synthesizeAll_eq_map (m : MethodProvider) {hs : List Property} :
    ∀ (classes : List ClassInfo) (cache : Option OccurrenceCache),
      (∀ c ∈ classes, ∀ p ∈ c.properties, p.handle ∈ hs) → Agrees hs cache →
      (synthesizeAll m classes cache).1 = classes.map fun c => ((c.synthesize m).run' none).1
  | [], _, _, _ => rfl
  | c :: cs, cache, hsub, hc => by
    obtain ⟨hval, hagree⟩ :=
      Synthesis.synthesize_transparent m c (hsub c List.mem_cons_self) cache hc
    rw [synthesizeAll, List.map_cons]
    rcases hrun : (c.synthesize m).run' cache with ⟨r, cache₁⟩
    rw [hrun] at hval hagree
    dsimp only at hval hagree ⊢
    rw [← hval, ← synthesizeAll_eq_map m cs cache₁ (fun c' hc' => hsub c' (List.mem_cons_of_mem _ hc'))
      hagree]

/-- **The memo table is transparent.** Classes synthesized one after another through one fresh
table each give what they give with no table, class or error, as long as properties of one key
(class and field name) have one documentation. -/
theorem synthesizeAll_fresh_transparent (m : MethodProvider) (classes : List ClassInfo)
    (hkeys : ∀ p ∈ handlesOf classes, ∀ q ∈ handlesOf classes, p.key = q.key → p.doc = q.doc) :
    (synthesizeAll m classes (some Cache.empty)).1 =
      classes.map fun c => ((c.synthesize m).run' none).1 := by
  -- a fresh table has no entries, so it agrees with any properties whose keys fix their documentation
  have hfresh : Agrees (handlesOf classes) (some Cache.empty) :=
    agrees_some.2 ⟨hkeys, fun _ _ _ h => by cases h⟩
  refine synthesizeAll_eq_map m classes _ (fun c hc p hp => ?_) hfresh
  exact List.mem_flatMap.2 ⟨c, hc, List.mem_map_of_mem hp⟩

/-- Two classes of one package, each with a documented field, synthesize through one fresh table
as with none. -/
theorem synthesizeAll_fresh_transparent_post :
    let classes : List ClassInfo :=
      [⟨"Post", "models", "example.com/models", "post.go", 3,
          [⟨"models.Post", "Title", "string", false, "@Get\n@var string", "post.go", 4⟩], [], []⟩,
        ⟨"Tag", "models", "example.com/models", "tag.go", 3,
          [⟨"models.Tag", "Title", "string", false, "@Set\n@var string", "tag.go", 4⟩], [], []⟩]
    (∀ p ∈ handlesOf classes, ∀ q ∈ handlesOf classes, p.key = q.key → p.doc = q.doc) ∧
      (synthesizeAll ⟨defaultMethodTags, true⟩ classes (some Cache.empty)).1 =
        classes.map fun c => ((c.synthesize ⟨defaultMethodTags, true⟩).run' none).1 := by
  intro classes
  have hkeys : ∀ p ∈ handlesOf classes, ∀ q ∈ handlesOf classes, p.key = q.key → p.doc = q.doc := by
    decide
  exact ⟨hkeys, synthesizeAll_fresh_transparent _ _ hkeys⟩

end Accessors
