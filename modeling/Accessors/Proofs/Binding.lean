import Accessors.Proofs.Synthesis.WellFormed
import Accessors.Proofs.Representation

/-!
# Synthesized classes bind

Binding checks a class again with rules of its own: every method names a known property, no
two methods share a name, and every object type resolves through the registry. On a class that
synthesis gives, the first two always hold, since its methods have distinct names and each
serves a property of the class (`Synthesis.wellFormed_of_synthesize`). So binding a synthesized
class depends on the registry alone: it succeeds exactly when every object type of its
properties resolves, and it fails only with the unresolved type of one of them.

The stages:

* `checkerFor_isOk_iff`: a type has a checker exactly when it is no object type or its name
  resolves, and `checkerFor_eq_error` says what a failure is;
* `bindProperties_isOk_iff` and `bindProperties_eq_error`: the properties bind when each has
  a checker, and fail at the first that has none; `bindProperties_lookup_isSome`: every property
  name then has a checker;
* `bindMethods_eq_ok`: methods of distinct names whose properties have checkers all bind, each
  under its own name to itself and the checker of its property.

Main statement: `bind_synthesized`.
-/

namespace Accessors

open Tag Synthesis

/-! ### Checkers -/

/-- A type has no checker only when it is an object type whose name does not resolve; the
failure names the element type. -/
theorem checkerFor_eq_error {t : DeclaredType} {reg : Registry} {e : Error}
    (h : checkerFor t reg = .error e) :
    (t.kind = .object ∨ t.kind = .arrayOfObject) ∧ reg.lookup t.element = none ∧
      e = Error.ofFault .unresolvedType t.elementDisplay := by
  unfold checkerFor at h
  split at h
  · cases h
  rename_i hobj
  cases hr : reg.lookup t.element with
  | some r =>
    rw [hr] at h
    cases h
  | none =>
    rw [hr] at h
    cases h
    refine ⟨?_, rfl, rfl⟩
    cases hk : t.kind <;> simp_all

/-- **A type has a checker** exactly when it is no object type or its element name
resolves. -/
theorem checkerFor_isOk_iff (t : DeclaredType) (reg : Registry) :
    (∃ ch, checkerFor t reg = .ok ch) ↔
      (t.kind = .object ∨ t.kind = .arrayOfObject → (reg.lookup t.element).isSome) := by
  constructor
  · rintro ⟨ch, h⟩ hobj
    unfold checkerFor at h
    rw [if_neg (by rcases hobj with hk | hk <;> simp [hk])] at h
    cases hr : reg.lookup t.element with
    | none =>
      rw [hr] at h
      cases h
    | some r => rfl
  · intro h
    cases hc : checkerFor t reg with
    | ok ch => exact ⟨ch, rfl⟩
    | error e =>
      obtain ⟨hobj, hnone, -⟩ := checkerFor_eq_error hc
      exact absurd (h hobj) (by simp [hnone])

/-! ### Binding properties -/

section Properties

variable {c : ClassSpec} {reg : Registry}

/-- Binding the properties fails at a property without a checker, wrapping its failure in the
class and property names. -/
theorem bindProperties_eq_error :
    ∀ {ps : List PropertySpec} {cs : List (String × Checker)} {vs : List (String × Value)}
      {e : Error}, bindProperties c reg ps cs vs = .error e →
      ∃ p ∈ ps, ∃ e', checkerFor p.type reg = .error e' ∧
        e = .wrapped ("class " ++ c.name ++ " property " ++ p.name ++ ": " ++ e'.message) e'
  | [], cs, vs, e, h => by cases h
  | p :: ps, cs, vs, e, h => by
    unfold bindProperties at h
    split at h
    · rename_i e' he'
      cases h
      exact ⟨p, List.mem_cons_self .., e', he', rfl⟩
    · obtain ⟨q, hq, e', he', rfl⟩ := bindProperties_eq_error h
      exact ⟨q, List.mem_cons_of_mem _ hq, e', he', rfl⟩

/-- **The properties bind** exactly when each of them has a checker. -/
theorem bindProperties_isOk_iff :
    ∀ {ps : List PropertySpec} {cs : List (String × Checker)} {vs : List (String × Value)},
      (∃ r, bindProperties c reg ps cs vs = .ok r) ↔ ∀ p ∈ ps, ∃ ch, checkerFor p.type reg = .ok ch
  | [], cs, vs => by simp [bindProperties]
  | p :: ps, cs, vs => by
    unfold bindProperties
    cases hp : checkerFor p.type reg with
    | error e => simp [hp]
    | ok ch =>
      dsimp only
      rw [bindProperties_isOk_iff, List.forall_mem_cons]
      exact ⟨fun h => ⟨⟨ch, hp⟩, h⟩, fun h => h.2⟩

/-- After binding, every property name has a checker, and so does every name that had one. -/
theorem bindProperties_lookup_isSome :
    ∀ {ps : List PropertySpec} {cs cs' : List (String × Checker)} {vs vs' : List (String × Value)}
      (k : String), bindProperties c reg ps cs vs = .ok (cs', vs') →
      ((cs.lookup k).isSome ∨ ∃ p ∈ ps, p.name = k) → (cs'.lookup k).isSome
  | [], cs, cs', vs, vs', k, h, hk => by
    cases h
    rcases hk with hk | ⟨p, hp, -⟩
    · exact hk
    · cases hp
  | p :: ps, cs, cs', vs, vs', k, h, hk => by
    unfold bindProperties at h
    split at h
    · cases h
    rename_i ch hch
    apply bindProperties_lookup_isSome k h
    rw [lookup_assocSet]
    by_cases hkp : k = p.name
    · exact .inl (by simp [hkp])
    · rcases hk with hk | ⟨q, hq, rfl⟩
      · exact .inl (by simpa [hkp] using hk)
      · rcases List.mem_cons.1 hq with rfl | hq
        · exact absurd rfl hkp
        · exact .inr ⟨q, hq, rfl⟩

end Properties

/-! ### Binding methods -/

section Methods

variable {c : ClassSpec} {checkers : List (String × Checker)}

/-- Binding methods only appends to what was bound before. -/
theorem bindMethods_prefix :
    ∀ {ms : List MethodSpec} {bs bs' : List (String × BoundMethod)},
      bindMethods c checkers ms bs = .ok bs' → ∃ rest, bs' = bs ++ rest
  | [], bs, bs', h => by
    cases h
    exact ⟨[], (List.append_nil bs).symm⟩
  | m :: ms, bs, bs', h => by
    unfold bindMethods at h
    split at h
    · cases h
    split at h
    · cases h
    obtain ⟨rest, rfl⟩ := bindMethods_prefix h
    exact ⟨_, List.append_assoc _ _ _⟩

/-- A name that is no key of a list is not found in it. -/
theorem lookup_eq_none_of_not_mem {α : Type} {l : List (String × α)} {k : String}
    (h : k ∉ l.map (·.1)) : l.lookup k = none := by
  rw [List.lookup_eq_none_iff]
  intro p hp
  have hne : k ≠ p.1 := fun hk => h (List.mem_map.2 ⟨p, hp, hk.symm⟩)
  simpa using hne

/-- **Methods of distinct names bind** when the property of each has a checker: each is bound
under its name, to itself and the checker of its property. -/
theorem bindMethods_eq_ok :
    ∀ {ms : List MethodSpec} {bs : List (String × BoundMethod)}, (ms.map (·.name)).Nodup →
      (∀ m ∈ ms, m.name ∉ bs.map (·.1)) → (∀ m ∈ ms, (checkers.lookup m.property).isSome) →
      ∃ bs', bindMethods c checkers ms bs = .ok bs' ∧
        ∀ m ∈ ms, ∃ ch, checkers.lookup m.property = some ch ∧ bs'.lookup m.name = some ⟨m, ch⟩
  | [], bs, _, _, _ => ⟨bs, rfl, nofun⟩
  | m :: ms, bs, hnodup, hfresh, hprop => by
    obtain ⟨ch, hch⟩ := Option.isSome_iff_exists.1 (hprop m (List.mem_cons_self ..))
    rw [List.map_cons, List.nodup_cons] at hnodup
    have hm : m.name ∉ bs.map (·.1) := hfresh m (List.mem_cons_self ..)
    have hnew : bs.any (·.1 == m.name) = false := by
      rw [List.any_eq_false]
      intro x hx hxm
      exact hm (List.mem_map.2 ⟨x, hx, by simpa using hxm⟩)
    -- the later methods are fresh for what is bound before them, this method included
    have hfresh' : ∀ m' ∈ ms, m'.name ∉ (bs ++ [(m.name, (⟨m, ch⟩ : BoundMethod))]).map (·.1) := by
      intro m' hm' hmem
      rw [List.map_append, List.mem_append] at hmem
      rcases hmem with hold | hnew
      · exact hfresh m' (List.mem_cons_of_mem _ hm') hold
      · rw [List.map_singleton, List.mem_singleton] at hnew
        exact hnodup.1 (List.mem_map.2 ⟨m', hm', hnew⟩)
    obtain ⟨bs', hrun, hlook⟩ :=
      bindMethods_eq_ok hnodup.2 hfresh' fun m' hm' => hprop m' (List.mem_cons_of_mem _ hm')
    refine ⟨bs', ?_, ?_⟩
    · unfold bindMethods
      rw [hch]
      simp only [hnew, Bool.false_eq_true, if_false]
      exact hrun
    · intro m' hm'
      rcases List.mem_cons.1 hm' with rfl | hm'
      · refine ⟨ch, hch, ?_⟩
        obtain ⟨rest, rfl⟩ := bindMethods_prefix hrun
        rw [List.lookup_append, List.lookup_append, lookup_eq_none_of_not_mem hm]
        simp
      · exact hlook m' hm'

end Methods

/-! ### Synthesized classes -/

/-- A specification that synthesis gives is well formed. -/
theorem Synthesis.wellFormed_of_synthesize {m : MethodProvider} {c : ClassInfo}
    {cache : Option OccurrenceCache} {k : ClassSpec}
    (h : (Reading.run' (c.synthesize m) cache).1 = .ok k) : WellFormed c k := by
  rw [run'_synthesize] at h
  rcases hrun : Reading.run' (acceptProperties m c c.properties .empty) cache with
    ⟨_ | acc, cache'⟩
  · rw [hrun] at h
    cases h
  rw [hrun] at h
  cases h
  obtain ⟨hs, hu⟩ := acceptProperties_sound m c c.properties hrun (Sound.empty c) Used.empty
  exact ⟨hs.toFits, hu⟩

/-- **Synthesis and binding agree.** For every class, method provider and memo table, the
specification that synthesis gives binds through a registry exactly when the element name of
every object type among its properties resolves. A failure is the unresolved element type of one
such property, never a duplicate method or a method of an unknown property; and the bound
instance dispatches each method name of the specification to that method, run with the checker
of a property of the method's property name. -/
theorem bind_synthesized (m : MethodProvider) (c : ClassInfo) (cache : Option OccurrenceCache)
    {k : ClassSpec} (hk : (Reading.run' (c.synthesize m) cache).1 = .ok k) (reg : Registry) :
    ((∃ i, Instance.bind k reg = .ok i) ↔
      ∀ q ∈ k.properties, q.type.kind = .object ∨ q.type.kind = .arrayOfObject →
        (reg.lookup q.type.element).isSome) ∧
    (∀ e, Instance.bind k reg = .error e → ∃ q ∈ k.properties,
      (q.type.kind = .object ∨ q.type.kind = .arrayOfObject) ∧ reg.lookup q.type.element = none ∧
      e = .wrapped ("class " ++ k.name ++ " property " ++ q.name ++ ": unresolved object type: " ++
        q.type.elementDisplay) (Error.ofFault .unresolvedType q.type.elementDisplay)) ∧
    (∀ i, Instance.bind k reg = .ok i → ∀ s ∈ k.methods, ∃ ch,
      i.methods.lookup s.name = some ⟨s, ch⟩ ∧ (∀ args, i.call s.name args true = i.run ⟨s, ch⟩ args) ∧
      ∃ q ∈ k.properties, q.name = s.property ∧ checkerFor q.type reg = .ok ch) := by
  have hwf := wellFormed_of_synthesize hk
  -- every method's property is a property of the specification
  have hserved : ∀ s ∈ k.methods, ∃ q ∈ k.properties, q.name = s.property := fun s hs =>
    (hwf.served s hs).imp fun q ⟨hq, hserves⟩ => ⟨hq, hserves.name_eq⟩
  -- once the properties bind, so do the methods
  have hmethods : ∀ {checkers values}, bindProperties k reg k.properties [] [] = .ok (checkers, values) →
      ∃ bs, bindMethods k checkers k.methods [] = .ok bs ∧ ∀ s ∈ k.methods, ∃ ch,
        checkers.lookup s.property = some ch ∧ bs.lookup s.name = some ⟨s, ch⟩ := by
    intro checkers values hprops
    refine bindMethods_eq_ok hwf.names_nodup (fun _ _ => List.not_mem_nil) ?_
    intro s hs
    obtain ⟨q, hq, hqs⟩ := hserved s hs
    exact bindProperties_lookup_isSome _ hprops (.inr ⟨q, hq, hqs⟩)
  refine ⟨?_, ?_, ?_⟩
  · -- binding succeeds exactly when the properties do
    have hbind : (∃ i, Instance.bind k reg = .ok i) ↔
        ∃ r, bindProperties k reg k.properties [] [] = .ok r := by
      unfold Instance.bind
      constructor
      · rintro ⟨i, hi⟩
        split at hi
        · cases hi
        · exact ⟨_, by assumption⟩
      · rintro ⟨⟨checkers, values⟩, hprops⟩
        obtain ⟨bs, hbs, -⟩ := hmethods hprops
        rw [hprops]
        dsimp only
        rw [hbs]
        exact ⟨_, rfl⟩
    rw [hbind, bindProperties_isOk_iff]
    exact forall₂_congr fun q _ => checkerFor_isOk_iff q.type reg
  · intro e he
    unfold Instance.bind at he
    split at he
    · rename_i e' hprops
      cases he
      obtain ⟨q, hq, e'', hcheck, rfl⟩ := bindProperties_eq_error hprops
      obtain ⟨hobj, hnone, rfl⟩ := checkerFor_eq_error hcheck
      refine ⟨q, hq, hobj, hnone, ?_⟩
      have htext : ": unresolved object type: " = ": " ++ ("unresolved object type" ++ ": ") := by
        decide
      simp only [Error.ofFault, Error.message, CallFault.text, htext, String.append_assoc]
    · rename_i checkers values hprops
      obtain ⟨bs, hbs, -⟩ := hmethods hprops
      rw [hbs] at he
      cases he
  · intro i hi s hs
    unfold Instance.bind at hi
    split at hi
    · cases hi
    rename_i checkers values hprops
    obtain ⟨bs, hbs, hlook⟩ := hmethods hprops
    rw [hbs] at hi
    cases hi
    obtain ⟨ch, hch, hb⟩ := hlook s hs
    refine ⟨ch, hb, fun args => by simp [Instance.call, hb], ?_⟩
    rcases Instance.bindProperties_checkers hprops _ _ hch with hq | hnone
    · exact hq
    · cases hnone

/-- A class whose one property holds a time, with a reader and a writer, synthesizes to a
specification that binds through the standard registry, which resolves `\time.Time`. -/
theorem bind_synthesized_created :
    ∃ k, (Reading.run' (ClassInfo.synthesize ⟨defaultMethodTags, true⟩
        ⟨"Post", "models", "example.com/models", "post.go", 3,
          [⟨"models.Post", "Created", "time.Time", false, "@Get\n@Set\n@var \\time.Time", "post.go", 4⟩],
          [], []⟩) (some Cache.empty)).1 = .ok k ∧
    ((∃ i, Instance.bind k Registry.standard = .ok i) ↔
      ∀ q ∈ k.properties, q.type.kind = .object ∨ q.type.kind = .arrayOfObject →
        (Registry.standard.lookup q.type.element).isSome) ∧
    (∀ e, Instance.bind k Registry.standard = .error e → ∃ q ∈ k.properties,
      (q.type.kind = .object ∨ q.type.kind = .arrayOfObject) ∧
      Registry.standard.lookup q.type.element = none ∧
      e = .wrapped ("class " ++ k.name ++ " property " ++ q.name ++ ": unresolved object type: " ++
        q.type.elementDisplay) (Error.ofFault .unresolvedType q.type.elementDisplay)) ∧
    (∀ i, Instance.bind k Registry.standard = .ok i → ∀ s ∈ k.methods, ∃ ch,
      i.methods.lookup s.name = some ⟨s, ch⟩ ∧ (∀ args, i.call s.name args true = i.run ⟨s, ch⟩ args) ∧
      ∃ q ∈ k.properties, q.name = s.property ∧ checkerFor q.type Registry.standard = .ok ch) := by
  have hk : (Reading.run' (ClassInfo.synthesize ⟨defaultMethodTags, true⟩
      ⟨"Post", "models", "example.com/models", "post.go", 3,
        [⟨"models.Post", "Created", "time.Time", false, "@Get\n@Set\n@var \\time.Time", "post.go", 4⟩],
        [], []⟩) (some Cache.empty)).1 =
      .ok ⟨"example.com/models.Post", "models", "Post",
        [⟨"Created", "time.Time", ⟨.object, false, "\\time.Time", "\\time.Time"⟩⟩],
        [⟨"getCreated", .get, "Created", .publicAccess, ""⟩,
          ⟨"setCreated", .set, "Created", .publicAccess, "time.Time"⟩]⟩ :=
    Except.eq_ok_of_toOption (by decide +kernel)
  exact ⟨_, hk, bind_synthesized _ _ _ hk Registry.standard⟩

end Accessors
