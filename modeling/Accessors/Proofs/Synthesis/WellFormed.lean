import Accessors.Proofs.Synthesis.Steps
import Mathlib.Data.List.Nodup

/-!
# Synthesized classes are well formed

Whatever the fields, the documentation and the hand-written methods of a class, and whatever the
map from tags to operations, a class specification that synthesis gives is well formed
(`WellFormed`):

* the names of its methods are pairwise distinct, and so are their identifiers;
* every identifier is a valid name, and no hand-written method and no field of the class is
  called by it;
* every method is served by a property of the specification: a sequence operation by a property
  of sequence type, and the expected type of its argument is nothing for a reader, the whole
  type for a writer and the element type for a sequence operation;
* every property has a method.

When synthesis fails, its error is the generation error of the class at one of its properties,
in the stage `synthesize`; no partial specification is given.

The loop over occurrences keeps the invariant `Sound`, because a method joins only after
`clash?` found it free (`acceptAll_sound`); the loop over properties keeps it, and gives every
property it keeps at least one method (`acceptProperties_sound`).

Main statement: `synthesize_wellFormed`.
-/

namespace Accessors.Synthesis

open Tag

/-! ### Well-formed specifications -/

/-- **How a property serves a method**: it is the method's property, it has a sequence type when
the operation works on sequences, and the method's argument is checked against nothing for a
reader, the whole type for a writer and the element type for a sequence operation. -/
structure Serves (s : MethodSpec) (q : PropertySpec) : Prop where
  name_eq : q.name = s.property
  collection : s.operation = .add ∨ s.operation = .remove ∨ s.operation = .contains →
    q.type.kind = .arrayOfScalar ∨ q.type.kind = .arrayOfObject
  expected_get : s.operation = .get → s.expected = ""
  expected_set : s.operation = .set → s.expected = q.type.display
  expected_element : s.operation = .add ∨ s.operation = .remove ∨ s.operation = .contains →
    s.expected = q.type.elementDisplay

/-- **Methods that fit a class**: pairwise distinct in name and in identifier, each identifier
valid and free of the hand-written methods and the fields of the class, and each method served
by one of the properties. -/
structure Fits (c : ClassInfo) (props : List PropertySpec) (methods : List MethodSpec) : Prop where
  names_nodup : (methods.map (·.name)).Nodup
  identifiers_nodup : (methods.map (·.identifier)).Nodup
  identifier_valid : ∀ s ∈ methods, Text.isIdentifier s.identifier = true
  not_handwritten : ∀ s ∈ methods, s.identifier ∉ c.methods
  not_field : ∀ s ∈ methods, ∀ q ∈ c.properties, q.fieldName ≠ s.identifier
  served : ∀ s ∈ methods, ∃ q ∈ props, Serves s q

/-- **A well-formed specification** of a class: its methods fit the class, and each of its
properties has a method. -/
structure WellFormed (c : ClassInfo) (k : ClassSpec) : Prop extends Fits c k.properties k.methods where
  used : ∀ q ∈ k.properties, ∃ s ∈ k.methods, s.property = q.name

/-- **A failure of synthesis** at a property of a class: the generation error of the class and
the property, in the stage `synthesize`. -/
def FailsAt (cls prop : String) (e : Error) : Prop :=
  ∃ c cause, e = .generation c cause cls prop "synthesize"

/-! ### The steps keep the invariant -/

/-- The method of an occurrence is served by the property it was made for. -/
theorem serves_of_method {op : Operation} {p : PropertyInfo} {t : DeclaredType} {o : Occurrence}
    {spec : MethodSpec} (h : method op p t o = .ok spec) : Serves spec ⟨p.fieldName, p.goType, t⟩ := by
  obtain ⟨rfl, hcoll, -⟩ := method_eq_ok h
  have hseq : op = .add ∨ op = .remove ∨ op = .contains →
      t.kind = .arrayOfScalar ∨ t.kind = .arrayOfObject := by
    intro hop
    have hreq : op.requiresCollection = true := by
      rcases hop with rfl | rfl | rfl <;> rfl
    simpa [DeclaredType.isCollection] using hcoll hreq
  refine ⟨rfl, hseq, ?_, ?_, ?_⟩
  · intro hop
    subst hop
    rfl
  · intro hop
    subst hop
    rfl
  · rintro (rfl | rfl | rfl) <;> rfl

/-- The invariant of the loops: the accepted methods fit the class, and the pairs that `clash?`
consults are the names and identifiers of the accepted methods. -/
structure Sound (c : ClassInfo) (acc : Accepted) : Prop extends Fits c acc.props acc.methods where
  taken_eq : acc.taken = acc.methods.map fun s => (s.name, s.identifier)

/-- Every accepted property has an accepted method. -/
def Used (acc : Accepted) : Prop := ∀ q ∈ acc.props, ∃ s ∈ acc.methods, s.property = q.name

theorem Sound.empty (c : ClassInfo) : Sound c .empty :=
  ⟨⟨List.nodup_nil, List.nodup_nil, nofun, nofun, nofun, nofun⟩, rfl⟩

theorem Used.empty : Used .empty := nofun

/-- A name or identifier that `clash?` did not find among the pairs is no accepted method's. -/
theorem not_mem_map_of_taken {acc : Accepted} {f : MethodSpec → String} {g : String × String → String}
    {x : String} (htaken : acc.taken = acc.methods.map fun s => (s.name, s.identifier))
    (hg : ∀ s, g (s.name, s.identifier) = f s) (hfree : ∀ y ∈ acc.taken, g y ≠ x) :
    x ∉ acc.methods.map f := by
  intro hx
  obtain ⟨s, hs, rfl⟩ := List.mem_map.1 hx
  apply hfree (s.name, s.identifier) (htaken ▸ List.mem_map_of_mem hs)
  exact hg s

/-- **One method joins**: a method made for an accepted property, free of every clash, keeps the
invariant. -/
theorem Sound.accept {c : ClassInfo} {acc : Accepted} {op : Operation} {p : PropertyInfo}
    {t : DeclaredType} {o : Occurrence} {spec : MethodSpec} (hs : Sound c acc)
    (hq : (⟨p.fieldName, p.goType, t⟩ : PropertySpec) ∈ acc.props)
    (hspec : method op p t o = .ok spec) (hclash : clash? c acc.taken spec = none) :
    Sound c { acc with methods := acc.methods ++ [spec],
                       taken := acc.taken ++ [(spec.name, spec.identifier)] } := by
  obtain ⟨hname, hid, hmethod, hfield⟩ := clash?_eq_none hclash
  obtain ⟨-, -, hvalid⟩ := method_eq_ok hspec
  have hname' : spec.name ∉ acc.methods.map (·.name) :=
    not_mem_map_of_taken hs.taken_eq (fun _ => rfl) hname
  have hid' : spec.identifier ∉ acc.methods.map (·.identifier) :=
    not_mem_map_of_taken hs.taken_eq (fun _ => rfl) hid
  refine ⟨⟨?_, ?_, ?_, ?_, ?_, ?_⟩, ?_⟩
  · rw [List.map_append, List.map_singleton, ← List.concat_eq_append]
    exact hs.names_nodup.concat hname'
  · rw [List.map_append, List.map_singleton, ← List.concat_eq_append]
    exact hs.identifiers_nodup.concat hid'
  · intro s hmem
    rcases List.mem_append.1 hmem with hold | hnew
    · exact hs.identifier_valid s hold
    · rw [List.mem_singleton.1 hnew]
      exact hvalid
  · intro s hmem
    rcases List.mem_append.1 hmem with hold | hnew
    · exact hs.not_handwritten s hold
    · rw [List.mem_singleton.1 hnew]
      exact hmethod
  · intro s hmem
    rcases List.mem_append.1 hmem with hold | hnew
    · exact hs.not_field s hold
    · rw [List.mem_singleton.1 hnew]
      exact hfield
  · intro s hmem
    rcases List.mem_append.1 hmem with hold | hnew
    · exact hs.served s hold
    · rw [List.mem_singleton.1 hnew]
      exact ⟨_, hq, serves_of_method hspec⟩
  · rw [hs.taken_eq, List.map_append, List.map_singleton]

/-- A new property keeps the invariant: the accepted methods are still served. -/
theorem Sound.addProperty {c : ClassInfo} {acc : Accepted} (hs : Sound c acc) (q : PropertySpec) :
    Sound c { acc with props := acc.props ++ [q] } :=
  ⟨⟨hs.names_nodup, hs.identifiers_nodup, hs.identifier_valid, hs.not_handwritten, hs.not_field,
    fun s hmem => (hs.served s hmem).imp fun _ ⟨hq, hserves⟩ => ⟨List.mem_append_left _ hq, hserves⟩⟩,
    hs.taken_eq⟩

/-- **The loop over occurrences keeps the invariant**, for a property that is already accepted. -/
theorem acceptAll_sound {c : ClassInfo} {p : PropertyInfo} {t : DeclaredType} :
    ∀ {occs : List (Operation × Occurrence)} {acc acc' : Accepted},
      acceptAll c p t occs acc = .ok acc' →
      (⟨p.fieldName, p.goType, t⟩ : PropertySpec) ∈ acc.props → Sound c acc → Sound c acc'
  | [], acc, acc', h, _, hs => by
    cases h
    exact hs
  | (op, o) :: rest, acc, acc', h, hq, hs => by
    unfold acceptAll at h
    split at h
    · cases h
    rename_i spec hspec
    split at h
    · cases h
    rename_i hclash
    exact acceptAll_sound h hq (hs.accept hq hspec hclash)

/-- The loop over occurrences fails at its property. -/
theorem acceptAll_failsAt {c : ClassInfo} {p : PropertyInfo} {t : DeclaredType} :
    ∀ {occs : List (Operation × Occurrence)} {acc : Accepted} {e : Error},
      acceptAll c p t occs acc = .error e → FailsAt c.name p.fieldName e
  | [], acc, e, h => by cases h
  | (op, o) :: rest, acc, e, h => by
    unfold acceptAll at h
    split at h
    · cases h
      exact ⟨_, _, rfl⟩
    split at h
    · cases h
      exact ⟨_, _, rfl⟩
    · exact acceptAll_failsAt h

/-! ### The loop over properties -/

/-- **A property with occurrences gets methods**: after the loop over its occurrences it has an
accepted method, and the accepted properties before it keep theirs. -/
theorem Used.acceptAll {c : ClassInfo} {p : PropertyInfo} {t : DeclaredType}
    {occs : List (Operation × List Occurrence)} {acc acc' : Accepted} (hu : Used acc)
    (hsome : occs.all (·.2.isEmpty) = false)
    (h : acceptAll c p t (pairs occs) { acc with props := acc.props ++ [⟨p.fieldName, p.goType, t⟩] }
      = .ok acc') : Used acc' := by
  obtain ⟨hprops, specs, hall, hmethods, -⟩ := acceptAll_eq_ok h
  intro q hq
  rw [hprops] at hq
  rw [hmethods]
  rcases List.mem_append.1 hq with hold | hnew
  · obtain ⟨s, hs, hsq⟩ := hu q hold
    exact ⟨s, List.mem_append_left _ hs, hsq⟩
  · -- the new property: its first occurrence became a method for it
    rw [List.mem_singleton.1 hnew]
    obtain ⟨x, rest, hx⟩ := List.exists_cons_of_ne_nil
      (fun hnil => by rw [pairs_eq_nil_iff.1 hnil] at hsome; cases hsome)
    rw [hx] at hall
    obtain ⟨s, specs', hxs, -, rfl⟩ := List.forall₂_cons_left_iff.1 hall
    exact ⟨s, List.mem_append_right _ (List.mem_cons_self ..), (method_eq_ok hxs).1 ▸ rfl⟩

/-- **The loop over properties keeps the invariant**, and every property it accepts has a
method. -/
theorem acceptProperties_sound (m : MethodProvider) (c : ClassInfo) :
    ∀ (ps : List PropertyInfo) {acc acc' : Accepted} {cache cache' : Option OccurrenceCache},
      Reading.run' (acceptProperties m c ps acc) cache = (.ok acc', cache') →
      Sound c acc → Used acc → Sound c acc' ∧ Used acc'
  | [], acc, acc', cache, cache', h, hs, hu => by
    cases h
    exact ⟨hs, hu⟩
  | p :: ps, acc, acc', cache, cache', h, hs, hu => by
    obtain ⟨occs, cache₁, -, ⟨-, hrest⟩ | ⟨hsome, t, cache₂, acc₁, -, hacc₁, hrest⟩⟩ :=
      acceptProperties_cons_eq_ok h
    · exact acceptProperties_sound m c ps hrest hs hu
    · -- the property joins, then its methods one at a time
      have hs₁ : Sound c acc₁ :=
        acceptAll_sound hacc₁ (List.mem_append_right _ (List.mem_singleton_self _))
          (hs.addProperty _)
      exact acceptProperties_sound m c ps hrest hs₁ (hu.acceptAll hsome hacc₁)

/-- **The loop over properties fails at one of them.** -/
theorem acceptProperties_failsAt (m : MethodProvider) (c : ClassInfo) :
    ∀ (ps : List PropertyInfo) {acc : Accepted} {e : Error} {cache cache' : Option OccurrenceCache},
      Reading.run' (acceptProperties m c ps acc) cache = (.error e, cache') →
      ∃ p ∈ ps, FailsAt c.name p.fieldName e
  | [], acc, e, cache, cache', h => by cases h
  | p :: ps, acc, e, cache, cache', h => by
    rw [run'_acceptProperties_cons] at h
    rcases hocc : Reading.run' (occurrencesOf m p) cache with ⟨e' | occs, cache₁⟩ <;>
      rw [hocc] at h
    · -- the occurrences could not be read
      cases h
      exact ⟨p, List.mem_cons_self .., _, _, rfl⟩
    dsimp only at h
    split at h
    · obtain ⟨q, hq, hfail⟩ := acceptProperties_failsAt m c ps h
      exact ⟨q, List.mem_cons_of_mem _ hq, hfail⟩
    rcases htype : declaredType cache₁ p.handle with ⟨e' | t, cache₂⟩ <;> rw [htype] at h
    · -- no declared type
      cases h
      exact ⟨p, List.mem_cons_self .., _, _, rfl⟩
    dsimp only at h
    split at h
    · -- an occurrence did not become a method
      cases h
      exact ⟨p, List.mem_cons_self .., acceptAll_failsAt (by assumption)⟩
    · obtain ⟨q, hq, hfail⟩ := acceptProperties_failsAt m c ps h
      exact ⟨q, List.mem_cons_of_mem _ hq, hfail⟩

/-! ### Synthesis -/

/-- **Synthesis gives well-formed specifications.** For every class, every method provider and
every memo table, a specification that synthesis gives is well formed for the class; a failure
is the generation error of the class at one of its properties, in the stage `synthesize`. -/
theorem synthesize_wellFormed (m : MethodProvider) (c : ClassInfo)
    (cache : Option OccurrenceCache) :
    match Reading.run' (c.synthesize m) cache with
    | (.ok k, _) => WellFormed c k
    | (.error e, _) => ∃ p ∈ c.properties, FailsAt c.name p.fieldName e := by
  rw [run'_synthesize]
  rcases h : Reading.run' (acceptProperties m c c.properties .empty) cache with ⟨e | acc, cache'⟩
  · exact acceptProperties_failsAt m c c.properties h
  · obtain ⟨hs, hu⟩ := acceptProperties_sound m c c.properties h (Sound.empty c) Used.empty
    exact ⟨hs.toFits, hu⟩

end Accessors.Synthesis
