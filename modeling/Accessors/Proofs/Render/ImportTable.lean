import Accessors.Render.Imports
import Accessors.Text.Basic
import Mathlib.Data.List.Nodup
import Mathlib.Data.List.Perm.Subperm

/-!
# The import table of a generated file

An import table records paths with the alias written for each, and the local names taken. The
**local name** of a recorded import is its alias when one is written, the default name of its
path otherwise (`localName`). Adding the imports of a source file and requiring paths keep the
table consistent (`Consistent`): each path is recorded once, and the names taken are the local
names of the recorded imports, each given once.

Requiring a path that is not recorded gives it its default name, or the default name followed
by the first number that makes it free. The search tries one more number than there are names
taken, so it always finds one (`freeName_free`): the numbered names are distinct, and they cannot
all be among the names taken.

Main statement: `run_import_table`. For every sequence of calls on an empty table, the paths
recorded and their local names are distinct; a required path gets its local name, the same on
every call; the import block lists each recorded import once, standard library first, each group
sorted; and a name handed out is the alias a source file imported the path under, the path's
default name, or that name followed by a number. Such a name need not be an identifier:
`example.com/type` is required as `type` (`require_keyword`).
-/

namespace Accessors.Render

/-- Names followed by different numbers are different. -/
theorem append_toString_inj (name : String) {j k : Nat} (h : name ++ toString j = name ++ toString k) :
    j = k := by
  have h' := congrArg (fun s : String => Nat.ofDigitChars 10 s.toList 0)
    ((String.append_right_inj name).1 h)
  simpa [Nat.toString_eq_ofList_toDigits, Nat.ofDigitChars_ten_toDigits] using h'

/-- A key is looked up exactly when it is a key of some entry. -/
theorem lookup_isSome_iff_mem {β : Type} {l : List (String × β)} {k : String} :
    (l.lookup k).isSome ↔ k ∈ l.map (·.1) := by
  simp [List.lookup_isSome_iff]

namespace ImportSet

/-! ### Free names -/

/-- The free-name search gives the name, or the name followed by a number. -/
theorem freeName_cases (taken : List (String × String)) (name : String) :
    ∀ fuel i, freeName taken name fuel i = name ∨
      ∃ k : Nat, freeName taken name fuel i = name ++ toString k
  | 0, _ => .inl rfl
  | fuel + 1, i => by
    simp only [freeName]
    split
    · exact freeName_cases taken name fuel (i + 1)
    · exact .inr ⟨i, rfl⟩

/-- The search finds a free name, or every name it tries is taken. -/
theorem freeName_found (taken : List (String × String)) (name : String) :
    ∀ fuel i, taken.lookup (freeName taken name fuel i) = none ∨
      ∀ j < fuel, (taken.lookup (name ++ toString (i + j))).isSome
  | 0, _ => .inr fun _ hj => absurd hj (Nat.not_lt_zero _)
  | fuel + 1, i => by
    simp only [freeName]
    split
    · rename_i htaken
      rcases freeName_found taken name fuel (i + 1) with hfree | hall
      · exact .inl hfree
      · refine .inr fun j hj => ?_
        -- the first name tried is taken, and the rest by the search from the next number
        cases j with
        | zero => simpa using htaken
        | succ j => simpa [Nat.add_assoc, Nat.add_comm 1 j] using hall j (by omega)
    · rename_i hfree
      exact .inl (Option.not_isSome_iff_eq_none.1 hfree)

/-- **The search never runs out**: of one more numbered name than there are names taken, one
is free. -/
theorem freeName_free (taken : List (String × String)) (name : String) :
    taken.lookup (freeName taken name (taken.length + 1) 1) = none := by
  rcases freeName_found taken name (taken.length + 1) 1 with hfree | hall
  · exact hfree
  · exfalso
    -- the numbered names tried are distinct and all taken: too many for the names taken
    let tried := (List.range (taken.length + 1)).map fun j => name ++ toString (1 + j)
    have hinj : Function.Injective fun j : Nat => name ++ toString (1 + j) := fun j k h => by
      have := append_toString_inj name h
      omega
    have hsub : tried ⊆ taken.map (·.1) := fun s hs => by
      obtain ⟨j, hj, rfl⟩ := List.mem_map.1 hs
      exact lookup_isSome_iff_mem.1 (hall j (List.mem_range.1 hj))
    have hlen := (List.subperm_of_subset (List.nodup_range.map hinj) hsub).length_le
    simp only [List.length_map, List.length_range] at hlen
    omega

/-- A name that requiring a path gives it, when the path is not recorded. -/
theorem candidateFor_cases (im : ImportSet) (p : String) :
    im.candidateFor p = defaultPackageName p ∨
      ∃ k : Nat, im.candidateFor p = defaultPackageName p ++ toString k := by
  unfold candidateFor
  dsimp only
  split
  · exact freeName_cases _ _ _ _
  · exact .inl rfl

/-- The name a path that is not recorded gets is not taken. -/
theorem candidateFor_free (im : ImportSet) (p : String) : im.names.lookup (im.candidateFor p) = none := by
  unfold candidateFor
  dsimp only
  split
  · exact freeName_free _ _
  · rename_i h
    exact Option.not_isSome_iff_eq_none.1 h

/-! ### What one call does -/

/-- **The local name of an import**: its alias when one is written, the default name of its path
otherwise. -/
def localName (spec : String × String) : String :=
  if spec.2.isEmpty then defaultPackageName spec.1 else spec.2

/-- Records an import under its local name. -/
def record (im : ImportSet) (spec : String × String) : ImportSet :=
  ⟨im.names ++ [(localName spec, spec.1)], im.specs ++ [spec]⟩

/-- The alias written for a path recorded by requiring it: none for its default name. -/
def newAlias (im : ImportSet) (p : String) : String :=
  if im.candidateFor p == defaultPackageName p then "" else im.candidateFor p

/-- The local name of a path recorded by requiring it is the name requiring gives. -/
theorem localName_newAlias (im : ImportSet) (p : String) :
    localName (p, im.newAlias p) = im.candidateFor p := by
  by_cases hc : im.candidateFor p = defaultPackageName p
  · simp [localName, newAlias, hc]
  · -- a numbered name is not empty
    obtain ⟨k, hk⟩ := (candidateFor_cases im p).resolve_left hc
    have hne : (im.candidateFor p).isEmpty = false := by
      rw [hk]
      simp [Nat.repr_ne_empty]
    simp [localName, newAlias, hc, hne]

/-- **Adding an import** of a source file records it when neither its path nor its local name is
taken, and changes nothing otherwise. -/
theorem addImport_cases (im : ImportSet) (imp : SourceImport) :
    im.addImport imp = im ∨ (im.specs.lookup imp.path = none ∧
      im.names.lookup (localName (imp.path, imp.name)) = none ∧
      im.addImport imp = im.record (imp.path, imp.name)) := by
  -- the name the code checks is the local name of the import it records
  have hloc : (if imp.name.isEmpty then defaultPackageName imp.path else imp.name) =
      localName (imp.path, imp.name) := rfl
  unfold ImportSet.addImport
  rw [hloc]
  by_cases hpath : (imp.path.isEmpty || (im.specs.lookup imp.path).isSome) = true
  · exact .inl (if_pos hpath)
  · rw [if_neg hpath]
    by_cases hname : (im.names.lookup (localName (imp.path, imp.name))).isSome = true
    · exact .inl (if_pos hname)
    · rw [if_neg hname]
      simp only [Bool.or_eq_true, not_or] at hpath
      exact .inr ⟨Option.not_isSome_iff_eq_none.1 hpath.2, Option.not_isSome_iff_eq_none.1 hname, rfl⟩

/-- **Requiring a path** gives the local name it is recorded under, or records it under the
name found for it. -/
theorem require_cases (im : ImportSet) (p : String) :
    (∃ a, im.specs.lookup p = some a ∧ im.require p = (localName (p, a), im)) ∨
      (im.specs.lookup p = none ∧ im.require p = (im.candidateFor p, im.record (p, im.newAlias p))) := by
  unfold ImportSet.require
  split
  · rename_i given hgiven
    exact .inl ⟨given, hgiven, rfl⟩
  · rename_i hp
    refine .inr ⟨hp, ?_⟩
    simp only [record, localName_newAlias]
    rfl

/-! ### Consistent tables -/

/-- **A consistent import table**: the names taken are the local names of the recorded imports,
in order; each path is recorded once, and each local name is given once. -/
structure Consistent (im : ImportSet) : Prop where
  names_eq : im.names = im.specs.map fun spec => (localName spec, spec.1)
  paths_nodup : (im.specs.map (·.1)).Nodup
  names_nodup : (im.specs.map localName).Nodup

theorem Consistent.empty : ImportSet.empty.Consistent := ⟨rfl, .nil, .nil⟩

/-- The local names are the names taken. -/
theorem Consistent.keys_names {im : ImportSet} (h : im.Consistent) :
    im.names.map (·.1) = im.specs.map localName := by
  rw [h.names_eq, List.map_map]
  rfl

/-- Recording a path that is not recorded, under a local name not given, keeps the table
consistent. -/
theorem Consistent.record {im : ImportSet} (h : im.Consistent) {spec : String × String}
    (hp : im.specs.lookup spec.1 = none) (hn : im.names.lookup (localName spec) = none) :
    (im.record spec).Consistent := by
  have hp' : spec.1 ∉ im.specs.map (·.1) := fun hm => by
    simpa [hp] using lookup_isSome_iff_mem.2 hm
  have hn' : localName spec ∉ im.specs.map localName := fun hm => by
    rw [← h.keys_names] at hm
    simpa [hn] using lookup_isSome_iff_mem.2 hm
  refine ⟨by simp [ImportSet.record, h.names_eq], ?_, ?_⟩
  · rw [ImportSet.record, List.map_append, List.nodup_append]
    refine ⟨h.paths_nodup, by simp, fun x hx y hy hxy => ?_⟩
    rw [List.map_singleton, List.mem_singleton] at hy
    rw [hxy, hy] at hx
    exact hp' hx
  · rw [ImportSet.record, List.map_append, List.nodup_append]
    refine ⟨h.names_nodup, by simp, fun x hx y hy hxy => ?_⟩
    rw [List.map_singleton, List.mem_singleton] at hy
    rw [hxy, hy] at hx
    exact hn' hx

/-- Adding an import of a source file keeps the table consistent. -/
theorem Consistent.addImport {im : ImportSet} (h : im.Consistent) (imp : SourceImport) :
    (im.addImport imp).Consistent := by
  rcases addImport_cases im imp with hsame | ⟨hp, hn, hrec⟩
  · rwa [hsame]
  · rw [hrec]
    exact h.record hp hn

theorem Consistent.addImports {im : ImportSet} (h : im.Consistent) :
    ∀ imps, (im.addImports imps).Consistent := by
  intro imps
  induction imps generalizing im with
  | nil => exact h
  | cons imp imps ih => exact ih (h.addImport imp)

/-- Requiring a path keeps the table consistent. -/
theorem Consistent.require {im : ImportSet} (h : im.Consistent) (p : String) :
    (im.require p).2.Consistent := by
  rcases require_cases im p with ⟨a, -, hreq⟩ | ⟨hp, hreq⟩
  · rwa [hreq]
  · rw [hreq]
    exact h.record hp (by rw [localName_newAlias]; exact candidateFor_free im p)

/-! ### Required names -/

/-- **Requiring a path gives its local name**, under which the table records it. -/
theorem require_localName (im : ImportSet) (p : String) :
    ∃ a, (im.require p).2.specs.lookup p = some a ∧ localName (p, a) = (im.require p).1 := by
  rcases require_cases im p with ⟨a, ha, hreq⟩ | ⟨hp, hreq⟩
  · exact ⟨a, by rw [hreq]; exact ha, by rw [hreq]⟩
  · refine ⟨im.newAlias p, ?_, by rw [hreq, localName_newAlias]⟩
    simp [hreq, ImportSet.record, List.lookup_append, hp]

/-- Every call records paths after the ones recorded, and changes none of these. -/
theorem addImport_specs (im : ImportSet) (imp : SourceImport) :
    ∃ more, (im.addImport imp).specs = im.specs ++ more := by
  rcases addImport_cases im imp with hsame | ⟨-, -, hrec⟩
  · exact ⟨[], by simp [hsame]⟩
  · exact ⟨_, by rw [hrec]; rfl⟩

theorem addImports_specs (im : ImportSet) :
    ∀ imps, ∃ more, (im.addImports imps).specs = im.specs ++ more := by
  intro imps
  induction imps generalizing im with
  | nil => exact ⟨[], by simp [addImports]⟩
  | cons imp imps ih =>
    obtain ⟨more, hm⟩ := addImport_specs im imp
    obtain ⟨more', hm'⟩ := ih (im.addImport imp)
    exact ⟨more ++ more', by rw [show im.addImports (imp :: imps) = (im.addImport imp).addImports imps
      from rfl, hm', hm, List.append_assoc]⟩

theorem require_specs (im : ImportSet) (p : String) :
    ∃ more, (im.require p).2.specs = im.specs ++ more := by
  rcases require_cases im p with ⟨a, -, hreq⟩ | ⟨-, hreq⟩
  · exact ⟨[], by simp [hreq]⟩
  · exact ⟨_, by rw [hreq]; rfl⟩

/-! ### Runs -/

/-- **A call on an import table**: adding the imports of a source file, or requiring a path. -/
inductive Call where
  | add (imports : List SourceImport)
  | require (path : String)

/-- **Runs calls** in order on a table: the paths required with the names they were given, and
the table after the calls. -/
def run : ImportSet → List Call → List (String × String) × ImportSet
  | im, [] => ([], im)
  | im, .add imps :: calls => run (im.addImports imps) calls
  | im, .require p :: calls =>
    let r := run (im.require p).2 calls
    ((p, (im.require p).1) :: r.1, r.2)

/-- A run records paths after the ones recorded. -/
theorem run_specs : ∀ (im : ImportSet) (calls : List Call),
    ∃ more, (im.run calls).2.specs = im.specs ++ more
  | im, [] => ⟨[], by simp [run]⟩
  | im, .add imps :: calls => by
    obtain ⟨more, hm⟩ := addImports_specs im imps
    obtain ⟨more', hm'⟩ := run_specs (im.addImports imps) calls
    exact ⟨more ++ more', by simp only [run, hm', hm, List.append_assoc]⟩
  | im, .require p :: calls => by
    obtain ⟨more, hm⟩ := require_specs im p
    obtain ⟨more', hm'⟩ := run_specs (im.require p).2 calls
    exact ⟨more ++ more', by simp only [run, hm', hm, List.append_assoc]⟩

theorem Consistent.run : ∀ {im : ImportSet} (_ : im.Consistent) (calls : List Call),
    (im.run calls).2.Consistent
  | _, h, [] => h
  | _, h, .add imps :: calls => Consistent.run (h.addImports imps) calls
  | _, h, .require p :: calls => Consistent.run (h.require p) calls

/-- **Every required path keeps the name it was given**: the table after the run records it
under an alias whose local name is that name. -/
theorem run_required : ∀ (im : ImportSet) (calls : List Call) (p n : String),
    (p, n) ∈ (im.run calls).1 → ∃ a, (im.run calls).2.specs.lookup p = some a ∧ localName (p, a) = n
  | im, [], _, _, h => by cases h
  | im, .add imps :: calls, p, n, h => run_required (im.addImports imps) calls p n h
  | im, .require q :: calls, p, n, h => by
    simp only [run, List.mem_cons, Prod.mk.injEq] at h
    rcases h with ⟨hpq, hn⟩ | h
    · -- the path required now: the rest of the run keeps its record
      rw [hpq, hn]
      obtain ⟨a, ha, hname⟩ := require_localName im q
      obtain ⟨more, hm⟩ := run_specs (im.require q).2 calls
      refine ⟨a, ?_, hname⟩
      simp only [run, hm, List.lookup_append, ha, Option.some_or]
    · exact run_required (im.require q).2 calls p n h

/-! ### Where names come from -/

/-- **Where an alias comes from**: none is written, or it is the default name of its path
followed by a number, or a source file imported the path under it. -/
def AliasFrom (adds : List (List SourceImport)) (spec : String × String) : Prop :=
  spec.2 = "" ∨ (∃ k : Nat, spec.2 = defaultPackageName spec.1 ++ toString k) ∨
    ∃ imps ∈ adds, (⟨spec.2, spec.1⟩ : SourceImport) ∈ imps

theorem addImports_aliasFrom {adds : List (List SourceImport)} (imps : List SourceImport)
    (hadd : imps ∈ adds) : ∀ (im : ImportSet) (rest : List SourceImport), rest ⊆ imps →
    (∀ s ∈ im.specs, AliasFrom adds s) → ∀ s ∈ (im.addImports rest).specs, AliasFrom adds s := by
  intro im rest
  induction rest generalizing im with
  | nil => intro _ h; exact h
  | cons imp rest ih =>
    intro hsub h
    apply ih (im.addImport imp) (fun x hx => hsub (List.mem_cons_of_mem _ hx))
    rcases addImport_cases im imp with hsame | ⟨-, -, hrec⟩
    · rwa [hsame]
    · -- the import recorded now is one of the source file's
      intro s hs
      rw [hrec, ImportSet.record, List.mem_append, List.mem_singleton] at hs
      rcases hs with hs | rfl
      · exact h s hs
      · exact .inr (.inr ⟨imps, hadd, hsub List.mem_cons_self⟩)

theorem require_aliasFrom {adds : List (List SourceImport)} (im : ImportSet) (p : String)
    (h : ∀ s ∈ im.specs, AliasFrom adds s) : ∀ s ∈ (im.require p).2.specs, AliasFrom adds s := by
  rcases require_cases im p with ⟨a, -, hreq⟩ | ⟨-, hreq⟩
  · rwa [hreq]
  · intro s hs
    rw [hreq, ImportSet.record, List.mem_append, List.mem_singleton] at hs
    rcases hs with hs | rfl
    · exact h s hs
    · by_cases hc : im.candidateFor p = defaultPackageName p
      · exact .inl (by simp [newAlias, hc])
      · obtain ⟨k, hk⟩ := (candidateFor_cases im p).resolve_left hc
        exact .inr (.inl ⟨k, by simp [newAlias, hk]⟩)

/-- The adds of a list of calls. -/
def Call.adds (calls : List Call) : List (List SourceImport) :=
  calls.filterMap fun | .add imps => some imps | .require _ => none

theorem Call.mem_adds {imps : List SourceImport} {calls : List Call} :
    imps ∈ Call.adds calls ↔ Call.add imps ∈ calls := by
  simp only [Call.adds, List.mem_filterMap]
  constructor
  · rintro ⟨call, hcall, hsome⟩
    cases call with
    | add imps' => cases hsome; exact hcall
    | require _ => cases hsome
  · intro h
    exact ⟨_, h, rfl⟩

theorem run_aliasFrom {adds : List (List SourceImport)} :
    ∀ (im : ImportSet) (calls : List Call), Call.adds calls ⊆ adds →
      (∀ s ∈ im.specs, AliasFrom adds s) → ∀ s ∈ (im.run calls).2.specs, AliasFrom adds s
  | im, [], _, h => h
  | im, .add imps :: calls, hadds, h => by
    have himps : imps ∈ adds := hadds List.mem_cons_self
    exact run_aliasFrom (im.addImports imps) calls (fun _ hx => hadds (List.mem_cons_of_mem _ hx))
      (addImports_aliasFrom imps himps im imps (fun _ hx => hx) h)
  | im, .require p :: calls, hadds, h =>
    run_aliasFrom (im.require p).2 calls hadds (require_aliasFrom im p h)

/-! ### The import block -/

/-- **An import block listing a table**: one line for each recorded import, standard library
paths first and the others after a blank line, each group sorted. -/
def Lists (im : ImportSet) (text : String) : Prop :=
  ∃ std ext : List String,
    std.Perm ((im.specs.filter (isStandardLibrary ·.1)).map line) ∧
    ext.Perm ((im.specs.filter (!isStandardLibrary ·.1)).map line) ∧
    std.Pairwise (· ≤ ·) ∧ ext.Pairwise (· ≤ ·) ∧
    text = "import (\n" ++ String.join ((std.map fun l => "\t" ++ l ++ "\n") ++
      (if !std.isEmpty && !ext.isEmpty then ["\n"] else []) ++ ext.map fun l => "\t" ++ l ++ "\n") ++
      ")\n"

/-- Sorting lines keeps them and puts them in order. -/
theorem sortLines_spec (xs : List String) :
    (sortLines xs).Perm xs ∧ (sortLines xs).Pairwise (· ≤ ·) := by
  refine ⟨List.mergeSort_perm _ _, ?_⟩
  have h := @List.pairwise_mergeSort _ (fun a b : String => decide (a ≤ b))
    (fun _ _ _ hab hbc => by simpa using String.le_trans (by simpa using hab) (by simpa using hbc))
    (fun a b => by simpa using String.le_total a b) xs
  exact h.imp (by simp)

/-- **The import block** of a table that records an import lists the table. -/
theorem block_lists (im : ImportSet) (h : im.specs ≠ []) : Lists im im.block := by
  obtain ⟨hstd, hstd'⟩ := sortLines_spec ((im.specs.filter (isStandardLibrary ·.1)).map line)
  obtain ⟨hext, hext'⟩ := sortLines_spec ((im.specs.filter (!isStandardLibrary ·.1)).map line)
  refine ⟨_, _, hstd, hext, hstd', hext', ?_⟩
  simp [block, h]

/-! ### Every run -/

theorem spec_mem_of_lookup {specs : List (String × String)} {p a : String}
    (h : specs.lookup p = some a) : (p, a) ∈ specs := by
  obtain ⟨l₁, l₂, hspecs, -⟩ := List.lookup_eq_some_iff.1 h
  simp [hspecs]

/-- Different recorded paths have different local names. -/
theorem Consistent.localName_ne {im : ImportSet} (h : im.Consistent) {p q a b : String}
    (ha : im.specs.lookup p = some a) (hb : im.specs.lookup q = some b) (hpq : p ≠ q) :
    localName (p, a) ≠ localName (q, b) := fun heq =>
  hpq (congrArg Prod.fst
    (List.inj_on_of_nodup_map h.names_nodup (spec_mem_of_lookup ha) (spec_mem_of_lookup hb) heq))

/-- **Where a required name comes from**: the alias a source file imported its path under, the
path's default name, or that name followed by a number. -/
theorem run_required_from (calls : List Call) (p n : String)
    (hn : (p, n) ∈ (ImportSet.empty.run calls).1) :
    n = defaultPackageName p ∨ (∃ k : Nat, n = defaultPackageName p ++ toString k) ∨
      ∃ imps, Call.add imps ∈ calls ∧ (⟨n, p⟩ : SourceImport) ∈ imps := by
  obtain ⟨a, ha, rfl⟩ := run_required ImportSet.empty calls p n hn
  rcases run_aliasFrom ImportSet.empty calls (fun _ hx => hx) (by simp [ImportSet.empty]) _
      (spec_mem_of_lookup ha) with h0 | ⟨k, hk⟩ | ⟨imps, himps, himp⟩
  · change a = "" at h0
    exact .inl (by simp [localName, h0])
  · -- a numbered alias is written, so it is the local name
    change a = defaultPackageName p ++ toString k at hk
    refine .inr (.inl ⟨k, ?_⟩)
    simp [localName, hk, Nat.repr_ne_empty]
  · by_cases h0 : a.isEmpty
    · exact .inl (by simp [localName, h0])
    · exact .inr (.inr ⟨imps, Call.mem_adds.1 himps, by simpa [localName, h0] using himp⟩)

/-- **An import table stays consistent**, for every sequence of calls on an empty table: the
recorded paths and their local names are each distinct; a required path gets its local name,
the same on every call; the import block lists each recorded import once, standard library
first, each group sorted; and every required name is the alias a source file imported its path
under, the path's default name, or that name followed by a number. -/
theorem run_import_table (calls : List Call) :
    let r := ImportSet.empty.run calls
    (r.2.specs.map (·.1)).Nodup ∧ (r.2.specs.map localName).Nodup ∧
      (∀ p n, (p, n) ∈ r.1 → ∃ a, r.2.specs.lookup p = some a ∧ localName (p, a) = n) ∧
      (∀ p n n', (p, n) ∈ r.1 → (p, n') ∈ r.1 → n = n') ∧
      (r.2.specs ≠ [] → Lists r.2 r.2.block) ∧
      (∀ p n, (p, n) ∈ r.1 → n = defaultPackageName p ∨
        (∃ k : Nat, n = defaultPackageName p ++ toString k) ∨
        ∃ imps, Call.add imps ∈ calls ∧ (⟨n, p⟩ : SourceImport) ∈ imps) := by
  intro r
  have hc : r.2.Consistent := Consistent.empty.run calls
  have hreq : ∀ p n, (p, n) ∈ r.1 → ∃ a, r.2.specs.lookup p = some a ∧ localName (p, a) = n :=
    run_required ImportSet.empty calls
  refine ⟨hc.paths_nodup, hc.names_nodup, hreq, ?_, block_lists r.2, run_required_from calls⟩
  -- one record, one local name
  intro p n n' hn hn'
  obtain ⟨a, ha, rfl⟩ := hreq p n hn
  obtain ⟨a', ha', rfl⟩ := hreq p n' hn'
  rw [ha] at ha'
  cases ha'
  rfl

/-- A required name need not be an identifier: the default name of a path can be a keyword. -/
theorem require_keyword :
    (ImportSet.empty.require "example.com/type").1 = "type" ∧
      Text.isIdentifier (ImportSet.empty.require "example.com/type").1 = false := by
  decide +kernel

end ImportSet

end Accessors.Render
