import Accessors.Source.Package

/-!
# Which field types have nil as a value

The underlying type of a type expression is read as the Go specification reads it, within one
package: parentheses and type arguments are looked through, a name the package declares stands
for its definition, and a type literal or a name the package does not declare is its own
underlying type (`Underlying`). Nil is a value of the type when that underlying type is a
pointer, slice, map, channel, function or interface type, or the predeclared `any` or `error`
(`admitsNil`). A cycle of declarations has no underlying type, and a type of another package
has nothing to look through, so neither admits nil.

The parser decides this by following names, never one it has followed before, with as much fuel
as there are declarations. Both bounds are harmless: a way to the underlying type can always be
taken without coming back to a name (`Underlying.exists_nodup`), and each name followed leaves
one declaration fewer to follow (`unseen_length_lt`), so the fuel never runs out first. The
answer is then exact (`nilable_iff_underlying`): true only when nil is a value of the type
(`underlying_of_nilable`), and true whenever it is (`nilable_of_underlying`).
-/

namespace Accessors.Source

/-- **Whether nil is a value of a resolved type**: a pointer, slice, map, channel, function or
interface type, or the predeclared `any` or `error`. -/
def admitsNil : Expr → Bool
  | .star .. | .mapType .. | .chanType .. | .funcType .. | .interfaceType .. => true
  | .arrayType _ len _ => len.isNone
  | .ident _ n => n == "any" || n == "error"
  | _ => false

/-- A type expression with nothing left to look through: not parenthesized, not instantiated,
and not a name the package declares. -/
def Resolved (locals : List (String × Expr)) : Expr → Prop
  | .paren .. | .index .. => False
  | .ident _ n => locals.lookup n = none
  | _ => True

/-- **The underlying type** `u` of a type expression among the package's declarations, and the
declared names followed on the way there. -/
inductive Underlying (locals : List (String × Expr)) : Expr → Expr → List String → Prop
  | paren {x u : Expr} {names : List String} (p q : Nat) :
      Underlying locals x u names → Underlying locals (.paren p x q) u names
  | index {x u : Expr} {names : List String} (l : Nat) (args : List Expr) (r : Nat) :
      Underlying locals x u names → Underlying locals (.index x l args r) u names
  | declared {n : String} {d u : Expr} {names : List String} (p : Nat) :
      locals.lookup n = some d → Underlying locals d u names →
      Underlying locals (.ident p n) u (n :: names)
  | resolved {e : Expr} : Resolved locals e → Underlying locals e e []

variable {locals : List (String × Expr)}

/-! ### Ways without repeated names -/

/-- A name followed on the way to an underlying type is declared, and the way from its
definition is the rest of the way. -/
theorem Underlying.suffix_of_mem {e u : Expr} {names : List String} {n : String}
    (h : Underlying locals e u names) (hn : n ∈ names) :
    ∃ d rest, locals.lookup n = some d ∧ Underlying locals d u rest ∧ n :: rest <:+ names := by
  induction h with
  | paren p q _ ih => exact ih hn
  | index l args r _ ih => exact ih hn
  | @declared m d u names p hd hu ih =>
    by_cases hnm : n = m
    · subst hnm
      exact ⟨d, names, hd, hu, List.suffix_refl _⟩
    · obtain ⟨d', rest, hd', hu', hsuf⟩ := ih (by simpa [hnm] using hn)
      exact ⟨d', rest, hd', hu', hsuf.trans (List.suffix_cons _ _)⟩
  | resolved _ => simp at hn

/-- **A way to the underlying type need not come back to a name.** -/
theorem Underlying.exists_nodup {e u : Expr} {names : List String}
    (h : Underlying locals e u names) : ∃ names', Underlying locals e u names' ∧ names'.Nodup := by
  induction h with
  | paren p q _ ih =>
    obtain ⟨ns, h, hnd⟩ := ih
    exact ⟨ns, .paren p q h, hnd⟩
  | index l args r _ ih =>
    obtain ⟨ns, h, hnd⟩ := ih
    exact ⟨ns, .index l args r h, hnd⟩
  | @declared n d u names p hd _ ih =>
    obtain ⟨ns, h, hnd⟩ := ih
    by_cases hn : n ∈ ns
    · -- the way from the definition comes back to `n`: start from that later visit
      obtain ⟨d', rest, hd', hu', hsuf⟩ := h.suffix_of_mem hn
      exact ⟨n :: rest, .declared p hd' hu', hnd.sublist hsuf.sublist⟩
    · exact ⟨n :: ns, .declared p hd h, List.nodup_cons.mpr ⟨hn, hnd⟩⟩
  | resolved he => exact ⟨[], .resolved he, List.nodup_nil⟩

/-- Following a declared name not seen before leaves fewer declarations of unseen names. -/
theorem unseen_length_lt {seen : List String} {n : String} {d : Expr}
    (hd : locals.lookup n = some d) (hn : seen.contains n = false) :
    (locals.filter fun p => !(n :: seen).contains p.1).length <
      (locals.filter fun p => !seen.contains p.1).length := by
  have hmem : (n, d) ∈ locals := by
    obtain ⟨l₁, l₂, rfl, -⟩ := List.lookup_eq_some_iff.mp hd
    simp
  have hsplit : (locals.filter fun p => !(n :: seen).contains p.1) =
      (locals.filter fun p => !seen.contains p.1).filter fun p => p.1 != n := by
    rw [List.filter_filter]
    congr 1
    funext p
    by_cases hp : p.1 = n <;> simp [hp]
  rw [hsplit, List.length_filter_lt_length_iff_exists]
  exact ⟨(n, d), List.mem_filter.mpr ⟨hmem, by simpa using hn⟩, by simp⟩

/-! ### The search -/

theorem nilable_of_resolved {fuel : Nat} {seen : List String} {e : Expr}
    (he : Resolved locals e) : nilable locals fuel seen e = admitsNil e := by
  cases e with
  | ident p n =>
    simp only [Resolved] at he
    rw [nilable]
    simp only [he]
    rfl
  | _ => simp_all [nilable, admitsNil, Resolved]

/-- **Soundness**: the search says nil only for a type whose underlying type admits nil. -/
theorem underlying_of_nilable {fuel : Nat} {seen : List String} {e : Expr}
    (h : nilable locals fuel seen e = true) :
    ∃ u names, Underlying locals e u names ∧ admitsNil u = true := by
  fun_induction nilable locals fuel seen e with
  | case1 | case2 | case3 | case4 | case5 => exact ⟨_, [], .resolved trivial, rfl⟩
  | case6 => exact ⟨_, [], .resolved trivial, h⟩
  | case7 fuel seen p x q ih =>
    obtain ⟨u, ns, hu, hnil⟩ := ih h
    exact ⟨u, ns, .paren p q hu, hnil⟩
  | case8 fuel seen x l args r ih =>
    obtain ⟨u, ns, hu, hnil⟩ := ih h
    exact ⟨u, ns, .index l args r hu, hnil⟩
  | case9 | case10 | case13 => simp at h
  | case11 seen p n d hd _ k ih =>
    obtain ⟨u, ns, hu, hnil⟩ := ih h
    exact ⟨u, n :: ns, .declared p hd hu, hnil⟩
  | case12 fuel seen p n hn => exact ⟨_, [], .resolved hn, by simpa [admitsNil] using h⟩

/-- **Completeness**: along a way without repeated names, none of them seen yet, and with fuel
for every declaration of an unseen name, the search finds an underlying type that admits nil. -/
theorem nilable_of_underlying {e u : Expr} {names : List String}
    (h : Underlying locals e u names) (hnil : admitsNil u = true) (hnd : names.Nodup)
    {fuel : Nat} {seen : List String} (hseen : ∀ n ∈ names, seen.contains n = false)
    (hfuel : (locals.filter fun p => !seen.contains p.1).length ≤ fuel) :
    nilable locals fuel seen e = true := by
  induction h generalizing fuel seen with
  | paren p q _ ih => rw [nilable]; exact ih hnil hnd hseen hfuel
  | index l args r _ ih => rw [nilable]; exact ih hnil hnd hseen hfuel
  | @declared n d u names p hd _ ih =>
    obtain ⟨hn, hnd'⟩ := List.nodup_cons.mp hnd
    have hns : seen.contains n = false := hseen n List.mem_cons_self
    -- the unseen declarations include `n`'s, so there is fuel left to follow it
    have hlt := unseen_length_lt hd hns
    obtain ⟨k, rfl⟩ : ∃ k, fuel = k + 1 := Nat.exists_eq_succ_of_ne_zero (by omega)
    rw [nilable]
    simp only [hd, hns, Bool.false_eq_true, ↓reduceIte]
    refine ih hnil hnd' (fun m hm => ?_) (by omega)
    have hmn : m ≠ n := fun h => hn (h ▸ hm)
    have hm' := hseen m (List.mem_cons_of_mem _ hm)
    simpa [hmn] using hm'
  | resolved he => rw [nilable_of_resolved he, hnil]

/-- **The parser's answer is exact**: a field type is found nilable exactly when its underlying
type among the package's declarations admits nil, whatever cycles the declarations hold. -/
theorem nilable_iff_underlying (locals : List (String × Expr)) (e : Expr) :
    nilable locals (locals.length + 1) [] e = true ↔
      ∃ u names, Underlying locals e u names ∧ admitsNil u = true := by
  constructor
  · exact underlying_of_nilable
  · rintro ⟨u, names, h, hnil⟩
    obtain ⟨names', h', hnd⟩ := h.exists_nodup
    exact nilable_of_underlying h' hnil hnd (by simp) (Nat.le_succ_of_le (List.length_filter_le _ _))

end Accessors.Source
