import Accessors.Proofs.Render.ImportTable
import Accessors.Render.File
import Accessors.Config
import Mathlib

/-!
# Package names in generated accessors

Generated accessor methods declare a receiver and the locals `value`, `err`, `converted`, `elem`
and `ok` (`methodNames`). They refer to the runtime package and to `reflect` by the local names
that the import table hands out after the imports of the struct's file (`packageNames`, required
in the order the renderer requires them).

A package name is the alias the struct's file imports its path under, the path's default name,
or that name followed by a number (`packageNames_from`). A numbered name ends in a digit, and no
method name does: a receiver is one letter in lower case or `x` (`methodNames_last`). So the
package names are not shadowed when the default name of the runtime path is no method name and
the struct's file imports neither package under one (`packageNames_unshadowed`). Without these
conditions the runtime package is shadowed: the runtime path `example.com/value` passes the
configuration checks, and its package gets the name of every setter's argument
(`packageNames_value`).
-/

namespace Accessors.Render

open ImportSet

/-! ### Method names -/

/-- A code point with a lower case is an ASCII upper case letter or beyond ASCII, and its lower
case is at `a` or above. -/
theorem lowerCodePoint?_bounds {n m : Nat} (h : Text.lowerCodePoint? n = some m) :
    0x41 ≤ n ∧ 0x61 ≤ m := by
  have hlowerOnly : ∀ p ∈ Text.lowerOnly, 0x61 ≤ p.2 := by decide
  have hsingle : ∀ p ∈ Text.singlePairs, 0x61 ≤ p.2 := by decide
  unfold Text.lowerCodePoint? at h
  split at h
  · -- an ASCII upper case letter
    rename_i hupper
    simp only [Bool.and_eq_true, decide_eq_true_eq] at hupper
    cases h
    omega
  split at h
  · cases h
  rename_i hascii
  refine ⟨by omega, ?_⟩
  -- every other lower case is in a table, or above the code point itself
  split at h
  · rename_i p hp
    cases h
    exact hlowerOnly p (List.mem_of_find?_eq_some hp)
  split at h
  · rename_i p hp
    cases h
    exact hsingle p (List.mem_of_find?_eq_some hp)
  split at h
  · cases h
    omega
  split at h
  · cases h
    simp only [Bool.and_eq_true, decide_eq_true_eq] at *
    omega
  split at h
  · split at h
    · cases h
      omega
    · cases h
  · cases h

/-- A character made from a code point at `a` or above is no digit. -/
theorem ofNat_isDigit {m : Nat} (hm : 0x61 ≤ m) : (Char.ofNat m).isDigit = false := by
  unfold Char.ofNat
  split
  · rename_i hvalid
    have h : ¬ (Char.ofNatAux m hvalid).isDigit := by
      rw [Char.isDigit_iff_toNat]
      simp [Char.ofNatAux, Char.toNat]
      omega
    simpa using h
  · rfl

/-- Lower case keeps digits and non-digits apart. -/
theorem toLower_isDigit (c : Char) : (Text.toLower c).isDigit = c.isDigit := by
  unfold Text.toLower
  split
  · rename_i m hm
    obtain ⟨hc, hm⟩ := lowerCodePoint?_bounds hm
    -- a character with a lower case is a letter, no digit
    have hdigit : ¬ c.isDigit := by
      rw [Char.isDigit_iff_toNat]
      have h9 : '9'.toNat = 57 := rfl
      omega
    simpa [ofNat_isDigit hm] using hdigit
  · rfl

/-- No letter is a digit. -/
theorem isLetter_isDigit {c : Char} (h : Text.isLetter c = true) : c.isDigit = false := by
  have hdigit : ¬ c.isDigit := by
    rw [Char.isDigit_iff_toNat]
    have h0 : '0'.toNat = 48 := rfl
    have h9 : '9'.toNat = 57 := rfl
    unfold Text.isLetter at h
    dsimp only at h
    split at h
    · simp only [Bool.or_eq_true, Bool.and_eq_true, decide_eq_true_eq] at h
      omega
    · omega
  simpa using hdigit

/-- **A receiver is one character, and no digit.** -/
theorem receiverName_toList (typeName : String) :
    ∃ c, (receiverName typeName).toList = [c] ∧ c.isDigit = false := by
  unfold receiverName
  split
  · rename_i c _ _
    split
    · rename_i hletter
      exact ⟨_, String.toList_singleton _, by rw [toLower_isDigit]; exact isLetter_isDigit hletter⟩
    · exact ⟨'x', rfl, rfl⟩
  · exact ⟨'x', rfl, rfl⟩

/-- **The names a generated accessor method declares**: its receiver, and the locals of its body. -/
def methodNames (typeName : String) : List String :=
  [receiverName typeName, "value", "err", "converted", "elem", "ok"]

/-- No method name ends in a digit. -/
theorem methodNames_last {typeName x : String} (hx : x ∈ methodNames typeName) :
    ∃ c, x.toList.getLast? = some c ∧ c.isDigit = false := by
  simp only [methodNames, List.mem_cons, List.not_mem_nil, or_false] at hx
  rcases hx with rfl | rfl | rfl | rfl | rfl | rfl
  · obtain ⟨c, hc, hdigit⟩ := receiverName_toList typeName
    exact ⟨c, by simp [hc], hdigit⟩
  all_goals exact ⟨_, rfl, rfl⟩

/-- A name followed by a number ends in a digit. -/
theorem numbered_last (name : String) (k : Nat) :
    ∃ c, (name ++ toString k).toList.getLast? = some c ∧ c.isDigit = true := by
  have hne : Nat.toDigits 10 k ≠ [] := Nat.toDigits_ne_nil
  refine ⟨(Nat.toDigits 10 k).getLast hne, ?_, ?_⟩
  · simp [String.toList_append, List.getLast?_append, List.getLast?_eq_some_getLast hne]
  · exact Nat.isDigit_of_mem_toDigits (by decide) (by decide) (List.getLast_mem hne)

/-- A method name is no name followed by a number. -/
theorem methodNames_ne_numbered {typeName x : String} (hx : x ∈ methodNames typeName)
    (name : String) (k : Nat) : x ≠ name ++ toString k := by
  rintro rfl
  obtain ⟨c, hc, hdigit⟩ := methodNames_last hx
  obtain ⟨d, hd, hdigit'⟩ := numbered_last name k
  rw [hc] at hd
  cases hd
  rw [hdigit] at hdigit'
  cases hdigit'

/-! ### Package names -/

/-- **The names of the packages generated code uses**: the runtime package at `runtimePath` and
`reflect`, required in this order after the imports of the struct's file. -/
def packageNames (imports : List SourceImport) (runtimePath : String) : String × String :=
  let (runtime, im) := (ImportSet.empty.addImports imports).require runtimePath
  (runtime, (im.require "reflect").1)

/-- The calls on the import table that name the packages. -/
def packageCalls (imports : List SourceImport) (runtimePath : String) : List Call :=
  [.add imports, .require runtimePath, .require "reflect"]

theorem run_packageCalls (imports : List SourceImport) (runtimePath : String) :
    (ImportSet.empty.run (packageCalls imports runtimePath)).1 =
      [(runtimePath, (packageNames imports runtimePath).1),
        ("reflect", (packageNames imports runtimePath).2)] := rfl

/-- **Where a package name comes from**: the alias the struct's file imports the path under, the
path's default name, or that name followed by a number. -/
theorem packageNames_from {imports : List SourceImport} {runtimePath p n : String}
    (h : (p, n) = (runtimePath, (packageNames imports runtimePath).1) ∨
      (p, n) = ("reflect", (packageNames imports runtimePath).2)) :
    n = defaultPackageName p ∨ (∃ k : Nat, n = defaultPackageName p ++ toString k) ∨
      (⟨n, p⟩ : SourceImport) ∈ imports := by
  have hmem : (p, n) ∈ (ImportSet.empty.run (packageCalls imports runtimePath)).1 := by
    rw [run_packageCalls]
    rcases h with h | h <;> simp [h]
  rcases run_required_from _ p n hmem with hdefault | hnumbered | ⟨imps, hadd, himp⟩
  · exact .inl hdefault
  · exact .inr (.inl hnumbered)
  · -- the only imports added are the struct file's
    simp only [packageCalls, List.mem_cons, List.not_mem_nil, or_false, reduceCtorEq,
      Call.add.injEq] at hadd
    subst hadd
    exact .inr (.inr himp)

/-- **A package name is no method name** when the default name of its path is none, and the
struct's file imports the path under none. -/
theorem packageName_not_mem {imports : List SourceImport} {typeName p n : String}
    (hfrom : n = defaultPackageName p ∨ (∃ k : Nat, n = defaultPackageName p ++ toString k) ∨
      (⟨n, p⟩ : SourceImport) ∈ imports)
    (hdefault : defaultPackageName p ∉ methodNames typeName)
    (halias : ∀ imp ∈ imports, imp.path = p → imp.name ∉ methodNames typeName) :
    n ∉ methodNames typeName := by
  intro hn
  rcases hfrom with rfl | ⟨k, rfl⟩ | himp
  · exact hdefault hn
  · exact methodNames_ne_numbered hn _ k rfl
  · exact halias _ himp rfl hn

/-- `reflect` is no method name. -/
theorem reflect_not_mem (typeName : String) : defaultPackageName "reflect" ∉ methodNames typeName := by
  have hreflect : defaultPackageName "reflect" = "reflect" := by decide +kernel
  rw [hreflect]
  intro h
  rcases List.mem_cons.1 h with h | h
  · -- a receiver is one character
    obtain ⟨c, hc, -⟩ := receiverName_toList typeName
    rw [← h] at hc
    cases hc
  · exact absurd h (by decide)

/-- **Package names in generated accessors are not shadowed** by the receiver or a local of a
method body when the default name of the runtime path is no method name and the struct's file
imports neither package under one; and the runtime package and `reflect` get different names. -/
theorem packageNames_unshadowed (typeName runtimePath : String) (imports : List SourceImport)
    (hdefault : defaultPackageName runtimePath ∉ methodNames typeName)
    (halias : ∀ imp ∈ imports, imp.name ∈ methodNames typeName →
      imp.path ≠ runtimePath ∧ imp.path ≠ "reflect") :
    (packageNames imports runtimePath).1 ∉ methodNames typeName ∧
      (packageNames imports runtimePath).2 ∉ methodNames typeName ∧
      (runtimePath ≠ "reflect" →
        (packageNames imports runtimePath).1 ≠ (packageNames imports runtimePath).2) := by
  refine ⟨packageName_not_mem (packageNames_from (.inl rfl)) hdefault
      (fun imp himp hpath hname => (halias imp himp hname).1 hpath),
    packageName_not_mem (packageNames_from (.inr rfl)) (reflect_not_mem typeName)
      (fun imp himp hpath hname => (halias imp himp hname).2 hpath), fun hpaths => ?_⟩
  -- both packages are recorded in one consistent table, under their names
  let r := ImportSet.empty.run (packageCalls imports runtimePath)
  have hc : r.2.Consistent := Consistent.empty.run _
  obtain ⟨a, ha, hruntime⟩ := run_required ImportSet.empty (packageCalls imports runtimePath)
    runtimePath (packageNames imports runtimePath).1 (by rw [run_packageCalls]; simp)
  obtain ⟨b, hb, hreflect⟩ := run_required ImportSet.empty (packageCalls imports runtimePath)
    "reflect" (packageNames imports runtimePath).2 (by rw [run_packageCalls]; simp)
  rw [← hruntime, ← hreflect]
  exact hc.localName_ne ha hb hpaths

/-- With the default runtime package and a file importing nothing, no package is shadowed. -/
theorem packageNames_unshadowed_default :
    defaultPackageName defaultRuntime ∉ methodNames "Article" ∧
      (packageNames [] defaultRuntime).1 ∉ methodNames "Article" ∧
      (packageNames [] defaultRuntime).2 ∉ methodNames "Article" := by
  have hdefault : defaultPackageName defaultRuntime ∉ methodNames "Article" := by decide +kernel
  obtain ⟨hruntime, hreflect, -⟩ :=
    packageNames_unshadowed "Article" defaultRuntime [] hdefault (fun _ h => absurd h List.not_mem_nil)
  exact ⟨hdefault, hruntime, hreflect⟩

/-- A runtime path the configuration accepts can name the runtime package after a method's
argument: `example.com/value` is named `value`. -/
theorem packageNames_value :
    ({ Config.standard with methodMap := some [("Set", "set")], runtime := "example.com/value" }).validate =
        none ∧
      (packageNames [] "example.com/value").1 = "value" ∧ "value" ∈ methodNames "Item" := by
  refine ⟨?_, by decide +kernel, by simp [methodNames]⟩
  simp [Config.validate, Config.standard, List.mergeSort_singleton]
  decide +kernel

end Accessors.Render
