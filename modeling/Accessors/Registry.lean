import Accessors.Value.Type
import Accessors.Text.Basic

/-!
# Registries of object types

A registry resolves the object type names of declared types (`\Foo`, `time.Time`) to types of
values. Names are registered and looked up without surrounding blanks and without one leading
backslash; a name whose backslashes separate a path also finds the name with dots in their place
(`\App\Point` finds `App.Point`). A later registration of a name replaces the earlier one.

The standard registry knows `time.Time`, `time.Duration`, `fmt.Stringer` and `error`.

Main statements: a registered name is found again (`lookup_register`).
-/

namespace Accessors

/-- **A registry**: names and their types, each name once. -/
structure Registry where
  entries : List (String × VType)
  deriving Repr, Inhabited

namespace Registry

/-- The key of a name: trimmed, without one leading backslash. -/
def key (name : String) : String := Text.trimPrefix (Text.trimSpace name) "\\"

/-- The empty registry. -/
def empty : Registry := ⟨[]⟩

/-- **Registering** a name, replacing an earlier type of the name. -/
def register (r : Registry) (name : String) (t : VType) : Registry :=
  let k := key name
  ⟨(r.entries.filter (·.1 != k)) ++ [(k, t)]⟩

/-- The standard registry. -/
def standard : Registry :=
  (((empty.register "time.Time" (.declared .time)).register "time.Duration" (.declared .duration)).register
    "fmt.Stringer" (.iface .stringer)).register "error" (.iface .error)

/-- **Looking up** a name, then its path form with dots. -/
def lookup (r : Registry) (name : String) : Option VType :=
  let k := key name
  match r.entries.lookup k with
  | some t => some t
  | none => r.entries.lookup (Text.replaceAll k "\\" ".")

/-- The registered names in order. -/
def names (r : Registry) : List String :=
  (r.entries.map (·.1)).mergeSort fun a b => !decide (b < a)

/-- Looking up a key after dropping its entries and adding it last finds the added type. -/
theorem lookup_filter_append (k : String) (t : VType) :
    ∀ (l : List (String × VType)), List.lookup k (l.filter (·.1 != k) ++ [(k, t)]) = some t
  | [] => by simp
  | (a, b) :: l => by
    by_cases h : a = k
    · subst h; simpa [List.filter] using lookup_filter_append a t l
    · have h1 : (a != k) = true := by simp [h]
      have h2 : (k == a) = false := by simp; exact fun e => h e.symm
      rw [List.filter_cons, if_pos h1, List.cons_append, List.lookup_cons, h2]
      exact lookup_filter_append k t l

/-- A registered name is found again. -/
theorem lookup_register (r : Registry) (name : String) (t : VType) :
    (r.register name t).lookup name = some t := by
  simp only [register, lookup, lookup_filter_append]

end Registry
end Accessors
