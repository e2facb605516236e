/-!
# Memo tables

A memo table keeps one value per key for a generation run, and counts how often a look-up
found its key (a hit) and how often it did not (a miss). The table is a plain value: every
operation returns the table after it, so the counts are part of what can be reasoned about.

* `get` counts one hit or one miss.
* `getOrCompute` looks the key up once, which counts; on a miss it computes the value and keeps
  it, unless the computation failed, in which case nothing is kept and the next look-up of the
  key computes again.

Main statements: a `getOrCompute` that finds its key does not compute (`getOrCompute_hit`), and
every look-up counts exactly once (`lookups_getOrCompute`).
-/

namespace Accessors

/-- **A memo table** from text keys to values, with its hit and miss counts. -/
structure Cache (α : Type) where
  /-- The entries, each key once, in the order the keys were first stored. -/
  items : List (String × α)
  hits : Nat
  misses : Nat
  deriving Repr

namespace Cache

variable {α : Type}

/-- The empty table. -/
def empty : Cache α := ⟨[], 0, 0⟩

/-- The value stored for a key, without counting. -/
def find? (c : Cache α) (key : String) : Option α := c.items.lookup key

/-- The number of keys stored. -/
def size (c : Cache α) : Nat := c.items.length

/-- The number of look-ups so far. -/
def lookups (c : Cache α) : Nat := c.hits + c.misses

/-- **Look-up** of a key, counting a hit or a miss. -/
def get (c : Cache α) (key : String) : Option α × Cache α :=
  match c.find? key with
  | some v => (some v, { c with hits := c.hits + 1 })
  | none => (none, { c with misses := c.misses + 1 })

/-- Stores a value for a key, replacing an earlier value of the key in its place. -/
def set (c : Cache α) (key : String) (v : α) : Cache α :=
  if c.items.any (·.1 == key) then
    { c with items := c.items.map fun kv => if kv.1 == key then (key, v) else kv }
  else { c with items := c.items ++ [(key, v)] }

/-- The outcome of `getOrCompute`: the value, the failure of the computation if it failed, and
whether the computation ran. -/
structure Outcome (α ε : Type) where
  value : α
  failure : Option ε
  computed : Bool

/-- **Look-up or computation**: the stored value of a key, or else the computed one, kept when
the computation did not fail. The computation gives a value and, when it failed, a failure. -/
def getOrCompute {ε : Type} (c : Cache α) (key : String) (compute : Unit → α × Option ε) :
    Outcome α ε × Cache α :=
  match c.get key with
  | (some v, c') => (⟨v, none, false⟩, c')
  | (none, c') =>
    match compute () with
    | (v, some e) => (⟨v, some e, true⟩, c')
    | (v, none) => (⟨v, none, true⟩, c'.set key v)

/-- A stored key is found without computing. -/
theorem getOrCompute_hit {ε : Type} (c : Cache α) (key : String) (v : α)
    (compute : Unit → α × Option ε) (h : c.find? key = some v) :
    (c.getOrCompute key compute).1 = ⟨v, none, false⟩ := by
  simp [getOrCompute, get, h]

/-- Storing does not count as a look-up. -/
theorem lookups_set (c : Cache α) (key : String) (v : α) : (c.set key v).lookups = c.lookups := by
  unfold set lookups
  split <;> rfl

/-- Every `getOrCompute` counts exactly one look-up. -/
theorem lookups_getOrCompute {ε : Type} (c : Cache α) (key : String)
    (compute : Unit → α × Option ε) :
    (c.getOrCompute key compute).2.lookups = c.lookups + 1 := by
  unfold getOrCompute get
  cases c.find? key with
  | some v => simp only [lookups]; omega
  | none =>
    simp only
    cases compute () with
    | mk v e =>
      cases e with
      | some _ => simp only [lookups]; omega
      | none => simp only [lookups_set]; simp only [lookups]; omega

end Cache
end Accessors
