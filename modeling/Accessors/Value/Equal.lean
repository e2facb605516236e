import Accessors.Value.Basic

/-!
# Equality of values

Two values are **equal** as elements of a sequence (`Value.equal`) when:

* both are null, of whatever types; a null value equals nothing else;
* otherwise, when they have one comparable type, they are the same value: scalars by value
  (a NaN is equal to nothing, `0` and `-0` are equal, complex numbers part by part), pointers,
  errors and channels by address, times by instant and zone, records field by field;
* otherwise they are alike taken apart: the same type, and alike piece by piece. Slices and maps
  must be both absent or both present with the same length; the same storage (numbered, not
  zero) is alike at once;
  pointers to different places are alike when what they point to is; times need only zones of
  the same offset; functions only when both are absent, so a function that is not absent is
  alike to nothing, itself included.

Main statements: null values are equal to each other (`equal_null`), and a null value equals
no value that is not null (`equal_null_left`).
-/

namespace Accessors
namespace Value

/-- Whether values held in interfaces are both missing, or both present and of one type. -/
def heldTogether (x y : Value) : Option Bool :=
  match x, y with
  | null, null => some true
  | null, _ | _, null => some false
  | _, _ => if x.typeOf == y.typeOf then none else some false

/-- **Sameness of scalars**: by value, pointers by address. -/
def scalarSame : Value → Value → Bool
  | bool x, bool y => x == y
  | str x, str y => x == y
  | int _ x, int _ y => x == y
  | double x, double y => x == y
  | single x, single y => x == y
  | complex a b, complex c d => a == c && b == d
  | pointer _ none, pointer _ none => true
  | pointer _ (some (a, _)), pointer _ (some (b, _)) => a == b
  | chan _ none, chan _ none => true
  | chan _ (some (a, _)), chan _ (some (b, _)) => a == b
  | time s, time t => s.sec == t.sec && s.nsec == t.nsec && s.zone.same t.zone
  | duration x, duration y => x == y
  | label x, label y => x == y
  | point a b, point c d => a == c && b == d
  | errorRecord x, errorRecord y => x == y
  | _, _ => false

mutual
/-- **Comparability**: whether `==` may compare the value, items held in arrays and values held
in fields included. -/
def comparable : Value → Bool
  | slice .. | map .. | func _ | bag _ => false
  | array _ items => itemsComparable items
  | fieldError _ null _ => true
  | fieldError _ x _ => comparable x
  | _ => true

/-- Whether every item is missing or comparable. -/
def itemsComparable : List Value → Bool
  | [] => true
  | null :: xs => itemsComparable xs
  | x :: xs => comparable x && itemsComparable xs
end

mutual
/-- **Sameness** of two comparable values of one type. -/
def same : Value → Value → Bool
  | array _ xs, array _ ys => sameItems xs ys
  | fieldError f x r, fieldError g y s =>
    f == g && (match heldTogether x y with
      | some b => b
      | none => same x y) && r == s
  | x, y => scalarSame x y

/-- Sameness of the items of two arrays, held in interfaces. -/
def sameItems : List Value → List Value → Bool
  | [], [] => true
  | x :: xs, y :: ys =>
    (match heldTogether x y with
      | some r => r
      | none => same x y) && sameItems xs ys
  | _, _ => false
end

mutual
/-- **Alike taken apart**: two values of one type, piece by piece. -/
def alike : Value → Value → Bool
  | slice _ none _, slice _ none _ => true
  | slice _ (some xs) r, slice _ (some ys) s => xs.length == ys.length && ((r != 0 && r == s) || alikeItems xs ys)
  | array _ xs, array _ ys => alikeItems xs ys
  | map none _, map none _ => true
  | map (some es) r, map (some fs) s =>
    es.length == fs.length && ((r != 0 && r == s) || alikeEntries es fs)
  | pointer _ none, pointer _ none => true
  | pointer _ (some (a, x)), pointer _ (some (b, y)) =>
    a == b || (match heldTogether x y with
      | some r => r
      | none => alike x y)
  | time s, time t => s.sec == t.sec && s.nsec == t.nsec && s.zone.alike t.zone
  | bag xs, bag ys => xs == ys
  | func none, func none => true
  | fieldError f x r, fieldError g y s =>
    f == g && (match heldTogether x y with
      | some b => b
      | none => alike x y) && r == s
  | x, y => scalarSame x y

/-- Items alike one by one, held in interfaces. -/
def alikeItems : List Value → List Value → Bool
  | [], [] => true
  | x :: xs, y :: ys =>
    (match heldTogether x y with
      | some r => r
      | none => alike x y) && alikeItems xs ys
  | _, _ => false

/-- Entries of the first map alike to the entries of the same keys in the second. -/
def alikeEntries : List (String × Value) → List (String × Value) → Bool
  | [], _ => true
  | (k, x) :: es, fs =>
    (match fs.lookup k with
      | some y =>
        match heldTogether x y with
        | some r => r
        | none => alike x y
      | none => false) && alikeEntries es fs
end

/-- **Equality of elements.** -/
def equal (a b : Value) : Bool :=
  if a.isNull || b.isNull then a.isNull && b.isNull
  else if a.typeOf != b.typeOf then false
  else if a.comparable then a.same b
  else a.alike b

/-- The position of the first item equal to a value. -/
def indexIn (items : List Value) (v : Value) : Option Nat :=
  items.findIdx? (equal · v)

/-- Whether some item equals the value. -/
def containedIn (items : List Value) (v : Value) : Bool := (indexIn items v).isSome

/-- The items without the first one equal to the value. -/
def removeFrom (items : List Value) (v : Value) : List Value :=
  match indexIn items v with
  | some i => items.eraseIdx i
  | none => items

/-- **Membership in a sequence**: whether some item equals the value. -/
def containsElement (s v : Value) : Bool := containedIn (s.items?.getD []) v

/-- **Removing an element** from a slice: the slice without its first item equal to the value,
in new storage, or the slice itself when there is none. -/
def removeElement (s v : Value) : Value :=
  match s with
  | slice e (some items) _ =>
    match indexIn items v with
    | some i => slice e (some (items.eraseIdx i)) 0
    | none => s
  | _ => s

/-- Null values are equal to each other. -/
theorem equal_null (a b : Value) (ha : a.isNull = true) (hb : b.isNull = true) :
    equal a b = true := by
  simp [equal, ha, hb]

/-- A null value equals no value that is not null. -/
theorem equal_null_left (a b : Value) (ha : a.isNull = true) (hb : b.isNull = false) :
    equal a b = false := by
  simp [equal, ha, hb]

end Value
end Accessors
