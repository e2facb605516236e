import Accessors.Text.Basic

/-!
# Times and durations

A time is an instant (whole seconds since the Unix epoch and nanoseconds) in a zone. The
zones are UTC; the local zone, which is UTC under its own name; and fixed offsets, which stand
for themselves. Two times are the same value when their instants and their zones are: an
offset of whole hours from -12 to +14 is one shared zone, any other offset is a zone of its own
each time it is read (`Zone.same`). Taken apart, two zones of the same offset look alike
(`Zone.alike`).

Times are read in the layout `2006-01-02T15:04:05.999999999Z07:00`, and written in it
(`Time.stamp`) and as `2006-01-02 15:04:05.999999999 -0700 MST` (`Time.text`), fractions
without trailing zeros. A zone without a name shows its offset in place of one.

A duration is a number of nanoseconds, written with units `h`, `m`, `s`, and below a second
`ms`, `µs` or `ns`: `1h2m3s`, `1.5s`, `-1ns`, `0s`.

Main statements: the calendar repeats every 400 years, which are 146097 days
(`civilFromDays_add_era`); a duration of whole hours is written in hours, minutes and seconds
(`Duration.text_hours`), and a negative one as its magnitude after a minus sign
(`Duration.text_neg`).
-/

namespace Accessors

/-! ### The calendar -/

/-- **Days from a civil date**: the day number, counted from 1970-01-01, of a proleptic
Gregorian date. -/
def daysFromCivil (y : Int) (m d : Nat) : Int :=
  let y := if m ≤ 2 then y - 1 else y
  let era := y / 400
  let yoe := y - era * 400
  let mp : Int := (m + 9) % 12
  let doy := (153 * mp + 2) / 5 + d - 1
  let doe := yoe * 365 + yoe / 4 - yoe / 100 + doy
  era * 146097 + doe - 719468

/-- **The civil date of a day number**: year, month and day. -/
def civilFromDays (z : Int) : Int × Nat × Nat :=
  let z := z + 719468
  let era := z / 146097
  let doe := z - era * 146097
  let yoe := (doe - doe / 1460 + doe / 36524 - doe / 146096) / 365
  let y := yoe + era * 400
  let doy := doe - (365 * yoe + yoe / 4 - yoe / 100)
  let mp := (5 * doy + 2) / 153
  let d := doy - (153 * mp + 2) / 5 + 1
  let m := if mp < 10 then mp + 3 else mp - 9
  ((if m ≤ 2 then y + 1 else y), m.toNat, d.toNat)

/-- **The calendar repeats every 400 years**: 146097 days later is the same day of the same
month, 400 years later. -/
theorem civilFromDays_add_era (z : Int) :
    civilFromDays (z + 146097) = ((civilFromDays z).1 + 400, (civilFromDays z).2) := by
  have hera : (z + 146097 + 719468) / 146097 = (z + 719468) / 146097 + 1 := by omega
  have hdoe : z + 146097 + 719468 - ((z + 719468) / 146097 + 1) * 146097 =
      z + 719468 - (z + 719468) / 146097 * 146097 := by omega
  unfold civilFromDays
  dsimp only
  rw [hera, hdoe]
  -- the era moves on by one and the day of the era stays
  split <;> simp only [Prod.mk.injEq, and_true] <;> omega

example : civilFromDays 0 = (1970, 1, 1) := by decide

example : civilFromDays (daysFromCivil 2020 2 29) = (2020, 2, 29) := by decide

/-- Whether a year has a 29th of February. -/
def isLeap (y : Nat) : Bool := y % 4 == 0 && (y % 100 != 0 || y % 400 == 0)

/-- The number of days of a month. -/
def daysIn (month year : Nat) : Nat :=
  match month with
  | 2 => if isLeap year then 29 else 28
  | 4 | 6 | 9 | 11 => 30
  | _ => 31

/-! ### Zones -/

/-- **A zone**: UTC, the local zone (UTC by another name), or a fixed offset in seconds east,
with the number of its own allocation unless it is a shared whole-hour zone. -/
inductive Zone where
  | utc
  | localZone
  | fixed (offset : Int) (own : Option Nat)
  deriving DecidableEq, Repr, Inhabited

namespace Zone

/-- The offset of the zone in seconds east of UTC. -/
def offset : Zone → Int
  | fixed o _ => o
  | _ => 0

/-- The name of the zone; fixed zones have none. -/
def name : Zone → String
  | fixed _ _ => ""
  | _ => "UTC"

/-- **The zone of an offset** read from a time: the local zone for offset zero, a shared zone
for whole hours from -12 to +14, else a zone of its own, numbered `fresh`. -/
def ofOffset (offset : Int) (fresh : Nat) : Zone :=
  if offset == 0 then localZone
  else if offset % 3600 == 0 && -12 * 3600 ≤ offset && offset ≤ 14 * 3600 then fixed offset none
  else fixed offset (some fresh)

/-- Whether two zones are one and the same. -/
def same (a b : Zone) : Bool := a == b

/-- Whether two zones look alike when taken apart: the same kind and offset. -/
def alike : Zone → Zone → Bool
  | utc, utc => true
  | localZone, localZone => true
  | fixed a _, fixed b _ => a == b
  | _, _ => false

end Zone

/-! ### Times -/

/-- **A time**: seconds since 1970-01-01T00:00:00 UTC, nanoseconds, and the zone. -/
structure Time where
  sec : Int
  nsec : Nat
  zone : Zone
  deriving DecidableEq, Repr, Inhabited

namespace Time

/-- The zero time: the first instant of year 1, in UTC. -/
def zero : Time := ⟨daysFromCivil 1 1 1 * 86400, 0, .utc⟩

/-- Two digits or more of a number, zero-padded. -/
def pad (n : Nat) (w : Nat) : String := Text.padLeft (toString n) w '0'

/-- The fraction of a second, with a point, without trailing zeros; nothing for zero. -/
def fraction (nsec : Nat) : String :=
  if nsec == 0 then ""
  else
    let ds := (pad nsec 9).toList.reverse.dropWhile (· == '0')
    "." ++ String.ofList ds.reverse

/-- The date and clock of the time in its zone: year, month, day, hours, minutes, seconds. -/
def civil (t : Time) : Int × Nat × Nat × Nat × Nat × Nat :=
  let wall := t.sec + t.zone.offset
  let days := wall / 86400
  let secs := (wall % 86400).toNat
  let (y, m, d) := civilFromDays days
  (y, m, d, secs / 3600, secs % 3600 / 60, secs % 60)

/-- The year as four digits or more. -/
def yearText (y : Int) : String :=
  if y < 0 then "-" ++ pad y.natAbs 4 else pad y.toNat 4

/-- The date and clock, joined by `sep`, with the fraction of a second. -/
def clockText (t : Time) (sep : String) : String :=
  let (y, m, d, hh, mm, ss) := t.civil
  yearText y ++ "-" ++ pad m 2 ++ "-" ++ pad d 2 ++ sep ++ pad hh 2 ++ ":" ++ pad mm 2 ++ ":" ++
    pad ss 2 ++ fraction t.nsec

/-- The offset as sign, hours and minutes, with `colon` between them. -/
def offsetText (offset : Int) (colon : String) : String :=
  let mins := offset.natAbs / 60
  (if offset < 0 then "-" else "+") ++ pad (mins / 60) 2 ++ colon ++ pad (mins % 60) 2

/-- **The text of a time**: date, clock, offset and zone name. -/
def text (t : Time) : String :=
  let name := t.zone.name
  t.clockText " " ++ " " ++ offsetText t.zone.offset "" ++ " " ++
    (if name.isEmpty then offsetText t.zone.offset "" else name)

/-- **The stamp of a time**: date, `T`, clock, and `Z` or the offset. -/
def stamp (t : Time) : String :=
  t.clockText "T" ++ (if t.zone.offset == 0 then "Z" else offsetText t.zone.offset ":")

/-- The value of a run of decimal digits, when all are digits. -/
def digitsValue (cs : List Char) : Option Nat :=
  if cs.isEmpty || !cs.all Char.isDigit then none
  else some (cs.foldl (fun n c => n * 10 + (c.toNat - 48)) 0)

/-- A number of a fixed number of digits within bounds. -/
def field (cs : List Char) (lo hi : Nat) : Option Nat :=
  match digitsValue cs with
  | some n => if lo ≤ n && n ≤ hi then some n else none
  | none => none

/-- Nanoseconds of fraction digits: the first nine count. -/
def nanosOf (ds : List Char) : Nat :=
  let ds := ds.take 9
  (digitsValue ds).getD 0 * Nat.pow 10 (9 - ds.length)

/-- **Reading a stamp**: `YYYY-MM-DDTHH:MM:SS`, an optional fraction, and `Z` or an offset
`±hh:mm`. A zone of its own is numbered `fresh`. -/
def parse? (s : String) (fresh : Nat) : Option Time := do
  let cs := s.toList
  if cs.length < 19 then none
  let y ← field (cs.take 4) 0 9999
  let mo ← field ((cs.drop 5).take 2) 1 12
  let d ← field ((cs.drop 8).take 2) 1 (daysIn mo y)
  let hh ← field ((cs.drop 11).take 2) 0 23
  let mi ← field ((cs.drop 14).take 2) 0 59
  let ss ← field ((cs.drop 17).take 2) 0 59
  if !(cs[4]? == some '-' && cs[7]? == some '-' && cs[10]? == some 'T' && cs[13]? == some ':' &&
      cs[16]? == some ':') then none
  let rest := cs.drop 19
  let (nsec, rest) := match rest with
    | '.' :: c :: more =>
      if c.isDigit then
        let ds := (c :: more).takeWhile Char.isDigit
        (nanosOf ds, (c :: more).dropWhile Char.isDigit)
      else (0, rest)
    | _ => (0, rest)
  let base := daysFromCivil y mo d * 86400 + hh * 3600 + mi * 60 + ss
  match rest with
  | ['Z'] => some ⟨base, nsec, .utc⟩
  | [sign, h1, h2, ':', m1, m2] =>
    let oh ← field [h1, h2] 0 23
    let om ← field [m1, m2] 0 59
    if sign != '+' && sign != '-' then none
    let off : Int := (oh * 60 + om) * 60
    let off := if sign == '-' then -off else off
    some ⟨base - off, nsec, Zone.ofOffset off fresh⟩
  | _ => none

end Time

/-! ### Durations -/

namespace Duration

/-- The digits of the fraction `v / 10^prec` after a point, without trailing zeros, and the
whole part; no point when the fraction is zero. -/
def fraction (v : Nat) (prec : Nat) : String × Nat :=
  let frac := v % Nat.pow 10 prec
  let whole := v / Nat.pow 10 prec
  if frac == 0 then ("", whole)
  else
    let ds := (Time.pad frac prec).toList.reverse.dropWhile (· == '0')
    ("." ++ String.ofList ds.reverse, whole)

/-- **The text of a duration** of `d` nanoseconds. -/
def text (d : Int) : String :=
  let u := d.natAbs
  let sign := if d < 0 then "-" else ""
  if u == 0 then "0s"
  else if u < 1000000000 then
    let (prec, unit) :=
      if u < 1000 then (0, "ns") else if u < 1000000 then (3, "µs") else (6, "ms")
    let (frac, whole) := fraction u prec
    sign ++ toString whole ++ frac ++ unit
  else
    let (frac, secs) := fraction u 9
    let mins := secs / 60
    let hours := mins / 60
    let body :=
      if mins == 0 then toString secs ++ frac ++ "s"
      else if hours == 0 then toString mins ++ "m" ++ toString (secs % 60) ++ frac ++ "s"
      else toString hours ++ "h" ++ toString (mins % 60) ++ "m" ++ toString (secs % 60) ++ frac ++ "s"
    sign ++ body

/-- A whole number of units of a precision has no fraction. -/
theorem fraction_mul (n prec : Nat) : fraction (n * Nat.pow 10 prec) prec = ("", n) := by
  have hpos : 0 < Nat.pow 10 prec := Nat.pow_pos (by decide)
  simp only [fraction, Nat.mul_mod_left, beq_self_eq_true, if_true, Nat.mul_div_cancel _ hpos]

/-- **A negative duration** is written as its magnitude after a minus sign. -/
theorem text_neg {d : Int} (hd : 0 < d) : text (-d) = "-" ++ text d := by
  have hne : (d.natAbs == 0) = false := by simp; omega
  unfold text
  simp only [Int.natAbs_neg, hne, Bool.false_eq_true, if_false, if_pos (show -d < 0 by omega),
    if_neg (show ¬d < 0 by omega)]
  split <;> simp only [String.append_assoc, String.empty_append]

example : text (-1) = "-1ns" := by decide

/-- **A duration of whole hours** and more is written in hours, minutes and seconds. The number
of nanoseconds is named `u` rather than written as a product, which keeps the literal out of
the terms the kernel compares. -/
theorem text_hours {u n : Nat} (hu : u = n * 1000000000) (hn : 3600 ≤ n) :
    text (u : Int) = toString (n / 3600) ++ "h" ++ toString (n / 60 % 60) ++ "m" ++
      toString (n % 60) ++ "s" := by
  have hfrac : fraction u 9 = ("", n) := by
    have := fraction_mul n 9
    rwa [show Nat.pow 10 9 = 1000000000 from rfl, ← hu] at this
  have hge : ¬ u < 1000000000 := by omega
  have hz : (u == 0) = false := by simp; omega
  unfold text
  dsimp only
  rw [Int.natAbs_natCast, hz, if_neg Bool.false_ne_true, if_neg hge,
    if_neg (Int.not_lt.2 (Int.natCast_nonneg _)), hfrac]
  dsimp only
  rw [if_neg (show ¬ (n / 60 == 0) = true by simp; omega),
    if_neg (show ¬ (n / 60 / 60 == 0) = true by simp; omega), Nat.div_div_eq_div_mul,
    String.empty_append, String.append_empty]

example : text 3723000000000 = "1h2m3s" := by decide

example : text 1500000000 = "1.5s" := by decide

end Duration
end Accessors
