import Accessors.Text.Basic

/-!
# Shortest decimal text of binary floating point numbers

A finite binary float is `m · 2^e`. Every real strictly between the midpoints to its two
neighbours reads back as the same float (the midpoints themselves too when `m` is even, since a
tie goes to the even neighbour). The shortest text of the float is the decimal with the fewest
significant digits inside that interval, and of two such decimals the one nearer the float.

For `n = 1, 2, …` digits the decimals with `n` digits nearest the float are the two neighbours
of `v / 10^k` on the integer grid, where `10^(n-1) ≤ v / 10^k < 10^n`; if any `n`-digit decimal
lies in the interval, one of these two does, because the interval holds `v` and is convex. All
comparisons are exact comparisons of natural numbers.

The digits are then laid out in one of two styles (`NumberStyle`): positional between two
decimal exponents and scientific outside them.
-/

namespace Accessors.Number

/-! ### Binary layout -/

/-- A binary float format: the widths of the fraction and exponent fields. -/
structure BinaryFormat where
  /-- Bits of the stored fraction. -/
  fracBits : Nat
  /-- Bits of the biased exponent. -/
  expBits : Nat

/-- The 64-bit format. -/
def binary64 : BinaryFormat := ⟨52, 11⟩

/-- The 32-bit format. -/
def binary32 : BinaryFormat := ⟨23, 8⟩

/-- What a float's bits stand for. -/
inductive Decoded where
  /-- Not a number. -/
  | nan
  /-- An infinity of the given sign. -/
  | infinite (negative : Bool)
  /-- The value `(-1)^negative · m · 2^e`; `boundary` marks a power of two above the least
  normal exponent, whose lower neighbour is half as far away as the upper one. -/
  | finite (negative : Bool) (m : Nat) (e : Int) (boundary : Bool)

/-- **Decode** the bits of a float of the given format. -/
def BinaryFormat.decode (f : BinaryFormat) (bits : Nat) : Decoded :=
  let frac := bits % Nat.pow 2 f.fracBits
  let biased := (bits / Nat.pow 2 f.fracBits) % Nat.pow 2 f.expBits
  let negative := (bits / Nat.pow 2 (f.fracBits + f.expBits)) % 2 == 1
  let bias : Int := Nat.pow 2 (f.expBits - 1) - 1
  if biased == Nat.pow 2 f.expBits - 1 then
    if frac == 0 then .infinite negative else .nan
  else if biased == 0 then .finite negative frac (1 - bias - f.fracBits) false
  else .finite negative (frac + Nat.pow 2 f.fracBits) (biased - bias - f.fracBits)
    (frac == 0 && biased > 1)

/-! ### Exact comparisons -/

/-- A non-negative rational `num / den`, kept as two natural numbers. -/
structure Ratio where
  num : Nat
  den : Nat

/-- The rational `c · 10^k`. -/
def Ratio.ofDecimal (c : Nat) (k : Int) : Ratio :=
  if k ≥ 0 then ⟨c * Nat.pow 10 k.toNat, 1⟩ else ⟨c, Nat.pow 10 (-k).toNat⟩

/-- Comparison of two rationals by cross multiplication. -/
def Ratio.cmp (a b : Ratio) : Ordering := compare (a.num * b.den) (b.num * a.den)

/-- The floor of a rational (zero for a zero denominator). -/
def Ratio.floor (a : Ratio) : Nat := a.num / a.den

/-- The rational `a / 10^k`. -/
def Ratio.shift (a : Ratio) (k : Int) : Ratio :=
  if k ≥ 0 then ⟨a.num, a.den * Nat.pow 10 k.toNat⟩ else ⟨a.num * Nat.pow 10 (-k).toNat, a.den⟩

/-- The rational `m · 2^e`. -/
def Ratio.ofBinary (m : Nat) (e : Int) : Ratio :=
  if e ≥ 0 then ⟨m * Nat.pow 2 e.toNat, 1⟩ else ⟨m, Nat.pow 2 (-e).toNat⟩

/-- The number of decimal digits of a positive natural number. -/
def decimalLength (n : Nat) : Nat := (Nat.toDigits 10 n).length

/-- The decimal exponent `L` of a positive rational: `10^L ≤ a < 10^(L+1)`. -/
def Ratio.log10 (a : Ratio) : Int :=
  let guess : Int := (decimalLength a.num : Int) - (decimalLength a.den : Int)
  -- the guess is off by at most one
  if (Ratio.ofDecimal 1 (guess + 1)).cmp a != .gt then guess + 1
  else if (Ratio.ofDecimal 1 guess).cmp a != .gt then guess
  else guess - 1

/-! ### Shortest digits -/

/-- Significant digits and the decimal exponent of their last digit: `digits · 10^exp`. -/
structure Digits where
  digits : Nat
  exp : Int

/-- Drops trailing zero digits, raising the exponent. -/
def Digits.normalize (d : Digits) : Digits :=
  go d.digits d.exp d.digits
where
  go (c : Nat) (k : Int) : Nat → Digits
    | 0 => ⟨c, k⟩
    | fuel + 1 => if c != 0 && c % 10 == 0 then go (c / 10) (k + 1) fuel else ⟨c, k⟩

/-- Whether `c · 10^k` lies in the interval `(lo, hi)`, ends included when `closed`. -/
def inInterval (lo hi : Ratio) (closed : Bool) (c : Nat) (k : Int) : Bool :=
  let x := Ratio.ofDecimal c k
  let aboveLo := match lo.cmp x with
    | .lt => true
    | .eq => closed
    | .gt => false
  let belowHi := match x.cmp hi with
    | .lt => true
    | .eq => closed
    | .gt => false
  aboveLo && belowHi

/-- The first digit count from `n` to `n + fuel` at which a decimal lies in the interval, and
that decimal; of two candidates the nearer to `v`, of two equally near the even one. -/
def searchDigits (v lo hi : Ratio) (closed : Bool) (L : Int) : Nat → Nat → Option Digits
  | _, 0 => none
  | n, fuel + 1 =>
    let k := L - n + 1
    let below := (v.shift k).floor
    let above := below + 1
    let okBelow := inInterval lo hi closed below k
    let okAbove := inInterval lo hi closed above k
    if okBelow && okAbove then
      -- compare 2v with (below + above) · 10^k
      match (Ratio.mk (2 * v.num) v.den).cmp (Ratio.ofDecimal (below + above) k) with
      | .lt => some ⟨below, k⟩
      | .gt => some ⟨above, k⟩
      | .eq => some (if below % 2 == 0 then ⟨below, k⟩ else ⟨above, k⟩)
    else if okBelow then some ⟨below, k⟩
    else if okAbove then some ⟨above, k⟩
    else searchDigits v lo hi closed L (n + 1) fuel

/-- **Shortest digits** of the positive value `m · 2^e`: the fewest significant digits that
read back as the same float. -/
def shortest (m : Nat) (e : Int) (boundary : Bool) : Digits :=
  let v := Ratio.ofBinary (4 * m) (e - 2)
  let lo := Ratio.ofBinary (if boundary then 4 * m - 1 else 4 * m - 2) (e - 2)
  let hi := Ratio.ofBinary (4 * m + 2) (e - 2)
  let L := v.log10
  match searchDigits v lo hi (m % 2 == 0) L 1 40 with
  | some d => d.normalize
  | none => ⟨m, 0⟩

/-! ### Layout -/

/-- How a float is laid out as text. -/
structure NumberStyle where
  /-- Scientific notation below this decimal exponent of the leading digit. -/
  sciBelow : Int
  /-- Scientific notation from this decimal exponent of the leading digit on. -/
  sciFrom : Int
  /-- The least number of exponent digits. -/
  expDigits : Nat
  /-- Whether a positive infinity carries a plus sign. -/
  plusInfinity : Bool

/-- General text: positional for leading exponents from -4 to 5, scientific with two exponent
digits otherwise. -/
def NumberStyle.general : NumberStyle := ⟨-4, 6, 2, true⟩

/-- Data text: positional for values from 10^-6 up to 10^21, scientific with bare exponent
digits otherwise. -/
def NumberStyle.data : NumberStyle := ⟨-6, 21, 1, true⟩

/-- The digits of `d` laid out in the style, without a sign. -/
def NumberStyle.layout (st : NumberStyle) (d : Digits) : String :=
  let ds := Nat.toDigits 10 d.digits
  let nd : Int := ds.length
  -- decimal exponent of the leading digit
  let lead := d.exp + nd - 1
  if d.digits == 0 then "0"
  else if lead < st.sciBelow || lead ≥ st.sciFrom then
    let mant := match ds with
      | [] => "0"
      | [c] => String.singleton c
      | c :: cs => String.singleton c ++ "." ++ String.ofList cs
    let sign := if lead < 0 then "-" else "+"
    let expText := Text.padLeft (toString lead.natAbs) st.expDigits '0'
    mant ++ "e" ++ sign ++ expText
  else if d.exp ≥ 0 then
    String.ofList ds ++ String.ofList (List.replicate d.exp.toNat '0')
  else
    let frac := (-d.exp).toNat
    if frac ≥ ds.length then
      "0." ++ String.ofList (List.replicate (frac - ds.length) '0') ++ String.ofList ds
    else
      String.ofList (ds.take (ds.length - frac)) ++ "." ++ String.ofList (ds.drop (ds.length - frac))

/-- **Text of a float** given by its bits, in a format and a style. -/
def BinaryFormat.text (f : BinaryFormat) (st : NumberStyle) (bits : Nat) : String :=
  match f.decode bits with
  | .nan => "NaN"
  | .infinite neg => if neg then "-Inf" else if st.plusInfinity then "+Inf" else "Inf"
  | .finite neg m e boundary =>
    let body := if m == 0 then "0" else st.layout (shortest m e boundary)
    if neg then "-" ++ body else body

/-- The general text of a 64-bit float. -/
def floatText (x : Float) : String := binary64.text .general x.toBits.toNat

/-- The general text of a 32-bit float. -/
def float32Text (x : Float32) : String := binary32.text .general x.toBits.toNat

/-- The data text of a 64-bit float. -/
def floatDataText (x : Float) : String := binary64.text .data x.toBits.toNat

/-! ### Reading decimals -/

/-- A decimal literal split into its parts: sign, digits and the exponent of the last digit. -/
structure DecimalLiteral where
  negative : Bool
  digits : Nat
  exp : Int

/-- Digits at the front, their value and count, and the rest. -/
def takeDigits : List Char → Nat → Nat → Nat × Nat × List Char
  | c :: cs, v, n => if c.isDigit then takeDigits cs (v * 10 + (c.toNat - 48)) (n + 1) else (v, n, c :: cs)
  | [], v, n => (v, n, [])

/-- **Read a decimal literal**: optional sign, digits, optional fraction and exponent. The whole
text must be the literal. -/
def DecimalLiteral.parse? (s : String) : Option DecimalLiteral :=
  let cs := s.toList
  let (neg, cs) := match cs with
    | '-' :: r => (true, r)
    | '+' :: r => (false, r)
    | r => (false, r)
  let (iv, ni, cs) := takeDigits cs 0 0
  let (fv, nf, cs) := match cs with
    | '.' :: r =>
      let (fv, nf, r) := takeDigits r 0 0
      (fv, nf, r)
    | r => (0, 0, r)
  if ni + nf == 0 then none else
  let mant := iv * Nat.pow 10 nf + fv
  let expPart : Option Int := match cs with
    | [] => some 0
    | c :: r =>
      if c == 'e' || c == 'E' then
        let (eneg, r) := match r with
          | '-' :: r' => (true, r')
          | '+' :: r' => (false, r')
          | r' => (false, r')
        let (ev, ne, r) := takeDigits r 0 0
        if ne == 0 || !r.isEmpty then none else some (if eneg then -(ev : Int) else ev)
      else none
  expPart.map fun x => ⟨neg, mant, x - nf⟩

/-- The 64-bit float nearest the decimal. -/
def DecimalLiteral.toFloat (d : DecimalLiteral) : Float :=
  let mag := if d.exp ≥ 0 then Float.ofScientific d.digits false d.exp.toNat
    else Float.ofScientific d.digits true (-d.exp).toNat
  if d.negative then -mag else mag

end Accessors.Number
