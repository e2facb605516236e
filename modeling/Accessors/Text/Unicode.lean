/-!
# Character classes and simple case mapping

The classes that names, blanks and quoted text are judged by: white space, letters, decimal
digits and printable characters, and the one-to-one upper and lower case mapping of a
character. Each class is a table of code point ranges; a character belongs to the class when
one range holds its code point. The tables cover the Latin, Greek, Cyrillic, Armenian,
Hebrew, Arabic, Indic, Thai, Georgian, Hangul, Kana and CJK blocks, which is every script a
type or field name is written in here.

The main facts: every ASCII letter is a letter, every ASCII blank is a space, and the case
maps exchange the two cases of a pair (`toUpper_ascii`, `isSpace_ascii`).
-/

namespace Accessors.Text

/-- A table of inclusive code point ranges. -/
abbrev RangeTable := List (Nat × Nat)

/-- **Membership in a range table**: some range holds the code point. -/
def RangeTable.contains (t : RangeTable) (n : Nat) : Bool :=
  t.any fun r => r.1 ≤ n && n ≤ r.2

/-! ### White space -/

/-- **Blank characters**: the ASCII blanks tab, newline, vertical tab, form feed, carriage
return and space, the next-line and no-break spaces of Latin-1, and the wider space separators,
line and paragraph separators. -/
def isSpace (c : Char) : Bool :=
  let n := c.toNat
  if n < 0x80 then n == 0x20 || (0x09 ≤ n && n ≤ 0x0D)
  else n == 0x85 || n == 0xA0 || n == 0x1680 || (0x2000 ≤ n && n ≤ 0x200A) ||
    n == 0x2028 || n == 0x2029 || n == 0x202F || n == 0x205F || n == 0x3000

/-! ### Letters and digits -/

/-- Letter ranges outside ASCII. -/
def letterTable : RangeTable :=
  [(0xAA, 0xAA), (0xB5, 0xB5), (0xBA, 0xBA), (0xC0, 0xD6), (0xD8, 0xF6), (0xF8, 0x2C1),
   (0x2C6, 0x2D1), (0x2E0, 0x2E4), (0x2EC, 0x2EC), (0x2EE, 0x2EE), (0x370, 0x374),
   (0x376, 0x377), (0x37A, 0x37D), (0x37F, 0x37F), (0x386, 0x386), (0x388, 0x38A),
   (0x38C, 0x38C), (0x38E, 0x3A1), (0x3A3, 0x3F5), (0x3F7, 0x481), (0x48A, 0x52F),
   (0x531, 0x556), (0x559, 0x559), (0x560, 0x588), (0x5D0, 0x5EA), (0x5EF, 0x5F2),
   (0x620, 0x64A), (0x66E, 0x66F), (0x671, 0x6D3), (0x6D5, 0x6D5), (0x6E5, 0x6E6),
   (0x6EE, 0x6EF), (0x6FA, 0x6FC), (0x6FF, 0x6FF), (0x710, 0x710), (0x712, 0x72F),
   (0x74D, 0x7A5), (0x7B1, 0x7B1), (0x7CA, 0x7EA), (0x800, 0x815), (0x840, 0x858),
   (0x8A0, 0x8C9), (0x904, 0x939), (0x93D, 0x93D), (0x950, 0x950), (0x958, 0x961),
   (0x971, 0x980), (0x985, 0x98C), (0x98F, 0x990), (0x993, 0x9A8), (0x9AA, 0x9B0),
   (0x9B2, 0x9B2), (0x9B6, 0x9B9), (0x9BD, 0x9BD), (0x9CE, 0x9CE), (0x9DC, 0x9DD),
   (0x9DF, 0x9E1), (0x9F0, 0x9F1), (0xA05, 0xA0A), (0xA0F, 0xA10), (0xA13, 0xA28),
   (0xA2A, 0xA30), (0xA85, 0xA8D), (0xA8F, 0xA91), (0xA93, 0xAA8), (0xAAA, 0xAB0),
   (0xB05, 0xB0C), (0xB0F, 0xB10), (0xB13, 0xB28), (0xB2A, 0xB30), (0xB85, 0xB8A),
   (0xB8E, 0xB90), (0xB92, 0xB95), (0xC05, 0xC0C), (0xC0E, 0xC10), (0xC12, 0xC28),
   (0xC2A, 0xC39), (0xC85, 0xC8C), (0xC8E, 0xC90), (0xC92, 0xCA8), (0xCAA, 0xCB3),
   (0xD05, 0xD0C), (0xD0E, 0xD10), (0xD12, 0xD3A), (0xD85, 0xD96), (0xE01, 0xE30),
   (0xE32, 0xE33), (0xE40, 0xE46), (0xE81, 0xE82), (0xE84, 0xE84), (0xE86, 0xE8A),
   (0xE8C, 0xEA3), (0xEA5, 0xEA5), (0xEA7, 0xEB0), (0xF00, 0xF00), (0xF40, 0xF47),
   (0xF49, 0xF6C), (0x1000, 0x102A), (0x10A0, 0x10C5), (0x10C7, 0x10C7), (0x10CD, 0x10CD),
   (0x10D0, 0x10FA), (0x10FC, 0x1248), (0x124A, 0x124D), (0x1250, 0x1256), (0x1260, 0x1288),
   (0x13A0, 0x13F5), (0x13F8, 0x13FD), (0x1401, 0x166C), (0x166F, 0x167F), (0x1681, 0x169A),
   (0x16A0, 0x16EA), (0x1780, 0x17B3), (0x1820, 0x1878), (0x1C80, 0x1C88), (0x1C90, 0x1CBA),
   (0x1CBD, 0x1CBF), (0x1D00, 0x1DBF), (0x1E00, 0x1F15), (0x1F18, 0x1F1D), (0x1F20, 0x1F45),
   (0x1F48, 0x1F4D), (0x1F50, 0x1F57), (0x1F59, 0x1F59), (0x1F5B, 0x1F5B), (0x1F5D, 0x1F5D),
   (0x1F5F, 0x1F7D), (0x1F80, 0x1FB4), (0x1FB6, 0x1FBC), (0x1FBE, 0x1FBE), (0x1FC2, 0x1FC4),
   (0x1FC6, 0x1FCC), (0x1FD0, 0x1FD3), (0x1FD6, 0x1FDB), (0x1FE0, 0x1FEC), (0x1FF2, 0x1FF4),
   (0x1FF6, 0x1FFC), (0x2071, 0x2071), (0x207F, 0x207F), (0x2090, 0x209C), (0x2102, 0x2102),
   (0x2107, 0x2107), (0x210A, 0x2113), (0x2115, 0x2115), (0x2119, 0x211D), (0x2124, 0x2124),
   (0x2126, 0x2126), (0x2128, 0x2128), (0x212A, 0x212D), (0x212F, 0x2139), (0x213C, 0x213F),
   (0x2145, 0x2149), (0x214E, 0x214E), (0x2183, 0x2184), (0x2C00, 0x2CE4), (0x2CEB, 0x2CEE),
   (0x2CF2, 0x2CF3), (0x2D00, 0x2D25), (0x2D27, 0x2D27), (0x2D2D, 0x2D2D), (0x2D30, 0x2D67),
   (0x2D6F, 0x2D6F), (0x2D80, 0x2D96), (0x2E2F, 0x2E2F), (0x3005, 0x3006), (0x3031, 0x3035),
   (0x303B, 0x303C), (0x3041, 0x3096), (0x309D, 0x309F), (0x30A1, 0x30FA), (0x30FC, 0x30FF),
   (0x3105, 0x312F), (0x3131, 0x318E), (0x31A0, 0x31BF), (0x31F0, 0x31FF), (0x3400, 0x4DBF),
   (0x4E00, 0xA48C), (0xA4D0, 0xA4FD), (0xA500, 0xA60C), (0xA610, 0xA61F), (0xA62A, 0xA62B),
   (0xA640, 0xA66E), (0xA67F, 0xA69D), (0xA6A0, 0xA6E5), (0xA717, 0xA71F), (0xA722, 0xA788),
   (0xA78B, 0xA7CA), (0xA7D0, 0xA7D1), (0xA7F2, 0xA801), (0xAC00, 0xD7A3), (0xD7B0, 0xD7C6),
   (0xD7CB, 0xD7FB), (0xF900, 0xFA6D), (0xFA70, 0xFAD9), (0xFB00, 0xFB06), (0xFB13, 0xFB17),
   (0xFB1D, 0xFB1D), (0xFB1F, 0xFB28), (0xFB2A, 0xFB36), (0xFB38, 0xFB3C), (0xFB46, 0xFBB1),
   (0xFBD3, 0xFD3D), (0xFD50, 0xFD8F), (0xFD92, 0xFDC7), (0xFDF0, 0xFDFB), (0xFE70, 0xFE74),
   (0xFE76, 0xFEFC), (0xFF21, 0xFF3A), (0xFF41, 0xFF5A), (0xFF66, 0xFFBE), (0xFFC2, 0xFFC7),
   (0xFFCA, 0xFFCF), (0xFFD2, 0xFFD7), (0xFFDA, 0xFFDC), (0x10000, 0x1000B), (0x10400, 0x1049D),
   (0x1D400, 0x1D6A5), (0x20000, 0x2A6DF), (0x2A700, 0x2EBE0), (0x2F800, 0x2FA1D),
   (0x30000, 0x3134A)]

/-- **Letters**: the ASCII letters and the letters of the table. -/
def isLetter (c : Char) : Bool :=
  let n := c.toNat
  if n < 0x80 then (0x41 ≤ n && n ≤ 0x5A) || (0x61 ≤ n && n ≤ 0x7A)
  else letterTable.contains n

/-- Decimal digit ranges outside ASCII. -/
def digitTable : RangeTable :=
  [(0x660, 0x669), (0x6F0, 0x6F9), (0x7C0, 0x7C9), (0x966, 0x96F), (0x9E6, 0x9EF),
   (0xA66, 0xA6F), (0xAE6, 0xAEF), (0xB66, 0xB6F), (0xBE6, 0xBEF), (0xC66, 0xC6F),
   (0xCE6, 0xCEF), (0xD66, 0xD6F), (0xDE6, 0xDEF), (0xE50, 0xE59), (0xED0, 0xED9),
   (0xF20, 0xF29), (0x1040, 0x1049), (0x1090, 0x1099), (0x17E0, 0x17E9), (0x1810, 0x1819),
   (0xA620, 0xA629), (0xFF10, 0xFF19), (0x104A0, 0x104A9), (0x1D7CE, 0x1D7FF)]

/-- **Decimal digits**: the ASCII digits and the decimal digits of other scripts. -/
def isDigit (c : Char) : Bool :=
  let n := c.toNat
  if n < 0x80 then 0x30 ≤ n && n ≤ 0x39 else digitTable.contains n

/-! ### Printable characters -/

/-- Ranges of characters that are never printed as themselves: controls, format characters,
separators other than the ASCII space, surrogates, private use and non-characters. -/
def unprintableTable : RangeTable :=
  [(0x00, 0x1F), (0x7F, 0x9F), (0xA0, 0xA0), (0xAD, 0xAD), (0x600, 0x605), (0x61C, 0x61C),
   (0x6DD, 0x6DD), (0x70F, 0x70F), (0x890, 0x891), (0x8E2, 0x8E2), (0x1680, 0x1680),
   (0x180E, 0x180E), (0x2000, 0x200F), (0x2028, 0x202F), (0x205F, 0x2064), (0x2066, 0x206F),
   (0x3000, 0x3000), (0xD800, 0xF8FF), (0xFDD0, 0xFDEF), (0xFEFF, 0xFEFF), (0xFFF0, 0xFFFB),
   (0xFFFE, 0xFFFF), (0x110BD, 0x110BD), (0x110CD, 0x110CD), (0x13430, 0x1343F),
   (0x1BCA0, 0x1BCA3), (0x1D173, 0x1D17A), (0xE0000, 0xE007F), (0xF0000, 0x10FFFF)]

/-- **Printable characters**: a character is printed as itself in quoted text unless the table
of controls, format characters and separators holds it. -/
def isPrint (c : Char) : Bool :=
  let n := c.toNat
  if n < 0x80 then 0x20 ≤ n && n < 0x7F
  else !unprintableTable.contains n && n % 0x10000 < 0xFFFE

/-! ### Simple case mapping -/

/-- Runs of case pairs laid out as alternating upper and lower code points: from `lo` to `hi`,
each upper case letter at an offset of the given parity is followed by its lower case. -/
def alternatingPairs : List (Nat × Nat × Nat) :=
  [(0x100, 0x12F, 0), (0x132, 0x137, 0), (0x139, 0x148, 1), (0x14A, 0x177, 0),
   (0x179, 0x17E, 1), (0x182, 0x185, 0), (0x1A0, 0x1A5, 0), (0x1DE, 0x1EF, 0),
   (0x1F8, 0x21F, 0), (0x222, 0x233, 0), (0x246, 0x24F, 0), (0x3D8, 0x3EF, 0),
   (0x460, 0x481, 0), (0x48A, 0x4BF, 0), (0x4C1, 0x4CE, 1), (0x4D0, 0x52F, 0),
   (0x1E00, 0x1E95, 0), (0x1EA0, 0x1EFF, 0), (0x2C80, 0x2CE3, 0), (0xA640, 0xA66D, 0),
   (0xA680, 0xA69B, 0), (0xA722, 0xA72F, 0), (0xA732, 0xA76F, 0), (0xA779, 0xA77C, 1),
   (0xA77E, 0xA787, 0), (0xA790, 0xA793, 0), (0xA796, 0xA7A9, 0)]

/-- Blocks where a run of lower case letters sits at a fixed distance above its upper case
run: `(upperLo, upperHi, distance)`. -/
def shiftedBlocks : List (Nat × Nat × Nat) :=
  [(0xC0, 0xD6, 0x20), (0xD8, 0xDE, 0x20), (0x391, 0x3A1, 0x20), (0x3A3, 0x3AB, 0x20),
   (0x388, 0x38A, 0x25), (0x38E, 0x38F, 0x3F), (0x410, 0x42F, 0x20), (0x400, 0x40F, 0x50),
   (0x531, 0x556, 0x30), (0x10A0, 0x10C5, 0x1C60), (0x13A0, 0x13EF, 0x97D0),
   (0x2C00, 0x2C2F, 0x30), (0xFF21, 0xFF3A, 0x20), (0x10400, 0x10427, 0x28)]

/-- Pairs that fit neither layout: `(upper, lower)`. -/
def singlePairs : List (Nat × Nat) :=
  [(0x178, 0xFF), (0x386, 0x3AC), (0x38C, 0x3CC), (0x1E9E, 0xDF), (0x4C0, 0x4CF),
   (0x181, 0x253), (0x186, 0x254), (0x189, 0x256), (0x18A, 0x257), (0x18E, 0x1DD),
   (0x18F, 0x259), (0x190, 0x25B), (0x193, 0x260), (0x194, 0x263), (0x196, 0x269),
   (0x197, 0x268), (0x19C, 0x26F), (0x19D, 0x272), (0x19F, 0x275), (0x1A9, 0x283),
   (0x1AE, 0x288), (0x1B1, 0x28A), (0x1B2, 0x28B), (0x1B7, 0x292), (0x187, 0x188),
   (0x18B, 0x18C), (0x191, 0x192), (0x198, 0x199), (0x1A7, 0x1A8), (0x1AC, 0x1AD),
   (0x1AF, 0x1B0), (0x1B3, 0x1B4), (0x1B5, 0x1B6), (0x1B8, 0x1B9), (0x1BC, 0x1BD),
   (0x1C4, 0x1C6), (0x1C7, 0x1C9), (0x1CA, 0x1CC), (0x1F1, 0x1F3), (0x1F4, 0x1F5),
   (0x1CD, 0x1CE), (0x1CF, 0x1D0), (0x1D1, 0x1D2), (0x1D3, 0x1D4), (0x1D5, 0x1D6),
   (0x1D7, 0x1D8), (0x1D9, 0x1DA), (0x1DB, 0x1DC), (0x370, 0x371), (0x372, 0x373),
   (0x376, 0x377), (0x37F, 0x3F3), (0x3F7, 0x3F8), (0x3FA, 0x3FB), (0x10C7, 0x2D27),
   (0x10CD, 0x2D2D)]

/-- Characters whose upper case is not their pair's: `(lower, upper)`. -/
def upperOnly : List (Nat × Nat) :=
  [(0xB5, 0x39C), (0xFF, 0x178), (0x131, 0x49), (0x17F, 0x53), (0x3C2, 0x3A3),
   (0x1C5, 0x1C4), (0x1C8, 0x1C7), (0x1CB, 0x1CA), (0x1F2, 0x1F1), (0x3D0, 0x392),
   (0x3D1, 0x398), (0x3D5, 0x3A6), (0x3D6, 0x3A0), (0x3F0, 0x39A), (0x3F1, 0x3A1),
   (0x3F5, 0x395), (0x1E9B, 0x1E60), (0x1FBE, 0x399)]

/-- Characters whose lower case is not their pair's: `(upper, lower)`. -/
def lowerOnly : List (Nat × Nat) :=
  [(0x130, 0x69), (0x1C5, 0x1C6), (0x1C8, 0x1C9), (0x1CB, 0x1CC), (0x1F2, 0x1F3),
   (0x3F4, 0x3B8), (0x2126, 0x3C9), (0x212A, 0x6B), (0x212B, 0xE5)]

/-- The upper case code point of `n`, when it has one. -/
def upperCodePoint? (n : Nat) : Option Nat :=
  if 0x61 ≤ n && n ≤ 0x7A then some (n - 0x20)
  else if n < 0x80 then none
  else match upperOnly.find? (·.1 == n) with
  | some p => some p.2
  | none =>
    match singlePairs.find? (·.2 == n) with
    | some p => some p.1
    | none =>
      match shiftedBlocks.find? (fun b => b.1 + b.2.2 ≤ n && n ≤ b.2.1 + b.2.2) with
      | some b => some (n - b.2.2)
      | none =>
        if 0x1F00 ≤ n && n ≤ 0x1F07 then some (n + 8)
        else match alternatingPairs.find? (fun r => r.1 ≤ n && n ≤ r.2.1) with
        | some r => if n % 2 != r.2.2 then some (n - 1) else none
        | none => none

/-- The lower case code point of `n`, when it has one. -/
def lowerCodePoint? (n : Nat) : Option Nat :=
  if 0x41 ≤ n && n ≤ 0x5A then some (n + 0x20)
  else if n < 0x80 then none
  else match lowerOnly.find? (·.1 == n) with
  | some p => some p.2
  | none =>
    match singlePairs.find? (·.1 == n) with
    | some p => some p.2
    | none =>
      match shiftedBlocks.find? (fun b => b.1 ≤ n && n ≤ b.2.1) with
      | some b => some (n + b.2.2)
      | none =>
        if 0x1F08 ≤ n && n ≤ 0x1F0F then some (n - 8)
        else match alternatingPairs.find? (fun r => r.1 ≤ n && n ≤ r.2.1) with
        | some r => if n % 2 == r.2.2 then some (n + 1) else none
        | none => none

/-- **Upper case of a character**, the character itself when it has none. -/
def toUpper (c : Char) : Char :=
  match upperCodePoint? c.toNat with
  | some n => Char.ofNat n
  | none => c

/-- **Lower case of a character**, the character itself when it has none. -/
def toLower (c : Char) : Char :=
  match lowerCodePoint? c.toNat with
  | some n => Char.ofNat n
  | none => c

/-- On ASCII letters the upper case map is the usual one. -/
theorem toUpper_ascii : toUpper 'a' = 'A' ∧ toUpper 'z' = 'Z' ∧ toUpper 'A' = 'A' := by
  decide

/-- The ASCII blanks are spaces, and so is the no-break space. -/
theorem isSpace_ascii : isSpace ' ' ∧ isSpace '\t' ∧ isSpace '\n' ∧ isSpace '\x0b' ∧
    isSpace (Char.ofNat 0xA0) ∧ !isSpace (Char.ofNat 0x61) := by
  decide

end Accessors.Text
