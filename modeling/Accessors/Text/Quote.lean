import Accessors.Text.Basic

/-!
# Quoted text

Text in double quotes with backslash escapes, as names and values are written in generated code
and in messages: `quote` writes it, `unquote?` reads it back. Printable characters stand for
themselves; a quote and a backslash are escaped; the usual control characters take their
one-letter escapes, other controls `\xNN`, and other unprintable characters `\uNNNN` or
`\UNNNNNNNN`.

Also here: the byte length of text in its UTF-8 form, and a cut of text at a byte count in
which the bytes of a character that the cut splits each read as the replacement character.
-/

namespace Accessors.Text

/-! ### Writing -/

/-- The hexadecimal digits of `n`, padded with zeros to `w` digits. -/
def hexPadded (n w : Nat) : String := padLeft (hexDigits n) w '0'

/-- The escaped form of one character inside double quotes. -/
def escapeChar (c : Char) : String :=
  if c == '"' then "\\\""
  else if c == '\\' then "\\\\"
  else if isPrint c then String.singleton c
  else match c with
  | '\x07' => "\\a"
  | '\x08' => "\\b"
  | '\x0c' => "\\f"
  | '\n' => "\\n"
  | '\r' => "\\r"
  | '\t' => "\\t"
  | '\x0b' => "\\v"
  | _ =>
    let n := c.toNat
    if n < 0x20 || n == 0x7F then "\\x" ++ hexPadded n 2
    else if n < 0x10000 then "\\u" ++ hexPadded n 4
    else "\\U" ++ hexPadded n 8

/-- **Quote**: the text in double quotes, every character escaped as needed. -/
def quote (s : String) : String :=
  "\"" ++ String.join (s.toList.map escapeChar) ++ "\""

/-- **A character in single quotes**, escaped as in `quote` except that the single quote is
escaped and the double quote is not. -/
def quoteRune (c : Char) : String :=
  "'" ++ (if c == '\x27' then "\\'" else if c == '"' then "\"" else escapeChar c) ++ "'"

/-- A character as its code point in hexadecimal, followed by the character in quotes when it is
printable: `U+0041 'A'`. -/
def describeRune (c : Char) : String :=
  let code := "U+" ++ (hexPadded c.toNat 4).toUpper
  if isPrint c then code ++ " '" ++ String.singleton c ++ "'" else code

/-! ### Reading -/

/-- The value of a hexadecimal digit. -/
def hexValue? (c : Char) : Option Nat :=
  if '0' ≤ c && c ≤ '9' then some (c.toNat - '0'.toNat)
  else if 'a' ≤ c && c ≤ 'f' then some (c.toNat - 'a'.toNat + 10)
  else if 'A' ≤ c && c ≤ 'F' then some (c.toNat - 'A'.toNat + 10)
  else none

/-- The number written by exactly `k` hexadecimal digits at the front, and the rest. -/
def takeHex (k : Nat) (cs : List Char) : Option (Nat × List Char) :=
  match (cs.take k).foldlM (fun acc c => (hexValue? c).map (acc * 16 + ·)) 0 with
  | some v => if cs.length < k then none else some (v, cs.drop k)
  | none => none

/-- What is left after the digits is no longer than what was read. -/
theorem takeHex_length_le {k : Nat} {cs r : List Char} {n : Nat}
    (h : takeHex k cs = some (n, r)) : r.length ≤ cs.length := by
  unfold takeHex at h
  split at h
  · split at h
    · simp at h
    · simp only [Option.some.injEq, Prod.mk.injEq] at h
      rw [← h.2]; simp
  · simp at h

/-- The number written by exactly three octal digits at the front, and the rest. -/
def takeOctal : List Char → Option (Nat × List Char)
  | a :: b :: c :: rest =>
    let ok (x : Char) := '0' ≤ x && x ≤ '7'
    if ok a && ok b && ok c then
      some ((a.toNat - 48) * 64 + (b.toNat - 48) * 8 + (c.toNat - 48), rest)
    else none
  | _ => none

/-- What is left after the octal digits is shorter than what was read. -/
theorem takeOctal_length_lt {cs r : List Char} {n : Nat}
    (h : takeOctal cs = some (n, r)) : r.length < cs.length := by
  unfold takeOctal at h
  split at h
  · dsimp only at h
    split at h
    · simp only [Option.some.injEq, Prod.mk.injEq] at h
      rw [← h.2]; simp only [List.length_cons]; omega
    · simp at h
  · simp at h

/-- The character of a code point read from an escape: surrogates and values beyond the last
code point are refused. -/
def escapedRune? (n : Nat) : Option Char :=
  if n > 0x10FFFF || (0xD800 ≤ n && n ≤ 0xDFFF) then none else some (Char.ofNat n)

/-- Reads the body of a double-quoted text up to the end of the characters. A byte escape above
`0x7F` reads as the replacement character, since a lone byte is no character. -/
def unescape : List Char → Option (List Char)
  | [] => some []
  | '"' :: _ => none
  | '\n' :: _ => none
  | '\\' :: rest =>
    match rest with
    | 'a' :: r => ('\x07' :: ·) <$> unescape r
    | 'b' :: r => ('\x08' :: ·) <$> unescape r
    | 'f' :: r => ('\x0c' :: ·) <$> unescape r
    | 'n' :: r => ('\n' :: ·) <$> unescape r
    | 'r' :: r => ('\r' :: ·) <$> unescape r
    | 't' :: r => ('\t' :: ·) <$> unescape r
    | 'v' :: r => ('\x0b' :: ·) <$> unescape r
    | '\\' :: r => ('\\' :: ·) <$> unescape r
    | '"' :: r => ('"' :: ·) <$> unescape r
    | 'x' :: r =>
      match h : takeHex 2 r with
      | some (n, r') =>
        have := takeHex_length_le h
        let c := if n < 0x80 then Char.ofNat n else Char.ofNat 0xFFFD
        (c :: ·) <$> unescape r'
      | none => none
    | 'u' :: r =>
      match h : takeHex 4 r with
      | some (n, r') =>
        have := takeHex_length_le h
        match escapedRune? n with
        | some c => (c :: ·) <$> unescape r'
        | none => none
      | none => none
    | 'U' :: r =>
      match h : takeHex 8 r with
      | some (n, r') =>
        have := takeHex_length_le h
        match escapedRune? n with
        | some c => (c :: ·) <$> unescape r'
        | none => none
      | none => none
    | r =>
      match h : takeOctal r with
      | some (n, r') =>
        have := takeOctal_length_lt h
        if n < 0x80 then (Char.ofNat n :: ·) <$> unescape r'
        else if n < 0x100 then (Char.ofNat 0xFFFD :: ·) <$> unescape r'
        else none
      | none => none
  | c :: rest => (c :: ·) <$> unescape rest
termination_by cs => cs.length

/-- **Unquote**: the text that a double-quoted literal stands for, or `none` when the literal is
not well formed: a missing quote, a quote or line break inside, or a bad escape. -/
def unquote? (s : String) : Option String :=
  match s.toList with
  | '"' :: rest =>
    match rest.reverse with
    | '"' :: body => String.ofList <$> unescape body.reverse
    | _ => none
  | _ => none

/-! ### Bytes -/

/-- The number of bytes of a character in UTF-8. -/
def utf8Width (c : Char) : Nat :=
  let n := c.toNat
  if n < 0x80 then 1 else if n < 0x800 then 2 else if n < 0x10000 then 3 else 4

/-- The number of bytes of a text in UTF-8. -/
def byteLength (s : String) : Nat := s.toList.foldl (fun n c => n + utf8Width c) 0

/-- The characters within the first `n` bytes; a character that the cut splits leaves one
replacement character per byte that falls inside the cut. -/
def cutBytesChars : List Char → Nat → List Char
  | [], _ => []
  | c :: cs, n =>
    let w := utf8Width c
    if w ≤ n then c :: cutBytesChars cs (n - w)
    else List.replicate n (Char.ofNat 0xFFFD)

/-- **Cut at a byte count**: the text of the first `n` bytes. -/
def cutBytes (s : String) (n : Nat) : String := String.ofList (cutBytesChars s.toList n)

end Accessors.Text
