import Accessors.Text.Unicode

/-!
# Text operations

Trimming, splitting and joining of text by the blank class of `Accessors.Text.Unicode`,
replacement of every occurrence of a pattern, and the name rules: first-letter case changes
and valid identifiers.

Each operation works on the characters of the text, so its laws are laws of lists:
`trimLeft` drops exactly the leading blanks (`trimLeftChars_append`), and dropping a prefix
gives back what followed it (`dropPrefix?_append`). The characters are read from the text's
UTF-8 bytes one after another (`chars`), which is `String.toList` (`chars_eq_toList`) in a form
whose steps each take a bounded number of bytes.
-/

namespace Accessors.Text

/-! ### Characters -/

/-- The characters encoded in UTF-8 `bytes`, at most `fuel` of them: each decoded from the first
four bytes left, which then lose the bytes it took. -/
def decodeChars : Nat → List UInt8 → List Char
  | 0, _ => []
  | _ + 1, [] => []
  | fuel + 1, b :: bs =>
    match ((b :: bs).take 4).toByteArray.utf8DecodeChar? 0 with
    | some c => c :: decodeChars fuel ((b :: bs).drop c.utf8Size)
    | none => []

/-- **The characters of a text**, decoded from its bytes. -/
def chars (s : String) : List Char :=
  let bytes := s.toByteArray.data.toList
  decodeChars bytes.length bytes

/-- A character's encoding in front of more bytes is decoded as the character. -/
theorem decodeChars_utf8EncodeChar_append (fuel : Nat) (c : Char) (rest : List UInt8) :
    decodeChars (fuel + 1) (String.utf8EncodeChar c ++ rest) = c :: decodeChars fuel rest := by
  have hlen := String.length_utf8EncodeChar c
  have hle := c.utf8Size_le_four
  -- the first four bytes hold the whole encoding
  have hfirst : ((String.utf8EncodeChar c ++ rest).take 4).toByteArray.utf8DecodeChar? 0 = some c := by
    rw [List.take_append, List.take_of_length_le (by omega), List.toByteArray_append,
      ByteArray.utf8DecodeChar?_utf8EncodeChar_append]
  have hdrop : (String.utf8EncodeChar c ++ rest).drop c.utf8Size = rest := by
    rw [← hlen, List.drop_left]
  obtain ⟨b, bs, hb⟩ : ∃ b bs, String.utf8EncodeChar c ++ rest = b :: bs :=
    List.exists_cons_of_ne_nil (by simp)
  rw [hb] at hfirst hdrop ⊢
  rw [decodeChars, hfirst]
  dsimp only
  rw [hdrop]

/-- Decoding the encodings of characters gives the characters back, with fuel for every byte. -/
theorem decodeChars_flatMap : ∀ (cs : List Char) (fuel : Nat),
    (cs.flatMap String.utf8EncodeChar).length ≤ fuel →
      decodeChars fuel (cs.flatMap String.utf8EncodeChar) = cs
  | [], 0, _ => rfl
  | [], _ + 1, _ => rfl
  | c :: cs, fuel, h => by
    have hpos := c.utf8Size_pos
    rw [List.flatMap_cons, List.length_append, String.length_utf8EncodeChar] at h
    obtain ⟨fuel, rfl⟩ : ∃ f, fuel = f + 1 := ⟨fuel - 1, by omega⟩
    rw [List.flatMap_cons, decodeChars_utf8EncodeChar_append, decodeChars_flatMap cs fuel (by omega)]

/-- **The characters decoded from a text's bytes are its characters.** -/
@[simp] theorem chars_eq_toList (s : String) : chars s = s.toList := by
  obtain ⟨l, rfl⟩ := s.exists_eq_ofList
  rw [chars, String.toList_ofList, String.toByteArray_ofList, List.utf8Encode, List.toList_data_toByteArray]
  exact decodeChars_flatMap l _ (Nat.le_refl _)

/-! ### Trimming -/

/-- Characters with their leading blanks removed. -/
def trimLeftChars (cs : List Char) : List Char := cs.dropWhile isSpace

/-- Characters with their trailing blanks removed. -/
def trimRightChars (cs : List Char) : List Char := (cs.reverse.dropWhile isSpace).reverse

/-- **Trim**: the text without its leading and trailing blanks. -/
def trimSpace (s : String) : String := String.ofList (trimRightChars (trimLeftChars s.toList))

/-- The text without its leading blanks. -/
def trimLeft (s : String) : String := String.ofList (trimLeftChars s.toList)

/-- The text without its trailing blanks. -/
def trimRight (s : String) : String := String.ofList (trimRightChars s.toList)

/-- Trimming blanks in front of a text that starts with a non-blank character drops exactly
the blanks. -/
theorem trimLeftChars_append (bs cs : List Char) (hb : ∀ b ∈ bs, isSpace b = true)
    (c : Char) (hc : isSpace c = false) : trimLeftChars (bs ++ c :: cs) = c :: cs := by
  induction bs with
  | nil => simp [trimLeftChars, hc]
  | cons b bs ih =>
    have hb' : isSpace b = true := hb b (by simp)
    simp only [trimLeftChars, List.cons_append, List.dropWhile, hb']
    exact ih (fun x hx => hb x (by simp [hx]))

/-! ### Prefixes and suffixes -/

/-- The rest of `cs` after the prefix `p`, when `cs` starts with it. -/
def dropPrefix? : List Char → List Char → Option (List Char)
  | [], cs => some cs
  | _ :: _, [] => none
  | p :: ps, c :: cs => if p = c then dropPrefix? ps cs else none

/-- The text without the prefix `p`, or the text itself when it does not start with `p`. -/
def trimPrefix (s p : String) : String :=
  match dropPrefix? p.toList s.toList with
  | some rest => String.ofList rest
  | none => s

/-- The text without the suffix `p`, or the text itself when it does not end with `p`. -/
def trimSuffix (s p : String) : String :=
  match dropPrefix? p.toList.reverse s.toList.reverse with
  | some rest => String.ofList rest.reverse
  | none => s

/-- Whether the text starts with `p`. -/
def hasPrefix (s p : String) : Bool := (dropPrefix? p.toList s.toList).isSome

/-- Whether the text ends with `p`. -/
def hasSuffix (s p : String) : Bool := (dropPrefix? p.toList.reverse s.toList.reverse).isSome

/-- Dropping a prefix that was put in front gives back the rest. -/
theorem dropPrefix?_append (p cs : List Char) : dropPrefix? p (p ++ cs) = some cs := by
  induction p with
  | nil => rfl
  | cons x xs ih => simp [dropPrefix?, ih]

/-! ### Splitting and joining -/

/-- Dropping a non-empty prefix shortens the characters. -/
theorem length_lt_of_dropPrefix? : ∀ {p l r : List Char}, p ≠ [] → dropPrefix? p l = some r →
    r.length < l.length
  | [], _, _, hp, _ => absurd rfl hp
  | _ :: _, [], _, _, hd => by simp [dropPrefix?] at hd
  | x :: xs, y :: ys, r, _, hd => by
    simp only [dropPrefix?] at hd
    split at hd
    · cases xs with
      | nil => simp [dropPrefix?] at hd; subst hd; simp
      | cons z zs =>
        have := length_lt_of_dropPrefix? (by simp) hd
        simp; omega
    · simp at hd

/-- Splits characters at every occurrence of a non-empty separator, scanning from the left;
the finished pieces are kept in `acc` in reverse order, the current piece reversed in `cur`. -/
def splitChars (sep : List Char) (h : sep ≠ []) : List Char → List Char → List (List Char) →
    List (List Char)
  | [], cur, acc => (cur.reverse :: acc).reverse
  | c :: cs, cur, acc =>
    match hp : dropPrefix? sep (c :: cs) with
    | some rest =>
      have h1 := length_lt_of_dropPrefix? h hp
      have : rest.length < cs.length + 1 := by rw [List.length_cons] at h1; exact h1
      splitChars sep h rest [] (cur.reverse :: acc)
    | none => splitChars sep h cs (c :: cur) acc
termination_by cs => cs.length

/-- **Split**: the pieces of the text between the occurrences of `sep`, from the left. An empty
separator splits between characters. -/
def splitOn (s sep : String) : List String :=
  if h : sep.toList = [] then s.toList.map (fun c => String.singleton c)
  else (splitChars sep.toList h s.toList [] []).map String.ofList

/-- **Join**: the pieces with `sep` between neighbours. -/
def joinWith (sep : String) (xs : List String) : String := sep.intercalate xs

/-- **Replace**: every occurrence of `old`, from the left and without overlap, replaced by `new`. -/
def replaceAll (s old new : String) : String :=
  if old.isEmpty then s else joinWith new (splitOn s old)

/-- The blank-separated words of the text. -/
def fieldsChars : List Char → List Char → List (List Char)
  | [], cur => if cur.isEmpty then [] else [cur.reverse]
  | c :: cs, cur =>
    if isSpace c then
      if cur.isEmpty then fieldsChars cs [] else cur.reverse :: fieldsChars cs []
    else fieldsChars cs (c :: cur)

/-- **Words**: the maximal runs of non-blank characters, in order. -/
def fields (s : String) : List String := (fieldsChars s.toList []).map String.ofList

/-- Whether `sub` occurs in the text. -/
def containsText (s sub : String) : Bool := (splitOn s sub).length > 1 || sub.isEmpty

/-! ### Case of the first letter -/

/-- **Upper first**: the text with its first character in upper case. -/
def upperFirst (s : String) : String :=
  match s.toList with
  | [] => s
  | c :: cs => String.ofList (toUpper c :: cs)

/-- **Lower first**: the text with its first character in lower case. -/
def lowerFirst (s : String) : String :=
  match s.toList with
  | [] => s
  | c :: cs => String.ofList (toLower c :: cs)

/-- Upper first changes nothing but the first character. -/
theorem upperFirst_cons (c : Char) (cs : List Char) :
    upperFirst (String.ofList (c :: cs)) = String.ofList (toUpper c :: cs) := by
  simp [upperFirst]

/-! ### Identifiers -/

/-- The reserved words, which are never names. -/
def keywords : List String :=
  ["break", "case", "chan", "const", "continue", "default", "defer", "else", "fallthrough",
   "for", "func", "go", "goto", "if", "import", "interface", "map", "package", "range",
   "return", "select", "struct", "switch", "type", "var"]

/-- A character that may start a name: a letter or an underscore. -/
def isNameStart (c : Char) : Bool := isLetter c || c == '_'

/-- A character that may continue a name: a letter, a digit or an underscore. -/
def isNamePart (c : Char) : Bool := isLetter c || isDigit c || c == '_'

/-- **Identifier**: a letter or underscore followed by letters, digits and underscores, and not
a reserved word. -/
def isIdentifier (s : String) : Bool :=
  match s.toList with
  | [] => false
  | c :: cs => isNameStart c && cs.all isNamePart && !keywords.contains s

/-! ### Numbers -/

/-- The digits of a natural number in base `b` (from 2 to 16), most significant first. -/
def digitsIn (b : Nat) (n : Nat) : List Char := go n []
where
  go (n : Nat) (acc : List Char) : List Char :=
    let d := "0123456789abcdef".toList.getD (n % b) '0'
    if h : n < b ∨ b ≤ 1 then d :: acc else
      have : n / b < n := Nat.div_lt_self (by omega) (by omega)
      go (n / b) (d :: acc)
  termination_by n

/-- Lower case hexadecimal digits of a natural number. -/
def hexDigits (n : Nat) : String := String.ofList (digitsIn 16 n)

/-- The text of `n` padded on the left with `c` to at least `w` characters. -/
def padLeft (s : String) (w : Nat) (c : Char) : String :=
  String.ofList (List.replicate (w - s.length) c) ++ s

/-- The text of `n` padded on the right with `c` to at least `w` characters. -/
def padRight (s : String) (w : Nat) (c : Char) : String :=
  s ++ String.ofList (List.replicate (w - s.length) c)

end Accessors.Text
