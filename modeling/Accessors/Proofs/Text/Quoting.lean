import Mathlib
import Accessors.Text.Quote

/-!
# Quoted text reads back

Text written in double quotes by `quote` is read back by `unquote?` as the text itself, for
every text (`unquote?_quote`). Each character is written as itself or as an escape that starts
with a backslash, and reading an escape gives back the character (`unescape_escapeChar`); the
hexadecimal escapes rest on reading back the padded digits of a number (`takeHex_hexPadded`).

What a quoted text is made of matters to whoever scans for its end: an escape is a backslash,
one more character and then neither a quote nor a backslash (`escapeChar_cases`), and the last
character of an escape is a backslash only for the backslash itself, so escaped text ends in a
backslash exactly when the text does (`getLast?_escaped`). Every character written is printable, so a quoted text
holds no line break (`isPrint_of_mem_quote`).
-/

namespace Accessors.Text

/-! ### Hexadecimal digits -/

/-- The value of a digit list read by `takeHex`: each digit shifts the number one place. -/
def hexStep (acc : Nat) (c : Char) : Option Nat := (hexValue? c).map (acc * 16 + ·)

/-- The digit written for a value below sixteen reads back as that value. -/
theorem hexValue?_digit {d : Nat} (hd : d < 16) :
    hexValue? ("0123456789abcdef".toList.getD d '0') = some d := by
  revert d
  decide

/-- The digits of a number with some digits after them are its digits, then those. -/
theorem digitsIn_go_append (b n : Nat) (acc : List Char) :
    digitsIn.go b n acc = digitsIn.go b n [] ++ acc := by
  induction n using Nat.strongRecOn generalizing acc with
  | ind n ih =>
    unfold digitsIn.go
    by_cases hn : n < b ∨ b ≤ 1
    · rw [dif_pos hn, dif_pos hn]
      rfl
    · have hlt : n / b < n := Nat.div_lt_self (by omega) (by omega)
      rw [dif_neg hn, dif_neg hn, ih _ hlt, ih _ hlt [_]]
      simp

/-- **The hexadecimal digits read back**: reading them from `a` on gives `a` shifted by their
number and `n` added. -/
theorem foldlM_hexStep_digits (n a : Nat) :
    (digitsIn.go 16 n []).foldlM hexStep a = some (a * 16 ^ (digitsIn.go 16 n []).length + n) := by
  induction n using Nat.strongRecOn generalizing a with
  | ind n ih =>
    have hdigit := hexValue?_digit (Nat.mod_lt n (by omega : 16 > 0))
    unfold digitsIn.go
    by_cases hn : n < 16 ∨ 16 ≤ 1
    · have hsmall : n < 16 := by omega
      rw [dif_pos hn, List.foldlM_cons, hexStep, hdigit, Nat.mod_eq_of_lt hsmall]
      simp
    · have hlt : n / 16 < n := Nat.div_lt_self (by omega) (by omega)
      rw [dif_neg hn, digitsIn_go_append, List.foldlM_append, ih _ hlt, Option.bind_eq_bind,
        Option.bind_some, List.foldlM_cons, hexStep, hdigit, List.length_append,
        List.length_singleton, Nat.pow_succ]
      -- the last digit is the remainder: `(a * P + n / 16) * 16 + n % 16 = a * (P * 16) + n`
      have hdm := Nat.div_add_mod n 16
      simp only [Option.map_some, List.foldlM_nil, Option.bind_eq_bind, Option.bind_some,
        Option.pure_def, Option.some.injEq]
      rw [Nat.add_mul, Nat.mul_assoc]
      omega

/-- A number below `16 ^ k` has at most `k` hexadecimal digits. -/
theorem length_digitsIn_go_le {n k : Nat} (hk : 1 ≤ k) (h : n < 16 ^ k) :
    (digitsIn.go 16 n []).length ≤ k := by
  induction n using Nat.strongRecOn generalizing k with
  | ind n ih =>
    rw [digitsIn.go]
    split
    · simp [hk]
    · rename_i hn
      have hlt : n / 16 < n := Nat.div_lt_self (by omega) (by omega)
      -- a number of sixteen or more needs at least two places
      obtain ⟨k', rfl⟩ : ∃ k', k = k' + 1 := ⟨k - 1, by omega⟩
      have hk' : 1 ≤ k' := by
        rcases Nat.eq_zero_or_pos k' with rfl | hpos
        · simp at h; omega
        · exact hpos
      have hdiv : n / 16 < 16 ^ k' := by
        rw [Nat.div_lt_iff_lt_mul (by omega), ← Nat.pow_succ]
        exact h
      rw [digitsIn_go_append, List.length_append, List.length_singleton]
      have := ih _ hlt hk' hdiv
      omega

/-- Zeros in front read as nothing. -/
theorem foldlM_hexStep_zeros (m : Nat) : (List.replicate m '0').foldlM hexStep 0 = some 0 := by
  induction m with
  | zero => rfl
  | succ m ih =>
    rw [List.replicate_succ, List.foldlM_cons]
    exact ih

/-- **Padded hexadecimal digits read back**: `k` digits of a number below `16 ^ k` read as the
number, leaving what follows them. -/
theorem takeHex_hexPadded {n k : Nat} (hk : 1 ≤ k) (h : n < 16 ^ k) (rest : List Char) :
    takeHex k ((hexPadded n k).toList ++ rest) = some (n, rest) := by
  have hlen := length_digitsIn_go_le hk h
  -- the padded digits are `k` characters: zeros, then the digits
  have hpad : (hexPadded n k).toList =
      List.replicate (k - (digitsIn.go 16 n []).length) '0' ++ digitsIn.go 16 n [] := by
    simp [hexPadded, padLeft, hexDigits, digitsIn, String.length]
  have hk' : (hexPadded n k).toList.length = k := by
    rw [hpad, List.length_append, List.length_replicate]
    omega
  have hfold : (hexPadded n k).toList.foldlM hexStep 0 = some n := by
    rw [hpad, List.foldlM_append, foldlM_hexStep_zeros, Option.bind_eq_bind, Option.bind_some,
      foldlM_hexStep_digits]
    simp
  have hfold' : (hexPadded n k).toList.foldlM (fun acc c => (hexValue? c).map (acc * 16 + ·)) 0 =
      some n := hfold
  unfold takeHex
  rw [List.take_left' hk', hfold']
  dsimp only
  rw [if_neg (by simp [hk']), List.drop_left' hk']

/-- The digits of a number are digit characters. -/
theorem mem_digitsIn_go {b n : Nat} {acc : List Char} {d : Char} (h : d ∈ digitsIn.go b n acc) :
    d ∈ "0123456789abcdef".toList ∨ d ∈ acc := by
  induction n using Nat.strongRecOn generalizing acc with
  | ind n ih =>
    unfold digitsIn.go at h
    -- each step puts one digit of the table in front
    have hdigit : "0123456789abcdef".toList.getD (n % b) '0' ∈ "0123456789abcdef".toList := by
      rw [List.getD_eq_getElem?_getD]
      cases hget : "0123456789abcdef".toList[n % b]? with
      | none => decide
      | some x => exact List.mem_of_getElem? hget
    by_cases hn : n < b ∨ b ≤ 1
    · rw [dif_pos hn] at h
      rcases List.mem_cons.1 h with rfl | h
      · exact .inl hdigit
      · exact .inr h
    · rw [dif_neg hn] at h
      rcases ih _ (Nat.div_lt_self (by omega) (by omega)) h with h | h
      · exact .inl h
      · rcases List.mem_cons.1 h with rfl | h
        · exact .inl hdigit
        · exact .inr h

/-- Padded digits are digit characters. -/
theorem mem_hexPadded {n k : Nat} {d : Char} (h : d ∈ (hexPadded n k).toList) :
    d ∈ "0123456789abcdef".toList := by
  simp only [hexPadded, padLeft, hexDigits, digitsIn, String.toList_append, String.toList_ofList,
    List.mem_append, List.mem_replicate] at h
  rcases h with ⟨-, rfl⟩ | h
  · decide
  · simpa using mem_digitsIn_go h

/-! ### Escapes -/

/-- The code point of a character reads back as the character: it is no surrogate and no more
than the last code point. -/
theorem escapedRune?_toNat (c : Char) : escapedRune? c.toNat = some c := by
  have hvalid : c.toNat < 0xd800 ∨ (0xdfff < c.toNat ∧ c.toNat < 0x110000) := c.valid
  unfold escapedRune?
  rw [if_neg (by simp; omega)]
  simp

/-- **An escaped character reads back** as the character. -/
theorem unescape_escapeChar (c : Char) (rest : List Char) :
    unescape ((escapeChar c).toList ++ rest) = (c :: ·) <$> unescape rest := by
  unfold escapeChar
  by_cases hq : c = '"'
  · subst hq
    simp only [beq_self_eq_true, if_true]
    rw [show ("\\\"" : String).toList = ['\\', '"'] by simp]
    rw [List.cons_append, List.cons_append, List.nil_append, unescape]
  rw [if_neg (by simpa using hq)]
  by_cases hb : c = '\\'
  · subst hb
    simp only [beq_self_eq_true, if_true]
    rw [show ("\\\\" : String).toList = ['\\', '\\'] by simp]
    rw [List.cons_append, List.cons_append, List.nil_append, unescape]
  rw [if_neg (by simpa using hb)]
  by_cases hp : isPrint c = true
  · -- a printable character stands for itself; it is no quote, backslash or line break
    have hn : c ≠ '\n' := by
      rintro rfl
      exact absurd hp (by decide)
    rw [if_pos hp, String.toList_singleton, List.singleton_append, unescape] <;> assumption
  rw [if_neg hp]
  split
  -- the seven controls with a letter escape
  case h_1 | h_2 | h_3 | h_4 | h_5 | h_6 | h_7 =>
    simp only [String.reduceToList, List.cons_append, List.nil_append]
    rw [unescape]
  -- the other characters: two, four or eight hexadecimal digits
  dsimp only
  by_cases hx : (decide (c.toNat < 32) || c.toNat == 127) = true
  · have hsmall : c.toNat < 0x80 := by simp at hx; omega
    rw [if_pos hx]
    simp only [String.toList_append, String.reduceToList, List.cons_append, List.nil_append]
    rw [unescape]
    split
    · rename_i n r' heq
      rw [takeHex_hexPadded (by decide) (by omega)] at heq
      cases heq
      dsimp only
      rw [if_pos hsmall, Char.ofNat_toNat]
    · rename_i heq
      rw [takeHex_hexPadded (by decide) (by omega)] at heq
      cases heq
  rw [if_neg hx]
  have hvalid : c.toNat < 0xd800 ∨ (0xdfff < c.toNat ∧ c.toNat < 0x110000) := c.valid
  -- a rune escape, of four digits below 0x10000 and eight above, read the same way
  split_ifs with hu <;>
  · simp only [String.toList_append, String.reduceToList, List.cons_append, List.nil_append]
    rw [unescape]
    split
    · rename_i n r' heq
      rw [takeHex_hexPadded (by decide) (by omega)] at heq
      cases heq
      dsimp only
      rw [escapedRune?_toNat]
    · rename_i heq
      rw [takeHex_hexPadded (by decide) (by omega)] at heq
      cases heq

/-- **What an escape is made of**: a printable character other than a quote or a backslash
stands for itself; a backslash is doubled; any other character is a backslash, a printable
character other than a backslash, and printable characters that are neither quotes nor
backslashes. -/
theorem escapeChar_cases (c : Char) :
    ((escapeChar c).toList = [c] ∧ isPrint c = true ∧ c ≠ '"' ∧ c ≠ '\\') ∨
    (c = '\\' ∧ (escapeChar c).toList = ['\\', '\\']) ∨
    (c ≠ '\\' ∧ ∃ d more, (escapeChar c).toList = '\\' :: d :: more ∧ d ≠ '\\' ∧
      isPrint d = true ∧ ∀ e ∈ more, isPrint e = true ∧ e ≠ '"' ∧ e ≠ '\\') := by
  -- the digits of the hexadecimal escapes are printable and plain
  have hplain : ∀ n k, ∀ e ∈ (hexPadded n k).toList, isPrint e = true ∧ e ≠ '"' ∧ e ≠ '\\' := by
    intro n k e he
    have := mem_hexPadded he
    simp only [String.reduceToList, List.mem_cons, List.not_mem_nil, or_false] at this
    rcases this with rfl | rfl | rfl | rfl | rfl | rfl | rfl | rfl | rfl | rfl | rfl | rfl | rfl |
      rfl | rfl | rfl <;> decide
  unfold escapeChar
  by_cases hq : c = '"'
  · subst hq
    exact .inr (.inr ⟨by decide, '"', [], by simp, by decide, by decide, by simp⟩)
  rw [if_neg (by simpa using hq)]
  by_cases hb : c = '\\'
  · subst hb
    exact .inr (.inl ⟨rfl, by simp⟩)
  rw [if_neg (by simpa using hb)]
  by_cases hp : isPrint c = true
  · rw [if_pos hp]
    exact .inl ⟨by simp, hp, hq, hb⟩
  rw [if_neg hp]
  refine .inr (.inr ⟨hb, ?_⟩)
  split
  case h_1 => exact ⟨'a', [], by simp, by decide, by decide, by simp⟩
  case h_2 => exact ⟨'b', [], by simp, by decide, by decide, by simp⟩
  case h_3 => exact ⟨'f', [], by simp, by decide, by decide, by simp⟩
  case h_4 => exact ⟨'n', [], by simp, by decide, by decide, by simp⟩
  case h_5 => exact ⟨'r', [], by simp, by decide, by decide, by simp⟩
  case h_6 => exact ⟨'t', [], by simp, by decide, by decide, by simp⟩
  case h_7 => exact ⟨'v', [], by simp, by decide, by decide, by simp⟩
  dsimp only
  split
  · exact ⟨'x', _, by simp, by decide, by decide, hplain c.toNat 2⟩
  · split
    · exact ⟨'u', _, by simp, by decide, by decide, hplain c.toNat 4⟩
    · exact ⟨'U', _, by simp, by decide, by decide, hplain c.toNat 8⟩

/-! ### Quoted text -/

/-- The characters `quote` writes between its quotes. -/
def escaped (cs : List Char) : List Char := cs.flatMap fun c => (escapeChar c).toList

@[simp] theorem escaped_nil : escaped [] = [] := rfl

@[simp] theorem escaped_cons (c : Char) (cs : List Char) :
    escaped (c :: cs) = (escapeChar c).toList ++ escaped cs := rfl

/-- The last character of an escape is a backslash only for the backslash itself. -/
theorem getLast?_escapeChar (c : Char) :
    ∃ l, (escapeChar c).toList.getLast? = some l ∧ (l = '\\' ↔ c = '\\') := by
  rcases escapeChar_cases c with ⟨he, -, -, hb⟩ | ⟨rfl, he⟩ | ⟨hb, d, more, he, hd, -, hmore⟩
  · exact ⟨c, by rw [he]; rfl, Iff.rfl⟩
  · exact ⟨'\\', by rw [he]; rfl, iff_of_true rfl rfl⟩
  · -- the last character is `d` or one of `more`, and none of them is a backslash
    rw [he, List.getLast?_cons_cons]
    refine ⟨(d :: more).getLast (List.cons_ne_nil d more), List.getLast?_eq_some_getLast _, ?_⟩
    refine iff_of_false (fun hl => ?_) hb
    rcases List.mem_cons.1 (List.getLast_mem (List.cons_ne_nil d more)) with h | h
    · exact hd (h ▸ hl)
    · exact (hmore _ h).2.2 hl

/-- **Escaped characters end in a backslash** exactly when the characters do. -/
theorem getLast?_escaped (cs : List Char) :
    (escaped cs).getLast? = some '\\' ↔ cs.getLast? = some '\\' := by
  induction cs with
  | nil => simp
  | cons c cs ih =>
    obtain ⟨l, hl, hlc⟩ := getLast?_escapeChar c
    rw [escaped_cons, List.getLast?_append, hl]
    cases cs with
    | nil => simpa using hlc
    | cons c' cs' =>
      -- the escapes of the characters after `c` are not empty, so they hold the last character
      obtain ⟨l', hl'⟩ : ∃ l', (escaped (c' :: cs')).getLast? = some l' := by
        obtain ⟨l', hl', -⟩ := getLast?_escapeChar c'
        rw [escaped_cons, List.getLast?_append, hl']
        cases (escaped cs').getLast? <;> exact ⟨_, rfl⟩
      rw [hl'] at ih ⊢
      rw [List.getLast?_cons_cons, ← ih]
      rfl

/-- Quoted text is a quote, the escaped characters, and a quote. -/
theorem toList_quote (s : String) : (quote s).toList = '"' :: escaped s.toList ++ ['"'] := by
  simp [quote, escaped, String.toList_join, List.flatMap]
  rfl

/-- Escaped characters read back as the characters, in front of what follows them. -/
theorem unescape_escaped_append (cs rest : List Char) :
    unescape (escaped cs ++ rest) = (cs ++ ·) <$> unescape rest := by
  induction cs with
  | nil =>
    rw [escaped_nil, List.nil_append]
    cases unescape rest <;> rfl
  | cons c cs ih =>
    rw [escaped_cons, List.append_assoc, unescape_escapeChar, ih]
    cases unescape rest <;> rfl

/-- Escaped characters read back as the characters. -/
theorem unescape_escaped (cs : List Char) : unescape (escaped cs) = some cs := by
  have h := unescape_escaped_append cs []
  rw [List.append_nil, unescape] at h
  simpa using h

/-- **Quoted text reads back** as the text. -/
theorem unquote?_quote (s : String) : unquote? (quote s) = some s := by
  unfold unquote?
  rw [toList_quote]
  simp [unescape_escaped]

/-- Every character of quoted text is printable, so it holds no line break. -/
theorem isPrint_of_mem_quote {s : String} {d : Char} (h : d ∈ (quote s).toList) :
    isPrint d = true := by
  rw [toList_quote] at h
  simp only [List.cons_append, List.mem_cons, List.mem_append, List.not_mem_nil, or_false] at h
  rcases h with rfl | h | rfl
  · decide
  · obtain ⟨c, -, hc⟩ := List.mem_flatMap.1 h
    rcases escapeChar_cases c with ⟨he, hp, -, -⟩ | ⟨-, he⟩ | ⟨-, e, more, he, -, hp, hmore⟩ <;>
      rw [he] at hc
    · rw [List.mem_singleton.1 hc]
      exact hp
    · rcases List.mem_cons.1 hc with rfl | hc
      · decide
      · rw [List.mem_singleton.1 hc]
        decide
    · rcases List.mem_cons.1 hc with rfl | hc
      · decide
      · rcases List.mem_cons.1 hc with rfl | hc
        · exact hp
        · exact (hmore d hc).1
  · decide

end Accessors.Text
