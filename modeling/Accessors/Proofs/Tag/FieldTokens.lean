import Accessors.Proofs.Text.Quoting
import Accessors.Tag.FieldList

/-!
# Written field lists read back

A field list written the way Go code writes one, each key followed by `=` and its value as a
double-quoted literal (`Text.quote`), the entries separated by `", "` and enclosed in
parentheses (`listText`), reads back as its entries (`parse_listText`), as long as no value but
the last ends in a backslash.

The backslash matters because the two phases of reading disagree about it. The lexer ends a
string at the first quote not preceded by a backslash, and the closing quote of a value that
ends in a backslash is preceded by one (the backslash is written doubled). Such a string runs on
into the next entry, up to the opening quote of the next value; only when there is no such
quote, after the last value, does the lexer fall back to the last quote.

Lexing is described by the relation `Lexes`: characters lex up to a rest into tokens of given
kinds and values when each token is the first rule's match at its front. `tokenize_of_lexes`
runs `tokenize` along it, so a written list lexes as the pieces it is written from: punctuation
(`matchRule_punct`), a blank before a token (`matchRule_space`), a key (`matchRule_key`) and a
quoted value (`matchRule_quote`, which rests on where `closingQuote?` finds the end of an
escaped text: `closingQuote?_escaped`). The tokens are then read as entries one at a time
(`readEntry_field`, `readMore_fields`).
-/

namespace Accessors.FieldList

open Text

/-! ### Lexing -/

/-- The kind and value of a token, wherever it stands. -/
def Token.shape (t : Token) : TokenKind × String := (t.kind, t.value)

/-- The value a token of some kind has for the characters it spans: the unescaped text of a
string, the characters themselves otherwise. -/
def TokenValue : TokenKind → List Char → String → Prop
  | .string, p, v => unquote? (String.ofList p) = some v
  | _, p, v => String.ofList p = v

/-- **Characters that lex** up to `rest` into tokens of the given kinds and values: each token,
and each run of blanks, is the match of the first rule at its front, with everything after it
in view. -/
inductive Lexes : List Char → List Char → List (TokenKind × String) → Prop
  | stop (rest : List Char) : Lexes rest rest []
  | token (p cs : List Char) {rest : List Char} {kind : TokenKind} {v : String}
      {shs : List (TokenKind × String)} :
      p ≠ [] → matchRule (p ++ cs) = some (some kind, p.length) → TokenValue kind p v →
      Lexes cs rest shs → Lexes (p ++ cs) rest ((kind, v) :: shs)
  | blank (p cs : List Char) {rest : List Char} {shs : List (TokenKind × String)} :
      p ≠ [] → matchRule (p ++ cs) = some (none, p.length) → Lexes cs rest shs → Lexes (p ++ cs) rest shs

/-- Lexing with no characters left gives the end token. -/
theorem tokenize_nil (line column : Nat) (acc : List Token) :
    tokenize [] line column acc = .ok (acc.reverse ++ [⟨.eof, "", line, column⟩]) := by
  rw [tokenize]

/-- The first `n + 1` characters of a text that starts with `n + 1` given ones are those. -/
theorem take_drop_front (c : Char) (p cs : List Char) :
    (c :: (p ++ cs)).take (p.length + 1) = c :: p ∧ (c :: (p ++ cs)).drop (p.length + 1) = cs := by
  rw [← List.cons_append]
  exact ⟨List.take_left' rfl, List.drop_left' rfl⟩

/-- **A step of the lexer over blanks** takes them off the front. -/
theorem tokenize_blank {p cs : List Char} (hp : p ≠ [])
    (hm : matchRule (p ++ cs) = some (none, p.length)) (line column : Nat) (acc : List Token) :
    tokenize (p ++ cs) line column acc =
      tokenize cs (advance line column p).1 (advance line column p).2 acc := by
  obtain ⟨c, p', rfl⟩ := List.exists_cons_of_ne_nil hp
  rw [List.cons_append] at hm ⊢
  rw [tokenize]
  simp only [hm, List.length_cons, Nat.max_eq_left (Nat.le_add_left 1 _), take_drop_front]

/-- **A step of the lexer over a string** puts its unescaped text on the accumulator, or fails
when it does not unescape. -/
theorem tokenize_string {p cs : List Char} (hp : p ≠ [])
    (hm : matchRule (p ++ cs) = some (some .string, p.length)) (line column : Nat)
    (acc : List Token) :
    tokenize (p ++ cs) line column acc =
      match unquote? (String.ofList p) with
      | some v => tokenize cs (advance line column p).1 (advance line column p).2
          (⟨.string, v, line, column⟩ :: acc)
      | none => .error (posText line column ++ ": invalid quoted string " ++
          quote (String.ofList p) ++ ": invalid syntax") := by
  obtain ⟨c, p', rfl⟩ := List.exists_cons_of_ne_nil hp
  rw [List.cons_append] at hm ⊢
  rw [tokenize]
  -- the statement and the lexer each match on the unescaped text: fix it in both
  cases hv : unquote? (String.ofList (c :: p')) <;>
    simp only [hm, List.length_cons, Nat.max_eq_left (Nat.le_add_left 1 _), take_drop_front, hv]

/-- **A step of the lexer over any other token** puts its characters on the accumulator. -/
theorem tokenize_token {p cs : List Char} (hp : p ≠ []) {kind : TokenKind} (hk : kind ≠ .string)
    (hm : matchRule (p ++ cs) = some (some kind, p.length)) (line column : Nat)
    (acc : List Token) :
    tokenize (p ++ cs) line column acc = tokenize cs (advance line column p).1
      (advance line column p).2 (⟨kind, String.ofList p, line, column⟩ :: acc) := by
  obtain ⟨c, p', rfl⟩ := List.exists_cons_of_ne_nil hp
  rw [List.cons_append] at hm ⊢
  rw [tokenize]
  simp only [hm, List.length_cons, Nat.max_eq_left (Nat.le_add_left 1 _), take_drop_front]

/-- **The lexer follows `Lexes`**: it reaches the rest with the lexed tokens put on the
accumulator, wherever it starts. -/
theorem tokenize_of_lexes {cs rest : List Char} {shs : List (TokenKind × String)}
    (h : Lexes cs rest shs) : ∀ line column acc, ∃ (line' column' : Nat) (ts : List Token),
      tokenize cs line column acc = tokenize rest line' column' (ts.reverse ++ acc) ∧
        ts.map Token.shape = shs := by
  induction h with
  | stop rest => exact fun line column acc => ⟨line, column, [], rfl, rfl⟩
  | @token p cs _ kind v _ hp hm hv _ ih =>
    intro line column acc
    -- the token put on the accumulator has the kind and value lexed
    obtain ⟨t, ht, hshape⟩ : ∃ t : Token, tokenize (p ++ cs) line column acc =
        tokenize cs (advance line column p).1 (advance line column p).2 (t :: acc) ∧
          t.shape = (kind, v) := by
      by_cases hk : kind = .string
      · subst hk
        simp only [TokenValue] at hv
        exact ⟨_, by rw [tokenize_string hp hm, hv], rfl⟩
      · have hv' : String.ofList p = v := by cases kind <;> first | exact hv | exact absurd rfl hk
        exact ⟨_, tokenize_token hp hk hm _ _ _, by rw [Token.shape, hv']⟩
    obtain ⟨l, c, ts, hrun, hts⟩ := ih _ _ (t :: acc)
    exact ⟨l, c, t :: ts, by rw [ht, hrun]; simp, by simp [hts, hshape]⟩
  | blank p cs hp hm _ ih =>
    intro line column acc
    rw [tokenize_blank hp hm]
    exact ih _ _ acc

/-- Characters that lex to the end give their tokens, then the end token. -/
theorem tokenize_eq_ok {cs : List Char} {shs : List (TokenKind × String)} (h : Lexes cs [] shs) :
    ∃ ts, tokenize cs 1 1 [] = .ok ts ∧ ts.map Token.shape = shs ++ [(.eof, "")] := by
  obtain ⟨l, c, ts, hrun, hts⟩ := tokenize_of_lexes h 1 1 []
  refine ⟨ts ++ [⟨.eof, "", l, c⟩], ?_, by simp [hts, Token.shape]⟩
  rw [hrun, tokenize_nil]
  simp

/-! ### The end of a quoted value -/

section ClosingQuote

open closingQuote?

/-- Scanning characters with no quote among them finds no closing quote there, and goes on with
the last of them as the character before. -/
theorem firstOpen_append_of_not_mem {xs : List Char} (hx : '"' ∉ xs) (tail : List Char)
    (prev : Option Char) (i : Nat) :
    firstOpen (xs ++ tail) prev i = firstOpen tail (xs.getLast?.or prev) (i + xs.length) := by
  induction xs generalizing prev i with
  | nil => simp
  | cons x xs ih =>
    have hxq : x ≠ '"' := fun h => hx (h ▸ List.mem_cons_self)
    rw [List.cons_append, firstOpen, if_neg (by simp [hxq]),
      ih (fun h => hx (List.mem_cons_of_mem _ h))]
    -- the last character is the last of `xs`, or `x` when there is none
    rw [List.getLast?_cons, List.length_cons, ← Nat.add_assoc, Nat.add_right_comm i 1]
    cases xs.getLast? <;> rfl

/-- **Scanning an escape** finds no closing quote in it: a quote in an escape follows a
backslash. -/
theorem firstOpen_escapeChar (c : Char) (tail : List Char) (prev : Option Char) (i : Nat) :
    firstOpen ((escapeChar c).toList ++ tail) prev i =
      firstOpen tail (escapeChar c).toList.getLast? (i + (escapeChar c).toList.length) := by
  rcases escapeChar_cases c with ⟨he, -, hq, -⟩ | ⟨-, he⟩ | ⟨-, d, more, he, -, -, hmore⟩
  · rw [he, firstOpen_append_of_not_mem (by simpa [eq_comm] using hq)]
    rfl
  · rw [he, firstOpen_append_of_not_mem (by simp)]
    rfl
  · -- the backslash, then `d` after a backslash, then characters with no quote
    have hnq : '"' ∉ more := fun h => (hmore _ h).2.1 rfl
    rw [he, List.cons_append, List.cons_append, firstOpen, if_neg (by simp), firstOpen,
      if_neg (by simp), firstOpen_append_of_not_mem hnq, List.getLast?_cons_cons,
      List.getLast?_cons, List.length_cons, List.length_cons]
    cases more.getLast? <;> simp only [Option.or_some, Option.getD_some, Option.getD_none] <;>
      congr 1 <;> omega

/-- **Scanning escaped text** finds no closing quote in it, and goes on with its last
character as the character before. -/
theorem firstOpen_escaped (cs tail : List Char) (prev : Option Char) (i : Nat) :
    firstOpen (escaped cs ++ tail) prev i =
      firstOpen tail ((escaped cs).getLast?.or prev) (i + (escaped cs).length) := by
  induction cs generalizing prev i with
  | nil => simp
  | cons c cs ih =>
    obtain ⟨l, hl, -⟩ := Text.getLast?_escapeChar c
    rw [escaped_cons, List.append_assoc, firstOpen_escapeChar, ih, List.getLast?_append, hl,
      List.length_append, Nat.add_assoc]
    cases (escaped cs).getLast? <;> rfl

/-- Characters with no quote hold no closing quote. -/
theorem firstOpen_of_not_mem {xs : List Char} (hx : '"' ∉ xs) (prev : Option Char) (i : Nat) :
    firstOpen xs prev i = none := by
  simpa [firstOpen] using firstOpen_append_of_not_mem hx [] prev i

/-- The last quote of characters that end in a quote and then no more quotes is that one. -/
theorem lastQuote_append {xs tail : List Char} (htail : '"' ∉ tail) :
    ((xs ++ '"' :: tail).zipIdx.filter (·.1 == '"')).getLast?.map (·.2) = some xs.length := by
  have hnone : (tail.zipIdx (xs.length + 1)).filter (·.1 == '"') = [] := by
    refine List.filter_eq_nil_iff.2 fun x hx hq => htail ?_
    have := List.fst_mem_of_mem_zipIdx hx
    simp only [beq_iff_eq] at hq
    rwa [hq] at this
  rw [List.zipIdx_append, List.filter_append, List.zipIdx_cons, List.filter_cons, Nat.zero_add]
  simp [hnone]

/-- **The closing quote of a quoted value** is the quote right after its escaped text, when
the value does not end in a backslash, or when no quote follows. -/
theorem closingQuote?_escaped (v : List Char) (tail : List Char)
    (hv : v.getLast? ≠ some '\\' ∨ '"' ∉ tail) :
    closingQuote? (escaped v ++ '"' :: tail) = some (escaped v).length := by
  unfold closingQuote?
  rw [firstOpen_escaped, Option.or_none, Nat.zero_add, firstOpen]
  by_cases hl : (escaped v).getLast? = some '\\'
  · -- the quote follows a backslash: the scan finds nothing, and the last quote is taken
    have htail : '"' ∉ tail := hv.resolve_left fun h => h ((getLast?_escaped v).1 hl)
    rw [if_neg (by simp [hl]), firstOpen_of_not_mem htail, lastQuote_append htail]
    rfl
  · rw [if_pos (by simp [hl])]
    rfl

end ClosingQuote

/-! ### The pieces of a written list -/

/-- **A key**: a letter or an underscore, then letters, digits, underscores, backslashes and
dots. -/
def IsKey (cs : List Char) : Prop :=
  ∃ c more, cs = c :: more ∧ isIdentStart c = true ∧ ∀ d ∈ more, isIdentPart d = true

-- decided through `List.all`: an instance for `∀ d ∈ more` may decide over every character
instance : DecidablePred IsKey
  | [] => isFalse fun ⟨_, _, h, _⟩ => List.cons_ne_nil _ _ h.symm
  | c :: more => decidable_of_iff (isIdentStart c = true ∧ more.all isIdentPart = true)
      ⟨fun ⟨hc, hm⟩ => ⟨c, more, rfl, hc, List.all_eq_true.1 hm⟩,
        fun ⟨_, _, h, hc, hm⟩ => by cases h; exact ⟨hc, List.all_eq_true.2 hm⟩⟩

/-- A character that starts a key is an ASCII letter or an underscore. -/
theorem isIdentStart_toNat {c : Char} (h : isIdentStart c = true) :
    (65 ≤ c.toNat ∧ c.toNat ≤ 90) ∨ (97 ≤ c.toNat ∧ c.toNat ≤ 122) ∨ c.toNat = 95 := by
  simp only [isIdentStart, Char.isAlpha, Char.isUpper, Char.isLower, Bool.or_eq_true,
    Bool.and_eq_true, decide_eq_true_eq, beq_iff_eq, ge_iff_le, UInt32.le_iff_toNat_le,
    Char.toNat_val] at h
  rcases h with (⟨h1, h2⟩ | ⟨h1, h2⟩) | rfl
  · exact .inl ⟨h1, h2⟩
  · exact .inr (.inl ⟨h1, h2⟩)
  · exact .inr (.inr rfl)

/-- A character that starts a key starts no string, number or blank. -/
theorem isIdentStart_starts_nothing_else {c : Char} (h : isIdentStart c = true) :
    c ≠ '"' ∧ c ≠ '-' ∧ c.isDigit = false ∧ isBlank c = false := by
  have hc := isIdentStart_toNat h
  refine ⟨?_, ?_, ?_, ?_⟩
  · rintro rfl
    simp at hc
  · rintro rfl
    simp at hc
  · rw [Bool.eq_false_iff, ne_eq, Char.isDigit_iff_toNat]
    simp only [Char.reduceToNat]
    omega
  · simp only [isBlank, Bool.or_eq_false_iff, beq_eq_false_iff_ne, ne_eq, ← Char.toNat_inj]
    simp only [Char.reduceToNat]
    omega

/-- **Punctuation** is a token of one character. -/
theorem matchRule_punct {c : Char} (hc : c = '(' ∨ c = ')' ∨ c = ',' ∨ c = '=') (cs : List Char) :
    matchRule (c :: cs) = some (some .punct, 1) := by
  rcases hc with rfl | rfl | rfl | rfl <;>
    simp [matchRule, stringLength, numberLength, identLength, isIdentStart]

/-- **A blank** before a character that is no blank is a run of one. -/
theorem matchRule_space {cs : List Char} (hcs : ∀ d ds, cs = d :: ds → isBlank d = false) :
    matchRule (' ' :: cs) = some (none, 1) := by
  have hrun : blankLength (' ' :: cs) = 1 := by
    cases cs with
    | nil => rfl
    | cons d ds =>
      rw [blankLength, List.takeWhile_cons_of_pos (by rfl),
        List.takeWhile_cons_of_neg (by simp [hcs d ds rfl])]
      rfl
  simp [matchRule, stringLength, numberLength, identLength, isIdentStart, hrun, isBlank]

/-- **A key** before a character that continues no key is a name token. -/
theorem matchRule_key {k cs : List Char} (hk : IsKey k)
    (hcs : ∀ d ds, cs = d :: ds → isIdentPart d = false) :
    matchRule (k ++ cs) = some (some .ident, k.length) := by
  obtain ⟨c, more, rfl, hc, hmore⟩ := hk
  obtain ⟨hq, hm, hd, -⟩ := isIdentStart_starts_nothing_else hc
  have hstring : stringLength (c :: (more ++ cs)) = 0 := by
    unfold stringLength
    split
    · rename_i h
      cases h
      exact absurd rfl hq
    · rfl
  have hnumber : numberLength (c :: (more ++ cs)) = 0 := by
    unfold numberLength
    split
    · rename_i h
      cases h
      exact absurd rfl hm
    · simp [hd]
  -- the name runs over the key and stops where the key does
  have hrun : (more ++ cs).takeWhile isIdentPart = more := by
    rw [List.takeWhile_append_of_pos hmore]
    cases cs with
    | nil => simp
    | cons d ds => simp [hcs d ds rfl]
  simp [matchRule, List.cons_append, hstring, hnumber, identLength, hc, hrun, Nat.add_comm]

/-- **A quoted value** is a string token when it does not end in a backslash, or when no
quote follows it. -/
theorem matchRule_quote (v : String) {cs : List Char}
    (hv : v.toList.getLast? ≠ some '\\' ∨ '"' ∉ cs) :
    matchRule ((quote v).toList ++ cs) = some (some .string, (quote v).toList.length) := by
  have hlen : stringLength ((quote v).toList ++ cs) = (quote v).toList.length := by
    rw [toList_quote]
    simp only [List.cons_append, List.append_assoc, List.nil_append]
    rw [stringLength, closingQuote?_escaped _ _ hv]
    simp only [List.length_cons, List.length_append, List.length_nil]
  unfold matchRule
  simp only [hlen]
  rw [if_pos (by simp [toList_quote])]

/-! ### Lexing a written list -/

/-- An entry written as Go code writes it: the key, `=`, and the value as a quoted literal. -/
def entryText (f : Field) : String := f.name ++ "=" ++ quote f.value

/-- Entries written one after another, separated by a comma and a blank. -/
def entriesText (fs : List Field) : String := joinWith ", " (fs.map entryText)

/-- **A field list written on one line**: its entries separated by a comma and a blank, in
parentheses. -/
def listText (fs : List Field) : String := "(" ++ entriesText fs ++ ")"

/-- The tokens of an entry: the key, `=`, the value. -/
def fieldShapes (f : Field) : List (TokenKind × String) :=
  [(.ident, f.name), (.punct, "="), (.string, f.value)]

/-- The tokens of entries after a first one, each after its comma. -/
def commaShapes (fs : List Field) : List (TokenKind × String) :=
  fs.flatMap fun f => (.punct, ",") :: fieldShapes f

/-- The tokens of the entries of a list. -/
def entryShapes : List Field → List (TokenKind × String)
  | [] => []
  | f :: fs => fieldShapes f ++ commaShapes fs

/-- Punctuation lexes as itself. -/
theorem Lexes.punct (c : Char) (hc : c = '(' ∨ c = ')' ∨ c = ',' ∨ c = '=') {cs rest : List Char}
    {shs : List (TokenKind × String)} (h : Lexes cs rest shs) :
    Lexes (c :: cs) rest ((.punct, String.ofList [c]) :: shs) :=
  Lexes.token [c] cs (List.cons_ne_nil c []) (matchRule_punct hc cs) rfl h

/-- A blank before a character that is no blank lexes as nothing. -/
theorem Lexes.space {cs rest : List Char} {shs : List (TokenKind × String)}
    (hcs : ∀ d ds, cs = d :: ds → isBlank d = false) (h : Lexes cs rest shs) :
    Lexes (' ' :: cs) rest shs :=
  Lexes.blank [' '] cs (List.cons_ne_nil ' ' []) (matchRule_space hcs) h

/-- The closing parenthesis lexes as itself. -/
theorem lexes_close : Lexes [')'] [] [(.punct, ")")] :=
  Lexes.punct ')' (by simp) (Lexes.stop [])

/-- **An entry lexes** as its key, `=` and value, when its value does not end in a backslash or
no quote follows it. -/
theorem lexes_entry {f : Field} (hk : IsKey f.name.toList) {cs rest : List Char}
    {shs : List (TokenKind × String)} (hv : f.value.toList.getLast? ≠ some '\\' ∨ '"' ∉ cs)
    (h : Lexes cs rest shs) : Lexes ((entryText f).toList ++ cs) rest (fieldShapes f ++ shs) := by
  have htext : (entryText f).toList ++ cs =
      f.name.toList ++ '=' :: ((quote f.value).toList ++ cs) := by
    simp [entryText]
  have hkey : f.name.toList ≠ [] := by
    obtain ⟨c, more, hcm, -⟩ := hk
    rw [hcm]
    exact List.cons_ne_nil c more
  have hquote : (quote f.value).toList ≠ [] := by
    rw [toList_quote]
    exact List.cons_ne_nil _ _
  rw [htext]
  refine Lexes.token _ _ hkey (matchRule_key hk ?_) (String.ofList_toList) ?_
  · intro d ds hd
    cases hd
    rfl
  refine Lexes.punct '=' (by simp) ?_
  refine Lexes.token _ _ hquote (matchRule_quote f.value hv) ?_ h
  simp only [TokenValue, String.ofList_toList, unquote?_quote]

@[simp] theorem entriesText_singleton (f : Field) : entriesText [f] = entryText f := by
  simp [entriesText, joinWith]

theorem entriesText_cons_cons (f g : Field) (gs : List Field) :
    entriesText (f :: g :: gs) = entryText f ++ ", " ++ entriesText (g :: gs) := by
  simp [entriesText, joinWith]

/-- Entries written one after another are the first ones, a separator, and the others. -/
theorem entriesText_append {fs gs : List Field} (hfs : fs ≠ []) (hgs : gs ≠ []) :
    entriesText (fs ++ gs) = entriesText fs ++ ", " ++ entriesText gs := by
  simp only [entriesText, joinWith, List.map_append]
  exact String.intercalate_append_of_ne_nil (by simpa using hfs) (by simpa using hgs)

/-- Entries written with separators start with the key of the first one. -/
theorem entriesText_cons (f : Field) (fs : List Field) :
    entriesText (f :: fs) =
      f.name ++ joinWith ", " (("=" ++ quote f.value) :: fs.map entryText) := by
  simp only [entriesText, joinWith, List.map_cons, entryText, String.append_assoc,
    String.intercalate_cons_append]

/-- **Entries separated by commas lex** as their tokens with the commas, when no value but the
last ends in a backslash, and the last does not or no quote follows it. -/
theorem lexes_entries (f : Field) (fs : List Field) {tail rest : List Char}
    {shs : List (TokenKind × String)} (hkeys : ∀ g ∈ f :: fs, IsKey g.name.toList)
    (hvals : ∀ g ∈ (f :: fs).dropLast, g.value.toList.getLast? ≠ some '\\')
    (hlast : ((f :: fs).getLast (List.cons_ne_nil f fs)).value.toList.getLast? ≠ some '\\' ∨
      '"' ∉ tail)
    (h : Lexes tail rest shs) :
    Lexes ((entriesText (f :: fs)).toList ++ tail) rest
      (fieldShapes f ++ commaShapes fs ++ shs) := by
  induction fs generalizing f with
  | nil =>
    have h := lexes_entry (hkeys f List.mem_cons_self) hlast h
    simpa [commaShapes] using h
  | cons g gs ih =>
    have hrest := ih g (fun g' hg' => hkeys g' (List.mem_cons_of_mem _ hg'))
      (fun g' hg' => hvals g' (by simp_all)) (by simpa using hlast)
    -- the next entry starts with its key, which starts with no blank
    have hhead : ∀ d ds, (entriesText (g :: gs)).toList ++ tail = d :: ds →
        isBlank d = false := by
      obtain ⟨c, more, hcm, hc, -⟩ := hkeys g (by simp)
      intro d ds hd
      rw [entriesText_cons, String.toList_append, hcm] at hd
      cases hd
      exact (isIdentStart_starts_nothing_else hc).2.2.2
    have h := lexes_entry (hkeys f List.mem_cons_self) (.inl (hvals f (by simp)))
      (Lexes.punct ',' (by simp) (Lexes.space hhead hrest))
    have hsplit : (entriesText (f :: g :: gs)).toList ++ tail =
        (entryText f).toList ++ ',' :: ' ' ::
          ((entriesText (g :: gs)).toList ++ tail) := by
      simp [entriesText_cons_cons]
    rw [hsplit]
    simpa [commaShapes] using h

/-- **A list written on one line lexes** as its parenthesis, its entries with their commas and
its closing parenthesis. -/
theorem lexes_listText {fs : List Field} (hkeys : ∀ f ∈ fs, IsKey f.name.toList)
    (hvals : ∀ f ∈ fs.dropLast, f.value.toList.getLast? ≠ some '\\') :
    Lexes (listText fs).toList [] ((.punct, "(") :: entryShapes fs ++ [(.punct, ")")]) := by
  cases fs with
  | nil => exact Lexes.punct '(' (by simp) lexes_close
  | cons f fs =>
    -- the last value is followed by the closing parenthesis only
    have h := Lexes.punct '(' (by simp) (lexes_entries f fs hkeys hvals (.inr (by simp)) lexes_close)
    simpa [listText, entryShapes] using h

/-! ### Reading the entries -/

/-- **An entry of key, `=` and value** reads as its field. -/
theorem readEntry_field {k e v : Token} {f : Field} (hk : k.shape = (.ident, f.name))
    (he : e.shape = (.punct, "=")) (hv : v.shape = (.string, f.value)) (c : Nat)
    (rest : List Token) : readEntry c (k :: e :: v :: rest) = .read f rest := by
  obtain ⟨kk, kv, _, _⟩ := k
  obtain ⟨ek, ev, _, _⟩ := e
  obtain ⟨vk, vv, _, _⟩ := v
  simp only [Token.shape, Prod.mk.injEq] at hk he hv
  obtain ⟨rfl, rfl⟩ := hk
  obtain ⟨rfl, rfl⟩ := he
  obtain ⟨rfl, rfl⟩ := hv
  simp [readEntry, headOrEnd, Token.isPunct]

/-- A token of the shape of a punctuation is that punctuation. -/
theorem Token.isPunct_of_shape {t : Token} {p : String} (ht : t.shape = (.punct, p)) (q : String) :
    t.isPunct q = (p == q) := by
  obtain ⟨tk, tv, _, _⟩ := t
  simp only [Token.shape, Prod.mk.injEq] at ht
  obtain ⟨rfl, rfl⟩ := ht
  simp [Token.isPunct]

/-- Tokens of the shapes of an entry are a key, `=` and a value. -/
theorem map_shape_eq_fieldShapes {ts : List Token} {f : Field}
    (h : ts.map Token.shape = fieldShapes f) :
    ∃ k e v, ts = [k, e, v] ∧ k.shape = (.ident, f.name) ∧ e.shape = (.punct, "=") ∧
      v.shape = (.string, f.value) := by
  simp only [fieldShapes, List.map_eq_cons_iff, List.map_eq_nil_iff] at h
  obtain ⟨k, _, rfl, hk, e, _, rfl, he, v, _, rfl, hv, rfl⟩ := h
  exact ⟨k, e, v, rfl, hk, he, hv⟩

/-- **Entries after commas read as their fields**, by induction on them: each comma is followed
by an entry that reads, and the loop stops at the closing parenthesis. -/
theorem readMore_fields (acc : List Field) (fs : List Field) {ts : List Token}
    (hts : ts.map Token.shape = commaShapes fs) (t : Token) (ht : t.shape = (.punct, ")"))
    (rest : List Token) : readMore acc (ts ++ t :: rest) = .ok (acc.reverse ++ fs, t :: rest) := by
  induction fs generalizing acc ts with
  | nil =>
    obtain rfl : ts = [] := List.map_eq_nil_iff.1 hts
    -- the closing parenthesis is no comma
    rw [List.nil_append, readMore, if_neg (by simp [Token.isPunct_of_shape ht])]
    simp
  | cons g gs ih =>
    simp only [commaShapes, List.flatMap_cons] at hts
    obtain ⟨ts₁, ts₂, rfl, h₁, h₂⟩ := List.map_eq_append_iff.1 hts
    obtain ⟨c, ts₁', rfl, hc, h₁'⟩ := List.map_eq_cons_iff.1 h₁
    obtain ⟨k, e, v, rfl, hk, he, hv⟩ := map_shape_eq_fieldShapes h₁'
    simp only [List.cons_append, List.nil_append]
    rw [readMore, if_pos (by simp [Token.isPunct_of_shape hc])]
    split
    · rename_i f rest' heq
      rw [readEntry_field hk he hv] at heq
      cases heq
      rw [ih (g :: acc) h₂]
      simp
    · rename_i heq
      rw [readEntry_field hk he hv] at heq
      cases heq
    · rename_i heq
      rw [readEntry_field hk he hv] at heq
      cases heq

/-- **Tokens of a written list read as its entries**: the opening parenthesis, the entries with
their commas, the closing parenthesis and the end. -/
theorem entries_of_shapes {fs : List Field} {ts : List Token}
    (h : ts.map Token.shape = (.punct, "(") :: entryShapes fs ++ [(.punct, ")"), (.eof, "")]) :
    entries ts = .ok fs := by
  obtain ⟨o, ts', rfl, ho, h'⟩ := List.map_eq_cons_iff.1 h
  obtain ⟨body, close, rfl, hbody, hclose⟩ := List.map_eq_append_iff.1 h'
  obtain ⟨c, ts'', rfl, hc, h''⟩ := List.map_eq_cons_iff.1 hclose
  obtain ⟨e, _, rfl, he, hnil⟩ := List.map_eq_cons_iff.1 h''
  obtain rfl := List.map_eq_nil_iff.1 hnil
  have hend : e.kind = .eof := congrArg Prod.fst he
  cases fs with
  | nil =>
    obtain rfl := List.map_eq_nil_iff.1 hbody
    have hck : c.kind = .punct := congrArg Prod.fst hc
    have hnot : c.kind ≠ .ident := by simp [hck]
    simp [entries, readEntry, Token.isPunct_of_shape ho, Token.isPunct_of_shape hc, hnot, hend]
  | cons f gs =>
    simp only [entryShapes] at hbody
    obtain ⟨ts₁, ts₂, rfl, h₁, h₂⟩ := List.map_eq_append_iff.1 hbody
    obtain ⟨k, e', v, rfl, hk, he', hv⟩ := map_shape_eq_fieldShapes h₁
    have hmore := readMore_fields [f] gs h₂ c hc [e]
    simp only [entries, List.cons_append, List.nil_append, Token.isPunct_of_shape ho,
      readEntry_field hk he' hv, hmore]
    simp [Functor.map, Except.map, Token.isPunct_of_shape hc, hend]

/-- **A field list written on one line reads back** as its entries, when every key is a key
and no value but the last ends in a backslash. -/
theorem parse_listText {fs : List Field} (hkeys : ∀ f ∈ fs, IsKey f.name.toList)
    (hvals : ∀ f ∈ fs.dropLast, f.value.toList.getLast? ≠ some '\\') :
    parse (listText fs) = .ok fs := by
  obtain ⟨ts, hts, hshape⟩ := tokenize_eq_ok (lexes_listText hkeys hvals)
  rw [parse, hts]
  exact entries_of_shapes (by rw [hshape]; simp)

/-! ### A value that ends in a backslash -/

/-- A key holds no quote. -/
theorem IsKey.not_mem_quote {k : List Char} (hk : IsKey k) : '"' ∉ k := by
  obtain ⟨c, more, rfl, hc, hmore⟩ := hk
  rintro (_ | ⟨_, h⟩)
  · exact (isIdentStart_starts_nothing_else hc).1 rfl
  · exact absurd (hmore _ h) (by decide)

/-- **A value that ends in a backslash runs on** into the next entry: its string ends at the
opening quote of the next value, and it does not unescape, since the closing quote of the value
stands inside it unescaped. -/
theorem tokenize_backslash_value {v : String} (hv : v.toList.getLast? = some '\\') {k : List Char}
    (hk : IsKey k) (cs : List Char) (line column : Nat) (acc : List Token) :
    ∃ msg, tokenize ((quote v).toList ++ ',' :: ' ' :: (k ++ '=' :: '"' :: cs)) line column acc =
      .error msg := by
  -- the string runs from the value's opening quote to the next value's
  let inner := escaped v.toList ++ '"' :: ',' :: ' ' :: (k ++ ['='])
  have htext : (quote v).toList ++ ',' :: ' ' :: (k ++ '=' :: '"' :: cs) =
      ('"' :: (inner ++ ['"'])) ++ cs := by
    simp [inner, toList_quote]
  have hclose : closingQuote? (inner ++ '"' :: cs) = some inner.length := by
    have hnq : '"' ∉ [',', ' '] ++ k ++ ['='] := by
      simp only [List.mem_append, List.mem_cons, List.not_mem_nil, or_false, not_or]
      exact ⟨⟨⟨by decide, by decide⟩, hk.not_mem_quote⟩, by decide⟩
    have hl : (escaped v.toList).getLast? = some '\\' := (getLast?_escaped v.toList).2 hv
    unfold closingQuote?
    have hsplit : inner ++ '"' :: cs =
        escaped v.toList ++ '"' :: (([',', ' '] ++ k ++ ['=']) ++ '"' :: cs) := by
      simp [inner]
    have hprev : ([',', ' '] ++ k ++ ['=']).getLast? = some '=' := List.getLast?_concat
    rw [hsplit, firstOpen_escaped, hl, closingQuote?.firstOpen, if_neg (by simp),
      firstOpen_append_of_not_mem hnq, hprev, closingQuote?.firstOpen, if_pos (by simp)]
    simp [inner]
    omega
  have hm : matchRule (('"' :: (inner ++ ['"'])) ++ cs) =
      some (some .string, ('"' :: (inner ++ ['"'])).length) := by
    have hlen : stringLength (('"' :: (inner ++ ['"'])) ++ cs) =
        ('"' :: (inner ++ ['"'])).length := by
      simp only [List.cons_append, List.append_assoc, List.nil_append]
      rw [stringLength, hclose]
      simp
    unfold matchRule
    simp only [hlen]
    rw [if_pos (by simp)]
  -- the unescaped text meets the value's closing quote, which is not escaped
  have hunq : unquote? (String.ofList ('"' :: (inner ++ ['"']))) = none := by
    unfold unquote?
    simp only [String.toList_ofList, List.reverse_append, List.reverse_cons, List.reverse_nil,
      List.nil_append, List.singleton_append, List.reverse_reverse, inner, unescape_escaped_append]
    rw [unescape]
    rfl
  rw [htext, tokenize_string (List.cons_ne_nil _ _) hm, hunq]
  exact ⟨_, rfl⟩

/-- Entries written with separators, the first key in front, the next value's quote after its
`=`. -/
theorem entriesText_cons_quote (g : Field) (fs : List Field) :
    ∃ rest, (entriesText (g :: fs)).toList = g.name.toList ++ '=' :: '"' :: rest :=
  ⟨(joinWith ", " ((String.join (g.value.toList.map escapeChar) ++ "\"") :: fs.map entryText)).toList,
    by simp [entriesText_cons, quote, joinWith, String.append_assoc,
      String.intercalate_cons_append]⟩

/-- **The entries in front of others lex up to them** when none of their values ends in a
backslash: the opening, those entries, and the separator after them. -/
theorem lexes_listText_front {pre fs : List Field} {f : Field}
    (hkeys : ∀ x ∈ pre ++ f :: fs, IsKey x.name.toList)
    (hpre : ∀ x ∈ pre, x.value.toList.getLast? ≠ some '\\') :
    ∃ shs, Lexes (listText (pre ++ f :: fs)).toList ((entriesText (f :: fs)).toList ++ [')']) shs := by
  cases pre with
  | nil => exact ⟨_, by simpa [listText] using Lexes.punct '(' (by simp) (Lexes.stop _)⟩
  | cons p ps =>
    -- the entries after the separator start with a key, which is no blank
    have hhead : ∀ d ds, (entriesText (f :: fs)).toList ++ [')'] = d :: ds → isBlank d = false := by
      obtain ⟨rest, hrest⟩ := entriesText_cons_quote f fs
      obtain ⟨c, more, hcm, hc, -⟩ := hkeys f (by simp)
      intro d ds hd
      rw [hrest, hcm] at hd
      cases hd
      exact (isIdentStart_starts_nothing_else hc).2.2.2
    have hlast : ((p :: ps).getLast (List.cons_ne_nil p ps)).value.toList.getLast? ≠ some '\\' :=
      hpre _ (List.getLast_mem _)
    have h := Lexes.punct '(' (by simp) (lexes_entries p ps
      (fun x hx => hkeys x (List.mem_append_left _ hx))
      (fun x hx => hpre x (List.dropLast_subset _ hx)) (.inl hlast)
      (Lexes.punct ',' (by simp) (Lexes.space hhead (Lexes.stop _))))
    have htext : (listText (p :: ps ++ f :: fs)).toList =
        '(' :: ((entriesText (p :: ps)).toList ++ ',' :: ' ' ::
          ((entriesText (f :: fs)).toList ++ [')'])) := by
      rw [listText, entriesText_append (List.cons_ne_nil p ps) (List.cons_ne_nil f _)]
      simp
    rw [htext]
    exact ⟨_, h⟩

/-- **A list with a value that ends in a backslash before another entry does not lex**: the
entries before it lex, and its string then fails. -/
theorem tokenize_listText_error {pre post : List Field} {f g : Field}
    (hkeys : ∀ x ∈ pre ++ f :: g :: post, IsKey x.name.toList)
    (hpre : ∀ x ∈ pre, x.value.toList.getLast? ≠ some '\\') (hf : f.value.toList.getLast? = some '\\') :
    ∃ msg, tokenize (listText (pre ++ f :: g :: post)).toList 1 1 [] = .error msg := by
  have hf' : IsKey f.name.toList := hkeys f (by simp)
  have hg : IsKey g.name.toList := hkeys g (by simp)
  obtain ⟨rest, hrest⟩ := entriesText_cons_quote g post
  -- the text from the offending entry on
  have htail : (entriesText (f :: g :: post)).toList ++ [')'] =
      f.name.toList ++ '=' :: ((quote f.value).toList ++ ',' :: ' ' ::
        (g.name.toList ++ '=' :: '"' :: (rest ++ [')']))) := by
    simp only [entriesText_cons_cons, String.toList_append, hrest]
    simp [entryText]
  -- the entries before it lex up to it
  obtain ⟨shs, hlex⟩ := lexes_listText_front hkeys hpre
  obtain ⟨l, c, ts, hrun, -⟩ := tokenize_of_lexes hlex 1 1 []
  -- then the key and `=` of the offending entry, and its string fails
  have hkeyne : f.name.toList ≠ [] := by
    obtain ⟨c, more, hcm, -⟩ := hf'
    rw [hcm]
    exact List.cons_ne_nil c more
  rw [hrun, htail, tokenize_token hkeyne (by decide) (matchRule_key hf' (by
    intro d ds hd
    cases hd
    rfl))]
  rw [show '=' :: ((quote f.value).toList ++ ',' :: ' ' :: (g.name.toList ++ '=' :: '"' ::
      (rest ++ [')']))) = ['='] ++ ((quote f.value).toList ++ ',' :: ' ' :: (g.name.toList ++
      '=' :: '"' :: (rest ++ [')']))) from rfl]
  rw [tokenize_token (List.cons_ne_nil _ _) (by decide) (matchRule_punct (by simp) _)]
  exact tokenize_backslash_value hf hg _ _ _ _

/-- The first of the entries but the last whose value ends in a backslash, with the entries
before it and after it. -/
theorem exists_first_backslash {fs : List Field}
    (h : ∃ f ∈ fs.dropLast, f.value.toList.getLast? = some '\\') :
    ∃ pre f g post, fs = pre ++ f :: g :: post ∧
      (∀ x ∈ pre, x.value.toList.getLast? ≠ some '\\') ∧ f.value.toList.getLast? = some '\\' := by
  induction fs with
  | nil => simp at h
  | cons a as ih =>
    cases as with
    | nil => simp at h
    | cons b bs =>
      by_cases ha : a.value.toList.getLast? = some '\\'
      · exact ⟨[], a, b, bs, rfl, by simp, ha⟩
      · obtain ⟨f, hf, hfb⟩ := h
        rw [List.dropLast_cons_of_ne_nil (List.cons_ne_nil b bs)] at hf
        rcases List.mem_cons.1 hf with rfl | hf
        · exact absurd hfb ha
        · obtain ⟨pre, f', g, post, hsplit, hpre, hf'⟩ := ih ⟨f, hf, hfb⟩
          refine ⟨a :: pre, f', g, post, by rw [hsplit]; rfl, ?_, hf'⟩
          intro x hx
          rcases List.mem_cons.1 hx with rfl | hx
          · exact ha
          · exact hpre x hx

/-- **A written field list with a value that ends in a backslash before another entry does not
read.** -/
theorem parse_listText_error {fs : List Field} (hkeys : ∀ f ∈ fs, IsKey f.name.toList)
    (h : ∃ f ∈ fs.dropLast, f.value.toList.getLast? = some '\\') :
    ∃ msg, parse (listText fs) = .error msg := by
  obtain ⟨pre, f, g, post, rfl, hpre, hf⟩ := exists_first_backslash h
  obtain ⟨msg, herr⟩ := tokenize_listText_error hkeys hpre hf
  exact ⟨msg, by rw [parse, herr]; rfl⟩

/-- **A written field list reads back exactly when no value but the last ends in a
backslash.** -/
theorem parse_listText_eq_ok_iff {fs : List Field} (hkeys : ∀ f ∈ fs, IsKey f.name.toList) :
    parse (listText fs) = .ok fs ↔ ∀ f ∈ fs.dropLast, f.value.toList.getLast? ≠ some '\\' := by
  refine ⟨fun hok f hf hfb => ?_, parse_listText hkeys⟩
  obtain ⟨msg, herr⟩ := parse_listText_error hkeys ⟨f, hf, hfb⟩
  rw [herr] at hok
  cases hok

end Accessors.FieldList
