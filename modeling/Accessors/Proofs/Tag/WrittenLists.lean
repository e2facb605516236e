import Accessors.Proofs.Tag.FieldTokens
import Accessors.Proofs.Tag.Occurrences
import Accessors.Proofs.Text.Lines

/-!
# Field lists written in documentation read back

A field list written in a documentation comment the way Go code writes one,
`// @N(k1="v1", k2="v2")` with each value a quoted literal, reads back from the documentation as
one occurrence of `N` with exactly those fields, and so does the same list broken over several
comment lines after its commas (`writtenList`). That holds as long as no value but the last ends
in a backslash; when one does, the one occurrence is malformed (`parseText_writtenList`).

The documentation goes through three readers, and each is followed here:

* **lines**: the written text splits into comment lines (`normalizeLines_writtenList`), each of
  them stripped of its `// ` (`normalizeLine_comment`), leaving `listLines`;
* **extent**: the first line opens the list and the scan for its closing parenthesis, which
  steps over quoted values escape by escape (`go_quote`), finds it exactly at the end of the
  last line (`extendList_listLines`), the lines joined with blanks into the one-line text;
* **fields**: the one-line text reads as the entries, or fails, as
  `FieldList.parse_listText_eq_ok_iff` says.
-/

namespace Accessors.Tag

open Text FieldList

/-! ### Printable text -/

/-- A printable ASCII character is printable. -/
theorem isPrint_of_ascii {c : Char} (h₁ : 0x20 ≤ c.toNat) (h₂ : c.toNat < 0x7F) :
    isPrint c = true := by
  unfold isPrint
  simp [show c.toNat < 0x80 by omega, h₁, h₂]

/-- A character that may continue a key is an ASCII letter or digit, `_`, `\\` or `.`. -/
theorem isIdentPart_cases {c : Char} (h : isIdentPart c = true) :
    ((48 ≤ c.toNat ∧ c.toNat ≤ 57) ∨ (65 ≤ c.toNat ∧ c.toNat ≤ 90) ∨ (97 ≤ c.toNat ∧ c.toNat ≤ 122)) ∨
      c = '_' ∨ c = '\\' ∨ c = '.' := by
  simp only [isIdentPart, Char.isAlphanum, Char.isAlpha, Char.isUpper, Char.isLower, Char.isDigit,
    Bool.or_eq_true, Bool.and_eq_true, decide_eq_true_eq, beq_iff_eq, ge_iff_le,
    UInt32.le_iff_toNat_le, Char.toNat_val, Char.reduceToNat] at h
  rcases h with ((((h | h) | h) | h) | h) | h
  · exact .inl (.inr (.inl h))
  · exact .inl (.inr (.inr h))
  · exact .inl (.inl h)
  · exact .inr (.inl h)
  · exact .inr (.inr (.inl h))
  · exact .inr (.inr (.inr h))

/-- A character that may continue a key is printable. -/
theorem isPrint_of_isIdentPart {c : Char} (h : isIdentPart c = true) : isPrint c = true := by
  rcases isIdentPart_cases h with h | rfl | rfl | rfl
  · exact isPrint_of_ascii (by omega) (by omega)
  all_goals decide

/-- A character that may continue a key is no quote and no parenthesis. -/
theorem isIdentPart_not_delim {c : Char} (h : isIdentPart c = true) :
    c ≠ '"' ∧ c ≠ '(' ∧ c ≠ ')' := by
  rcases isIdentPart_cases h with h | rfl | rfl | rfl
  · refine ⟨?_, ?_, ?_⟩ <;> rintro rfl <;> simp at h
  all_goals decide

/-- A character that may start a key may continue one. -/
theorem isIdentPart_of_isIdentStart {c : Char} (h : isIdentStart c = true) :
    isIdentPart c = true := by
  simp only [isIdentStart, Bool.or_eq_true, beq_iff_eq] at h
  simp only [isIdentPart, Char.isAlphanum, Bool.or_eq_true, beq_iff_eq]
  rcases h with h | h
  · exact .inl (.inl (.inl (.inl h)))
  · exact .inl (.inl (.inr h))

/-- Every character of a written entry is printable. -/
theorem isPrint_of_mem_entryText {f : Field} (hk : IsKey f.name.toList) {d : Char}
    (hd : d ∈ (entryText f).toList) : isPrint d = true := by
  simp only [entryText, String.toList_append, List.mem_append] at hd
  rcases hd with (hd | hd) | hd
  · obtain ⟨c, more, hcm, hc, hmore⟩ := hk
    rw [hcm] at hd
    rcases List.mem_cons.1 hd with rfl | hd
    · exact isPrint_of_isIdentPart (isIdentPart_of_isIdentStart hc)
    · exact isPrint_of_isIdentPart (hmore d hd)
  · simp only [String.reduceToList, List.mem_singleton] at hd
    subst hd
    decide
  · exact isPrint_of_mem_quote hd

/-- Every character of entries written with separators is printable. -/
theorem isPrint_of_mem_entriesText :
    ∀ {fs : List Field}, (∀ f ∈ fs, IsKey f.name.toList) →
      ∀ {d : Char}, d ∈ (entriesText fs).toList → isPrint d = true
  | [], _, _, hd => by simp [entriesText, joinWith] at hd
  | [f], hkeys, _, hd => by
    rw [entriesText_singleton] at hd
    exact isPrint_of_mem_entryText (hkeys f List.mem_cons_self) hd
  | f :: g :: gs, hkeys, d, hd => by
    rw [entriesText_cons_cons, String.toList_append, String.toList_append, List.mem_append,
      List.mem_append] at hd
    rcases hd with (hd | hd) | hd
    · exact isPrint_of_mem_entryText (hkeys f List.mem_cons_self) hd
    · simp only [String.reduceToList, List.mem_cons, List.not_mem_nil, or_false] at hd
      rcases hd with rfl | rfl <;> decide
    · exact isPrint_of_mem_entriesText (fun f' hf' => hkeys f' (List.mem_cons_of_mem _ hf')) hd

/-! ### Comment lines -/

/-- Text that starts with a character that is no blank and no `*`, where stripping comment
markers stops. -/
def StartsPlain (x : String) : Prop :=
  ∃ c rest, x.toList = c :: rest ∧ isSpace c = false ∧ c ≠ '*'

/-- Text that ends with a comma or a closing parenthesis, as each line of a written list does. -/
def EndsList (x : String) : Prop :=
  x.toList.getLast? = some ',' ∨ x.toList.getLast? = some ')'

theorem StartsPlain.append {x : String} (h : StartsPlain x) (y : String) : StartsPlain (x ++ y) := by
  obtain ⟨c, rest, hx, hc, hstar⟩ := h
  exact ⟨c, rest ++ y.toList, by simp [hx], hc, hstar⟩

theorem endsList_append_comma (x : String) : EndsList (x ++ ",") :=
  .inl (by simp)

theorem endsList_append_close (x : String) : EndsList (x ++ ")") :=
  .inr (by simp)

/-- The last character of a line of a written list is no blank. -/
theorem EndsList.not_isSpace {x : String} (h : EndsList x) :
    ∀ c, x.toList.getLast? = some c → isSpace c = false := by
  intro c hc
  rcases h with h | h <;> rw [h] at hc <;> cases hc <;> decide

/-- **Stripping the comment markers of a line `// x`** gives `x`, when `x` starts with no
blank or `*` and ends with a comma or a closing parenthesis. -/
theorem normalizeLine_comment {x : String} (hs : StartsPlain x) (he : EndsList x) :
    normalizeLine ("// " ++ x) = x := by
  obtain ⟨c, rest, hx, hc, hstar⟩ := hs
  have hline : ("// " ++ x).toList = '/' :: '/' :: ' ' :: x.toList := by simp
  -- the line ends where `x` does
  have hlast : ("// " ++ x).toList.getLast? = x.toList.getLast? := by
    rw [hline, hx]
    simp
  have hends : ∀ d, ("// " ++ x).toList.getLast? = some d → isSpace d = false := by
    rw [hlast]
    exact he.not_isSpace
  have htrim : trimSpace ("// " ++ x) = "// " ++ x :=
    trimSpace_of_ends (by rw [hline]; intro d hd; cases hd; rfl) hends
  have hsuffix : trimSuffix ("// " ++ x) "*/" = "// " ++ x := by
    refine trimSuffix_of_getLast_ne (show ("*/" : String).toList.getLast? = some '/' by simp) ?_
    rw [hlast]
    rcases he with h | h <;> rw [h] <;> simp
  have hblock : hasPrefix ("// " ++ x) "/**" = false ∧ hasPrefix ("// " ++ x) "/*" = false := by
    simp [hasPrefix, hline, dropPrefix?]
  have hslash : hasPrefix ("// " ++ x) "//" = true ∧ trimPrefix ("// " ++ x) "//" = " " ++ x := by
    have hdrop : dropPrefix? ['/', '/'] ('/' :: '/' :: ' ' :: x.toList) = some (' ' :: x.toList) :=
      dropPrefix?_append _ _
    have hspace : String.ofList (' ' :: x.toList) = " " ++ x := by
      apply String.toList_injective
      simp
    simp [hasPrefix, trimPrefix, hline, hdrop, hspace]
  have hhead : ∀ d, x.toList.head? = some d → isSpace d = false := by
    rw [hx]
    intro d hd
    cases hd
    exact hc
  have hx' : trimSpace x = x := trimSpace_of_ends hhead he.not_isSpace
  have hstar' : trimPrefix x "*" = x :=
    trimPrefix_of_head_ne (show ("*" : String).toList = ['*'] by simp) (by rw [hx]; simpa using hstar)
  unfold normalizeLine
  simp only [htrim, hsuffix, hblock, hslash, Bool.false_eq_true, if_false, if_true,
    trimSpace_space_append hhead he.not_isSpace, hstar', hx']

/-! ### The lines of a written list -/

/-- **The lines of a field list written over comment lines**, the first starting with `first`
and the others with `next`: the text of each group of entries, each but the last followed by a
comma and the last by the closing parenthesis. -/
def listLines (first next : String) : List String → List String
  | [] => [first ++ ")"]
  | [t] => [first ++ t ++ ")"]
  | t :: u :: ts => (first ++ t ++ ",") :: listLines next next (u :: ts)

/-- **A field list written as a documentation comment**: `// @N(`, then its groups of entries,
one per comment line, the line broken after the comma that ends a group and the next one
starting with `// `, then `)`. Written as one group, it is the list on one line. -/
def writtenList (name : String) (groups : List (List Field)) : String :=
  "// @" ++ name ++ "(" ++ joinWith ",\n// " (groups.map entriesText) ++ ")"

theorem listLines_ne_nil (first next : String) : ∀ ts, listLines first next ts ≠ []
  | [] | [_] | _ :: _ :: _ => by simp [listLines]

/-- The lines of a written list joined with line breaks are the list. -/
theorem joinWith_listLines (first : String) :
    ∀ ts : List String,
      joinWith "\n" (listLines first "// " ts) = first ++ joinWith ",\n// " ts ++ ")"
  | [] => by simp [listLines, joinWith]
  | [t] => by simp [listLines, joinWith]
  | t :: u :: ts => by
    rw [listLines, joinWith, String.intercalate_cons_of_ne_nil (listLines_ne_nil _ _ _), ← joinWith,
      joinWith_listLines "// " (u :: ts)]
    apply String.toList_injective
    simp [joinWith]

/-- The comment lines of a written list are its stripped lines after `// `. -/
theorem listLines_comment (a : String) :
    ∀ ts : List String, listLines ("// " ++ a) "// " ts = (listLines a "" ts).map ("// " ++ ·)
  | [] => by simp [listLines, String.append_assoc]
  | [t] => by simp [listLines, String.append_assoc]
  | t :: u :: ts => by
    have h := listLines_comment "" (u :: ts)
    rw [String.append_empty] at h
    simp [listLines, h, String.append_assoc]

/-- Every stripped line of a written list starts plainly and ends the way a list line does,
when the text in front of the first line does and every group does. -/
theorem plain_of_mem_listLines :
    ∀ {a : String} {ts : List String}, (a = "" ∨ StartsPlain a) → (∀ t ∈ ts, StartsPlain t) →
      ∀ x ∈ listLines a "" ts, StartsPlain x ∧ EndsList x
  | a, [], ha, _, x, hx => by
    simp only [listLines, List.mem_singleton] at hx
    subst hx
    refine ⟨?_, endsList_append_close a⟩
    rcases ha with rfl | ha
    · exact ⟨')', [], by simp, by decide, by decide⟩
    · exact ha.append _
  | a, [t], ha, hts, x, hx => by
    simp only [listLines, List.mem_singleton] at hx
    subst hx
    refine ⟨?_, endsList_append_close _⟩
    rcases ha with rfl | ha
    · rw [String.empty_append]
      exact (hts t List.mem_cons_self).append _
    · exact (ha.append _).append _
  | a, t :: u :: ts, ha, hts, x, hx => by
    simp only [listLines, List.mem_cons] at hx
    rcases hx with rfl | hx
    · refine ⟨?_, endsList_append_comma _⟩
      rcases ha with rfl | ha
      · rw [String.empty_append]
        exact (hts t List.mem_cons_self).append _
      · exact (ha.append _).append _
    · exact plain_of_mem_listLines (.inl rfl) (fun t' ht' => hts t' (List.mem_cons_of_mem _ ht'))
        x (by simpa [listLines] using hx)

/-- Every character of the lines of a written list is one of its texts' or of the marks around
them. -/
theorem mem_of_mem_listLines :
    ∀ {a b : String} {ts : List String} {x : String}, x ∈ listLines a b ts → ∀ d ∈ x.toList,
      d ∈ a.toList ∨ d ∈ b.toList ∨ d = ',' ∨ d = ')' ∨ ∃ t ∈ ts, d ∈ t.toList
  | a, b, [], x, hx, d, hd => by
    simp only [listLines, List.mem_singleton] at hx
    subst hx
    simp only [String.toList_append, List.mem_append, String.reduceToList, List.mem_singleton] at hd
    rcases hd with hd | hd
    · exact .inl hd
    · exact .inr (.inr (.inr (.inl hd)))
  | a, b, [t], x, hx, d, hd => by
    simp only [listLines, List.mem_singleton] at hx
    subst hx
    simp only [String.toList_append, List.mem_append, String.reduceToList, List.mem_singleton] at hd
    rcases hd with (hd | hd) | hd
    · exact .inl hd
    · exact .inr (.inr (.inr (.inr ⟨t, List.mem_cons_self, hd⟩)))
    · exact .inr (.inr (.inr (.inl hd)))
  | a, b, t :: u :: ts, x, hx, d, hd => by
    simp only [listLines, List.mem_cons] at hx
    rcases hx with rfl | hx
    · simp only [String.toList_append, List.mem_append, String.reduceToList,
        List.mem_singleton] at hd
      rcases hd with (hd | hd) | hd
      · exact .inl hd
      · exact .inr (.inr (.inr (.inr ⟨t, List.mem_cons_self, hd⟩)))
      · exact .inr (.inr (.inl hd))
    · rcases mem_of_mem_listLines (by simpa [listLines] using hx) d hd with hd | hd | hd | hd | ⟨t', ht', hd⟩
      · exact .inr (.inl hd)
      · exact .inr (.inl hd)
      · exact .inr (.inr (.inl hd))
      · exact .inr (.inr (.inr (.inl hd)))
      · exact .inr (.inr (.inr (.inr ⟨t', List.mem_cons_of_mem _ ht', hd⟩)))

/-- Every character of lines joined with line breaks is a line break or a character of a
line. -/
theorem mem_joinWith_newline :
    ∀ {ls : List String} {d : Char}, d ∈ (joinWith "\n" ls).toList → d = '\n' ∨ ∃ l ∈ ls, d ∈ l.toList
  | [], _, hd => by simp [joinWith] at hd
  | [l], _, hd => .inr ⟨l, List.mem_cons_self, by simpa [joinWith] using hd⟩
  | l :: m :: ms, d, hd => by
    rw [joinWith, String.intercalate_cons_cons, ← joinWith, String.toList_append,
      String.toList_append, List.mem_append, List.mem_append] at hd
    rcases hd with (hd | hd) | hd
    · exact .inr ⟨l, List.mem_cons_self, hd⟩
    · exact .inl (by simpa using hd)
    · rcases mem_joinWith_newline hd with hd | ⟨l', hl', hd⟩
      · exact .inl hd
      · exact .inr ⟨l', List.mem_cons_of_mem _ hl', hd⟩

/-- A character that starts a key is no blank and no `*`. -/
theorem isIdentStart_plain {c : Char} (h : isIdentStart c = true) : isSpace c = false ∧ c ≠ '*' := by
  have hc := isIdentStart_toNat h
  refine ⟨?_, ?_⟩
  · unfold isSpace
    simp only [show c.toNat < 0x80 by omega, if_true, Bool.or_eq_false_iff, beq_eq_false_iff_ne,
      Bool.and_eq_false_iff, decide_eq_false_iff_not]
    omega
  · rintro rfl
    simp at hc

/-- The text of a group of entries starts plainly: with the first character of a key. -/
theorem startsPlain_entriesText {g : List Field} (hg : g ≠ []) (hkeys : ∀ f ∈ g, IsKey f.name.toList) :
    StartsPlain (entriesText g) := by
  obtain ⟨f, fs, rfl⟩ := List.exists_cons_of_ne_nil hg
  obtain ⟨c, more, hcm, hc, -⟩ := hkeys f List.mem_cons_self
  obtain ⟨hspace, hstar⟩ := isIdentStart_plain hc
  have htext : (entriesText (f :: fs)).toList =
      c :: (more ++ (joinWith ", " (("=" ++ quote f.value) :: fs.map entryText)).toList) := by
    rw [entriesText_cons, String.toList_append, hcm, List.cons_append]
  exact ⟨c, _, htext, hspace, hstar⟩

/-- A character of a tag name is printable. -/
theorem isPrint_of_isTagName {n : List Char} (hn : IsTagName n) {d : Char} (hd : d ∈ n) :
    isPrint d = true := by
  obtain ⟨c, more, rfl, hc, hmore⟩ := hn
  rcases List.mem_cons.1 hd with rfl | hd
  · simp only [isTagStart, Bool.or_eq_true, beq_iff_eq] at hc
    rcases hc with (hc | rfl) | rfl
    · exact isPrint_of_isIdentPart (by simp [isIdentPart, Char.isAlphanum, hc])
    · decide
    · decide
  · exact isPrint_of_isIdentPart (hmore d hd)

/-- Every character of the comment lines of a written list is printable: the tag name, the
entries and the punctuation around them. -/
theorem isPrint_of_mem_commentLines {name : String} {groups : List (List Field)}
    (hname : IsTagName name.toList) (hkeys : ∀ g ∈ groups, ∀ f ∈ g, IsKey f.name.toList) :
    ∀ x ∈ (listLines ("@" ++ name ++ "(") "" (groups.map entriesText)).map ("// " ++ ·),
      ∀ d ∈ x.toList, isPrint d = true := by
  intro x hx d hd
  obtain ⟨y, hy, rfl⟩ := List.mem_map.1 hx
  simp only [String.toList_append, List.mem_append] at hd
  rcases hd with hd | hd
  · -- the comment marker
    simp only [String.reduceToList, List.mem_cons, List.not_mem_nil, or_false] at hd
    rcases hd with rfl | rfl | rfl <;> decide
  -- the stripped line: the opening, an entry, or the punctuation between
  rcases mem_of_mem_listLines hy d hd with hd | hd | rfl | rfl | ⟨t, ht, hd⟩
  · simp only [String.toList_append, List.mem_append, String.reduceToList, List.mem_singleton] at hd
    rcases hd with (rfl | hd) | rfl
    · decide
    · exact isPrint_of_isTagName hname hd
    · decide
  · simp at hd
  · decide
  · decide
  · obtain ⟨g, hg, rfl⟩ := List.mem_map.1 ht
    exact isPrint_of_mem_entriesText (hkeys g hg) hd

/-- **The documentation lines of a written list** are its stripped lines: the written text
splits into its comment lines, none of which holds a line break, and each loses its `// `. -/
theorem normalizeLines_writtenList {name : String} {groups : List (List Field)}
    (hname : IsTagName name.toList) (hkeys : ∀ f ∈ groups.flatten, IsKey f.name.toList)
    (hgroups : ∀ g ∈ groups, g ≠ []) :
    normalizeLines (writtenList name groups) =
      listLines ("@" ++ name ++ "(") "" (groups.map entriesText) := by
  have hkeys' : ∀ g ∈ groups, ∀ f ∈ g, IsKey f.name.toList :=
    fun g hg f hf => hkeys f (List.mem_flatten.2 ⟨g, hg, hf⟩)
  have hcomment := isPrint_of_mem_commentLines hname hkeys'
  -- the written text is its comment lines joined with line breaks
  have hdoc : writtenList name groups =
      joinWith "\n" ((listLines ("@" ++ name ++ "(") "" (groups.map entriesText)).map ("// " ++ ·)) := by
    rw [← listLines_comment, joinWith_listLines]
    apply String.toList_injective
    simp [writtenList]
  have hcr : '\r' ∉ (writtenList name groups).toList := by
    intro hd
    rw [hdoc] at hd
    rcases mem_joinWith_newline hd with h | ⟨l, hl, h⟩
    · cases h
    · exact absurd (hcomment l hl _ h) (by decide)
  obtain ⟨l, ls, hlines⟩ := List.exists_cons_of_ne_nil
    (List.map_eq_nil_iff.not.2 (listLines_ne_nil ("@" ++ name ++ "(") "" (groups.map entriesText)))
  have hsplit := splitOn_joinWith_newline l ls (by
    intro m hm hn
    rw [← hlines] at hm
    exact absurd (hcomment m hm _ hn) (by decide))
  -- each comment line loses its marker
  have hstrip : ∀ x ∈ listLines ("@" ++ name ++ "(") "" (groups.map entriesText),
      normalizeLine ("// " ++ x) = x := by
    intro x hx
    obtain ⟨hs, he⟩ := plain_of_mem_listLines (.inr ⟨'@', name.toList ++ ['('], by simp, by decide,
        by decide⟩)
      (fun t ht => by
        obtain ⟨g, hg, rfl⟩ := List.mem_map.1 ht
        exact startsPlain_entriesText (hgroups g hg) (hkeys' g hg)) x hx
    exact normalizeLine_comment hs he
  unfold normalizeLines
  rw [replaceAll_of_not_mem (show ("\r\n" : String).toList = '\r' :: ['\n'] by simp) hcr, hdoc,
    hlines, hsplit, ← hlines, List.map_map]
  exact (List.map_congr_left fun x hx => hstrip x hx).trans (List.map_id _)

/-! ### The extent of a written list -/

section Extent

open closingParen

/-- One step of the scan outside strings. -/
theorem go_cons_false (c : Char) (rest : List Char) (depth : Int) (i : Nat) :
    go (c :: rest) depth false i =
      if c = '"' then go rest depth true (i + 1)
      else if c = '(' then go rest (depth + 1) false (i + 1)
      else if c = ')' then (if depth - 1 = 0 then some i else go rest (depth - 1) false (i + 1))
      else go rest depth false (i + 1) := by
  cases rest <;> simp [go]

/-- One step of the scan inside a string, over a character other than a backslash. -/
theorem go_cons_true {c : Char} (hc : c ≠ '\\') (rest : List Char) (depth : Int) (i : Nat) :
    go (c :: rest) depth true i =
      if c = '"' then go rest depth false (i + 1) else go rest depth true (i + 1) := by
  cases rest <;> simp [go, hc]

/-- Inside a string, a backslash takes the character after it along. -/
theorem go_backslash (d : Char) (rest : List Char) (depth : Int) (i : Nat) :
    go ('\\' :: d :: rest) depth true i = go rest depth true (i + 2) := by
  simp [go]

/-- Outside strings, characters that are no quotes and no parentheses are stepped over. -/
theorem go_plain {xs : List Char} (hx : ∀ c ∈ xs, c ≠ '"' ∧ c ≠ '(' ∧ c ≠ ')') (tail : List Char)
    (depth : Int) (i : Nat) : go (xs ++ tail) depth false i = go tail depth false (i + xs.length) := by
  induction xs generalizing i with
  | nil => simp
  | cons x xs ih =>
    obtain ⟨hq, ho, hc⟩ := hx x List.mem_cons_self
    rw [List.cons_append, go_cons_false, if_neg hq, if_neg ho, if_neg hc,
      ih fun c hc => hx c (List.mem_cons_of_mem _ hc)]
    simp [Nat.add_assoc, Nat.add_comm 1]

/-- Inside a string, characters that are no quotes and no backslashes are stepped over. -/
theorem go_string_plain {xs : List Char} (hx : ∀ c ∈ xs, c ≠ '"' ∧ c ≠ '\\') (tail : List Char)
    (depth : Int) (i : Nat) : go (xs ++ tail) depth true i = go tail depth true (i + xs.length) := by
  induction xs generalizing i with
  | nil => simp
  | cons x xs ih =>
    obtain ⟨hq, hb⟩ := hx x List.mem_cons_self
    rw [List.cons_append, go_cons_true hb, if_neg hq, ih fun c hc => hx c (List.mem_cons_of_mem _ hc)]
    simp [Nat.add_assoc, Nat.add_comm 1]

/-- **An escape is stepped over** inside a string: a backslash takes the character after it
along, and the rest of an escape is plain. -/
theorem go_escapeChar (c : Char) (tail : List Char) (depth : Int) (i : Nat) :
    go ((escapeChar c).toList ++ tail) depth true i =
      go tail depth true (i + (escapeChar c).toList.length) := by
  rcases escapeChar_cases c with ⟨he, -, hq, hb⟩ | ⟨-, he⟩ | ⟨-, d, more, he, -, -, hmore⟩
  · rw [he]
    exact go_string_plain (by simpa using ⟨hq, hb⟩) tail depth i
  · rw [he, List.cons_append, List.cons_append, List.nil_append, go_backslash]
    rfl
  · rw [he, List.cons_append, List.cons_append, go_backslash,
      go_string_plain fun e he => ⟨(hmore e he).2.1, (hmore e he).2.2⟩]
    simp only [List.length_cons]
    congr 1
    omega

/-- Escaped text is stepped over inside a string. -/
theorem go_escaped (cs tail : List Char) (depth : Int) (i : Nat) :
    go (escaped cs ++ tail) depth true i = go tail depth true (i + (escaped cs).length) := by
  induction cs generalizing i with
  | nil => simp
  | cons c cs ih =>
    rw [escaped_cons, List.append_assoc, go_escapeChar, ih, List.length_append, Nat.add_assoc]

/-- **A quoted value is stepped over**, parentheses, commas and quotes in it included. -/
theorem go_quote (v : String) (tail : List Char) (depth : Int) (i : Nat) :
    go ((quote v).toList ++ tail) depth false i =
      go tail depth false (i + (quote v).toList.length) := by
  have htext : (quote v).toList ++ tail = '"' :: (escaped v.toList ++ '"' :: tail) := by
    simp [toList_quote]
  rw [htext, go_cons_false, if_pos rfl, go_escaped, go_cons_true (by decide), if_pos rfl,
    toList_quote]
  simp only [List.length_cons, List.length_append, List.length_nil]
  congr 1
  omega

/-- A written entry is stepped over. -/
theorem go_entryText {f : Field} (hk : IsKey f.name.toList) (tail : List Char) (depth : Int)
    (i : Nat) : go ((entryText f).toList ++ tail) depth false i =
      go tail depth false (i + (entryText f).toList.length) := by
  have hkey : ∀ c ∈ f.name.toList ++ ['='], c ≠ '"' ∧ c ≠ '(' ∧ c ≠ ')' := by
    obtain ⟨c, more, hcm, hc, hmore⟩ := hk
    intro d hd
    rw [hcm] at hd
    simp only [List.cons_append, List.mem_cons, List.mem_append, List.not_mem_nil, or_false] at hd
    rcases hd with rfl | hd | rfl
    · exact isIdentPart_not_delim (isIdentPart_of_isIdentStart hc)
    · exact isIdentPart_not_delim (hmore d hd)
    · decide
  have htext : (entryText f).toList ++ tail = (f.name.toList ++ ['=']) ++ ((quote f.value).toList ++ tail) := by
    simp [entryText]
  rw [htext, go_plain hkey, go_quote]
  simp only [entryText, String.toList_append, List.length_append, String.reduceToList,
    List.length_singleton]
  congr 1
  omega

/-- **Written entries are stepped over**, their separators included. -/
theorem go_entriesText :
    ∀ {fs : List Field}, (∀ f ∈ fs, IsKey f.name.toList) → ∀ (tail : List Char) (depth : Int) (i : Nat),
      go ((entriesText fs).toList ++ tail) depth false i =
        go tail depth false (i + (entriesText fs).toList.length)
  | [], _, tail, depth, i => by simp [entriesText, joinWith]
  | [f], hkeys, tail, depth, i => by
    rw [entriesText_singleton]
    exact go_entryText (hkeys f List.mem_cons_self) tail depth i
  | f :: g :: gs, hkeys, tail, depth, i => by
    have hsep : ∀ c ∈ [',', ' '], c ≠ '"' ∧ c ≠ '(' ∧ c ≠ ')' := by simp
    have htext : (entriesText (f :: g :: gs)).toList ++ tail =
        (entryText f).toList ++ ([',', ' '] ++ ((entriesText (g :: gs)).toList ++ tail)) := by
      simp [entriesText_cons_cons]
    rw [htext, go_entryText (hkeys f List.mem_cons_self), go_plain hsep,
      go_entriesText (fun f' hf' => hkeys f' (List.mem_cons_of_mem _ hf'))]
    simp only [entriesText_cons_cons, String.toList_append, List.length_append,
      String.reduceToList, List.length_cons, List.length_nil]
    congr 1
    omega

/-- **A line that ends in a comma leaves the list open.** -/
theorem closingParen_open {A : List Field} (hkeys : ∀ f ∈ A, IsKey f.name.toList) :
    closingParen ("(" ++ entriesText A ++ ",").toList = none := by
  have htext : ("(" ++ entriesText A ++ ",").toList = '(' :: ((entriesText A).toList ++ [',']) := by
    simp
  unfold closingParen
  rw [htext, go_cons_false, if_neg (by decide), if_pos rfl, go_entriesText hkeys, go_cons_false,
    if_neg (by decide), if_neg (by decide), if_neg (by decide)]
  rfl

/-- **The closing parenthesis of a written list** is its last character. -/
theorem closingParen_listText {fs : List Field} (hkeys : ∀ f ∈ fs, IsKey f.name.toList) :
    closingParen (listText fs).toList = some ((entriesText fs).toList.length + 1) := by
  have htext : (listText fs).toList = '(' :: ((entriesText fs).toList ++ [')']) := by
    simp [listText]
  unfold closingParen
  rw [htext, go_cons_false, if_neg (by decide), if_pos rfl, go_entriesText hkeys, go_cons_false,
    if_neg (by decide), if_neg (by decide), if_pos rfl, if_pos (by simp)]
  simp [Nat.add_comm]

/-- A written list on one line is closed already, and takes no further line. -/
theorem extendList_listText {fs : List Field} (hkeys : ∀ f ∈ fs, IsKey f.name.toList)
    (following : List String) : extendList (listText fs) following 0 = some (listText fs, 0) := by
  rw [extendList_of_closed (closingParen_listText hkeys)]
  have hlen : (listText fs).toList.length = (entriesText fs).toList.length + 1 + 1 := by
    simp [listText]
  rw [← hlen, List.take_length, String.ofList_toList]

/-- **A list broken over lines closes on its last line**: each line but the last ends in a
comma and leaves the list open, so all the lines are taken, and the text they join into is the
list on one line. By induction on the groups of the lines, the entries before them in `A`. -/
theorem extendList_listLines {A : List Field} (hA : A ≠ []) (hkA : ∀ f ∈ A, IsKey f.name.toList) :
    ∀ {gs : List (List Field)}, gs ≠ [] → (∀ g ∈ gs, g ≠ []) →
      (∀ g ∈ gs, ∀ f ∈ g, IsKey f.name.toList) →
      extendList ("(" ++ entriesText A ++ ",") (listLines "" "" (gs.map entriesText)) 0 =
        some (listText (A ++ gs.flatten), (listLines "" "" (gs.map entriesText)).length)
  | [], hgs, _, _ => absurd rfl hgs
  | [g], _, hne, hkg => by
    have hg := hne g List.mem_cons_self
    have hkeys : ∀ f ∈ A ++ g, IsKey f.name.toList := by
      intro f hf
      rcases List.mem_append.1 hf with hf | hf
      · exact hkA f hf
      · exact hkg g List.mem_cons_self f hf
    -- the last line joined to the first gives the list on one line
    have hjoin : "(" ++ entriesText A ++ "," ++ " " ++ ("" ++ entriesText g ++ ")") =
        listText (A ++ g) := by
      rw [listText, entriesText_append hA hg]
      apply String.toList_injective
      simp
    simp only [List.map_cons, List.map_nil, listLines]
    rw [extendList_cons_of_open (closingParen_open hkA), hjoin, extendList_listText hkeys]
    simp
  | g :: h :: hs, _, hne, hkg => by
    have hg := hne g List.mem_cons_self
    have hkAg : ∀ f ∈ A ++ g, IsKey f.name.toList := by
      intro f hf
      rcases List.mem_append.1 hf with hf | hf
      · exact hkA f hf
      · exact hkg g List.mem_cons_self f hf
    have hjoin : "(" ++ entriesText A ++ "," ++ " " ++ ("" ++ entriesText g ++ ",") =
        "(" ++ entriesText (A ++ g) ++ "," := by
      rw [entriesText_append hA hg]
      apply String.toList_injective
      simp
    have ih := extendList_listLines (List.append_ne_nil_of_left_ne_nil hA g) hkAg
      (List.cons_ne_nil h hs) (fun g' hg' => hne g' (List.mem_cons_of_mem _ hg'))
      (fun g' hg' => hkg g' (List.mem_cons_of_mem _ hg'))
    simp only [List.map_cons, listLines] at ih ⊢
    rw [extendList_cons_of_open (closingParen_open hkA), hjoin, ih]
    simp

end Extent

/-! ### The occurrence of a written list -/

-- decided through `List.all`: an instance for `∀ d ∈ more` may decide over every character
instance : DecidablePred IsTagName
  | [] => isFalse fun ⟨_, _, h, _⟩ => List.cons_ne_nil _ _ h.symm
  | c :: more => decidable_of_iff (isTagStart c = true ∧ more.all isTagPart = true)
      ⟨fun ⟨hc, hm⟩ => ⟨c, more, rfl, hc, List.all_eq_true.1 hm⟩,
        fun ⟨_, _, h, hc, hm⟩ => by cases h; exact ⟨hc, List.all_eq_true.2 hm⟩⟩

/-- A field list whose text closes after the lines it takes yields the fields its text reads
as, or the syntax error of the text. -/
theorem fieldListOccurrence_of_extendList {name r text : String} {no taken : Nat}
    {following : List String} (h : extendList r following 0 = some (text, taken)) :
    fieldListOccurrence name no r following =
      ((match FieldList.parse text with
        | .ok fields => ⟨name, "", some fields, none⟩
        | .error msg => ⟨name, "", none, some ⟨name, no, msg⟩⟩), taken) := by
  unfold fieldListOccurrence
  rw [h]
  dsimp only
  cases FieldList.parse text <;> rfl

/-- **A first line that opens a field list closed by the last line** yields the one occurrence
of the list. -/
theorem occurrencesFrom_opening {name r text : String} {following : List String}
    (hname : IsTagName name.toList) (hr : r.toList.head? = some '(')
    (hext : extendList r following 0 = some (text, following.length)) :
    occurrencesFrom (("@" ++ name ++ r) :: following) 1 =
      [(fieldListOccurrence name 1 r following).1] := by
  have hends : EndsName r.toList := by
    intro c r' hcr
    rw [hcr] at hr
    cases hr
    exact .inr (.inr rfl)
  have hline : TagLine ("@" ++ name ++ r) name r.toList := ⟨by simp, hname, hends⟩
  have htaken : (fieldListOccurrence name 1 r following).2 = following.length := by
    rw [fieldListOccurrence_of_extendList hext]
  rw [occurrencesFrom_fieldList hline hr, String.ofList_toList, htaken, List.drop_length,
    occurrencesFrom]

/-- The stripped lines of a written list: a first line that opens the list, and the following
lines that it takes up to its closing parenthesis, the joined text being the list on one line. -/
theorem listLines_opening (name : String) {groups : List (List Field)}
    (hkeys : ∀ g ∈ groups, ∀ f ∈ g, IsKey f.name.toList) (hgroups : ∀ g ∈ groups, g ≠ []) :
    ∃ r following, listLines ("@" ++ name ++ "(") "" (groups.map entriesText) =
        ("@" ++ name ++ r) :: following ∧ r.toList.head? = some '(' ∧
      extendList r following 0 = some (listText groups.flatten, following.length) := by
  match groups, hkeys, hgroups with
  | [], _, _ =>
    refine ⟨listText [], [], ?_, by simp [listText], extendList_listText (by simp) []⟩
    simp only [List.map_nil, listLines, List.cons.injEq, and_true]
    apply String.toList_injective
    simp [listText, entriesText, joinWith]
  | [g], hkeys, _ =>
    refine ⟨listText g, [], ?_, by simp [listText],
      by simpa using extendList_listText (hkeys g List.mem_cons_self) []⟩
    simp only [List.map_cons, List.map_nil, listLines, List.cons.injEq, and_true]
    apply String.toList_injective
    simp [listText]
  | g :: h :: hs, hkeys, hgroups =>
    -- the first line leaves the list open, and the others close it on the last one
    refine ⟨"(" ++ entriesText g ++ ",", listLines "" "" ((h :: hs).map entriesText), ?_,
      by simp, ?_⟩
    · simp only [List.map_cons, listLines, List.cons.injEq, and_true]
      apply String.toList_injective
      simp
    · have hext := extendList_listLines (hgroups g List.mem_cons_self)
        (hkeys g List.mem_cons_self) (List.cons_ne_nil h hs)
        (fun g' hg' => hgroups g' (List.mem_cons_of_mem _ hg'))
        (fun g' hg' => hkeys g' (List.mem_cons_of_mem _ hg'))
      simpa using hext

/-- **The documentation of a written list reads as one occurrence of its tag**: its fields,
when its one-line text reads, and otherwise the syntax error of that text on line one. -/
theorem parseText_writtenList_eq {name : String} {groups : List (List Field)}
    (hname : IsTagName name.toList) (hkeys : ∀ f ∈ groups.flatten, IsKey f.name.toList)
    (hgroups : ∀ g ∈ groups, g ≠ []) :
    parseText (writtenList name groups) =
      match FieldList.parse (listText groups.flatten) with
      | .ok fields => ([⟨name, "", some fields, none⟩], [])
      | .error msg => ([⟨name, "", none, some ⟨name, 1, msg⟩⟩], [⟨name, 1, msg⟩]) := by
  have hkeys' : ∀ g ∈ groups, ∀ f ∈ g, IsKey f.name.toList :=
    fun g hg f hf => hkeys f (List.mem_flatten.2 ⟨g, hg, hf⟩)
  obtain ⟨r, following, hlines, hr, hext⟩ := listLines_opening name hkeys' hgroups
  unfold parseText
  rw [normalizeLines_writtenList hname hkeys hgroups, hlines, occurrencesFrom_opening hname hr hext,
    fieldListOccurrence_of_extendList hext]
  cases FieldList.parse (listText groups.flatten) <;> rfl

/-- **Field lists written in documentation read back.** A field list written as Go code writes
it, `// @N(k1="v1", k2="v2")` with a tag name `N`, keys `k1, k2, …` and values written as
quoted literals, reads from the documentation as exactly one occurrence of `N` with no value and
exactly those fields, and no syntax error; so does the list broken over comment lines after
some of its commas. That holds whenever no value but the last ends in a backslash. When one does,
its string runs on into the next entry, and the one occurrence is malformed, with the syntax
error of its text on line one. -/
theorem parseText_writtenList (name : String) (groups : List (List Field))
    (hname : IsTagName name.toList) (hkeys : ∀ f ∈ groups.flatten, IsKey f.name.toList)
    (hgroups : ∀ g ∈ groups, g ≠ []) :
    ((∀ f ∈ groups.flatten.dropLast, f.value.toList.getLast? ≠ some '\\') →
      parseText (writtenList name groups) = ([⟨name, "", some groups.flatten, none⟩], [])) ∧
    ((∃ f ∈ groups.flatten.dropLast, f.value.toList.getLast? = some '\\') →
      ∃ msg, parseText (writtenList name groups) =
        ([⟨name, "", none, some ⟨name, 1, msg⟩⟩], [⟨name, 1, msg⟩])) := by
  rw [parseText_writtenList_eq hname hkeys hgroups]
  refine ⟨fun hvals => ?_, fun hback => ?_⟩
  · rw [parse_listText hkeys hvals]
  · obtain ⟨msg, herr⟩ := parse_listText_error hkeys hback
    rw [herr]
    exact ⟨msg, rfl⟩

/-- A list over two comment lines, with a quote, parentheses and a comma in a value, and a
last value that ends in a backslash. -/
theorem parseText_writtenList_two_lines :
    let groups : List (List Field) :=
      [[⟨"title", "a \"b\" (c, d)"⟩, ⟨"x", "1"⟩], [⟨"path", "C:\\"⟩]]
    IsTagName "Get".toList ∧ (∀ f ∈ groups.flatten, IsKey f.name.toList) ∧
      (∀ g ∈ groups, g ≠ []) ∧
      (((∀ f ∈ groups.flatten.dropLast, f.value.toList.getLast? ≠ some '\\') →
        parseText (writtenList "Get" groups) = ([⟨"Get", "", some groups.flatten, none⟩], [])) ∧
      ((∃ f ∈ groups.flatten.dropLast, f.value.toList.getLast? = some '\\') →
        ∃ msg, parseText (writtenList "Get" groups) =
          ([⟨"Get", "", none, some ⟨"Get", 1, msg⟩⟩], [⟨"Get", 1, msg⟩]))) := by
  intro groups
  have hname : IsTagName "Get".toList := by decide
  have hkeys : ∀ f ∈ groups.flatten, IsKey f.name.toList := by decide
  have hgroups : ∀ g ∈ groups, g ≠ [] := by decide
  exact ⟨hname, hkeys, hgroups, parseText_writtenList "Get" groups hname hkeys hgroups⟩

end Accessors.Tag
