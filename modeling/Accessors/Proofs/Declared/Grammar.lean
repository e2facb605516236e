import Accessors.Declared.Expr

/-!
# The grammar of type expressions

A type expression is read by the grammar

    expression  ::= alternative ('|' alternative)*
    alternative ::= '[]'? name '[]'?

with blanks allowed around every token. A name is an optional `\` or `*`, a letter or an
underscore, then letters, digits and underscores, where a `\` or a `.` may join a further
segment (`NameTail`, `IsName`). `Spells alts t` says that the text `t` is the expression of the
alternatives `alts`.

Reading a text goes through the tokens. Each direction of the grammar is one lemma about them:
the reader takes the text of alternatives to their tokens (`lex_spells`), and the parser gives
back the alternatives of their tokens (`alternatives_render`); conversely, the lexemes of the
tokens the reader finds make up the text, less blanks (`lex_sound`), and the parser accepts only
the tokens of alternatives (`render_of_alternatives`). So a text is read into alternatives
exactly when it spells them (`read_eq_some_iff`).

The classification of the alternatives then follows one pass over them (`classify_unmarked`,
`classify_marked`): bare `null` alternatives set the nullable mark until the first alternative
marked on both sides, which ends the pass with a display-only type; otherwise the alternatives
that remain (`remaining`) decide the kind when there is exactly one. A bare `null` after such an
alternative is never seen (`parse_marked_hides_null`).

Main statement: `parse_classifies`.
-/

namespace Accessors.Declared

/-! ### Names and texts -/

/-- A character that joins two segments of a name. -/
def isJoiner (c : Char) : Bool := c == '\\' || c == '.'

/-- **The rest of a name** after its first letter, `([a-zA-Z0-9_] | [\\.][a-zA-Z_])*`: letters,
digits and underscores, where a joiner is always followed by a letter or an underscore. -/
inductive NameTail : List Char → Prop
  | nil : NameTail []
  | part {c : Char} {cs : List Char} : isSegmentPart c = true → NameTail cs → NameTail (c :: cs)
  | joined {j c : Char} {cs : List Char} : isJoiner j = true → isSegmentStart c = true →
      NameTail cs → NameTail (j :: c :: cs)

/-- **A name**, `[\\*]?[a-zA-Z_][a-zA-Z0-9_]*([\\.][a-zA-Z_][a-zA-Z0-9_]*)*`: an optional `\` or
`*`, a letter or an underscore, then the rest of a name. -/
def IsName (n : List Char) : Prop :=
  ∃ mark c tail, n = mark ++ c :: tail ∧ (mark = [] ∨ mark = ['\\'] ∨ mark = ['*']) ∧
    isSegmentStart c = true ∧ NameTail tail

/-- Blanks between tokens: spaces, tabs, line feeds, form feeds and carriage returns. -/
def Blank (w : List Char) : Prop := ∀ c ∈ w, isBlank c = true

/-- **The text of an alternative**: `[]` and blanks when it is marked in front, its name, then
blanks and `[]` when it is marked behind. -/
def AltText (a : Alternative) (t : List Char) : Prop :=
  IsName a.name.toList ∧ ∃ w w', Blank w ∧ Blank w' ∧
    t = (if a.prefixMark then '[' :: ']' :: w else []) ++ a.name.toList ++
      (if a.suffixMark then w' ++ ['[', ']'] else [])

/-- **The texts of an expression**: its alternatives separated by `|`, with blanks around them. -/
inductive Spells : List Alternative → List Char → Prop
  | one {a : Alternative} {w x w' : List Char} : Blank w → AltText a x → Blank w' →
      Spells [a] (w ++ x ++ w')
  | cons {a : Alternative} {as : List Alternative} {w x w' r : List Char} : Blank w →
      AltText a x → Blank w' → Spells as r → Spells (a :: as) (w ++ x ++ w' ++ '|' :: r)

theorem Spells.ne_nil {alts : List Alternative} {t : List Char} (h : Spells alts t) : alts ≠ [] := by
  cases h <;> exact List.cons_ne_nil _ _

/-! ### Tokens of alternatives -/

/-- The tokens of an alternative. -/
def Alternative.tokens (a : Alternative) : List Token :=
  (if a.prefixMark then [.brackets] else []) ++ .name a.name ::
    (if a.suffixMark then [.brackets] else [])

/-- **The tokens of alternatives**, separated by `|`. -/
def render : List Alternative → List Token
  | [] => []
  | [a] => a.tokens
  | a :: as => a.tokens ++ .pipe :: render as

theorem render_cons_cons (a b : Alternative) (bs : List Alternative) :
    render (a :: b :: bs) = a.tokens ++ .pipe :: render (b :: bs) := rfl

/-- **The parser reads back the tokens of alternatives.** -/
theorem alternatives_render : ∀ {alts : List Alternative}, alts ≠ [] →
    alternatives (render alts) = some alts
  | [], h => absurd rfl h
  | [⟨p, n, s⟩], _ => by cases p <;> cases s <;> rfl
  | ⟨p, n, s⟩ :: b :: bs, _ => by
    have ih := alternatives_render (List.cons_ne_nil b bs)
    rw [render_cons_cons]
    cases p <;> cases s <;> simp [Alternative.tokens, alternatives, ih]

/-- **The parser accepts only the tokens of alternatives.** -/
theorem render_of_alternatives {toks : List Token} {alts : List Alternative}
    (h : alternatives toks = some alts) : alts ≠ [] ∧ render alts = toks := by
  fun_induction alternatives toks generalizing alts
  -- a last alternative, of each shape
  case case1 | case3 | case5 | case7 =>
    cases h
    exact ⟨List.cons_ne_nil _ _, rfl⟩
  -- an alternative, `|`, and the alternatives after it
  case case2 | case4 | case6 | case8 =>
    rename_i rest ih
    obtain ⟨as, hrest, rfl⟩ : ∃ as, alternatives rest = some as ∧ _ :: as = alts := by
      simpa using h
    obtain ⟨hne, hr⟩ := ih hrest
    obtain ⟨b, bs, rfl⟩ := List.exists_cons_of_ne_nil hne
    exact ⟨List.cons_ne_nil _ _, by rw [render_cons_cons, hr]; rfl⟩
  case case9 => cases h

/-! ### Reading the text of alternatives -/

/-- **A name may end before the rest**: the rest is empty, or starts with a character that
neither continues the name nor joins a segment to it. -/
def Stops (r : List Char) : Prop :=
  ∀ d r', r = d :: r' → isSegmentPart d = false ∧ isJoiner d = false

theorem stops_nil : Stops [] := nofun

theorem stops_cons {d : Char} (r : List Char) (hd : isSegmentPart d = false ∧ isJoiner d = false) :
    Stops (d :: r) := by
  rintro d' r' h
  cases h
  exact hd

/-- The characters a blank may be. -/
theorem isBlank_cases {c : Char} (h : isBlank c = true) :
    c = ' ' ∨ c = '\t' ∨ c = '\n' ∨ c = '\x0c' ∨ c = '\r' := by
  simpa [isBlank, or_assoc] using h

/-- Blanks neither continue a name nor join a segment to it. -/
theorem isBlank_stops {c : Char} (h : isBlank c = true) :
    isSegmentPart c = false ∧ isJoiner c = false := by
  rcases isBlank_cases h with rfl | rfl | rfl | rfl | rfl <;> decide

/-- A joiner does not continue a segment. -/
theorem isSegmentPart_of_isJoiner {c : Char} (h : isJoiner c = true) : isSegmentPart c = false := by
  rcases (by simpa [isJoiner] using h : c = '\\' ∨ c = '.') with rfl | rfl <;> decide

/-- **A letter or underscore starts no other token**: it is no `[`, `|`, blank or mark. -/
theorem isSegmentStart_facts {c : Char} (hc : isSegmentStart c = true) :
    c ≠ '[' ∧ c ≠ '|' ∧ isBlank c = false ∧ (c == '\\' || c == '*') = false := by
  refine ⟨?_, ?_, ?_, ?_⟩
  · rintro rfl
    exact absurd hc (by decide)
  · rintro rfl
    exact absurd hc (by decide)
  · cases hb : isBlank c
    · rfl
    · rcases isBlank_cases hb with rfl | rfl | rfl | rfl | rfl <;> exact absurd hc (by decide)
  · cases hm : (c == '\\' || c == '*')
    · rfl
    · rcases (by simpa using hm : c = '\\' ∨ c = '*') with rfl | rfl <;> exact absurd hc (by decide)

theorem Stops.blank_append {w r : List Char} (hw : Blank w) (hr : Stops r) : Stops (w ++ r) := by
  cases w with
  | nil => exact hr
  | cons c w => exact stops_cons _ (isBlank_stops (hw c (List.mem_cons_self ..)))

/-- A blank is neither `[` nor `|`, the characters that start tokens of their own. -/
theorem lex_start_cons_of_isBlank {c : Char} (h : isBlank c = true) (rest : List Char) :
    lex .start (c :: rest) = lex .start rest := by
  rw [lex.eq_4 c rest (fun _ hc _ => by subst hc; cases h) (fun hc => by subst hc; cases h),
    if_pos h]

/-- **Blanks are skipped.** -/
theorem lex_blank {w : List Char} (hw : Blank w) (r : List Char) :
    lex .start (w ++ r) = lex .start r := by
  induction w with
  | nil => rfl
  | cons c w ih =>
    rw [List.cons_append, lex_start_cons_of_isBlank (hw c (List.mem_cons_self ..)),
      ih fun d hd => hw d (List.mem_cons_of_mem _ hd)]

theorem lex_brackets (r : List Char) :
    lex .start ('[' :: ']' :: r) = (Token.brackets :: ·) <$> lex .start r := by
  rw [lex]

theorem lex_pipe (r : List Char) : lex .start ('|' :: r) = (Token.pipe :: ·) <$> lex .start r := by
  rw [lex]

/-- **The rest of a name** is read into the name until the text lets it stop. -/
theorem lex_nameTail {x : List Char} (hx : NameTail x) :
    ∀ {acc r : List Char}, Stops r →
      lex (.name acc) (x ++ r) =
        (Token.name (String.ofList (acc.reverse ++ x)) :: ·) <$> lex .start r := by
  induction hx with
  | nil =>
    intro acc r hr
    cases r with
    | nil => simp [lex.eq_9, lex.eq_1]
    | cons d r =>
      obtain ⟨hpart, hjoin⟩ := hr d r rfl
      have hj : (d == '\\' || d == '.') = false := hjoin
      rw [List.nil_append, lex.eq_10, if_neg (by simp [hpart]), if_neg (by simp [hj]),
        List.append_nil]
  | part hc _ ih =>
    intro acc r hr
    rw [List.cons_append, lex.eq_10, if_pos hc, ih hr]
    simp
  | @joined j c cs hj hc _ ih =>
    intro acc r hr
    have hj' : (j == '\\' || j == '.') = true := hj
    rw [List.cons_append, List.cons_append, lex.eq_10,
      if_neg (by simp [isSegmentPart_of_isJoiner hj]), if_pos hj', lex.eq_7, if_pos hc, ih hr]
    simp

/-- **A name is read as one token** when the text lets it stop. -/
theorem lex_name {n r : List Char} (hn : IsName n) (hr : Stops r) :
    lex .start (n ++ r) = (Token.name (String.ofList n) :: ·) <$> lex .start r := by
  obtain ⟨mark, c, tail, rfl, hmark, hc, htail⟩ := hn
  obtain ⟨h1, h2, h3, h4⟩ := isSegmentStart_facts hc
  rcases hmark with rfl | rfl | rfl
  · rw [List.nil_append, List.cons_append, lex.eq_4 c _ (fun _ h _ => h1 h) h2,
      if_neg (by simp [h3]), if_neg (by simp [h4]), if_pos hc, lex_nameTail htail hr]
    rfl
  all_goals
    rw [List.singleton_append, List.cons_append, List.cons_append,
      lex.eq_4 _ _ (fun _ h _ => by cases h) (fun h => by cases h), if_neg (by decide),
      if_pos (by decide), lex.eq_5, if_pos hc, lex_nameTail htail hr]
    rfl

/-- **The text of an alternative is read as its tokens** when the text lets its name stop. -/
theorem lex_altText {a : Alternative} {x r : List Char} (hx : AltText a x) (hr : Stops r) :
    lex .start (x ++ r) = (a.tokens ++ ·) <$> lex .start r := by
  obtain ⟨hn, w, w', hw, hw', rfl⟩ := hx
  -- behind the name come blanks and `[]`, or the rest of the text
  have hstop : Stops (w' ++ '[' :: ']' :: r) := Stops.blank_append hw' (stops_cons _ (by decide))
  obtain ⟨p, n, s⟩ := a
  cases p <;> cases s <;>
    simp only [Alternative.tokens, if_true, if_false, Bool.false_eq_true, List.append_assoc,
      List.cons_append, List.nil_append, List.append_nil] at hn ⊢
  · rw [lex_name hn hr]
    cases lex .start r <;> simp
  · rw [lex_name hn hstop, lex_blank hw', lex_brackets]
    cases lex .start r <;> simp
  · rw [lex_brackets, lex_blank hw, lex_name hn hr]
    cases lex .start r <;> simp
  · rw [lex_brackets, lex_blank hw, lex_name hn hstop, lex_blank hw', lex_brackets]
    cases lex .start r <;> simp

/-- **The text of alternatives is read as their tokens.** -/
theorem lex_spells {alts : List Alternative} {t : List Char} (h : Spells alts t) :
    lex .start t = some (render alts) := by
  induction h with
  | @one a w x w' hw hx hw' =>
    have hend : lex .start w' = some [] := by simpa [lex.eq_1] using lex_blank hw' []
    rw [List.append_assoc, lex_blank hw,
      lex_altText hx (by simpa using Stops.blank_append hw' stops_nil), hend]
    simp [render]
  | @cons a as w x w' r hw hx hw' hr ih =>
    obtain ⟨b, bs, rfl⟩ := List.exists_cons_of_ne_nil hr.ne_nil
    rw [List.append_assoc, List.append_assoc, lex_blank hw,
      lex_altText hx (Stops.blank_append hw' (stops_cons _ (by decide))), lex_blank hw', lex_pipe,
      ih, render_cons_cons]
    rfl

/-! ### What the reader reads -/

/-- **Lexemes**: the text is, token by token, blanks and the text of the token, a name token
being read from a name. -/
inductive Lexes : List Char → List Token → Prop
  | blank {w : List Char} : Blank w → Lexes w []
  | brackets {w r : List Char} {ts : List Token} : Blank w → Lexes r ts →
      Lexes (w ++ '[' :: ']' :: r) (.brackets :: ts)
  | pipe {w r : List Char} {ts : List Token} : Blank w → Lexes r ts →
      Lexes (w ++ '|' :: r) (.pipe :: ts)
  | name {w n r : List Char} {ts : List Token} : Blank w → IsName n → Lexes r ts →
      Lexes (w ++ n ++ r) (.name (String.ofList n) :: ts)

theorem Blank.cons {c : Char} (hc : isBlank c = true) {w : List Char} (hw : Blank w) :
    Blank (c :: w) := by
  intro d hd
  rcases List.mem_cons.1 hd with rfl | hd
  · exact hc
  · exact hw d hd

/-- A blank in front of lexemes is one more blank before the first token. -/
theorem Lexes.cons_blank {c : Char} (hc : isBlank c = true) {r : List Char} {ts : List Token}
    (h : Lexes r ts) : Lexes (c :: r) ts := by
  cases h with
  | blank hw => exact .blank (hw.cons hc)
  | brackets hw hr => exact .brackets (hw.cons hc) hr
  | pipe hw hr => exact .pipe (hw.cons hc) hr
  | name hw hn hr => exact .name (hw.cons hc) hn hr

/-- **What the reader reads from each state**: lexemes from between tokens; from inside a name,
the rest of the name (after a mark or a joiner, a letter first), then lexemes. -/
def LexResult : LexState → List Char → List Token → Prop
  | .start, t, ts => Lexes t ts
  | .mark acc, t, ts | .joiner acc, t, ts =>
    ∃ c x r ts', t = c :: x ++ r ∧ isSegmentStart c = true ∧ NameTail x ∧
      ts = .name (String.ofList (acc.reverse ++ c :: x)) :: ts' ∧ Lexes r ts'
  | .name acc, t, ts =>
    ∃ x r ts', t = x ++ r ∧ NameTail x ∧
      ts = .name (String.ofList (acc.reverse ++ x)) :: ts' ∧ Lexes r ts'

theorem eq_some_of_map_cons {tok : Token} {o : Option (List Token)} {ts : List Token}
    (h : (tok :: ·) <$> o = some ts) : ∃ ts', o = some ts' ∧ ts = tok :: ts' := by
  cases o with
  | none => cases h
  | some ts' =>
    cases h
    exact ⟨ts', rfl, rfl⟩

/-- **The reader is sound**, from every state, by induction along its steps. -/
theorem lex_result (st : LexState) (t : List Char) :
    ∀ {ts : List Token}, lex st t = some ts → LexResult st t ts := by
  induction st, t using lex.induct with
  | case1 =>
    intro ts h
    rw [lex.eq_1] at h
    cases h
    exact .blank nofun
  | case2 rest ih =>
    intro ts h
    obtain ⟨ts', h', rfl⟩ := eq_some_of_map_cons (lex_brackets rest ▸ h)
    exact Lexes.brackets (w := []) nofun (ih h')
  | case3 rest ih =>
    intro ts h
    obtain ⟨ts', h', rfl⟩ := eq_some_of_map_cons (lex_pipe rest ▸ h)
    exact Lexes.pipe (w := []) nofun (ih h')
  | case4 c rest h1 h2 hb ih =>
    intro ts h
    rw [lex.eq_4 c rest h1 h2, if_pos hb] at h
    exact (ih h).cons_blank hb
  | case5 c rest h1 h2 hb hm ih =>
    intro ts h
    rw [lex.eq_4 c rest h1 h2, if_neg hb, if_pos hm] at h
    obtain ⟨c', x, r, ts', rfl, hc', hx, rfl, hr⟩ := ih h
    have hmark : [c] = ['\\'] ∨ [c] = ['*'] := by
      rcases (by simpa using hm : c = '\\' ∨ c = '*') with rfl | rfl <;> simp
    exact Lexes.name (w := []) nofun ⟨[c], c', x, rfl, .inr hmark, hc', hx⟩ hr
  | case6 c rest h1 h2 hb hm hs ih =>
    intro ts h
    rw [lex.eq_4 c rest h1 h2, if_neg hb, if_neg hm, if_pos hs] at h
    obtain ⟨x, r, ts', rfl, hx, rfl, hr⟩ := ih h
    exact Lexes.name (w := []) nofun ⟨[], c, x, rfl, .inl rfl, hs, hx⟩ hr
  | case7 c rest h1 h2 hb hm hs =>
    intro ts h
    rw [lex.eq_4 c rest h1 h2, if_neg hb, if_neg hm, if_neg hs] at h
    cases h
  | case8 acc c rest hs ih =>
    intro ts h
    rw [lex.eq_5, if_pos hs] at h
    obtain ⟨x, r, ts', rfl, hx, rfl, hr⟩ := ih h
    exact ⟨c, x, r, ts', rfl, hs, hx, by simp, hr⟩
  | case9 acc c rest hs =>
    intro ts h
    rw [lex.eq_5, if_neg hs] at h
    cases h
  | case10 acc =>
    intro ts h
    rw [lex.eq_6] at h
    cases h
  | case11 acc c rest hs ih =>
    intro ts h
    rw [lex.eq_7, if_pos hs] at h
    obtain ⟨x, r, ts', rfl, hx, rfl, hr⟩ := ih h
    exact ⟨c, x, r, ts', rfl, hs, hx, by simp, hr⟩
  | case12 acc c rest hs =>
    intro ts h
    rw [lex.eq_7, if_neg hs] at h
    cases h
  | case13 acc =>
    intro ts h
    rw [lex.eq_8] at h
    cases h
  | case14 acc =>
    intro ts h
    rw [lex.eq_9] at h
    cases h
    exact ⟨[], [], [], rfl, .nil, by simp, .blank nofun⟩
  | case15 acc c rest hp ih =>
    intro ts h
    rw [lex.eq_10, if_pos hp] at h
    obtain ⟨x, r, ts', rfl, hx, rfl, hr⟩ := ih h
    exact ⟨c :: x, r, ts', rfl, .part hp hx, by simp, hr⟩
  | case16 acc c rest hp hj ih =>
    intro ts h
    rw [lex.eq_10, if_neg hp, if_pos hj] at h
    obtain ⟨c', x, r, ts', rfl, hc', hx, rfl, hr⟩ := ih h
    exact ⟨c :: c' :: x, r, ts', rfl, .joined hj hc' hx, by simp, hr⟩
  | case17 acc c rest hp hj ih =>
    intro ts h
    rw [lex.eq_10, if_neg hp, if_neg hj] at h
    obtain ⟨ts', h', rfl⟩ := eq_some_of_map_cons h
    exact ⟨[], c :: rest, ts', rfl, .nil, by simp, ih h'⟩

/-- **The reader is sound**: what it reads a text into are the lexemes of the text. -/
theorem lex_sound {t : List Char} {ts : List Token} (h : lex .start t = some ts) : Lexes t ts :=
  lex_result .start t h

theorem Lexes.nil_inv {t : List Char} (h : Lexes t []) : Blank t := by
  cases h with
  | blank hw => exact hw

theorem Lexes.brackets_inv {t : List Char} {ts : List Token} (h : Lexes t (.brackets :: ts)) :
    ∃ w r, t = w ++ '[' :: ']' :: r ∧ Blank w ∧ Lexes r ts := by
  cases h with
  | brackets hw hr => exact ⟨_, _, rfl, hw, hr⟩

theorem Lexes.pipe_inv {t : List Char} {ts : List Token} (h : Lexes t (.pipe :: ts)) :
    ∃ w r, t = w ++ '|' :: r ∧ Blank w ∧ Lexes r ts := by
  cases h with
  | pipe hw hr => exact ⟨_, _, rfl, hw, hr⟩

theorem Lexes.name_inv {t : List Char} {n : String} {ts : List Token}
    (h : Lexes t (.name n :: ts)) :
    ∃ w m r, t = w ++ m ++ r ∧ Blank w ∧ IsName m ∧ n.toList = m ∧ Lexes r ts := by
  cases h with
  | name hw hm hr => exact ⟨_, _, _, rfl, hw, hm, String.toList_ofList, hr⟩

/-- **The lexemes of an alternative's tokens** are blanks and the text of the alternative. -/
theorem Lexes.alt_inv {t : List Char} {a : Alternative} {rest : List Token}
    (h : Lexes t (a.tokens ++ rest)) :
    ∃ w x r, t = w ++ x ++ r ∧ Blank w ∧ AltText a x ∧ Lexes r rest := by
  obtain ⟨p, n, s⟩ := a
  cases p <;> cases s <;>
    simp only [Alternative.tokens, if_true, if_false, Bool.false_eq_true, List.nil_append,
      List.cons_append] at h
  · obtain ⟨w, m, r, rfl, hw, hm, hn, hr⟩ := h.name_inv
    exact ⟨w, m, r, rfl, hw, ⟨by simpa [hn] using hm, [], [], nofun, nofun, by simp [hn]⟩, hr⟩
  · obtain ⟨w, m, r, rfl, hw, hm, hn, hr⟩ := h.name_inv
    obtain ⟨w', r', rfl, hw', hr'⟩ := hr.brackets_inv
    exact ⟨w, m ++ w' ++ ['[', ']'], r', by simp, hw,
      ⟨by simpa [hn] using hm, [], w', nofun, hw', by simp [hn]⟩, hr'⟩
  · obtain ⟨w, r, rfl, hw, hr⟩ := h.brackets_inv
    obtain ⟨w', m, r', rfl, hw', hm, hn, hr'⟩ := hr.name_inv
    exact ⟨w, '[' :: ']' :: w' ++ m, r', by simp, hw,
      ⟨by simpa [hn] using hm, w', [], hw', nofun, by simp [hn]⟩, hr'⟩
  · obtain ⟨w, r, rfl, hw, hr⟩ := h.brackets_inv
    obtain ⟨w', m, r', rfl, hw', hm, hn, hr'⟩ := hr.name_inv
    obtain ⟨w'', r'', rfl, hw'', hr''⟩ := hr'.brackets_inv
    exact ⟨w, '[' :: ']' :: w' ++ m ++ w'' ++ ['[', ']'], r'', by simp, hw,
      ⟨by simpa [hn] using hm, w', w'', hw', hw'', by simp [hn]⟩, hr''⟩

/-- **The lexemes of the tokens of alternatives** spell the alternatives. -/
theorem spells_of_lexes : ∀ {alts : List Alternative} {t : List Char}, alts ≠ [] →
    Lexes t (render alts) → Spells alts t
  | [], _, h, _ => absurd rfl h
  | [a], t, _, h => by
    obtain ⟨w, x, r, rfl, hw, hx, hr⟩ :=
      Lexes.alt_inv (by simpa [render] using h : Lexes t (a.tokens ++ []))
    exact .one hw hx hr.nil_inv
  | a :: b :: bs, t, _, h => by
    rw [render_cons_cons] at h
    obtain ⟨w, x, r, rfl, hw, hx, hr⟩ := h.alt_inv
    obtain ⟨w', r', rfl, hw', hr'⟩ := hr.pipe_inv
    have hs := Spells.cons hw hx hw' (spells_of_lexes (List.cons_ne_nil b bs) hr')
    simpa [List.append_assoc] using hs

/-- **A text is read into alternatives exactly when it spells them.** -/
theorem read_eq_some_iff (t : List Char) (alts : List Alternative) :
    (lex .start t >>= alternatives) = some alts ↔ Spells alts t := by
  constructor
  · intro h
    cases hts : lex .start t with
    | none =>
      rw [hts] at h
      cases h
    | some ts =>
      rw [hts] at h
      obtain ⟨hne, rfl⟩ := render_of_alternatives h
      exact spells_of_lexes hne (lex_sound hts)
  · intro h
    rw [lex_spells h]
    exact alternatives_render h.ne_nil

/-! ### Classifying alternatives -/

/-- A bare `null`: the name `null` without an array mark. -/
def Alternative.isBareNull (a : Alternative) : Bool := a.name == nullDisplay && !a.isArray

/-- Marked as an array on both sides. -/
def Alternative.bothMarked (a : Alternative) : Bool := a.prefixMark && a.suffixMark

/-- An alternative marked on both sides is no bare `null`. -/
theorem Alternative.isBareNull_of_bothMarked {a : Alternative} (h : a.bothMarked = true) :
    a.isBareNull = false := by
  obtain ⟨p, n, s⟩ := a
  cases p <;> cases s <;> simp_all [bothMarked, isBareNull, Alternative.isArray]

/-- **One step of the pass** over an alternative not marked on both sides: a bare `null` sets
the nullable mark, any other alternative is kept. -/
theorem classify_cons_of_unmarked (raw : String) {a : Alternative} (as : List Alternative)
    (nullable : Bool) (kept : List Alternative) (ha : a.bothMarked = false) :
    classify raw (a :: as) nullable kept =
      classify raw as (nullable || a.isBareNull) (if a.isBareNull then kept else a :: kept) := by
  rw [classify.eq_2]
  by_cases hnull : a.isBareNull = true
  · rw [if_pos (show (a.name == nullDisplay && !a.isArray) = true from hnull), hnull]
    simp
  · rw [if_neg (show ¬(a.name == nullDisplay && !a.isArray) = true from hnull),
      show (a.prefixMark && a.suffixMark) = false from ha, if_neg Bool.false_ne_true]
    simp [hnull]

/-- **A pass over alternatives none of which is marked on both sides** sets the nullable mark for
each bare `null` and keeps the others, in order. -/
theorem classify_unmarked (raw : String) : ∀ {alts : List Alternative} {nullable : Bool}
    {kept : List Alternative}, (∀ a ∈ alts, a.bothMarked = false) →
    classify raw alts nullable kept =
      classify raw [] (nullable || alts.any (·.isBareNull))
        ((alts.filter (!·.isBareNull)).reverse ++ kept)
  | [], n, kept, _ => by simp
  | a :: as, n, kept, h => by
    have hrest : ∀ b ∈ as, b.bothMarked = false := fun b hb => h b (List.mem_cons_of_mem _ hb)
    rw [classify_cons_of_unmarked raw as n kept (h a List.mem_cons_self),
      classify_unmarked raw hrest]
    cases hnull : a.isBareNull <;> simp [hnull]

/-- **The pass stops at the first alternative marked on both sides**: the expression is then kept
for display, nullable when a bare `null` came before it. -/
theorem classify_marked (raw : String) : ∀ {pre : List Alternative} {a : Alternative}
    {post : List Alternative} {nullable : Bool} {kept : List Alternative},
    (∀ b ∈ pre, b.bothMarked = false) → a.bothMarked = true →
    classify raw (pre ++ a :: post) nullable kept =
      ⟨.rawExpression, nullable || pre.any (·.isBareNull), "", raw⟩
  | [], a, post, n, kept, _, ha => by
    have hnull := Alternative.isBareNull_of_bothMarked ha
    rw [List.nil_append, classify.eq_2,
      if_neg (show ¬(a.name == nullDisplay && !a.isArray) = true by simp_all [Alternative.isBareNull]),
      if_pos (show (a.prefixMark && a.suffixMark) = true from ha)]
    simp
  | b :: pre, a, post, n, kept, h, ha => by
    have hrest : ∀ c ∈ pre, c.bothMarked = false := fun c hc => h c (List.mem_cons_of_mem _ hc)
    rw [List.cons_append, classify_cons_of_unmarked raw _ n kept (h b List.mem_cons_self),
      classify_marked raw hrest ha]
    simp [Bool.or_assoc]

/-- The canonical name of a spelling is `array` exactly for the spelling `array`. -/
theorem canonicalScalar_eq_arrayDisplay_iff (n : String) :
    canonicalScalar n = arrayDisplay ↔ Text.trimPrefix n "\\" = "array" := by
  have hspell : ∀ p ∈ scalarSpellings, p.2 = arrayDisplay ↔ p.1 = "array" := by decide
  unfold canonicalScalar
  split
  · rename_i p hp
    have hk := List.find?_some hp
    simp only [beq_iff_eq] at hk
    rw [← hk]
    exact hspell p (List.mem_of_find?_eq_some hp)
  · rename_i hp
    have h := List.find?_eq_none.1 hp ("array", "array") (by decide)
    simp only [beq_iff_eq] at h
    exact ⟨fun e => absurd e (by decide), fun e => absurd e.symm h⟩

/-- One leading backslash is dropped, and only one. -/
theorem trimPrefix_backslash_eq_array (n : String) :
    Text.trimPrefix n "\\" = "array" ↔ n = "array" ∨ n = "\\array" := by
  unfold Text.trimPrefix
  split
  · rename_i rest hrest
    have hn : n.toList = '\\' :: rest := by
      cases h : n.toList with
      | nil => simp [h, Text.dropPrefix?] at hrest
      | cons c cs =>
        obtain ⟨rfl, rfl⟩ : '\\' = c ∧ cs = rest := by simpa [h, Text.dropPrefix?] using hrest
        rfl
    rw [← String.toList_inj, ← String.toList_inj, ← String.toList_inj, hn, String.toList_ofList]
    simp
  · rename_i hnone
    have hn : n ≠ "\\array" := by
      rintro rfl
      simp [Text.dropPrefix?] at hnone
    simp [hn]

/-- **The alternatives left to classify**: those that are no bare `null`, less the plain sequence
ones (`array` or `\array` without marks) when some alternative is marked as an array. -/
def remaining (alts : List Alternative) : List Alternative :=
  alts.filter fun a => !a.isBareNull &&
    (!alts.any (·.isArray) || a.isArray || !(a.name == "array" || a.name == "\\array"))

/-- Absorbing the plain sequence alternatives among those that are no bare `null` leaves the
remaining ones. -/
theorem absorbArray_filter (alts : List Alternative) :
    absorbArray (alts.filter (!·.isBareNull)) = remaining alts := by
  -- a bare `null` carries no mark, so dropping it keeps the marked alternatives
  have hany : (alts.filter (!·.isBareNull)).any (·.isArray) = alts.any (·.isArray) := by
    rw [List.any_filter]
    congr 1
    funext a
    cases h : a.isArray <;> simp [Alternative.isBareNull, h]
  unfold absorbArray remaining
  rw [hany]
  cases alts.any (·.isArray)
  · simp
  · rw [if_pos rfl, List.filter_filter]
    apply List.filter_congr
    intro a _
    have hname : (canonicalScalar a.name == arrayDisplay) =
        (a.name == "array" || a.name == "\\array") := by
      rw [Bool.eq_iff_iff]
      simpa using (canonicalScalar_eq_arrayDisplay_iff a.name).trans
        (trimPrefix_backslash_eq_array a.name)
    rw [bne, hname, Bool.not_true, Bool.false_or, Bool.and_comm]

/-- The kind one alternative gives: array kinds for a marked alternative, scalar kinds for a
scalar spelling. -/
def Alternative.kind (a : Alternative) : TypeKind :=
  if a.isArray then (if isScalarName a.name then .arrayOfScalar else .arrayOfObject)
  else if isScalarName a.name then .scalar else .object

/-- **With no alternative marked on both sides**, the type is read off the remaining
alternatives, nullable when some alternative is a bare `null`. -/
theorem classify_of_unmarked (raw : String) {alts : List Alternative}
    (h : ∀ a ∈ alts, a.bothMarked = false) :
    classify raw alts false [] =
      match remaining alts with
      | [a] => ⟨a.kind, alts.any (·.isBareNull), a.name, raw⟩
      | _ => ⟨.rawExpression, alts.any (·.isBareNull), "", raw⟩ := by
  rw [classify_unmarked raw h, classify.eq_1, List.append_nil, List.reverse_reverse,
    absorbArray_filter, Bool.false_or]
  rfl

/-- The alternatives before the first one marked on both sides. -/
theorem exists_first_bothMarked {alts : List Alternative}
    (h : ∃ b ∈ alts, b.bothMarked = true) :
    ∃ pre a post, alts = pre ++ a :: post ∧ (∀ b ∈ pre, b.bothMarked = false) ∧
      a.bothMarked = true ∧ alts.takeWhile (!·.bothMarked) = pre := by
  obtain ⟨a, ha⟩ : ∃ a, alts.find? (·.bothMarked) = some a :=
    Option.isSome_iff_exists.1 (List.find?_isSome.2 h)
  obtain ⟨hma, pre, post, rfl, hpre⟩ := List.find?_eq_some_iff_append.1 ha
  have hpre' : ∀ b ∈ pre, b.bothMarked = false := by simpa using hpre
  refine ⟨pre, a, post, rfl, hpre', hma, ?_⟩
  rw [List.takeWhile_append_of_pos hpre, List.takeWhile_cons_of_neg (by simp [hma]),
    List.append_nil]

/-- The alternatives spelling the trimmed text are classified. -/
theorem parse_of_spells {s : String} {alts : List Alternative}
    (h : Spells alts (Text.trimSpace s).toList) :
    DeclaredType.parse s = classify (Text.trimSpace s) alts false [] := by
  have hread := (read_eq_some_iff _ alts).2 h
  simp only [DeclaredType.parse, tokenize, hread]

/-- Text outside the grammar is kept for display only. -/
theorem parse_of_not_spells {s : String} (h : ¬∃ alts, Spells alts (Text.trimSpace s).toList) :
    DeclaredType.parse s = DeclaredType.rawOnly (Text.trimSpace s) := by
  dsimp only [DeclaredType.parse]
  split
  · rename_i alts halts
    exact absurd ⟨alts, (read_eq_some_iff _ _).1 halts⟩ h
  · rfl

/-- **Reading a type expression.** The trimmed text is kept; text outside the grammar gives a
raw expression that admits no null; for alternatives that spell the text, the type is nullable
when a bare `null` comes before the first alternative marked on both sides, and it has the kind
and element of the one remaining alternative when no alternative is marked on both sides and
exactly one remains; otherwise it is a raw expression with no element. -/
theorem parse_classifies (s : String) :
    (DeclaredType.parse s).raw = Text.trimSpace s ∧
    ((¬∃ alts, Spells alts (Text.trimSpace s).toList) →
      (DeclaredType.parse s).kind = .rawExpression ∧ (DeclaredType.parse s).nullable = false ∧
        (DeclaredType.parse s).element = "") ∧
    ∀ alts, Spells alts (Text.trimSpace s).toList →
      ((DeclaredType.parse s).nullable = true ↔
        ∃ a ∈ alts.takeWhile (!·.bothMarked), a.isBareNull = true) ∧
      (∀ a, (∀ b ∈ alts, b.bothMarked = false) → remaining alts = [a] →
        (DeclaredType.parse s).kind = a.kind ∧ (DeclaredType.parse s).element = a.name) ∧
      ((∃ b ∈ alts, b.bothMarked = true) ∨ (remaining alts).length ≠ 1 →
        (DeclaredType.parse s).kind = .rawExpression ∧ (DeclaredType.parse s).element = "") := by
  refine ⟨DeclaredType.parse_raw s, fun h => by simp [parse_of_not_spells h, DeclaredType.rawOnly],
    fun alts h => ?_⟩
  rw [parse_of_spells h]
  by_cases hm : ∃ b ∈ alts, b.bothMarked = true
  · -- the pass stops at the first alternative marked on both sides
    obtain ⟨pre, a, post, rfl, hpre, ha, htake⟩ := exists_first_bothMarked hm
    rw [classify_marked _ hpre ha, htake]
    refine ⟨by simp, fun b hb => absurd (hb a (by simp)) (by simp [ha]), fun _ => by simp⟩
  · have hun : ∀ b ∈ alts, b.bothMarked = false := by simpa using hm
    have htake : alts.takeWhile (!·.bothMarked) = alts :=
      calc alts.takeWhile (!·.bothMarked)
          = (alts ++ []).takeWhile (!·.bothMarked) := by rw [List.append_nil]
        _ = alts ++ [].takeWhile (!·.bothMarked) :=
          List.takeWhile_append_of_pos (by simpa using hun)
        _ = alts := by simp
    rw [classify_of_unmarked _ hun, htake]
    match hr : remaining alts with
    | [a] => simp +contextual [hun]
    | [] => simp
    | _ :: _ :: _ => simp

/-- A bare `null` after an alternative marked on both sides leaves the type not nullable. -/
theorem parse_marked_hides_null :
    Spells [⟨true, "int", true⟩, ⟨false, "null", false⟩] (Text.trimSpace "[]int[]|null").toList ∧
      (DeclaredType.parse "[]int[]|null").nullable = false := by
  have hs : Spells [⟨true, "int", true⟩, ⟨false, "null", false⟩]
      (Text.trimSpace "[]int[]|null").toList := (read_eq_some_iff _ _).1 (by decide +kernel)
  refine ⟨hs, ?_⟩
  have hnull := ((parse_classifies "[]int[]|null").2.2 _ hs).1
  cases hn : (DeclaredType.parse "[]int[]|null").nullable
  · rfl
  · simpa [Alternative.bothMarked] using hnull.1 hn

end Accessors.Declared
