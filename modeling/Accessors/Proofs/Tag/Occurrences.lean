import Mathlib.Data.List.TakeDrop
import Accessors.Tag.Doc

/-!
# Which lines of documentation are occurrences

Documentation is read as its list `L` of lines, comment markers stripped. Line `j` is a tag line
(`TagLine`) when it is `@`, a tag name `n` and a rest `r` that is empty or starts with a blank, a
tab or `(`. A tag line whose rest starts with `(` opens a field list (`OpensList`): its text goes
on over the fewest following lines that bring its closing parenthesis (`ClosesAfter`, which is
what `extendList` computes: `extendList_eq_some_iff`, `extendList_eq_none_iff`), and the lines it
takes are covered (`Covers`), whether or not the field grammar then accepts the text. A list that
never closes (`NeverCloses`) covers nothing, so reading goes on with the line after it.

The occurrences are then exactly one per tag line not covered by an earlier occurrence's list,
in document order, each the occurrence its line yields (`Yields`): the trimmed rest as value, or
the fields of the list, or the syntax error of the list, which names the tag and its line
counting from one.

The reading loop is described by one lemma per kind of line (`occurrencesFrom_skip`,
`occurrencesFrom_value`, `occurrencesFrom_fieldList`); the invariant `ReadsFrom` of the lines
from `p` on is kept by each of them, and holds of all lines by induction on the lines left.

Main statement: `parseText_occurrences`.
-/

namespace Accessors.Tag

/-! ### Tag lines -/

/-- A tag name: a character that may start one, then characters that may continue one. -/
def IsTagName (cs : List Char) : Prop :=
  ∃ c more, cs = c :: more ∧ isTagStart c = true ∧ ∀ d ∈ more, isTagPart d = true

/-- What may follow a tag name on a tag line: nothing, or a blank, a tab or `(` first. -/
def EndsName (r : List Char) : Prop :=
  ∀ c r', r = c :: r' → c = ' ' ∨ c = '\t' ∨ c = '('

/-- **A tag line**: `@`, the tag name `n`, then the rest `r` of the line. -/
def TagLine (l n : String) (r : List Char) : Prop :=
  l.toList = '@' :: (n.toList ++ r) ∧ IsTagName n.toList ∧ EndsName r

/-- What may follow a tag name continues no tag name. -/
theorem EndsName.not_isTagPart {r : List Char} (h : EndsName r) :
    ∀ c r', r = c :: r' → isTagPart c = false := by
  intro c r' hr
  rcases h c r' hr with rfl | rfl | rfl <;> decide

/-- The tag name at the front of the characters is the longest one. -/
theorem tagName_append {n r : List Char} (hn : IsTagName n)
    (hr : ∀ c r', r = c :: r' → isTagPart c = false) :
    tagName (n ++ r) = some (String.ofList n, r) := by
  obtain ⟨c, more, rfl, hc, hmore⟩ := hn
  -- the name stops where `r` starts: no character of `r`'s head continues it
  have hstop : r.takeWhile isTagPart = [] ∧ r.dropWhile isTagPart = r := by
    cases r with
    | nil => simp
    | cons d r' =>
      have hd : ¬isTagPart d = true := by simp [hr d r' rfl]
      exact ⟨List.takeWhile_cons_of_neg hd, List.dropWhile_cons_of_neg hd⟩
  simp only [tagName, List.cons_append, hc, if_true, List.span_eq_takeWhile_dropWhile,
    List.takeWhile_append_of_pos hmore, List.dropWhile_append_of_pos hmore, hstop,
    List.append_nil]

/-- What `tagName` reads is a tag name followed by the rest of the line. -/
theorem tagName_eq_some {cs : List Char} {n : String} {r : List Char}
    (h : tagName cs = some (n, r)) :
    IsTagName n.toList ∧ cs = n.toList ++ r ∧ ∀ c r', r = c :: r' → isTagPart c = false := by
  cases cs with
  | nil => simp [tagName] at h
  | cons c rest =>
    by_cases hc : isTagStart c = true
    · simp only [tagName, hc, if_true, List.span_eq_takeWhile_dropWhile, Option.some.injEq,
        Prod.mk.injEq] at h
      obtain ⟨rfl, rfl⟩ := h
      refine ⟨⟨c, rest.takeWhile isTagPart, by simp, hc,
        fun d hd => List.all_eq_true.1 List.all_takeWhile d hd⟩,
        by simp [List.takeWhile_append_dropWhile], fun d r' hr => ?_⟩
      have hhead := List.head?_dropWhile_not isTagPart rest
      rw [hr] at hhead
      exact hhead
    · simp [tagName, hc] at h

/-- A line is a tag line in one way only. -/
theorem TagLine.unique {l n n' : String} {r r' : List Char} (h : TagLine l n r)
    (h' : TagLine l n' r') : n = n' ∧ r = r' := by
  have hname := tagName_append h.2.1 h.2.2.not_isTagPart
  have hname' := tagName_append h'.2.1 h'.2.2.not_isTagPart
  have hsame : n.toList ++ r = n'.toList ++ r' := by
    have := h.1.symm.trans h'.1
    simpa using this
  rw [hsame, hname', String.ofList_toList, String.ofList_toList] at hname
  simp only [Option.some.injEq, Prod.mk.injEq] at hname
  exact ⟨hname.1.symm, hname.2.symm⟩

/-! ### One line of the reading loop -/

section Step

variable {line : String} {rest : List String} {no : Nat} {n : String} {r : List Char}

/-- A line that is no tag line yields nothing. -/
theorem occurrencesFrom_skip (h : ∀ n r, ¬TagLine line n r) :
    occurrencesFrom (line :: rest) no = occurrencesFrom rest (no + 1) := by
  rw [occurrencesFrom.eq_2]
  split
  · rename_i cs hcs
    split
    · rename_i name after hname
      obtain ⟨hn, rfl, _⟩ := tagName_eq_some hname
      split
      · exact absurd ⟨by rw [hcs], hn, by intro c r' h; cases h; simp⟩ (h name _)
      · rename_i c tail _
        split
        · rename_i hblank
          refine absurd ⟨by rw [hcs], hn, ?_⟩ (h name _)
          intro d r' e
          cases e
          simp only [Bool.or_eq_true, beq_iff_eq] at hblank
          exact hblank.elim .inl (.inr ∘ .inl)
        · rfl
      · exact absurd ⟨by rw [hcs], hn, by intro c r' h; cases h⟩ (h name _)
    · rfl
  · rfl

/-- `tagName` reads the name and rest of a tag line. -/
theorem TagLine.tagName (h : TagLine line n r) : tagName (n.toList ++ r) = some (n, r) := by
  rw [tagName_append h.2.1 h.2.2.not_isTagPart, String.ofList_toList]

/-- A tag line without a field list yields its trimmed rest as value. -/
theorem occurrencesFrom_value (h : TagLine line n r) (hr : r.head? ≠ some '(') :
    occurrencesFrom (line :: rest) no =
      ⟨n, Text.trimSpace (String.ofList r), none, none⟩ :: occurrencesFrom rest (no + 1) := by
  rw [occurrencesFrom.eq_2]
  simp only [h.1, h.tagName]
  cases r with
  | nil => rfl
  | cons c r' =>
    rcases h.2.2 c r' rfl with rfl | rfl | hc
    · rfl
    · rfl
    · simp [hc] at hr

/-- A tag line with a field list yields the occurrence of the list, and reading goes on after
the lines the list took. -/
theorem occurrencesFrom_fieldList (h : TagLine line n r) (hr : r.head? = some '(') :
    occurrencesFrom (line :: rest) no =
      (fieldListOccurrence n no (String.ofList r) rest).1 ::
        occurrencesFrom (rest.drop (fieldListOccurrence n no (String.ofList r) rest).2)
          (no + 1 + (fieldListOccurrence n no (String.ofList r) rest).2) := by
  obtain ⟨r', rfl⟩ : ∃ r', r = '(' :: r' := by
    cases r with
    | nil => simp at hr
    | cons c r' => simp only [List.head?_cons, Option.some.injEq] at hr; exact ⟨r', by rw [hr]⟩
  rw [occurrencesFrom.eq_2]
  simp only [h.1, h.tagName]

end Step

/-! ### The extent of a field list -/

/-- The text of a field list begun with `text`, with the first `k` of the following lines joined
to it, each after a blank. -/
def joinLines (text : String) (following : List String) (k : Nat) : String :=
  (following.take k).foldl (fun acc l => acc ++ " " ++ l) text

/-- **The closed text of a field list**: joined with the fewest following lines, `k` of them,
that bring its closing parenthesis, and cut after that parenthesis. -/
def ClosesAfter (text : String) (following : List String) (k : Nat) (closed : String) : Prop :=
  k ≤ following.length ∧ (∀ k' < k, closingParen (joinLines text following k').toList = none) ∧
    ∃ e, closingParen (joinLines text following k).toList = some e ∧
      closed = String.ofList ((joinLines text following k).toList.take (e + 1))

/-- A field list that never closes: no number of following lines brings its closing
parenthesis. -/
def NeverCloses (text : String) (following : List String) : Prop :=
  ∀ k ≤ following.length, closingParen (joinLines text following k).toList = none

@[simp] theorem joinLines_zero (text : String) (following : List String) :
    joinLines text following 0 = text := by
  simp [joinLines]

@[simp] theorem joinLines_succ (text l : String) (ls : List String) (k : Nat) :
    joinLines text (l :: ls) (k + 1) = joinLines (text ++ " " ++ l) ls k := by
  simp [joinLines]

/-- Counting the lines taken from `t` on only adds `t`. -/
theorem extendList_taken (text : String) (following : List String) (t : Nat) :
    extendList text following t = (extendList text following 0).map fun q => (q.1, q.2 + t) := by
  induction following generalizing text t with
  | nil =>
    unfold extendList
    split <;> simp
  | cons l ls ih =>
    unfold extendList
    split
    · simp
    · dsimp only
      rw [ih _ (t + 1), ih _ (0 + 1), Option.map_map]
      congr
      funext q
      simp only [Function.comp_apply, Prod.mk.injEq, true_and]
      omega

/-- A text closed already takes no following line. -/
theorem extendList_of_closed {text : String} {e : Nat} (hc : closingParen text.toList = some e)
    (following : List String) (t : Nat) :
    extendList text following t = some (String.ofList (text.toList.take (e + 1)), t) := by
  unfold extendList
  rw [hc]

/-- A text not closed with no line left never closes. -/
theorem extendList_nil_of_open {text : String} (hc : closingParen text.toList = none) :
    extendList text [] 0 = none := by
  unfold extendList
  rw [hc]

/-- A text not closed takes the next line and one more than the text with that line joined. -/
theorem extendList_cons_of_open {text l : String} {ls : List String}
    (hc : closingParen text.toList = none) :
    extendList text (l :: ls) 0 =
      (extendList (text ++ " " ++ l) ls 0).map fun q => (q.1, q.2 + 1) := by
  rw [extendList.eq_def, hc]
  exact extendList_taken _ _ 1

/-- A text closed already closes after no following line. -/
theorem closesAfter_of_closed {text : String} {following : List String} {e : Nat}
    (hc : closingParen text.toList = some e) (k : Nat) (closed : String) :
    ClosesAfter text following k closed ↔
      (String.ofList (text.toList.take (e + 1)), 0) = (closed, k) := by
  constructor
  · rintro ⟨-, hfirst, e', he', rfl⟩
    cases k with
    | zero =>
      rw [joinLines_zero, hc] at he'
      cases he'
      simp
    | succ k =>
      have hnone := hfirst 0 (Nat.succ_pos k)
      rw [joinLines_zero, hc] at hnone
      cases hnone
  · rintro ⟨⟩
    exact ⟨Nat.zero_le _, fun k' hk' => absurd hk' (Nat.not_lt_zero k'), e,
      by rw [joinLines_zero, hc], by rw [joinLines_zero]⟩

/-- A text not closed yet closes after one more line than the text with the next line joined. -/
theorem closesAfter_succ {text l : String} {ls : List String}
    (hc : closingParen text.toList = none) (k : Nat) (closed : String) :
    ClosesAfter text (l :: ls) (k + 1) closed ↔ ClosesAfter (text ++ " " ++ l) ls k closed := by
  unfold ClosesAfter
  rw [Nat.forall_lt_succ_left]
  simp only [joinLines_zero, joinLines_succ, hc, List.length_cons, Nat.add_le_add_iff_right,
    true_and]

/-- A text not closed yet never closes exactly when it never does with the next line joined. -/
theorem neverCloses_cons {text l : String} {ls : List String}
    (hc : closingParen text.toList = none) :
    NeverCloses text (l :: ls) ↔ NeverCloses (text ++ " " ++ l) ls := by
  constructor
  · intro h k hk
    simpa using h (k + 1) (by simp [hk])
  · intro h k hk
    cases k with
    | zero => simpa using hc
    | succ k => simpa using h k (by simpa using hk)

/-- A text closed already does close. -/
theorem not_neverCloses_of_closed {text : String} {following : List String} {e : Nat}
    (hc : closingParen text.toList = some e) : ¬NeverCloses text following := by
  intro h
  have hnone := h 0 (Nat.zero_le _)
  rw [joinLines_zero, hc] at hnone
  cases hnone

/-- **A field list closes** after exactly the lines `extendList` takes. -/
theorem extendList_eq_some_iff (text : String) (following : List String) (closed : String)
    (k : Nat) : extendList text following 0 = some (closed, k) ↔
      ClosesAfter text following k closed := by
  -- induction on the following lines; a text already closed ends it at once
  induction following generalizing text k with
  | nil =>
    cases hc : closingParen text.toList with
    | some e => rw [extendList_of_closed hc, closesAfter_of_closed hc, Option.some.injEq]
    | none =>
      rw [extendList_nil_of_open hc]
      refine iff_of_false (by simp) ?_
      rintro ⟨hk, -, e, he, -⟩
      obtain rfl : k = 0 := by simpa using hk
      rw [joinLines_zero, hc] at he
      cases he
  | cons l ls ih =>
    cases hc : closingParen text.toList with
    | some e => rw [extendList_of_closed hc, closesAfter_of_closed hc, Option.some.injEq]
    | none =>
      rw [extendList_cons_of_open hc, Option.map_eq_some_iff]
      cases k with
      | zero =>
        refine iff_of_false ?_ ?_
        · rintro ⟨q, -, hq⟩
          simp at hq
        · rintro ⟨-, -, e, he, -⟩
          rw [joinLines_zero, hc] at he
          cases he
      | succ k =>
        rw [closesAfter_succ hc, ← ih]
        constructor
        · rintro ⟨⟨c, k'⟩, h, hq⟩
          simp only [Prod.mk.injEq, Nat.add_right_cancel_iff] at hq
          obtain ⟨rfl, rfl⟩ := hq
          exact h
        · intro h
          exact ⟨(closed, k), h, rfl⟩

/-- **A field list never closes** exactly when `extendList` finds no end. -/
theorem extendList_eq_none_iff (text : String) (following : List String) :
    extendList text following 0 = none ↔ NeverCloses text following := by
  induction following generalizing text with
  | nil =>
    cases hc : closingParen text.toList with
    | some e =>
      rw [extendList_of_closed hc]
      exact iff_of_false (by simp) (not_neverCloses_of_closed hc)
    | none =>
      rw [extendList_nil_of_open hc]
      refine iff_of_true rfl fun k hk => ?_
      obtain rfl : k = 0 := by simpa using hk
      rw [joinLines_zero, hc]
  | cons l ls ih =>
    cases hc : closingParen text.toList with
    | some e =>
      rw [extendList_of_closed hc]
      exact iff_of_false (by simp) (not_neverCloses_of_closed hc)
    | none =>
      rw [extendList_cons_of_open hc, Option.map_eq_none_iff, ih, neverCloses_cons hc]

/-! ### What the lines yield -/

section Spec

variable (L : List String)

/-- Line `j` of `L` is a tag line. -/
def IsTagLineAt (j : Nat) : Prop := ∃ l n r, L[j]? = some l ∧ TagLine l n r

/-- Line `i` of `L` opens a field list whose text, once closed, takes the `k` lines after it. -/
def OpensList (i k : Nat) : Prop :=
  ∃ l n r text, L[i]? = some l ∧ TagLine l n r ∧ r.head? = some '(' ∧
    ClosesAfter (String.ofList r) (L.drop (i + 1)) k text

/-- Line `j` lies in the text of a field list opened on line `i`. -/
def Covers (i j : Nat) : Prop := ∃ k, OpensList L i k ∧ i < j ∧ j ≤ i + k

end Spec

/-- **The occurrence line `j` of `L` yields**; lines count from zero here and from one in
syntax errors. -/
inductive Yields (L : List String) (j : Nat) : Occurrence → Prop
  /-- The end of the line, a blank or a tab after the name: the trimmed rest is the value. -/
  | value {l n r} : L[j]? = some l → TagLine l n r → r.head? ≠ some '(' →
      Yields L j ⟨n, Text.trimSpace (String.ofList r), none, none⟩
  /-- A closed field list that the field grammar reads. -/
  | fields {l n r text k fields} : L[j]? = some l → TagLine l n r → r.head? = some '(' →
      ClosesAfter (String.ofList r) (L.drop (j + 1)) k text →
      FieldList.parse text = .ok fields → Yields L j ⟨n, "", some fields, none⟩
  /-- A closed field list that the field grammar rejects. -/
  | rejected {l n r text k msg} : L[j]? = some l → TagLine l n r → r.head? = some '(' →
      ClosesAfter (String.ofList r) (L.drop (j + 1)) k text →
      FieldList.parse text = .error msg → Yields L j ⟨n, "", none, some ⟨n, j + 1, msg⟩⟩
  /-- A field list that is never closed. -/
  | unterminated {l n r} : L[j]? = some l → TagLine l n r → r.head? = some '(' →
      NeverCloses (String.ofList r) (L.drop (j + 1)) →
      Yields L j ⟨n, "", none, some ⟨n, j + 1, "unterminated field list"⟩⟩

section Lists

variable {L : List String} {p : Nat} {l n : String} {r : List Char}

/-- A list covers only lines after the one that opens it. -/
theorem Covers.lt {i j : Nat} (h : Covers L i j) : i < j := by
  obtain ⟨_, _, hij, _⟩ := h
  exact hij

/-- The list a line opens is the list of its own rest. -/
theorem OpensList.of_tagLine {k : Nat} (ho : OpensList L p k) (hl : L[p]? = some l)
    (h : TagLine l n r) :
    r.head? = some '(' ∧ ∃ text, ClosesAfter (String.ofList r) (L.drop (p + 1)) k text := by
  obtain ⟨l', n', r', text, hl', h', hr', hcloses⟩ := ho
  rw [hl] at hl'
  cases hl'
  obtain ⟨-, rfl⟩ := h.unique h'
  exact ⟨hr', text, hcloses⟩

/-- A line without a field list opens none. -/
theorem not_opensList_of_value (hl : L[p]? = some l) (h : TagLine l n r)
    (hr : r.head? ≠ some '(') (k : Nat) : ¬OpensList L p k :=
  fun ho => hr (ho.of_tagLine hl h).1

/-- The occurrence of a field list is the one its line yields. -/
theorem yields_fieldListOccurrence (hl : L[p]? = some l) (h : TagLine l n r)
    (hr : r.head? = some '(') :
    Yields L p (fieldListOccurrence n (p + 1) (String.ofList r) (L.drop (p + 1))).1 := by
  unfold fieldListOccurrence
  split
  · rename_i hnone
    exact .unterminated hl h hr ((extendList_eq_none_iff _ _).1 hnone)
  · rename_i text k hsome
    have hcloses := (extendList_eq_some_iff _ _ _ _).1 hsome
    split
    · rename_i fields hok
      exact .fields hl h hr hcloses hok
    · rename_i msg herr
      exact .rejected hl h hr hcloses herr

/-- The lines a field list takes are the ones it covers. -/
theorem covers_iff_fieldListOccurrence (hl : L[p]? = some l) (h : TagLine l n r)
    (hr : r.head? = some '(') (j : Nat) :
    Covers L p j ↔
      p < j ∧ j ≤ p + (fieldListOccurrence n (p + 1) (String.ofList r) (L.drop (p + 1))).2 := by
  -- the list is the one of this line: a line opens a list in one way only
  have hopens : ∀ k, OpensList L p k ↔
      ∃ text, extendList (String.ofList r) (L.drop (p + 1)) 0 = some (text, k) := by
    intro k
    constructor
    · intro ho
      obtain ⟨text, hcloses⟩ := (ho.of_tagLine hl h).2
      exact ⟨text, (extendList_eq_some_iff _ _ _ _).2 hcloses⟩
    · rintro ⟨text, hext⟩
      exact ⟨l, n, r, text, hl, h, hr, (extendList_eq_some_iff _ _ _ _).1 hext⟩
  unfold Covers fieldListOccurrence
  simp only [hopens]
  split
  · rename_i hnone
    simp [hnone]
  · rename_i text k hsome
    split <;> simp [hsome]

end Lists

/-! ### The reading loop -/

/-- **What reading the lines from `p` on gives**: the lines `idx`, from `p` on and in order, are
exactly the tag lines not covered by a list opened on one of them, and they yield `occs`. -/
structure ReadsFrom (L : List String) (p : Nat) (idx : List Nat) (occs : List Occurrence) :
    Prop where
  sorted : idx.Pairwise (· < ·)
  from_p : ∀ j ∈ idx, p ≤ j
  exact : ∀ j, p ≤ j → (j ∈ idx ↔ IsTagLineAt L j ∧ ¬∃ i ∈ idx, Covers L i j)
  yields : List.Forall₂ (Yields L) idx occs

namespace ReadsFrom

variable {L : List String} {p : Nat} {idx : List Nat} {occs : List Occurrence}

/-- Past the last line nothing is read. -/
theorem stop (h : L.length ≤ p) : ReadsFrom L p [] [] where
  sorted := List.Pairwise.nil
  from_p := by simp
  exact j hj := by
    simp only [List.not_mem_nil, false_iff, not_and]
    rintro ⟨l, n, r, hl, -⟩
    rw [List.getElem?_eq_none (by omega)] at hl
    cases hl
  yields := List.Forall₂.nil

/-- A line that is no tag line yields nothing. -/
theorem skip (hp : ¬IsTagLineAt L p) (h : ReadsFrom L (p + 1) idx occs) :
    ReadsFrom L p idx occs where
  sorted := h.sorted
  from_p j hj := Nat.le_of_succ_le (h.from_p j hj)
  exact j hj := by
    rcases Nat.eq_or_lt_of_le hj with rfl | hlt
    · exact iff_of_false (fun hmem => by have := h.from_p _ hmem; omega) fun hr => hp hr.1
    · exact h.exact j hlt
  yields := h.yields

/-- A tag line whose list covers the `t` lines after it yields one occurrence, and reading goes
on after them. -/
theorem cons {o : Occurrence} {t : Nat} (hp : IsTagLineAt L p) (ho : Yields L p o)
    (hcov : ∀ j, Covers L p j ↔ p < j ∧ j ≤ p + t) (h : ReadsFrom L (p + 1 + t) idx occs) :
    ReadsFrom L p (p :: idx) (o :: occs) where
  sorted := List.pairwise_cons.2 ⟨fun j hj => by have := h.from_p j hj; omega, h.sorted⟩
  from_p j hj := by
    rcases List.mem_cons.1 hj with rfl | hj
    · exact Nat.le_refl _
    · have := h.from_p j hj; omega
  exact j hj := by
    -- a line is read, covered by this list, or left to the lines after the list
    by_cases hjp : j = p
    · subst hjp
      refine iff_of_true List.mem_cons_self ⟨hp, ?_⟩
      rintro ⟨i, hi, hcovi⟩
      have := hcovi.lt
      rcases List.mem_cons.1 hi with rfl | hi
      · omega
      · have := h.from_p i hi; omega
    · by_cases hjt : j ≤ p + t
      · refine iff_of_false ?_ fun hr => hr.2 ⟨p, List.mem_cons_self, (hcov j).2 ⟨by omega, hjt⟩⟩
        intro hmem
        rcases List.mem_cons.1 hmem with rfl | hmem
        · exact hjp rfl
        · have := h.from_p j hmem; omega
      · have hnot : ¬Covers L p j := fun hc => hjt ((hcov j).1 hc).2
        simp only [List.mem_cons, hjp, false_or, h.exact j (by omega), exists_eq_or_imp, hnot]
  yields := List.Forall₂.cons ho h.yields

end ReadsFrom

/-- **The reading loop from line `p` on** reads what `ReadsFrom` says. -/
theorem readsFrom_occurrencesFrom (L : List String) (p : Nat) :
    ∃ idx, ReadsFrom L p idx (occurrencesFrom (L.drop p) (p + 1)) := by
  -- induction on the number of lines left
  induction hm : L.length - p using Nat.strongRecOn generalizing p with
  | ind m ih =>
  cases hlp : L[p]? with
  | none =>
    have hend : L.length ≤ p := by simpa using hlp
    rw [List.drop_eq_nil_iff.2 hend, occurrencesFrom.eq_1]
    exact ⟨[], .stop hend⟩
  | some line =>
    have hlt : p < L.length := by
      by_contra hge
      rw [List.getElem?_eq_none (by omega)] at hlp
      cases hlp
    have hline : L[p] = line := by simpa [List.getElem?_eq_getElem hlt] using hlp
    rw [List.drop_eq_getElem_cons hlt, hline]
    by_cases htag : ∃ n r, TagLine line n r
    · obtain ⟨n, r, h⟩ := htag
      have hp : IsTagLineAt L p := ⟨line, n, r, hlp, h⟩
      by_cases hr : r.head? = some '('
      · -- a field list: reading goes on after the lines it takes
        rw [occurrencesFrom_fieldList h hr]
        obtain ⟨idx, hidx⟩ := ih (L.length - (p + 1 +
          (fieldListOccurrence n (p + 1) (String.ofList r) (L.drop (p + 1))).2)) (by omega)
          (p + 1 + (fieldListOccurrence n (p + 1) (String.ofList r) (L.drop (p + 1))).2) rfl
        rw [List.drop_drop, Nat.add_right_comm (p + 1) 1]
        exact ⟨p :: idx, hidx.cons hp (yields_fieldListOccurrence hlp h hr)
          (covers_iff_fieldListOccurrence hlp h hr)⟩
      · rw [occurrencesFrom_value h hr]
        -- a line without a field list covers nothing
        have hcov : ∀ j, Covers L p j ↔ p < j ∧ j ≤ p + 0 := by
          intro j
          refine iff_of_false ?_ (by omega)
          rintro ⟨k, hk, -⟩
          exact not_opensList_of_value hlp h hr k hk
        obtain ⟨idx, hidx⟩ := ih (L.length - (p + 1)) (by omega) (p + 1) rfl
        exact ⟨p :: idx, hidx.cons hp (.value hlp h hr) hcov⟩
    · have hp : ¬IsTagLineAt L p := by
        rintro ⟨l, n, r, hl, h⟩
        rw [hlp] at hl
        cases hl
        exact htag ⟨n, r, h⟩
      rw [occurrencesFrom_skip fun n r h => htag ⟨n, r, h⟩]
      obtain ⟨idx, hidx⟩ := ih (L.length - (p + 1)) (by omega) (p + 1) rfl
      exact ⟨idx, hidx.skip hp⟩

/-- **The occurrences of a documentation text.** With `L` its lines, comment markers stripped,
the occurrences are, in document order, one for each tag line of `L` that no field list opened on
an earlier occurrence's line covers, each the occurrence its line yields. -/
theorem parseText_occurrences (doc : String) :
    ∃ idx : List Nat, idx.Pairwise (· < ·) ∧
      (∀ j, j ∈ idx ↔ IsTagLineAt (normalizeLines doc) j ∧
        ¬∃ i ∈ idx, Covers (normalizeLines doc) i j) ∧
      List.Forall₂ (Yields (normalizeLines doc)) idx (parseText doc).1 := by
  obtain ⟨idx, h⟩ := readsFrom_occurrencesFrom (normalizeLines doc) 0
  exact ⟨idx, h.sorted, fun j => h.exact j (Nat.zero_le j), h.yields⟩

/-- A line in the text of a closed field list is skipped even when the field grammar rejects the
list: the second line, `@Set`, is a tag line, yet only `@Get` is an occurrence. -/
theorem parseText_skips_rejected_list :
    IsTagLineAt (normalizeLines "@Get(name=\n@Set\n)") 1 ∧
      (parseText "@Get(name=\n@Set\n)").1 =
        [⟨"Get", "", none, some ⟨"Get", 1, "1:8: lexer: invalid input text \"@Set )\""⟩⟩] := by
  refine ⟨⟨"@Set", "Set", [], by decide +kernel, ?_⟩, by decide +kernel⟩
  refine ⟨by decide, ⟨'S', ['e', 't'], by decide, by decide, fun d hd => ?_⟩, by simp [EndsName]⟩
  simp only [List.mem_cons, List.not_mem_nil, or_false] at hd
  rcases hd with rfl | rfl <;> rfl

end Accessors.Tag
