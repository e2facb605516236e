import Accessors.Disk
import Mathlib.Data.List.TakeWhile

/-!
# Paths by their names

A path is read through the names between its slashes. Splitting on a slash is the library's
split of the characters (`Text.splitOn_slash`), so names joined with slashes split back into the
names when none holds a slash, and a slash between two texts separates their pieces.

Cleaning a path without `..` joins the names it keeps (`cleanPath_of_elements`). So a path
through plain names, below the root of the file system (`absOf`) or relative (`relOf`), is
already clean, and a plain name joined to it goes at its end (`joinPath_absOf`). Every path
cleaned from one that starts with a slash is such an absolute path (`cleanPath_eq_absOf`).

In a tree whose working directory is an absolute path through plain names, the key of an
absolute path is the rest of its names when it lies below the working directory, and the path
itself otherwise (`key_absOf`). A relative path through plain names is its own key
(`key_relOf`). A key with one more name lies in the directory of the shorter one, under that
name, and its ancestors are the shorter one's and that key (`isWithin_relOf_append`,
`dirName_relOf_append`, `baseName_relOf_append`, `ancestors_relOf_append`).
-/

namespace Accessors.Text

/-! ### Splitting on a slash -/

/-- Splitting on one character scans as the library's split does, after the pieces already
split and with the current piece kept reversed. -/
theorem splitChars_single (c : Char) (h : [c] ≠ []) :
    ∀ (cs cur : List Char) (acc : List (List Char)),
      splitChars [c] h cs cur acc = acc.reverse ++ List.splitOnPPrepend (· == c) cs cur
  | [], cur, acc => by
    rw [splitChars, List.splitOnPPrepend_nil]
    simp
  | x :: cs, cur, acc => by
    rw [splitChars]
    split
    · rename_i rest hp
      by_cases hx : x = c
      · subst hx
        have hrest : rest = cs := by simpa [dropPrefix?] using hp.symm
        subst hrest
        dsimp only
        rw [splitChars_single x h rest [] (cur.reverse :: acc),
          List.splitOnPPrepend_cons_pos (by simp), List.splitOnP_eq_splitOnPPrepend]
        simp
      · simp [dropPrefix?, Ne.symm hx] at hp
    · rename_i hp
      have hx : (x == c) = false := by
        cases hxc : x == c
        · rfl
        · simp only [beq_iff_eq] at hxc
          subst hxc
          simp [dropPrefix?] at hp
      rw [splitChars_single c h cs (x :: cur) acc, List.splitOnPPrepend_cons_neg (p := (· == c)) hx]
termination_by cs => cs.length

/-- **Splitting on a slash** is the library's split of the characters. -/
theorem splitOn_slash (s : String) :
    splitOn s "/" = (s.toList.splitOn '/').map String.ofList := by
  unfold splitOn
  rw [dif_neg (by decide)]
  -- the separator is the slash whatever proof of its non-emptiness is used
  have key : ∀ (sep : List Char) (h : sep ≠ []), sep = ['/'] →
      splitChars sep h s.toList [] [] = s.toList.splitOn '/' := by
    rintro sep h rfl
    rw [splitChars_single, List.splitOn_eq_splitOnP, List.splitOnP_eq_splitOnPPrepend]
    rfl
  rw [key "/".toList _ rfl]

/-- The pieces of a split hold nothing the split is made on. -/
theorem not_mem_of_mem_splitOnPPrepend {α : Type} (p : α → Bool) :
    ∀ (l acc : List α), (∀ a ∈ acc, p a = false) →
      ∀ x ∈ List.splitOnPPrepend p l acc, ∀ a ∈ x, p a = false
  | [], acc, hacc, x, hx => by
    rw [List.splitOnPPrepend_nil, List.mem_singleton] at hx
    subst hx
    simpa using hacc
  | b :: l, acc, hacc, x, hx => by
    cases hb : p b with
    | true =>
      rw [List.splitOnPPrepend_cons_pos hb, List.splitOnP_eq_splitOnPPrepend, List.mem_cons] at hx
      rcases hx with rfl | hx
      · simpa using hacc
      · exact not_mem_of_mem_splitOnPPrepend p l [] (by simp) x hx
    | false =>
      rw [List.splitOnPPrepend_cons_neg hb] at hx
      refine not_mem_of_mem_splitOnPPrepend p l (b :: acc) ?_ x hx
      intro a ha
      rcases List.mem_cons.1 ha with rfl | ha
      · exact hb
      · exact hacc a ha

/-- The pieces of a text split on slashes hold no slash. -/
theorem slash_not_mem_of_mem_splitOn {s x : String} (hx : x ∈ splitOn s "/") :
    '/' ∉ x.toList := by
  rw [splitOn_slash, List.mem_map] at hx
  obtain ⟨l, hl, rfl⟩ := hx
  rw [List.splitOn_eq_splitOnP, List.splitOnP_eq_splitOnPPrepend] at hl
  intro hmem
  have := not_mem_of_mem_splitOnPPrepend _ _ [] (by simp) l hl '/' (by simpa using hmem)
  simp at this

/-- Names joined with slashes split back into the names, when none holds a slash. -/
theorem splitOn_slash_intercalate {ps : List String} (hne : ps ≠ [])
    (h : ∀ p ∈ ps, '/' ∉ p.toList) : splitOn ("/".intercalate ps) "/" = ps := by
  rw [splitOn_slash, String.toList_intercalate, show "/".toList = ['/'] from rfl,
    List.splitOn_intercalate '/' (by simpa using h) (by simpa using hne)]
  simp

/-- A slash between two texts separates their pieces. -/
theorem splitOn_slash_append (a b : String) :
    splitOn (a ++ "/" ++ b) "/" = splitOn a "/" ++ splitOn b "/" := by
  rw [splitOn_slash, splitOn_slash, splitOn_slash, String.toList_append, String.toList_append,
    show "/".toList = ['/'] from rfl, List.append_assoc, List.singleton_append,
    List.splitOn_append_cons_self, List.map_append]

theorem splitOn_slash_empty : splitOn "" "/" = [""] := by
  rw [splitOn_slash]
  rfl

end Accessors.Text

namespace Accessors.Disk

/-- The names of a path that cleaning keeps: neither empty nor `.`. -/
def elements (p : String) : List String := (Text.splitOn p "/").filter fun x => x != "" && x != "."

/-- A plain name: one element of a path, not empty, `.` or `..`, and without a slash. -/
def Plain (n : String) : Prop := n ≠ "" ∧ n ≠ "." ∧ n ≠ ".." ∧ '/' ∉ n.toList

instance (n : String) : Decidable (Plain n) := inferInstanceAs (Decidable (_ ∧ _ ∧ _ ∧ _))

/-- The absolute path below the root of the file system through a list of names. -/
def absOf (ps : List String) : String := "/" ++ "/".intercalate ps

/-- The relative path through a list of names; `.` for none. -/
def relOf (ts : List String) : String := if ts = [] then "." else "/".intercalate ts

section Names

variable {n : String} {ps rs ts : List String}

theorem Plain.kept (hn : Plain n) : (n != "" && n != ".") = true := by
  simp [hn.1, hn.2.1]

theorem Plain.nonempty (hn : Plain n) : n.toList ≠ [] := fun h =>
  hn.1 (String.toList_inj.mp (by simpa using h))

/-- Names joined with slashes are empty only when there is none. -/
theorem intercalate_eq_empty {qs : List String} (h : ∀ q ∈ qs, q ≠ "") :
    "/".intercalate qs = "" ↔ qs = [] := by
  cases qs with
  | nil => simp
  | cons q rest =>
    simp only [reduceCtorEq, iff_false]
    intro he
    cases rest with
    | nil => exact h q List.mem_cons_self (by simpa using he)
    | cons r rest =>
      -- the slash between the first two names is left
      have := congrArg String.length he
      simp [String.intercalate_cons_cons, String.length_append] at this

/-- Two nonempty lists of names joined with slashes, one after the other. -/
theorem intercalate_append (hrs : rs ≠ []) (hts : ts ≠ []) :
    "/".intercalate (rs ++ ts) = "/".intercalate rs ++ "/" ++ "/".intercalate ts := by
  induction rs with
  | nil => exact absurd rfl hrs
  | cons r rs ih =>
    cases rs with
    | nil =>
      obtain ⟨t, ts, rfl⟩ := List.exists_cons_of_ne_nil hts
      simp [String.intercalate_cons_cons]
    | cons r' rs =>
      rw [List.cons_append, List.cons_append, String.intercalate_cons_cons, ← List.cons_append,
        ih (by simp), String.intercalate_cons_cons]
      simp [String.append_assoc]

/-! ### The names a path keeps -/

theorem elements_append (a b : String) : elements (a ++ "/" ++ b) = elements a ++ elements b := by
  simp only [elements, Text.splitOn_slash_append, List.filter_append]

theorem elements_empty : elements "" = [] := by
  simp [elements, Text.splitOn_slash_empty]

theorem elements_dot : elements "." = [] := by
  rw [elements, Text.splitOn_slash]
  rfl

theorem elements_intercalate (hps : ∀ p ∈ ps, Plain p) : elements ("/".intercalate ps) = ps := by
  cases ps with
  | nil => simp [elements_empty]
  | cons p ps =>
    rw [elements, Text.splitOn_slash_intercalate (by simp) (fun q hq => (hps q hq).2.2.2),
      List.filter_eq_self]
    exact fun q hq => (hps q hq).kept

theorem elements_absOf (hps : ∀ p ∈ ps, Plain p) : elements (absOf ps) = ps := by
  rw [absOf, show "/" ++ "/".intercalate ps = "" ++ "/" ++ "/".intercalate ps by simp,
    elements_append, elements_empty, elements_intercalate hps, List.nil_append]

theorem elements_relOf (hts : ∀ t ∈ ts, Plain t) : elements (relOf ts) = ts := by
  unfold relOf
  split
  · rename_i h
    rw [h]
    exact elements_dot
  · exact elements_intercalate hts

theorem elements_of_plain (hn : Plain n) : elements n = [n] := by
  simpa using @elements_intercalate [n] (by simpa using hn)

/-! ### Cleaning -/

/-- Cleaning pushes every name on the stack when none is `..`. -/
theorem foldl_push (f : List String → String → List String)
    (hf : ∀ st x, x ≠ ".." → f st x = x :: st) :
    ∀ (xs st : List String), (∀ x ∈ xs, x ≠ "..") → xs.foldl f st = xs.reverse ++ st
  | [], st, _ => rfl
  | x :: xs, st, h => by
    rw [List.foldl_cons, hf st x (h x List.mem_cons_self),
      foldl_push f hf xs (x :: st) (fun y hy => h y (List.mem_cons_of_mem _ hy))]
    simp

/-- **Cleaning a path without `..`** joins the names it keeps, below the root when the path
starts with a slash. -/
theorem cleanPath_of_elements (p : String) (h : ∀ x ∈ elements p, x ≠ "..") :
    cleanPath p = if p.startsWith "/" then absOf (elements p) else relOf (elements p) := by
  unfold cleanPath
  dsimp only
  rw [show (Text.splitOn p "/").filter (fun x => x != "" && x != ".") = elements p from rfl,
    foldl_push _ (fun st x hx => by simp [hx]) _ [] h]
  simp only [List.append_nil, List.reverse_reverse]
  have hne : ∀ q ∈ elements p, q ≠ "" := by
    intro q hq
    simp only [elements, List.mem_filter, Bool.and_eq_true, bne_iff_ne] at hq
    exact hq.2.1
  split
  · rfl
  · rw [relOf]
    by_cases he : elements p = []
    · simp [he]
    · have hb : ("/".intercalate (elements p)).isEmpty = false := by
        rw [Bool.eq_false_iff, ne_eq, String.isEmpty_iff, intercalate_eq_empty hne]
        exact he
      simp [he, hb]

theorem absOf_startsWith (ps : List String) : (absOf ps).startsWith "/" = true := by
  rw [String.startsWith_string_iff, absOf, String.toList_append]
  exact List.prefix_append _ _

theorem cleanPath_absOf (hps : ∀ p ∈ ps, Plain p) : cleanPath (absOf ps) = absOf ps := by
  rw [cleanPath_of_elements _ (by rw [elements_absOf hps]; exact fun x hx => (hps x hx).2.2.1),
    if_pos (absOf_startsWith ps), elements_absOf hps]

/-- **A plain name joined to an absolute path** goes at its end. -/
theorem joinPath_absOf (hps : ∀ p ∈ ps, Plain p) (hn : Plain n) :
    joinPath [absOf ps, n] = absOf (ps ++ [n]) := by
  have hsplit : ∀ x ∈ ps ++ [n], Plain x := by
    intro x hx
    rcases List.mem_append.1 hx with hx | hx
    · exact hps x hx
    · rw [List.mem_singleton.1 hx]
      exact hn
  have hne : absOf ps ≠ "" := fun h => by simpa [h] using absOf_startsWith ps
  have hfilter : [absOf ps, n].filter (· != "") = [absOf ps, n] := by simp [hne, hn.1]
  have hstart : (absOf ps ++ "/" ++ n).startsWith "/" = true := by
    rw [String.startsWith_string_iff, String.toList_append, String.toList_append, List.append_assoc]
    exact (String.startsWith_string_iff.mp (absOf_startsWith ps)).trans (List.prefix_append _ _)
  have helems : elements (absOf ps ++ "/" ++ n) = ps ++ [n] := by
    rw [elements_append, elements_absOf hps, elements_of_plain hn]
  unfold joinPath
  rw [hfilter]
  simp only [String.intercalate_cons_cons, String.intercalate_singleton]
  rw [cleanPath_of_elements _ (by rw [helems]; exact fun x hx => (hsplit x hx).2.2.1),
    if_pos hstart, helems]

/-- A name the cleaning of a path keeps, other than `..`, is plain. -/
theorem plain_of_mem_elements {p x : String} (hx : x ∈ elements p) (h : x ≠ "..") : Plain x := by
  simp only [elements, List.mem_filter, Bool.and_eq_true, bne_iff_ne] at hx
  exact ⟨hx.2.1, hx.2.2, h, Text.slash_not_mem_of_mem_splitOn hx.1⟩

/-- **A path cleaned from one that starts with a slash** is an absolute path through plain
names: below the root, `..` has nothing to climb past and is dropped. -/
theorem cleanPath_eq_absOf {p : String} (hp : p.startsWith "/" = true) :
    ∃ ps, (∀ q ∈ ps, Plain q) ∧ cleanPath p = absOf ps := by
  unfold cleanPath
  dsimp only
  rw [show (Text.splitOn p "/").filter (fun x => x != "" && x != ".") = elements p from rfl]
  simp only [hp, if_true]
  -- the stack holds plain names only, whatever names of the path were read
  have key : ∀ (f : List String → String → List String),
      (∀ st x, x ∈ elements p → (∀ q ∈ st, Plain q) → ∀ q ∈ f st x, Plain q) →
      ∀ (xs st : List String), (∀ x ∈ xs, x ∈ elements p) → (∀ q ∈ st, Plain q) →
        ∀ q ∈ xs.foldl f st, Plain q := by
    intro f hf xs
    induction xs with
    | nil => exact fun st _ hst => hst
    | cons x xs ih =>
      intro st hxs hst
      rw [List.foldl_cons]
      exact ih _ (fun y hy => hxs y (List.mem_cons_of_mem _ hy)) (hf st x (hxs x List.mem_cons_self) hst)
  refine ⟨_, fun q hq => key _ (fun st x hx hst => ?_) _ [] (fun x hx => hx) (by simp) q
    (List.mem_reverse.1 hq), rfl⟩
  -- one step: `..` drops the name on top, which is plain, and any other name is pushed
  by_cases hdd : x = ".."
  · subst hdd
    cases st with
    | nil => simp
    | cons top rest =>
      have htop : top ≠ ".." := (hst top List.mem_cons_self).2.2.1
      simpa [htop] using fun q hq => hst q (List.mem_cons_of_mem _ hq)
  · have hplain := plain_of_mem_elements hx hdd
    simp only [beq_iff_eq, hdd, if_false, List.mem_cons]
    rintro q (rfl | hq)
    · exact hplain
    · exact hst q hq

/-! ### Absolute paths -/

theorem startsWith_slash_append {a : String} (ha : a.startsWith "/" = true) (b : String) :
    (a ++ b).startsWith "/" = true := by
  rw [String.startsWith_string_iff, String.toList_append]
  exact (String.startsWith_string_iff.mp ha).trans (List.prefix_append _ _)

theorem absOf_nil : absOf [] = "/" := rfl

theorem absOf_append (hrs : rs ≠ []) (hts : ts ≠ []) :
    absOf (rs ++ ts) = absOf rs ++ "/" ++ "/".intercalate ts := by
  rw [absOf, absOf, intercalate_append hrs hts]
  simp [String.append_assoc]

theorem absOf_injective (hps : ∀ p ∈ ps, Plain p) (hrs : ∀ r ∈ rs, Plain r)
    (h : absOf ps = absOf rs) : ps = rs := by
  rw [← elements_absOf hps, h, elements_absOf hrs]

theorem dropChars_absOf_append (hrs : rs ≠ []) (hts : ts ≠ []) :
    dropChars (absOf (rs ++ ts)) ((absOf rs).length + 1) = "/".intercalate ts := by
  rw [dropChars, absOf_append hrs hts]
  apply String.toList_inj.mp
  have hlen : (absOf rs).length + 1 = ((absOf rs).toList ++ "/".toList).length := by
    simp [String.length_toList]
  rw [String.toList_ofList, String.toList_append, String.toList_append, hlen, List.drop_left]

/-- An absolute path lies strictly below another exactly when its names extend the other's. -/
theorem startsWith_absOf_iff (hps : ∀ p ∈ ps, Plain p) (hrs : ∀ r ∈ rs, Plain r)
    (hne : rs ≠ []) :
    (absOf ps).startsWith (absOf rs ++ "/") = true ↔ ∃ ts, ts ≠ [] ∧ ps = rs ++ ts := by
  constructor
  · intro h
    obtain ⟨t, ht⟩ := String.startsWith_string_iff.mp h
    have heq : absOf ps = absOf rs ++ "/" ++ String.ofList t := by
      apply String.toList_inj.mp
      rw [← ht]
      simp
    have hsplit : ps = rs ++ elements (String.ofList t) := by
      rw [← elements_absOf hps, heq, elements_append, elements_absOf hrs]
    refine ⟨_, fun hnil => ?_, hsplit⟩
    -- the same names would give a path shorter than itself
    rw [hnil, List.append_nil] at hsplit
    subst hsplit
    have hlen := congrArg String.length heq
    have hslash : "/".length = 1 := rfl
    simp only [String.length_append, hslash] at hlen
    omega
  · rintro ⟨ts, hts, rfl⟩
    rw [absOf_append hne hts, String.startsWith_string_iff]
    exact ⟨("/".intercalate ts).toList, by simp⟩

/-- **The path of an absolute path relative to another**: the rest of its names when they
extend the other's. -/
theorem within?_absOf (hrs : ∀ r ∈ rs, Plain r) (hps : ∀ p ∈ ps, Plain p) :
    within? (absOf rs) (absOf ps) = if rs <+: ps then some (relOf (ps.drop rs.length)) else none := by
  unfold within?
  by_cases heq : ps = rs
  · subst heq
    simp [relOf]
  have hne : (absOf ps == absOf rs) = false := by
    simpa using fun h => heq (absOf_injective hps hrs h)
  rw [if_neg (by simp [hne])]
  by_cases hr : rs = []
  · subst hr
    have hps' : ps ≠ [] := heq
    have hdrop : dropChars (absOf ps) 1 = "/".intercalate ps := by
      apply String.toList_inj.mp
      simp [dropChars, absOf]
    rw [absOf_nil, if_pos (by decide), if_pos List.nil_prefix, hdrop]
    simp [relOf, hps']
  · have hslash : (absOf rs == "/") = false := by
      simpa [← absOf_nil] using fun h => hr (absOf_injective hrs (by simp) h)
    rw [if_neg (by simp [hslash])]
    by_cases hpre : rs <+: ps
    · obtain ⟨ts, rfl⟩ := hpre
      have hts : ts ≠ [] := fun h => heq (by simp [h])
      rw [if_pos ((startsWith_absOf_iff hps hrs hr).2 ⟨ts, hts, rfl⟩), dropChars_absOf_append hr hts,
        if_pos (List.prefix_append _ _), List.drop_left]
      simp [relOf, hts]
    · rw [if_neg hpre, if_neg]
      rw [startsWith_absOf_iff hps hrs hr]
      rintro ⟨ts, -, rfl⟩
      exact hpre (List.prefix_append _ _)

/-- **The key of an absolute path** in a tree whose working directory is an absolute path: the
rest of its names below the working directory, or the path itself outside it. -/
theorem key_absOf (d : Disk) (hroot : d.root = absOf rs) (hrs : ∀ r ∈ rs, Plain r)
    (hps : ∀ p ∈ ps, Plain p) :
    d.key (absOf ps) = if rs <+: ps then relOf (ps.drop rs.length) else absOf ps := by
  have habs : d.absPath (absOf ps) = absOf ps := by
    rw [absPath, if_pos (absOf_startsWith ps), cleanPath_absOf hps]
  rw [key, habs, hroot, within?_absOf hrs hps]
  split <;> rfl

/-! ### Relative paths -/

theorem startsWith_slash_iff_head (s : String) : s.startsWith "/" = true ↔ s.toList.head? = some '/' := by
  rw [String.startsWith_string_iff, show "/".toList = ['/'] from rfl]
  cases s.toList with
  | nil => simp
  | cons c cs => simp [List.cons_prefix_cons, eq_comm]

theorem Plain.startsWith (hn : Plain n) : n.startsWith "/" = false := by
  rw [Bool.eq_false_iff, ne_eq, startsWith_slash_iff_head]
  intro h
  exact hn.2.2.2 (List.mem_of_mem_head? h)

theorem relOf_singleton (n : String) : relOf [n] = n := by
  simp [relOf]

theorem relOf_append_name (hts : ts ≠ []) (n : String) :
    relOf (ts ++ [n]) = relOf ts ++ "/" ++ n := by
  simp [relOf, hts, intercalate_append hts (List.cons_ne_nil n [])]

theorem relOf_startsWith (hts : ∀ t ∈ ts, Plain t) : (relOf ts).startsWith "/" = false := by
  rw [Bool.eq_false_iff, ne_eq, startsWith_slash_iff_head]
  cases ts with
  | nil => simp [relOf]
  | cons t rest =>
    have ht := hts t List.mem_cons_self
    obtain ⟨c, cs, hc⟩ := List.exists_cons_of_ne_nil ht.nonempty
    have hhead : (relOf (t :: rest)).toList.head? = some c := by
      cases rest with
      | nil => simp [relOf, hc]
      | cons r rest => simp [relOf, String.intercalate_cons_cons, hc]
    rw [hhead]
    intro h
    cases h
    exact ht.2.2.2 (by simp [hc])

theorem relOf_nonempty (hts : ∀ t ∈ ts, Plain t) (hne : ts ≠ []) : (relOf ts).toList ≠ [] := by
  intro h
  have := elements_relOf hts
  rw [String.toList_inj.mp (h.trans String.toList_empty.symm), elements_empty] at this
  exact hne this.symm

/-- Text after a nonempty text that does not start with a slash starts with none. -/
theorem startsWith_append_of_not {a : String} (ha : a.toList ≠ []) (h : a.startsWith "/" = false)
    (b : String) : (a ++ b).startsWith "/" = false := by
  obtain ⟨c, cs, hc⟩ := List.exists_cons_of_ne_nil ha
  rw [Bool.eq_false_iff, ne_eq, startsWith_slash_iff_head, String.toList_append, hc,
    List.cons_append, List.head?_cons, ← List.head?_cons (l := cs), ← hc, ← startsWith_slash_iff_head]
  simp [h]

theorem relOf_ne_dot (hts : ∀ t ∈ ts, Plain t) (hne : ts ≠ []) : relOf ts ≠ "." := by
  intro h
  have := elements_relOf hts
  rw [h, elements_dot] at this
  exact hne this.symm

/-- **A relative path through plain names is its own key.** -/
theorem key_relOf (d : Disk) (hroot : d.root = absOf rs) (hrs : ∀ r ∈ rs, Plain r)
    (hts : ∀ t ∈ ts, Plain t) : d.key (relOf ts) = relOf ts := by
  have hall : ∀ x ∈ rs ++ ts, Plain x := fun x hx => by
    rcases List.mem_append.1 hx with hx | hx
    · exact hrs x hx
    · exact hts x hx
  have helems : elements (d.root ++ "/" ++ relOf ts) = rs ++ ts := by
    rw [elements_append, hroot, elements_absOf hrs, elements_relOf hts]
  have habs : d.absPath (relOf ts) = absOf (rs ++ ts) := by
    rw [absPath, if_neg (by simp [relOf_startsWith hts]),
      cleanPath_of_elements _ (by rw [helems]; exact fun x hx => (hall x hx).2.2.1),
      if_pos (by rw [hroot]; exact startsWith_slash_append (startsWith_slash_append (absOf_startsWith rs) _) _),
      helems]
  rw [key, habs, hroot, within?_absOf hrs hall, if_pos (List.prefix_append _ _), List.drop_left]
  rfl

/-! ### A key with one more name -/

/-- A key with one more name lies in the directory of the shorter one. -/
theorem isWithin_relOf_append (hts : ∀ t ∈ ts, Plain t) (hn : Plain n) :
    isWithin (relOf (ts ++ [n])) (relOf ts) = true := by
  unfold isWithin
  by_cases h : ts = []
  · subst h
    simp [hn.startsWith, hn.2.1, relOf]
  · rw [if_neg (by simpa using relOf_ne_dot hts h), relOf_append_name h, String.startsWith_string_iff]
    exact ⟨n.toList, by simp⟩

/-- The directory of a key with one more name is the shorter one. -/
theorem dirName_relOf_append (hts : ∀ t ∈ ts, Plain t) (hn : Plain n) :
    dirName (relOf (ts ++ [n])) = relOf ts := by
  have hslash : ∀ c ∈ n.toList.reverse, (c != '/') = true := fun c hc => by
    have : c ≠ '/' := fun e => hn.2.2.2 (e ▸ List.mem_reverse.1 hc)
    simpa using this
  unfold dirName
  dsimp only
  by_cases h : ts = []
  · subst h
    rw [List.nil_append, relOf_singleton, List.dropWhile_eq_nil_iff.2 hslash,
      cleanPath_of_elements _ (by simp [elements_empty])]
    simp [elements_empty, relOf]
  · -- the characters before the last slash are the shorter key and that slash
    have hrest : (relOf (ts ++ [n])).toList.reverse.dropWhile (· != '/') =
        '/' :: (relOf ts).toList.reverse := by
      rw [relOf_append_name h, String.toList_append, String.toList_append, List.reverse_append,
        List.dropWhile_append_of_pos hslash]
      simp
    have hstr : String.ofList ('/' :: (relOf ts).toList.reverse).reverse = relOf ts ++ "/" ++ "" := by
      apply String.toList_inj.mp
      simp
    have helems : elements (relOf ts ++ "/" ++ "") = ts := by
      rw [elements_append, elements_relOf hts, elements_empty, List.append_nil]
    rw [hrest, hstr, cleanPath_of_elements _ (by rw [helems]; exact fun x hx => (hts x hx).2.2.1),
      helems, if_neg]
    rw [String.append_empty, Bool.not_eq_true]
    exact startsWith_append_of_not (relOf_nonempty hts h) (relOf_startsWith hts) _

theorem Plain.slash_ne (hn : Plain n) : ∀ c ∈ n.toList.reverse, (c != '/') = true := fun c hc => by
  have : c ≠ '/' := fun e => hn.2.2.2 (e ▸ List.mem_reverse.1 hc)
  simpa using this

/-- The last name of a key with one more name is that name. -/
theorem baseName_relOf_append (hts : ∀ t ∈ ts, Plain t) (hn : Plain n) :
    baseName (relOf (ts ++ [n])) = n := by
  -- the characters of the key are the name's, after a slash or after nothing
  obtain ⟨pre, hpre, hchars⟩ : ∃ pre : List Char, (pre = [] ∨ ∃ r, pre.reverse = '/' :: r) ∧
      (relOf (ts ++ [n])).toList = pre ++ n.toList := by
    by_cases h : ts = []
    · subst h
      exact ⟨[], .inl rfl, by simp [relOf_singleton]⟩
    · exact ⟨(relOf ts).toList ++ ['/'], .inr ⟨(relOf ts).toList.reverse, by simp⟩,
        by rw [relOf_append_name h]; simp⟩
  obtain ⟨c, cs, hc⟩ := List.exists_cons_of_ne_nil (List.reverse_ne_nil_iff.2 hn.nonempty)
  have hcne : (c == '/') = false := by
    have := hn.slash_ne c (by simp [hc])
    simpa using this
  have hdrop : (relOf (ts ++ [n])).toList.reverse.dropWhile (· == '/') =
      (relOf (ts ++ [n])).toList.reverse := by
    rw [hchars, List.reverse_append, hc, List.cons_append, List.dropWhile_cons_of_neg (by simp [hcne])]
  have hne : (relOf (ts ++ [n])).toList ≠ [] := by
    rw [hchars]
    simp [hn.nonempty]
  have hstr : (relOf (ts ++ [n])).isEmpty = false := by
    rw [Bool.eq_false_iff, ne_eq, String.isEmpty_iff]
    intro h
    exact hne (by rw [h]; rfl)
  unfold baseName
  dsimp only
  rw [hdrop, List.reverse_reverse, if_neg (by simp [hstr]),
    if_neg (by simpa using hne), hchars, List.reverse_append, List.takeWhile_append_of_pos hn.slash_ne]
  rcases hpre with rfl | ⟨r, hr⟩
  · simp
  · rw [hr, List.takeWhile_cons_of_neg (by simp)]
    simp

/-- **The ancestors of a key with one more name** are the shorter key's ancestors and the
shorter key itself. -/
theorem ancestors_relOf_append (hts : ∀ t ∈ ts, Plain t) (hn : Plain n) :
    ancestors (relOf (ts ++ [n])) = if ts = [] then [] else ancestors (relOf ts) ++ [relOf ts] := by
  have hall : ∀ x ∈ ts ++ [n], Plain x := fun x hx => by
    rcases List.mem_append.1 hx with hx | hx
    · exact hts x hx
    · rw [List.mem_singleton.1 hx]
      exact hn
  have hparts : Text.splitOn (relOf (ts ++ [n])) "/" = ts ++ [n] := by
    rw [relOf, if_neg (by simp), Text.splitOn_slash_intercalate (by simp) (fun x hx => (hall x hx).2.2.2)]
  unfold ancestors
  dsimp only
  rw [hparts]
  split
  · rename_i h
    subst h
    simp
  · rename_i h
    have hparts' : Text.splitOn (relOf ts) "/" = ts := by
      rw [relOf, if_neg h, Text.splitOn_slash_intercalate h (fun x hx => (hts x hx).2.2.2)]
    rw [hparts']
    obtain ⟨k, hk⟩ : ∃ k, ts.length = k + 1 := Nat.exists_eq_succ_of_ne_zero (by simpa using h)
    simp only [List.length_append, List.length_singleton, Nat.add_sub_cancel, hk, List.range_succ,
      List.map_append, List.map_singleton]
    congr 1
    · -- below the last, the names taken are the shorter key's
      apply List.map_congr_left
      intro i hi
      rw [List.mem_range] at hi
      rw [List.take_append_of_le_length (by omega)]
    · rw [← hk, List.take_append_of_le_length (le_refl _), List.take_length]
      have hI : ("/".intercalate ts).isEmpty = false := by
        rw [Bool.eq_false_iff, ne_eq, String.isEmpty_iff, intercalate_eq_empty (fun t ht => (hts t ht).1)]
        exact h
      simp [hI, relOf, h]

end Names

/-! ### Names in a directory of a tree -/

/-- **The working directory is a cleaned absolute path.** -/
def CleanRoot (d : Disk) : Prop := d.root.startsWith "/" = true ∧ cleanPath d.root = d.root

section Tree

variable {d : Disk} {n : String} {ps rs : List String}

theorem CleanRoot.exists_absOf (h : d.CleanRoot) : ∃ rs, (∀ r ∈ rs, Plain r) ∧ d.root = absOf rs := by
  obtain ⟨rs, hrs, heq⟩ := cleanPath_eq_absOf h.1
  exact ⟨rs, hrs, h.2.symm.trans heq⟩

/-- **Every absolute form of a path** is an absolute path through plain names. -/
theorem absPath_eq_absOf (h : d.CleanRoot) (x : String) :
    ∃ ps, (∀ p ∈ ps, Plain p) ∧ d.absPath x = absOf ps := by
  unfold absPath
  split
  · exact cleanPath_eq_absOf ‹_›
  · exact cleanPath_eq_absOf (startsWith_slash_append (startsWith_slash_append h.1 _) _)

/-- A plain name in a directory below the working directory has the directory's key with the
name after it. -/
theorem key_joinPath_below (hroot : d.root = absOf rs) (hrs : ∀ r ∈ rs, Plain r)
    (hps : ∀ p ∈ ps, Plain p) (hn : Plain n) (h : rs <+: ps) :
    d.key (joinPath [absOf ps, n]) = relOf (ps.drop rs.length ++ [n]) := by
  have hall : ∀ x ∈ ps ++ [n], Plain x := fun x hx => by
    rcases List.mem_append.1 hx with hx | hx
    · exact hps x hx
    · rw [List.mem_singleton.1 hx]
      exact hn
  rw [joinPath_absOf hps hn, key_absOf d hroot hrs hall, if_pos (h.trans (List.prefix_append _ _)),
    List.drop_append_of_le_length h.length_le]

/-- A plain name in a directory outside the working directory is the working directory itself or
keeps its absolute path as its key. -/
theorem key_joinPath_not_below (hroot : d.root = absOf rs) (hrs : ∀ r ∈ rs, Plain r)
    (hps : ∀ p ∈ ps, Plain p) (hn : Plain n) (h : ¬rs <+: ps) :
    d.key (joinPath [absOf ps, n]) = "." ∨ d.key (joinPath [absOf ps, n]) = absOf (ps ++ [n]) := by
  have hall : ∀ x ∈ ps ++ [n], Plain x := fun x hx => by
    rcases List.mem_append.1 hx with hx | hx
    · exact hps x hx
    · rw [List.mem_singleton.1 hx]
      exact hn
  rw [joinPath_absOf hps hn, key_absOf d hroot hrs hall]
  split
  · -- only the working directory itself extends no directory outside it by one name
    rename_i hpre
    left
    obtain ⟨u, hu⟩ := hpre
    rcases List.eq_nil_or_concat u with rfl | ⟨u', x, rfl⟩
    · simp [← hu, relOf]
    · rw [List.concat_eq_append, ← List.append_assoc] at hu
      obtain ⟨hrs', -⟩ := List.append_inj' hu rfl
      exact absurd ⟨u', hrs'⟩ h
  · exact .inr rfl

end Tree

end Accessors.Disk
