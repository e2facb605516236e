import Accessors.Proofs.Generation.Isolation

/-!
# A client's calls on the class map

A client puts, removes and looks up entries of the class map, lists them and takes snapshots of
it, one call after another (`Store.session`). What it sees is a map from classes to entries
(`Contents`): it starts as the map in the file, and only the changes that succeed change it, a
put setting the entry of its class and a removal clearing it (`Contents.after`).

* `Store.Holds.call`, `Store.Holds.session`: on a map that holds some contents, each call is
  answered as the contents say (`Contents.Answers`), and the map then holds the contents after it.
  The map's file stays the one the calls started from or becomes a document, in the current
  format version, of the contents. This needs a store whose format reads back what it writes and
  whose temporary file lies beside the map.
* `Store.session_of_load_error`: on a map that cannot be read, every change is refused with a
  class map error, lookups and listings find nothing, and the tree is left as it was.
* `Store.session_answers`: the two together, from the map the calls start on.
* `Store.session_keeps_file_entries`: the entries in the file when the calls start are seen as if
  they had been put before them; and a map whose format version lies in `[1.0, 2.0)` but is a
  pre-release cannot be read.
-/

namespace Accessors.ClassMap

/-- **A call** a client makes on the class map. -/
inductive Call where
  | put (e : Entry)
  | remove (name : String)
  | lookup (name : String)
  | entries
  | snapshot

/-- **The answer to a call**: whether the change was made, the entry found, the entries listed,
or the snapshot taken. -/
inductive Answer where
  | changed (r : Except Error Unit)
  | found (e : Option Entry)
  | listed (es : List Entry)
  | snapshot (r : Except Error (List Entry))

namespace Store

/-- The tree after a change and the answer to it; a change that fails leaves the tree. -/
def changeOn (d : Disk) : Except Error Disk → Disk × Answer
  | .ok d' => (d', .changed (.ok ()))
  | .error err => (d, .changed (.error err))

/-- **Makes a call** on a tree: the tree after it and the answer. -/
def call (s : Store) (d : Disk) : Call → Disk × Answer
  | .put e => changeOn d (s.put d e)
  | .remove n => changeOn d (s.remove d n)
  | .lookup n => (d, .found (s.lookup d n))
  | .entries => (d, .listed (s.entries d))
  | .snapshot => (d, .snapshot (s.snapshot d))

/-- **Makes calls one after another**: the tree after them all and their answers, in order. -/
def session (s : Store) (d : Disk) : List Call → Disk × List Answer
  | [] => (d, [])
  | c :: cs =>
    let r := s.call d c
    let rest := s.session r.1 cs
    (rest.1, r.2 :: rest.2)

@[simp] theorem session_nil (s : Store) (d : Disk) : s.session d [] = (d, []) := rfl

@[simp] theorem session_cons (s : Store) (d : Disk) (c : Call) (cs : List Call) :
    s.session d (c :: cs) =
      ((s.session (s.call d c).1 cs).1, (s.call d c).2 :: (s.session (s.call d c).1 cs).2) := rfl

end Store

/-! ### What a client sees -/

/-- **The contents of the map** as a client sees them: the entry of each class, if any. -/
abbrev Contents := String → Option Entry

namespace Contents

/-- The contents of a map read as entries: the first entry of each class. -/
def ofEntries (es : List Entry) : Contents := fun n => es.find? (·.name == n)

/-- **The contents after a call so answered**: a put that succeeded sets the entry of its class,
a removal that succeeded clears it, and nothing else changes them. -/
def after (m : Contents) : Call → Answer → Contents
  | .put e, .changed (.ok ()) => Function.update m e.name (some e)
  | .remove n, .changed (.ok ()) => Function.update m n none
  | _, _ => m

/-- The contents after calls so answered, one after another. -/
def replay (m : Contents) : List Call → List Answer → Contents
  | c :: cs, a :: as => (m.after c a).replay cs as
  | _, _ => m

/-- **Entries listing the contents**: sorted by class, one per class, and exactly the entries of
the contents. -/
structure Listing (m : Contents) (es : List Entry) : Prop where
  sorted : es.Pairwise fun a b => a.name ≤ b.name
  nodup : (es.map (·.name)).Nodup
  mem : ∀ e, e ∈ es ↔ m e.name = some e

/-- **A call answered as the contents say**: a lookup finds the entry of its class, a listing and
a snapshot give the entries sorted by class, a put without a class name is refused with a class
map error, and any other change answers whether it was made. -/
def Answers (m : Contents) : Call → Answer → Prop
  | .lookup n, a => a = .found (m n)
  | .entries, a => ∃ es, a = .listed es ∧ m.Listing es
  | .snapshot, a => ∃ es, a = .snapshot (.ok es) ∧ m.Listing es
  | .put e, a =>
    if e.name.isEmpty then ∃ err, a = .changed (.error err) ∧ err.code? = some ErrorCode.classMap
    else ∃ r, a = .changed r
  | .remove _, a => ∃ r, a = .changed r

/-- **Calls answered as their contents say**, each against the contents the calls before it
left. -/
def AnsweredFrom : Contents → List Call → List Answer → Prop
  | _, [], [] => True
  | m, c :: cs, a :: as => m.Answers c a ∧ (m.after c a).AnsweredFrom cs as
  | _, _, _ => False

variable {es es' : List Entry}

theorem ofEntries_perm (hp : es'.Perm es) (hn : (es.map (·.name)).Nodup) :
    ofEntries es' = ofEntries es :=
  funext fun _ => find?_name_perm hp hn

theorem ofEntries_putEntry (e : Entry) (es : List Entry) :
    ofEntries (Store.putEntry e es) = Function.update (ofEntries es) e.name (some e) := by
  funext n
  rw [ofEntries, Store.find?_putEntry, Function.update_apply]
  by_cases h : e.name = n
  · simp [h]
  · simp [h, Ne.symm h, ofEntries]

theorem ofEntries_removeEntry (m : String) (es : List Entry) :
    ofEntries (Store.removeEntry m es) = Function.update (ofEntries es) m none := by
  funext n
  rw [ofEntries, Store.find?_removeEntry, Function.update_apply]
  by_cases h : m = n
  · simp [h]
  · simp [h, Ne.symm h, ofEntries]

/-- **Entries of distinct classes sorted by class list their contents.** -/
theorem listing_mergeSort (hn : (es.map (·.name)).Nodup) :
    (ofEntries es).Listing (es.mergeSort fun a b => decide (a.name ≤ b.name)) where
  sorted := by
    have h := @List.pairwise_mergeSort _ (fun a b : Entry => decide (a.name ≤ b.name))
      (fun a b c hab hbc => by simpa using String.le_trans (by simpa using hab) (by simpa using hbc))
      (fun a b => by simpa using String.le_total a.name b.name) es
    exact h.imp fun hab => by simpa using hab
  nodup := ((List.mergeSort_perm es _).map _).nodup_iff.2 hn
  mem e := by
    rw [List.mem_mergeSort, ofEntries, find?_name_eq_some_iff hn]
    simp

end Contents

/-- **A call answered by a map that cannot be read**: a change is refused with a class map error,
a lookup finds nothing, a listing is empty and a snapshot fails. -/
def Refused : Call → Answer → Prop
  | .put _, a | .remove _, a => ∃ err, a = .changed (.error err) ∧ err.code? = some ErrorCode.classMap
  | .lookup _, a => a = .found none
  | .entries, a => a = .listed []
  | .snapshot, a => ∃ err, a = .snapshot (.error err)

namespace Store

variable {s : Store} {V : Entry → Prop} {F : Except DiskError String} {d d' : Disk} {m : Contents}

/-! ### A map that can be read -/

/-- **The map on a tree holds contents**: the store is ready, the map reads as entries whose
contents they are, and the file of the map is the one the calls started from (`F`) or the
document, in the current format version, of entries of distinct classes whose contents they
are. -/
structure Holds (s : Store) (V : Entry → Prop) (F : Except DiskError String) (d : Disk)
    (m : Contents) : Prop where
  ready : s.Ready V d
  load : ∃ es, s.load d = .ok es ∧ Contents.ofEntries es = m
  file : d.fileText s.path = F ∨ ∃ es, d.fileText s.path = .ok (s.format.write (documentItem es)) ∧
    (es.map (·.name)).Nodup ∧ Contents.ofEntries es = m

/-- A map that can be read holds its own contents, its file the one the calls start from. -/
theorem holds_start (hready : s.Ready V d) {es : List Entry} (hl : s.load d = .ok es) :
    s.Holds V (d.fileText s.path) d (Contents.ofEntries es) :=
  ⟨hready, ⟨es, hl, rfl⟩, .inl rfl⟩

/-- **A change that succeeds** leaves the map holding the changed contents. -/
theorem Holds.update (h : s.Holds V F d m) (hr : s.ReadsBack V) {change : List Entry → List Entry}
    {m' : Contents}
    (hc : ∀ es, (∀ e ∈ es, V e) → (es.map (·.name)).Nodup →
      (∀ e ∈ change es, V e) ∧ ((change es).map (·.name)).Nodup)
    (hm : ∀ es, Contents.ofEntries es = m → Contents.ofEntries (change es) = m')
    (hu : s.update d change = .ok d') : s.Holds V F d' m' := by
  obtain ⟨es₀, hl₀, hm₀⟩ := h.load
  obtain ⟨es, es', hl, hl', hp, hn, -⟩ := update_readBack h.ready.beside hr h.ready.within hc hu
  obtain ⟨es₁, hl₁, hsave⟩ := update_eq_ok hu
  -- the map read before the change is the one the contents come from
  rw [hl₀] at hl hl₁
  cases hl
  cases hl₁
  refine ⟨h.ready.update hr hc hu, ⟨es', hl', ?_⟩, .inr ⟨change es₀, fileText_save h.ready.beside hsave, hn, ?_⟩⟩
  · rw [Contents.ofEntries_perm hp hn, hm es₀ hm₀]
  · exact hm es₀ hm₀

theorem Holds.put (h : s.Holds V F d m) (hr : s.ReadsBack V) {e : Entry} (he : V e)
    (hp : s.put d e = .ok d') : s.Holds V F d' (Function.update m e.name (some e)) :=
  h.update hr (putEntry_within he) (fun es hm => by rw [Contents.ofEntries_putEntry, hm])
    (put_eq_update hp)

theorem Holds.remove (h : s.Holds V F d m) (hr : s.ReadsBack V) {n : String}
    (hp : s.remove d n = .ok d') : s.Holds V F d' (Function.update m n none) :=
  h.update hr (removeEntry_within n) (fun es hm => by rw [Contents.ofEntries_removeEntry, hm]) hp

/-- A put without a class name is refused with a class map error before the map is read. -/
theorem put_unnamed {e : Entry} (hname : e.name.isEmpty = true) :
    s.put d e = .error (Error.wrap ErrorCode.classMap "class map entry has no class name" none) := by
  simp [put, hname]

/-- **One call** on a map that holds some contents is answered as they say, and the map then
holds the contents after it. -/
theorem Holds.call (h : s.Holds V F d m) (hr : s.ReadsBack V) {c : Call}
    (hv : ∀ e, c = .put e → e.name.isEmpty = false → V e) :
    m.Answers c (s.call d c).2 ∧ s.Holds V F (s.call d c).1 (m.after c (s.call d c).2) := by
  obtain ⟨es, hl, rfl⟩ := h.load
  have hlisting := Contents.listing_mergeSort (hr.load_nodup hl)
  have hs : s.snapshot d = .ok (es.mergeSort fun a b => decide (a.name ≤ b.name)) := by
    rw [snapshot, hl]
    rfl
  cases c with
  | put e =>
    by_cases hname : e.name.isEmpty
    · simp only [Contents.Answers, hname, if_true, call, put_unnamed hname, changeOn, Contents.after]
      exact ⟨⟨_, rfl, rfl⟩, h⟩
    · simp only [Contents.Answers, hname, call]
      cases hp : s.put d e with
      | ok d' => exact ⟨⟨_, rfl⟩, h.put hr (hv e rfl (by simpa using hname)) hp⟩
      | error err => exact ⟨⟨_, rfl⟩, h⟩
  | remove n =>
    simp only [Contents.Answers, call]
    cases hp : s.remove d n with
    | ok d' => exact ⟨⟨_, rfl⟩, h.remove hr hp⟩
    | error err => exact ⟨⟨_, rfl⟩, h⟩
  | lookup n =>
    simp only [call, Contents.Answers, lookup_eq_of_load hl]
    exact ⟨rfl, h⟩
  | entries =>
    have he : s.entries d = es.mergeSort fun a b => decide (a.name ≤ b.name) := by
      unfold entries
      rw [hs]
    simp only [call, Contents.Answers, he]
    exact ⟨⟨_, rfl, hlisting⟩, h⟩
  | snapshot =>
    simp only [call, Contents.Answers, hs]
    exact ⟨⟨_, rfl, hlisting⟩, h⟩

/-- **Calls one after another** on a map that holds some contents are each answered as the
contents the calls before it left say, and the map then holds the contents after them all. -/
theorem Holds.session (h : s.Holds V F d m) (hr : s.ReadsBack V) {cs : List Call}
    (hv : ∀ e, Call.put e ∈ cs → e.name.isEmpty = false → V e) :
    m.AnsweredFrom cs (s.session d cs).2 ∧ s.Holds V F (s.session d cs).1 (m.replay cs (s.session d cs).2) := by
  -- the contents and the tree change from call to call
  induction cs generalizing d m with
  | nil => exact ⟨trivial, h⟩
  | cons c cs ih =>
    obtain ⟨ha, h'⟩ := h.call hr (fun e he => hv e (he ▸ List.mem_cons_self))
    obtain ⟨has, h''⟩ := ih h' (fun e he => hv e (List.mem_cons_of_mem c he))
    exact ⟨⟨ha, has⟩, h''⟩

/-! ### A map that cannot be read -/

@[simp] theorem code?_classMap (op path : String) (cause : Option Error) :
    (Error.classMap op path cause).code? = some ErrorCode.classMap := rfl

theorem code?_of_checkVersion_error {raw : String} {err : Error} (h : s.checkVersion raw = .error err) :
    err.code? = some ErrorCode.classMap := by
  unfold checkVersion at h
  split at h
  · simp only [Except.error.injEq] at h
    rw [← h, code?_classMap]
  · split at h
    · cases h
    · simp only [Except.error.injEq] at h
      rw [← h]
      rfl

theorem code?_of_decode_error {text : String} {err : Error} (h : s.decode text = .error err) :
    err.code? = some ErrorCode.classMap := by
  unfold decode at h
  cases hr : s.format.read text with
  | error e =>
    simp only [hr, Except.error.injEq] at h
    rw [← h, code?_classMap]
  | ok doc =>
    simp only [hr, decodeDocument, bind, Except.bind] at h
    cases hc : s.checkVersion ((doc.get "version").str?.getD "") with
    | error e =>
      simp only [hc, Except.error.injEq] at h
      rw [← h]
      exact code?_of_checkVersion_error hc
    | ok u => simp [hc, pure, Except.pure] at h

/-- **Every failure to read the map is a class map error.** -/
theorem code?_of_load_error {err : Error} (h : s.load d = .error err) :
    err.code? = some ErrorCode.classMap := by
  unfold load at h
  cases hf : d.fileText s.path with
  | error e =>
    simp only [hf] at h
    split at h
    · cases h
    · simp only [Except.error.injEq] at h
      rw [← h, code?_classMap]
  | ok text =>
    simp only [hf] at h
    exact code?_of_decode_error h

/-- **One call** on a map that cannot be read is refused and leaves the tree. -/
theorem call_of_load_error {err : Error} (h : s.load d = .error err) (c : Call) :
    (s.call d c).1 = d ∧ Refused c (s.call d c).2 := by
  have hcode := code?_of_load_error h
  have hupdate : ∀ change, s.update d change = .error err := fun change => by
    simp [update, h, bind, Except.bind]
  have hs : s.snapshot d = .error err := by
    rw [snapshot, h]
    rfl
  cases c with
  | put e =>
    by_cases hname : e.name.isEmpty
    · rw [call, put_unnamed hname]
      exact ⟨rfl, _, rfl, rfl⟩
    · have hp : s.put d e = .error err := by simp [put, hname, hupdate]
      rw [call, hp]
      exact ⟨rfl, err, rfl, hcode⟩
  | remove n =>
    rw [call, remove, hupdate]
    exact ⟨rfl, err, rfl, hcode⟩
  | lookup n =>
    have hlk : s.lookup d n = none := by
      unfold lookup
      rw [h]
    refine ⟨rfl, ?_⟩
    simp only [call, hlk]
    rfl
  | entries =>
    have he : s.entries d = [] := by
      unfold entries
      rw [hs]
    refine ⟨rfl, ?_⟩
    simp only [call, he]
    rfl
  | snapshot =>
    refine ⟨rfl, err, ?_⟩
    simp only [call, hs]

/-- **Calls on a map that cannot be read** are all refused and leave the tree. -/
theorem session_of_load_error {err : Error} (h : s.load d = .error err) (cs : List Call) :
    (s.session d cs).1 = d ∧ List.Forall₂ Refused cs (s.session d cs).2 := by
  induction cs with
  | nil => exact ⟨rfl, .nil⟩
  | cons c cs ih =>
    obtain ⟨hd, hc⟩ := call_of_load_error h c
    rw [session_cons, hd]
    exact ⟨ih.1, .cons hc ih.2⟩

/-! ### The calls of a client -/

/-- **What a client sees of the class map.** When the map is missing or can be read, each call is
answered as the contents the calls before it left say: a lookup finds the entry of the last put
of its class that no removal followed, or else the one in the file; a listing and a snapshot give
these entries sorted by class; a put without a class name is refused with a class map error. The
map then holds the contents after the calls, and its file is the one they started from or a
document of these contents in the current format version. This holds when the store's format
reads back what it writes, its temporary file lies beside the map and is no directory, and the
entries are ones the format can hold. When the map cannot be read, every change is refused with
a class map error, lookups and listings find nothing, and the tree is left as it was. -/
theorem session_answers (s : Store) (V : Entry → Prop) (d : Disk) (cs : List Call) :
    (s.ReadsBack V → s.Ready V d → (∀ e, Call.put e ∈ cs → e.name.isEmpty = false → V e) →
      ∀ es, s.load d = .ok es →
      (Contents.ofEntries es).AnsweredFrom cs (s.session d cs).2 ∧
      s.Holds V (d.fileText s.path) (s.session d cs).1
        ((Contents.ofEntries es).replay cs (s.session d cs).2)) ∧
    (∀ err, s.load d = .error err → (s.session d cs).1 = d ∧ List.Forall₂ Refused cs (s.session d cs).2) :=
  ⟨fun hr hready hv _ hl => (holds_start hready hl).session hr hv,
    fun _ h => session_of_load_error h cs⟩

/-! ### A map kept in YAML -/

/-- The entry the sample run of `Accessors.Proofs.Generation.Isolation` would publish for its
article. -/
def storedArticle : Entry := Generation.sampleEntry Generation.untypedArticle

/-- A store that keeps its map in YAML in `cm`. -/
def sampleStore : Store := Store.inDir "cm"

/-- A tree with the directory of the map and no map. -/
def emptyMapDisk : Disk := ⟨"/work", [("cm", .dir)]⟩

/-- A tree whose map lists `storedArticle`. -/
def storedMapDisk : Disk :=
  ⟨"/work", [("cm", .dir), ("cm/_classMap.yaml", .file
    "entries:\n  example.com/app/models.Article:\n    generatedAt: \"0001-01-01T00:00:00Z\"\n    path: ../models/zz_generated.article.accessors.go\n    runId: run-1\nversion: \"1.0\"\n")]⟩

/-- Calls that put, look up, list, remove and snapshot, with a put without a class name. -/
def sampleCalls : List Call :=
  [.put storedArticle, .lookup storedArticle.name, .put { storedArticle with name := "" }, .entries,
    .remove storedArticle.name, .snapshot]

/-- The YAML store reads back maps of `storedArticle`, as the sample run's store does. -/
theorem sampleStore_readsBack : sampleStore.ReadsBack (· ∈ [storedArticle]) := by
  have h : sampleStore.ReadsBack (· ∈ [storedArticle, Generation.sampleEntry Generation.plainComment]) :=
    .of_format (show (Store.inDir ".accessorgen").format = sampleStore.format from rfl) Generation.sample_readsBack
  exact h.mono fun e he => List.mem_cons.2 (.inl (List.mem_singleton.1 he))

theorem session_answers_sample :
    sampleStore.load emptyMapDisk = .ok [] ∧
    (Contents.ofEntries []).AnsweredFrom sampleCalls (sampleStore.session emptyMapDisk sampleCalls).2 := by
  have hload : sampleStore.load emptyMapDisk = .ok [] := Except.eq_ok_of_toOption (by decide +kernel)
  have hready : sampleStore.Ready (· ∈ [storedArticle]) emptyMapDisk :=
    ⟨by decide +kernel, by decide +kernel, fun es hl => by rw [hload] at hl; cases hl; simp⟩
  have hv : ∀ e, Call.put e ∈ sampleCalls → e.name.isEmpty = false → e ∈ [storedArticle] := by
    intro e he hn
    simp only [sampleCalls, List.mem_cons, Call.put.injEq, reduceCtorEq, List.not_mem_nil, or_false,
      false_or] at he
    rcases he with rfl | rfl
    · exact List.mem_singleton_self _
    · cases hn
  exact ⟨hload,
    ((session_answers sampleStore _ emptyMapDisk sampleCalls).1 sampleStore_readsBack hready hv [] hload).1⟩

/-- **The entries in the file are seen without a put, and a pre-release version is refused**: on
a map whose file lists `storedArticle`, a lookup with no put before it finds the entry; and a
document of version `1.5.0-rc1`, which lies in `[1.0, 2.0)`, cannot be read. -/
theorem session_keeps_file_entries :
    (sampleStore.session storedMapDisk [.lookup storedArticle.name]).2 = [.found (some storedArticle)] ∧
    (Version.parse "1.5.0-rc1").toOption.map (fun v =>
      (Version.compareSegments v.segments [1, 0, 0], Version.compareSegments v.segments [2, 0, 0])) =
      some (.gt, .lt) ∧
    (sampleStore.decodeDocument (.obj [("version", .str "1.5.0-rc1")])).toOption = none := by
  have hlookup : sampleStore.lookup storedMapDisk storedArticle.name = some storedArticle := by
    decide +kernel
  refine ⟨?_, by decide +kernel, by decide +kernel⟩
  show [Answer.found (sampleStore.lookup storedMapDisk storedArticle.name)] = _
  rw [hlookup]

end Store

end Accessors.ClassMap
