import Accessors.ClassMap.Store
import Accessors.Proofs.Disk.Frame
import Mathlib.Data.List.Nodup

/-!
# Changes to the class map

Every change to the class map reads it, changes its entries and writes them all back through a
temporary file beside it. The map read after a change is the changed map when the store's format
reads back what it writes (`Store.ReadsBack`) and the temporary file lies beside the map
(`Store.Beside`):

* putting an entry makes it the entry of its class and leaves every other class's entry
  (`Store.lookup_put`);
* removing the entry of a class leaves none and every other class's entry
  (`Store.lookup_remove`);
* a readable map can always be written back, so a failed removal leaves no entry either
  (`Store.lookup_eq_none_of_remove_error`);
* a change writes only the map and its temporary file (`Store.update_changedAt`), and a change
  elsewhere in the tree leaves the map (`Store.load_changedAt`).
-/

namespace Accessors.ClassMap

/-! ### Entries by class -/

section Names

variable {es es' : List Entry} {n : String}

/-- Among entries of distinct classes, the entry found for a class is the one of that class. -/
theorem find?_name_eq_some_iff (hn : (es.map (·.name)).Nodup) {e : Entry} :
    es.find? (·.name == n) = some e ↔ e ∈ es ∧ e.name = n := by
  constructor
  · intro h
    exact ⟨List.mem_of_find?_eq_some h, by simpa using List.find?_some h⟩
  · rintro ⟨he, rfl⟩
    obtain ⟨e', he'⟩ : ∃ e', es.find? (·.name == e.name) = some e' := by
      cases h : es.find? (·.name == e.name) with
      | some e' => exact ⟨e', rfl⟩
      | none => exact absurd (List.find?_eq_none.1 h e he) (by simp)
    have hm := List.mem_of_find?_eq_some he'
    have hk : e'.name = e.name := by simpa using List.find?_some he'
    rw [he', List.inj_on_of_nodup_map hn hm he hk]

/-- Entries of distinct classes in another order find the same entry for every class. -/
theorem find?_name_perm (hp : es'.Perm es) (hn : (es.map (·.name)).Nodup) :
    es'.find? (·.name == n) = es.find? (·.name == n) := by
  have hn' : (es'.map (·.name)).Nodup := (hp.map _).nodup_iff.2 hn
  cases h : es.find? (·.name == n) with
  | some e =>
    obtain ⟨he, hk⟩ := (find?_name_eq_some_iff hn).1 h
    exact (find?_name_eq_some_iff hn').2 ⟨hp.symm.subset he, hk⟩
  | none =>
    cases h' : es'.find? (·.name == n) with
    | none => rfl
    | some e =>
      obtain ⟨he, hk⟩ := (find?_name_eq_some_iff hn').1 h'
      rw [(find?_name_eq_some_iff hn).2 ⟨hp.subset he, hk⟩] at h
      cases h

namespace Store

theorem name_putEntry (e x : Entry) : (if x.name == e.name then e else x).name = x.name := by
  split <;> simp_all

theorem find?_putEntry (e : Entry) :
    (putEntry e es).find? (·.name == n) = if e.name = n then some e else es.find? (·.name == n) := by
  unfold putEntry
  split
  · rename_i hany
    -- the replacement keeps every name, so the entry found is the one found before, replaced
    have hp : (fun x => (if x.name == e.name then e else x).name == n) = (·.name == n) := by
      funext x
      rw [name_putEntry]
    rw [List.find?_map, Function.comp_def, hp]
    by_cases hn : e.name = n
    · subst hn
      obtain ⟨x, hx, hxn⟩ := List.any_eq_true.1 hany
      obtain ⟨y, hy⟩ :=
        Option.isSome_iff_exists.1 ((List.find?_isSome (p := (·.name == e.name))).2 ⟨x, hx, hxn⟩)
      have hyn : y.name = e.name := by simpa using List.find?_some hy
      simp [hy, hyn]
    · cases hf : es.find? (·.name == n) with
      | none => simp [hn]
      | some y =>
        have hyn : y.name = n := by simpa using List.find?_some hf
        simp [hn, hyn, Ne.symm hn]
  · rename_i hany
    by_cases hn : e.name = n
    · subst hn
      have hnone : es.find? (·.name == e.name) = none := by
        simpa [List.find?_eq_none] using hany
      simp [List.find?_append, hnone]
    · simp [List.find?_append, hn]

theorem find?_removeEntry (m : String) :
    (removeEntry m es).find? (·.name == n) = if m = n then none else es.find? (·.name == n) := by
  unfold removeEntry
  split
  · subst m
    rw [List.find?_eq_none]
    intro x hx
    simpa using (List.mem_filter.1 hx).2
  · rename_i hm
    rw [List.find?_filter]
    congr 1
    funext x
    by_cases hx : x.name = n
    · simp [hx, Ne.symm hm]
    · simp [hx]

theorem names_putEntry_nodup (e : Entry) (hn : (es.map (·.name)).Nodup) :
    ((putEntry e es).map (·.name)).Nodup := by
  unfold putEntry
  split
  · have hnames : (fun x => (if x.name == e.name then e else x).name) = (·.name) :=
      funext (name_putEntry e)
    rw [List.map_map, Function.comp_def, hnames]
    exact hn
  · rename_i hany
    have hfresh : ∀ a ∈ es, a.name ≠ e.name := fun a ha h =>
      hany (List.any_eq_true.2 ⟨a, ha, by simp [h]⟩)
    simpa [List.nodup_append, hn] using hfresh

theorem names_removeEntry_nodup (m : String) (hn : (es.map (·.name)).Nodup) :
    ((removeEntry m es).map (·.name)).Nodup :=
  (List.filter_sublist.map _).nodup hn

theorem mem_putEntry {e x : Entry} (hx : x ∈ putEntry e es) : x = e ∨ x ∈ es := by
  unfold putEntry at hx
  split at hx
  · obtain ⟨y, hy, rfl⟩ := List.mem_map.1 hx
    split
    · exact .inl rfl
    · exact .inr hy
  · rcases List.mem_append.1 hx with h | h
    · exact .inr h
    · exact .inl (List.mem_singleton.1 h)

end Store

end Names

/-! ### Laws of a store -/

namespace Store

variable {s : Store} {V : Entry → Prop} {d d' : Disk} {es : List Entry}

/-- A store **reads back** the maps of entries drawn from `V`: every map it reads has distinct
classes, and a map of distinct classes written and read again has its entries back, in some
order. -/
structure ReadsBack (s : Store) (V : Entry → Prop) : Prop where
  nodup : ∀ text es, s.decode text = .ok es → (es.map (·.name)).Nodup
  readBack : ∀ es : List Entry, (∀ e ∈ es, V e) → (es.map (·.name)).Nodup →
    ∃ es', s.decode (s.format.write (documentItem es)) = .ok es' ∧ es'.Perm es

/-- **The map on a tree holds entries of `V`** whenever it can be read. -/
def Within (s : Store) (V : Entry → Prop) (d : Disk) : Prop :=
  ∀ es, s.load d = .ok es → ∀ e ∈ es, V e

/-- **The temporary file lies beside the map**: it is not the working directory and is reached
through the map's directories. -/
def Beside (s : Store) (d : Disk) : Prop :=
  d.key s.tempName ≠ "." ∧ Disk.ancestors (d.key s.tempName) = Disk.ancestors (d.key s.path)

instance (s : Store) (d : Disk) : Decidable (s.Beside d) :=
  inferInstanceAs (Decidable (_ ∧ _))

/-- The maps a store reads have distinct classes. -/
theorem ReadsBack.load_nodup (hr : s.ReadsBack V) (h : s.load d = .ok es) :
    (es.map (·.name)).Nodup := by
  unfold load at h
  split at h
  · split at h
    · cases h
      exact List.nodup_nil
    · cases h
  · exact hr.nodup _ _ h

/-! ### Reading -/

/-- **The version maps are written with is supported.** -/
theorem checkVersion_current (s : Store) : s.checkVersion Version.current = .ok () := by
  have h : (Version.parse Version.current).toOption.map Version.supported = some true := by
    decide +kernel
  unfold checkVersion
  cases hp : Version.parse Version.current with
  | error e => simp [hp, Except.toOption] at h
  | ok v =>
    have hs : v.supported = true := by simpa [hp, Except.toOption] using h
    simp [hs]

theorem load_eq_of_fileText {text : String} (h : d.fileText s.path = .ok text) :
    s.load d = s.decode text := by
  unfold load
  rw [h]

theorem lookup_eq_of_load {n : String} (h : s.load d = .ok es) :
    s.lookup d n = es.find? (·.name == n) := by
  unfold lookup
  rw [h]

/-- A change to the tree that is neither the map nor one of its directories leaves the map. -/
theorem load_changedAt {ks : List String} (h : Disk.ChangedAt d d' ks) (hp : d.key s.path ∉ ks)
    (ha : ∀ a ∈ Disk.ancestors (d.key s.path), d.key a ∉ ks) : s.load d' = s.load d := by
  unfold load
  rw [h.fileText_eq hp ha]

theorem Within.changedAt {ks : List String} (hw : s.Within V d) (h : Disk.ChangedAt d d' ks)
    (hp : d.key s.path ∉ ks) (ha : ∀ a ∈ Disk.ancestors (d.key s.path), d.key a ∉ ks) :
    s.Within V d' := by
  intro es hl
  rw [load_changedAt h hp ha] at hl
  exact hw es hl

/-! ### Writing -/

theorem save_eq_ok (h : s.save d es = .ok d') :
    ∃ d₁, d.putText s.tempName (s.format.write (documentItem es)) = .ok d₁ ∧ d₁.isDir s.path = false ∧
      d' = (d₁.erase s.tempName).put s.path (.file (s.format.write (documentItem es))) := by
  unfold save at h
  cases hp : d.putText s.tempName (s.format.write (documentItem es)) with
  | error err => simp [hp, Except.mapError, bind, Except.bind] at h
  | ok d₁ =>
    simp only [hp, Except.mapError, bind, Except.bind] at h
    split at h
    · cases h
    · rename_i hdir
      refine ⟨d₁, rfl, by simpa using hdir, ?_⟩
      simpa [pure, Except.pure, eq_comm] using h

/-- Writing the map changes only the map and its temporary file. -/
theorem save_changedAt (h : s.save d es = .ok d') :
    Disk.ChangedAt d d' [d.key s.tempName, d.key s.path] := by
  obtain ⟨d₁, hp, -, rfl⟩ := save_eq_ok h
  obtain ⟨rfl, -, -⟩ := Disk.putText_eq_ok hp
  refine ((Disk.ChangedAt.put_file.mono ?_).trans (Disk.ChangedAt.erase.mono ?_)).trans
    (Disk.ChangedAt.put_file.mono ?_) <;> simp

/-- A map that could be written beside its temporary file could be reached. -/
theorem blocked?_path_of_save (hs : s.Beside d) (h : s.save d es = .ok d') :
    d.blocked? s.path = none := by
  obtain ⟨d₁, hp, -, -⟩ := save_eq_ok h
  obtain ⟨-, hb, -⟩ := Disk.putText_eq_ok hp
  rcases Disk.blocked?_eq_none_iff.1 hb with h0 | hdirs
  · exact absurd h0 hs.1
  · rw [hs.2] at hdirs
    exact Disk.blocked?_eq_none_iff.2 (.inr hdirs)

/-- **The map's file after it is written** holds the text written. -/
theorem fileText_save (hs : s.Beside d) (h : s.save d es = .ok d') :
    d'.fileText s.path = .ok (s.format.write (documentItem es)) := by
  have hb := blocked?_path_of_save hs h
  have hch := save_changedAt h
  obtain ⟨d₁, hp, hdir₁, rfl⟩ := save_eq_ok h
  obtain ⟨rfl, -, htmp⟩ := Disk.putText_eq_ok hp
  -- the map was no directory before the temporary file was written either
  have hdir : d.isDir s.path = false := by
    by_cases hk : d.key s.path = d.key s.tempName
    · rw [Disk.isDir_eq_of_key_eq hk]
      exact htmp
    · rw [Disk.isDir, Disk.entry?_put_of_key_ne hk] at hdir₁
      exact hdir₁
  rw [Disk.fileText_eq_ok_iff]
  constructor
  · rcases Disk.blocked?_eq_none_iff.1 hb with h0 | hdirs
    · exact Disk.blocked?_eq_none_iff.2 (.inl (by simpa using h0))
    · refine Disk.blocked?_eq_none_iff.2 (.inr fun a ha => ?_)
      simp only [Disk.key_put, Disk.key_erase] at ha
      have hda := hdirs a ha
      -- an ancestor of the map is neither the map nor the temporary file, which are no directories
      have hkp : d.key a ≠ d.key s.path := Disk.key_ne_of_mem_ancestors hb hdir a ha
      have hkt : d.key a ≠ d.key s.tempName := fun hk => by
        rw [Disk.isDir_eq_of_key_eq hk, htmp] at hda
        exact absurd hda (by decide)
      rw [Disk.isDir, hch.entry?_eq a (by simp [hkp, hkt])]
      exact hda
  · apply Disk.entry?_put_self
    cases h₂ : ((d.put s.tempName (.file (s.format.write (documentItem es)))).erase s.tempName).isDir s.path
    · rfl
    · rw [Disk.isDir_of_isDir_erase h₂] at hdir₁
      cases hdir₁

/-- **The map read after it is written** is what was written. -/
theorem load_save (hs : s.Beside d) (h : s.save d es = .ok d') :
    s.load d' = s.decode (s.format.write (documentItem es)) :=
  load_eq_of_fileText (fileText_save hs h)

/-- A map that can be read, whose temporary file is no directory, can be written back. -/
theorem save_isOk (hs : s.Beside d) (hb : d.blocked? s.path = none) (hdir : d.isDir s.path = false)
    (htmp : d.isDir s.tempName = false) : ∃ d', s.save d es = .ok d' := by
  have hbt : d.blocked? s.tempName = none := by
    rcases Disk.blocked?_eq_none_iff.1 hb with h0 | hdirs
    · -- the working directory is a directory, and the map is none
      have : d.isDir s.path = true := by
        rw [Disk.isDir_eq_true_iff]
        exact Disk.entry?_of_fixedKey (by simp [Disk.FixedKey, h0])
      rw [hdir] at this
      cases this
    · rw [← hs.2] at hdirs
      exact Disk.blocked?_eq_none_iff.2 (.inr hdirs)
  have hdir₁ : (d.put s.tempName (.file (s.format.write (documentItem es)))).isDir s.path = false := by
    by_cases hk : d.key s.path = d.key s.tempName
    · rw [Disk.isDir, Disk.entry?_eq_of_key_eq (by simpa using hk), Disk.entry?_put_self htmp]
      rfl
    · rw [Disk.isDir, Disk.entry?_put_of_key_ne hk]
      exact hdir
  refine ⟨((d.put s.tempName (.file (s.format.write (documentItem es)))).erase s.tempName).put s.path
    (.file (s.format.write (documentItem es))), ?_⟩
  simp [save, Disk.putText_eq_ok_of hbt htmp, Except.mapError, bind, Except.bind, hdir₁, pure,
    Except.pure]

/-! ### Changes -/

theorem update_eq_ok {change : List Entry → List Entry} (h : s.update d change = .ok d') :
    ∃ es, s.load d = .ok es ∧ s.save d (change es) = .ok d' := by
  unfold update at h
  cases hl : s.load d with
  | error err => simp [hl, bind, Except.bind] at h
  | ok es => exact ⟨es, rfl, by simpa [hl, bind, Except.bind] using h⟩

/-- Changing the map writes only the map and its temporary file. -/
theorem update_changedAt {change : List Entry → List Entry} (h : s.update d change = .ok d') :
    Disk.ChangedAt d d' [d.key s.tempName, d.key s.path] := by
  obtain ⟨es, -, hs⟩ := update_eq_ok h
  exact save_changedAt hs

/-- **A change reads back** as the changed map, in some order. -/
theorem update_readBack (hs : s.Beside d) (hr : s.ReadsBack V) (hw : s.Within V d)
    {change : List Entry → List Entry}
    (hc : ∀ es, (∀ e ∈ es, V e) → (es.map (·.name)).Nodup →
      (∀ e ∈ change es, V e) ∧ ((change es).map (·.name)).Nodup)
    (h : s.update d change = .ok d') :
    ∃ es es', s.load d = .ok es ∧ s.load d' = .ok es' ∧ es'.Perm (change es) ∧
      ((change es).map (·.name)).Nodup ∧ ∀ e ∈ es', V e := by
  obtain ⟨es, hl, hsave⟩ := update_eq_ok h
  obtain ⟨hv, hn⟩ := hc es (hw es hl) (hr.load_nodup hl)
  obtain ⟨es', hd, hp⟩ := hr.readBack _ hv hn
  refine ⟨es, es', hl, ?_, hp, hn, fun e he => hv e (hp.subset he)⟩
  rw [load_save hs hsave, hd]

theorem update_within (hs : s.Beside d) (hr : s.ReadsBack V) (hw : s.Within V d)
    {change : List Entry → List Entry}
    (hc : ∀ es, (∀ e ∈ es, V e) → (es.map (·.name)).Nodup →
      (∀ e ∈ change es, V e) ∧ ((change es).map (·.name)).Nodup)
    (h : s.update d change = .ok d') : s.Within V d' := by
  obtain ⟨_, es', -, hl', -, -, hv⟩ := update_readBack hs hr hw hc h
  intro es'' hl''
  rw [hl'] at hl''
  cases hl''
  exact hv

theorem putEntry_within {e : Entry} (he : V e) :
    ∀ es, (∀ x ∈ es, V x) → (es.map (·.name)).Nodup →
      (∀ x ∈ putEntry e es, V x) ∧ ((putEntry e es).map (·.name)).Nodup := by
  intro es hv hn
  refine ⟨fun x hx => ?_, names_putEntry_nodup e hn⟩
  rcases mem_putEntry hx with rfl | hx
  · exact he
  · exact hv x hx

theorem removeEntry_within (m : String) :
    ∀ es, (∀ x ∈ es, V x) → (es.map (·.name)).Nodup →
      (∀ x ∈ removeEntry m es, V x) ∧ ((removeEntry m es).map (·.name)).Nodup :=
  fun _ hv hn => ⟨fun x hx => hv x (List.mem_filter.1 hx).1, names_removeEntry_nodup m hn⟩

theorem put_eq_update {e : Entry} (h : s.put d e = .ok d') : s.update d (putEntry e) = .ok d' := by
  unfold put at h
  split at h
  · cases h
  · exact h

/-- **After an entry is put**, it is the entry of its class, and every other class keeps its
entry. -/
theorem lookup_put (hs : s.Beside d) (hr : s.ReadsBack V) (hw : s.Within V d) {e : Entry} (he : V e)
    (h : s.put d e = .ok d') (n : String) :
    s.lookup d' n = if e.name = n then some e else s.lookup d n := by
  obtain ⟨es, es', hl, hl', hp, hn, -⟩ :=
    update_readBack hs hr hw (putEntry_within he) (put_eq_update h)
  rw [lookup_eq_of_load hl', lookup_eq_of_load hl, find?_name_perm hp hn, find?_putEntry]

/-- **After the entry of a class is removed**, it has none, and every other class keeps its
entry. -/
theorem lookup_remove (hs : s.Beside d) (hr : s.ReadsBack V) (hw : s.Within V d) {m : String}
    (h : s.remove d m = .ok d') (n : String) :
    s.lookup d' n = if m = n then none else s.lookup d n := by
  obtain ⟨es, es', hl, hl', hp, hn, -⟩ := update_readBack hs hr hw (removeEntry_within m) h
  rw [lookup_eq_of_load hl', lookup_eq_of_load hl, find?_name_perm hp hn, find?_removeEntry]

/-- **A removal that fails leaves no entry** of the class: the map could not be read, was
missing, or could not be written back, which a readable map beside a temporary file that is no
directory always can. -/
theorem lookup_eq_none_of_remove_error (hs : s.Beside d) (htmp : d.isDir s.tempName = false)
    {m : String} {err : Error} (h : s.remove d m = .error err) : s.lookup d m = none := by
  unfold lookup
  cases hl : s.load d with
  | error _ => rfl
  | ok es =>
    cases hf : d.fileText s.path with
    | error e =>
      -- a missing map reads as empty
      unfold load at hl
      simp only [hf] at hl
      split at hl
      · cases hl
        rfl
      · cases hl
    | ok text =>
      obtain ⟨hb, he⟩ := Disk.fileText_eq_ok_iff.1 hf
      have hdir : d.isDir s.path = false := by
        rw [Disk.isDir, he]
        rfl
      obtain ⟨d', hsave⟩ : ∃ d', s.save d (removeEntry m es) = .ok d' := save_isOk hs hb hdir htmp
      unfold remove update at h
      rw [hl] at h
      simp only [bind, Except.bind] at h
      rw [hsave] at h
      cases h

/-! ### A store ready on a tree -/

/-- **A store is ready on a tree**: its temporary file lies beside the map and is no directory,
and the map holds entries of `V` whenever it can be read. -/
structure Ready (s : Store) (V : Entry → Prop) (d : Disk) : Prop where
  beside : s.Beside d
  tempFree : d.isDir s.tempName = false
  within : s.Within V d

theorem Beside.changedAt {ks : List String} (hs : s.Beside d) (h : Disk.ChangedAt d d' ks) :
    s.Beside d' := by
  unfold Beside
  rw [h.key_eq, h.key_eq]
  exact hs

theorem isDir_false_changedAt {ks : List String} {p : String} (h : Disk.ChangedAt d d' ks)
    (hp : d.isDir p = false) : d'.isDir p = false := by
  cases h' : d'.isDir p
  · rfl
  · rw [h.isDir_of p h'] at hp
    cases hp

/-- A change to the tree elsewhere than the map and its directories keeps a store ready. -/
theorem Ready.changedAt {ks : List String} (hready : s.Ready V d) (h : Disk.ChangedAt d d' ks)
    (hp : d.key s.path ∉ ks) (ha : ∀ a ∈ Disk.ancestors (d.key s.path), d.key a ∉ ks) :
    s.Ready V d' :=
  ⟨hready.beside.changedAt h, isDir_false_changedAt h hready.tempFree, hready.within.changedAt h hp ha⟩

/-- A change to the map keeps its store ready. -/
theorem Ready.update (hready : s.Ready V d) (hr : s.ReadsBack V) {change : List Entry → List Entry}
    (hc : ∀ es, (∀ e ∈ es, V e) → (es.map (·.name)).Nodup →
      (∀ e ∈ change es, V e) ∧ ((change es).map (·.name)).Nodup)
    (h : s.update d change = .ok d') : s.Ready V d' :=
  ⟨hready.beside.changedAt (update_changedAt h), isDir_false_changedAt (update_changedAt h) hready.tempFree,
    update_within hready.beside hr hready.within hc h⟩

theorem Ready.put (hready : s.Ready V d) (hr : s.ReadsBack V) {e : Entry} (he : V e)
    (h : s.put d e = .ok d') : s.Ready V d' :=
  hready.update hr (putEntry_within he) (put_eq_update h)

theorem Ready.remove (hready : s.Ready V d) (hr : s.ReadsBack V) {m : String}
    (h : s.remove d m = .ok d') : s.Ready V d' :=
  hready.update hr (removeEntry_within m) h

/-- **A path apart from the store**: neither the map, its temporary file, nor one of the map's
directories. -/
def Apart (s : Store) (d : Disk) (p : String) : Prop :=
  d.key p ≠ d.key s.path ∧ d.key p ≠ d.key s.tempName ∧
    ∀ a ∈ Disk.ancestors (d.key s.path), d.key a ≠ d.key p

instance (s : Store) (d : Disk) (p : String) : Decidable (s.Apart d p) :=
  inferInstanceAs (Decidable (_ ∧ _ ∧ ∀ a ∈ _, _))

/-- A change at a path apart from the store leaves the map. -/
theorem Apart.load_eq {p : String} (hp : s.Apart d p) (h : Disk.ChangedAt d d' [d.key p]) :
    s.load d' = s.load d :=
  load_changedAt h (by simpa using Ne.symm hp.1) (fun a ha => by simpa using hp.2.2 a ha)

theorem Apart.lookup_eq {p n : String} (hp : s.Apart d p) (h : Disk.ChangedAt d d' [d.key p]) :
    s.lookup d' n = s.lookup d n := by
  unfold lookup
  rw [hp.load_eq h]

theorem Apart.ready {p : String} (hp : s.Apart d p) (hready : s.Ready V d)
    (h : Disk.ChangedAt d d' [d.key p]) : s.Ready V d' :=
  hready.changedAt h (by simpa using Ne.symm hp.1) (fun a ha => by simpa using hp.2.2 a ha)

theorem Apart.changedAt {p : String} {ks : List String} (hp : s.Apart d p) (h : Disk.ChangedAt d d' ks) :
    s.Apart d' p := by
  unfold Apart
  simp only [h.key_eq]
  exact hp

end Store

end Accessors.ClassMap
