import Accessors.Proofs.ClassMap.Updates
import Accessors.Proofs.Synthesis.Steps

/-!
# The class map kept as YAML

Runs keep the class map in YAML (`Format.yaml`): the text is read into the shape of the file,
and every object of it is built member by member, a key met again replacing its earlier value
(`Yaml.setMember`). So whatever text the map's file holds, the classes read from it are distinct
(`Store.decode_names_nodup`), which is the half of `Store.ReadsBack` that speaks of every text.
The other half, that a written map reads back, is about the writer and the reader together; for
fixed entries it is checked by evaluation.

* `Yaml.Yields`: what every successful run of a decoding step gives, with a rule for each way
  steps are put together, loops over lists included (`yields_forIn`).
* `Yaml.bind_dict`, `Yaml.bind_document`: a map read into the file's shape is null or an object of
  distinct keys, and so is the member `entries` of the file.
* `Store.ReadsBack.yaml`: a YAML store reads back the maps it writes of entries drawn from `V`
  once those maps read back; `Store.ReadsBack.of_format` moves the fact to any store of the same
  format, since the path shows only in errors.
-/

namespace Accessors.Yaml

/-! ### What a decoding step yields -/

/-- **What a decoding step yields**: every run of it that succeeds, from any state, gives a
value with `P`. -/
def Yields {α : Type} (x : BindM α) (P : α → Prop) : Prop :=
  ∀ s r s', x.run s = .ok (r, s') → P r

section Yields

variable {α β γ : Type} {P Q : α → Prop}

theorem yields_pure {a : α} (h : P a) : Yields (pure a) P := by
  intro s r s' hr
  cases hr
  exact h

theorem yields_throw (e : String) : Yields (throw e : BindM α) P := by
  intro s r s' hr
  cases hr

theorem yields_true (x : BindM α) : Yields x fun _ => True :=
  fun _ _ _ _ => trivial

theorem Yields.bind {x : BindM α} {f : α → BindM β} {R : β → Prop} (hx : Yields x Q)
    (hf : ∀ a, Q a → Yields (f a) R) : Yields (x >>= f) R := by
  intro s r s' h
  rw [StateT.run_bind] at h
  cases hrun : x.run s with
  | error e =>
    rw [hrun] at h
    cases h
  | ok p =>
    obtain ⟨a, s₁⟩ := p
    rw [hrun] at h
    exact hf a (hx s a s₁ hrun) s₁ r s' h

/-- **A loop over a list** keeps an invariant that every step keeps. -/
theorem yields_forIn (I : β → Prop) (xs : List γ) (init : β) (f : γ → β → BindM (ForInStep β))
    (h0 : I init) (hf : ∀ a ∈ xs, ∀ b, I b → Yields (f a b) fun r => I r.value) :
    Yields (forIn xs init f) I := by
  induction xs generalizing init with
  | nil => exact yields_pure h0
  | cons a as ih =>
    rw [List.forIn_cons]
    refine (hf a List.mem_cons_self init h0).bind fun r hr => ?_
    cases r with
    | done b => exact yields_pure hr
    | yield b => exact ih b hr fun a' ha' => hf a' (List.mem_cons_of_mem _ ha')

end Yields

/-! ### Objects of distinct keys -/

/-- Setting a member keeps the keys distinct. -/
theorem keys_setMember_nodup {ms : List (String × Json)} (h : (ms.map (·.1)).Nodup) (k : String)
    (v : Json) : ((setMember ms k v).map (·.1)).Nodup := by
  unfold setMember
  split
  · -- the member is replaced in place: the keys stay as they were
    rw [List.map_map]
    refine (List.map_congr_left fun p _ => ?_).symm ▸ h
    obtain ⟨k', v'⟩ := p
    simp only [Function.comp_apply]
    split <;> rfl
  · rename_i hnone
    have hk : k ∉ ms.map (·.1) := by
      simp only [List.mem_map, not_exists, not_and]
      intro p hp hpk
      exact hnone (List.any_eq_true.2 ⟨p, hp, by simp [hpk]⟩)
    rw [List.map_append, List.map_singleton, List.nodup_append]
    refine ⟨h, List.nodup_singleton k, fun a ha b hb => ?_⟩
    rw [List.mem_singleton.1 hb]
    rintro rfl
    exact hk ha

/-- A member after setting one is the member set or one that was there. -/
theorem mem_setMember {ms : List (String × Json)} {k : String} {v : Json} {p : String × Json}
    (hp : p ∈ setMember ms k v) : p = (k, v) ∨ p ∈ ms := by
  unfold setMember at hp
  split at hp
  · obtain ⟨⟨k', v'⟩, hq, rfl⟩ := List.mem_map.1 hp
    dsimp only
    split
    · next hkk => exact .inl (by rw [beq_iff_eq.1 hkk])
    · exact .inr hq
  · rcases List.mem_append.1 hp with hp | hp
    · exact .inr hp
    · exact .inl (List.mem_singleton.1 hp)

/-- **A value read as a map**: null, or an object whose keys are distinct. -/
def DistinctObject (j : Json) : Prop := ∀ ms, j.obj? = some ms → (ms.map (·.1)).Nodup

/-- **A map read into the shape of a map** is null or an object of distinct keys: its members are
set one by one, each replacing one of its key. -/
theorem bind_dict (strict : Bool) (e : Shape) :
    ∀ (n : Nat) (path : List String) (j : Json),
      Yields (bind strict n (.dict e) path j) fun r => ∀ x, r = some x → DistinctObject x
  | 0, _, _ => yields_throw _
  | n + 1, path, j => by
    rcases j with _ | b | t | s | items | members
    case null =>
      simp only [bind]
      exact yields_pure fun x hx => by
        cases hx
        intro ms hms
        cases hms
    case obj =>
      simp only [bind]
      refine (yields_forIn (fun ms : List (String × Json) => (ms.map Prod.fst).Nodup) members [] _
        List.nodup_nil fun a _ b hb => ?_).bind fun ms hms => ?_
      · exact (yields_true _).bind fun r _ => yields_pure (keys_setMember_nodup hb _ _)
      · exact yields_pure fun x hx => by
          cases hx
          intro ms' hms'
          cases hms'
          exact hms
    all_goals
      simp only [bind]
      exact (yields_true _).bind fun _ _ => yields_pure fun x hx => by cases hx

/-- A field a key names is one of the record's fields. -/
theorem mem_of_field? {n : String} {fs : List (String × Shape)} {key : String} {f : String × Shape}
    (h : (Shape.record n fs).field? key = some f) : f ∈ fs := by
  -- the exact name first, then the name ignoring case
  cases hg : fs.find? (·.1 == key) with
  | some g =>
    simp only [Shape.field?, hg, Option.some.injEq] at h
    rw [← h]
    exact List.mem_of_find?_eq_some hg
  | none =>
    simp only [Shape.field?, hg] at h
    exact List.mem_of_find?_eq_some h

/-- The field `entries` of the class map's file is a map of entries. -/
theorem document_entries_field {key : String} {f : String × Shape}
    (h : ClassMap.documentShape.field? key = some f) (hf : f.1 = "entries") :
    f.2 = .dict ClassMap.entryShape := by
  have hmem := mem_of_field? h
  simp only [List.mem_cons, List.not_mem_nil, or_false] at hmem
  rcases hmem with rfl | rfl
  · exact absurd hf (by decide)
  · rfl

/-- **Members whose `entries` are maps of distinct keys.** -/
def EntriesDistinct (out : List (String × Json)) : Prop :=
  ∀ p ∈ out, p.1 = "entries" → DistinctObject p.2

/-- The member `entries` of an object whose `entries` members are maps of distinct keys. -/
theorem get_entries_distinct {out : List (String × Json)} (h : EntriesDistinct out) :
    DistinctObject ((Json.obj out).get "entries") := by
  simp only [Json.get]
  cases hfind : out.find? (·.1 == "entries") with
  | none =>
    intro ms hms
    cases hms
  | some p =>
    exact h p (List.mem_of_find?_eq_some hfind) (by simpa using List.find?_some hfind)

/-- **The class map's file read into its shape** has a map of distinct keys as `entries`: the
record's members are set one by one, and a member named `entries` is read as a map. -/
theorem bind_document (strict : Bool) :
    ∀ (n : Nat) (path : List String) (j : Json),
      Yields (bind strict n ClassMap.documentShape path j)
        fun r => ∀ x, r = some x → DistinctObject (x.get "entries")
  | 0, _, _ => yields_throw _
  | n + 1, path, j => by
    rcases j with _ | b | t | s | items | members
    case null =>
      simp only [bind, ClassMap.documentShape]
      exact yields_pure fun x hx => by cases hx
    case obj =>
      simp only [bind, ClassMap.documentShape]
      refine (yields_forIn EntriesDistinct members [] _ (fun p hp => nomatch hp)
        fun a _ out hout => ?_).bind fun out hout => yields_pure fun x hx => ?_
      · -- one member: a field of the record, or an unknown key
        split
        · next name sub hfield =>
          have hsub : Yields (bind strict n sub (path ++ [a.1]) a.2)
              fun d => name = "entries" → ∀ x, d = some x → DistinctObject x := by
            by_cases hname : name = "entries"
            · have hdict := document_entries_field hfield hname
              simp only at hdict
              rw [hdict]
              intro s d s' hrun _
              exact bind_dict strict _ n _ _ s d s' hrun
            · exact fun _ _ _ _ hn => absurd hn hname
          refine hsub.bind fun d hd => ?_
          split
          · next r =>
            refine yields_pure fun p hp hpe => ?_
            rcases mem_setMember hp with rfl | hp
            · exact hd hpe r rfl
            · exact hout p hp hpe
          · exact yields_pure hout
        · split
          · exact (yields_true _).bind fun _ _ => yields_pure hout
          · exact yields_pure hout
      · cases hx
        exact get_entries_distinct hout
    all_goals
      simp only [bind, ClassMap.documentShape]
      exact (yields_true _).bind fun _ _ => yields_pure fun x hx => by cases hx

/-- **A text read into a shape** is what decoding the converted document into the shape gives, or
the shape's zero value when that gives nothing. -/
theorem readInto_eq_ok {text : String} {shape : Shape} {strict : Bool} {doc : Json}
    (h : readInto text shape strict = .ok doc) :
    ∃ json r s, (bind strict bindDepth shape [] json).run none = .ok (r, s) ∧ doc = r.getD shape.zero := by
  unfold readInto at h
  cases hy : readYaml text strict with
  | error e => simp [hy, Except.mapError, Bind.bind, Except.bind] at h
  | ok item =>
    cases hj : toJson bindDepth item (some shape) with
    | error e => simp [hy, hj, Except.mapError, Bind.bind, Except.bind] at h
    | ok json =>
      simp only [hy, hj, Except.mapError, Bind.bind, Except.bind] at h
      -- past the unsupported numbers, the decoding and its recorded error
      split at h
      · cases h
      · split at h
        · cases h
        · next r s hrun =>
          split at h
          · cases h
          · cases h
            exact ⟨json, r, _, hrun, rfl⟩

end Accessors.Yaml

namespace Accessors.ClassMap.Store

variable {s s' : Store} {V W : Entry → Prop}

/-- The classes of the entries of a document are the keys of its `entries`. -/
theorem decodeDocument_names {doc : Json} {es : List Entry} (h : s.decodeDocument doc = .ok es) :
    es.map (·.name) = ((doc.get "entries").obj?.getD []).map Prod.fst := by
  unfold decodeDocument at h
  cases hc : s.checkVersion ((doc.get "version").str?.getD "") with
  | error e => simp [hc, Bind.bind, Except.bind] at h
  | ok u =>
    simp only [hc, Bind.bind, Except.bind, pure, Except.pure, Except.ok.injEq] at h
    rw [← h, List.map_map]
    refine List.map_congr_left fun p _ => ?_
    obtain ⟨k, v⟩ := p
    rfl

/-- **The classes a YAML store reads from any text are distinct.** -/
theorem decode_names_nodup (hs : s.format = .yaml) {text : String} {es : List Entry}
    (h : s.decode text = .ok es) : (es.map (·.name)).Nodup := by
  unfold decode at h
  rw [hs] at h
  cases hr : Yaml.readInto text documentShape false with
  | error e =>
    have hr' : Format.yaml.read text = .error e := hr
    rw [hr'] at h
    cases h
  | ok doc =>
    have hr' : Format.yaml.read text = .ok doc := hr
    rw [hr'] at h
    obtain ⟨json, r, s₁, hrun, rfl⟩ := Yaml.readInto_eq_ok hr
    rw [decodeDocument_names h]
    -- nothing decoded leaves the shape's zero value, which has no entries
    have hdist : Yaml.DistinctObject ((r.getD documentShape.zero).get "entries") := by
      cases r with
      | none =>
        intro ms hms
        cases hms
      | some x => exact Yaml.bind_document false _ [] json none (some x) s₁ hrun x rfl
    cases hobj : ((r.getD documentShape.zero).get "entries").obj? with
    | none => exact List.nodup_nil
    | some ms => exact hdist ms hobj

/-- Whether a format version is accepted does not depend on the store. -/
theorem checkVersion_eq_ok_iff (s s' : Store) (raw : String) :
    s.checkVersion raw = .ok () ↔ s'.checkVersion raw = .ok () := by
  unfold checkVersion
  cases Version.parse raw with
  | error e => simp
  | ok v => by_cases hv : v.supported = true <;> simp [hv]

theorem decodeDocument_eq_ok_iff (s s' : Store) (doc : Json) (es : List Entry) :
    s.decodeDocument doc = .ok es ↔ s'.decodeDocument doc = .ok es := by
  unfold decodeDocument
  have hv := checkVersion_eq_ok_iff s s' ((doc.get "version").str?.getD "")
  cases hc : s.checkVersion ((doc.get "version").str?.getD "") <;>
    cases hc' : s'.checkVersion ((doc.get "version").str?.getD "") <;>
    simp_all [Bind.bind, Except.bind, pure, Except.pure]

/-- **What a store reads from a text** depends on its format alone: its path shows only in
errors. -/
theorem decode_eq_ok_iff_of_format (hf : s.format = s'.format) (text : String) (es : List Entry) :
    s.decode text = .ok es ↔ s'.decode text = .ok es := by
  unfold decode
  rw [hf]
  cases s'.format.read text with
  | error e => simp
  | ok doc => exact decodeDocument_eq_ok_iff s s' doc es

/-- **A YAML store reads back** the maps of entries drawn from `V` once those maps, written, read
back as their entries in some order: that the classes read are distinct comes from the reader. -/
theorem ReadsBack.yaml (hs : s.format = .yaml)
    (h : ∀ es : List Entry, (∀ e ∈ es, V e) → (es.map (·.name)).Nodup →
      ∃ es', s.decode (s.format.write (documentItem es)) = .ok es' ∧ es'.Perm es) :
    s.ReadsBack V :=
  ⟨fun _ _ hd => decode_names_nodup hs hd, h⟩

/-- Reading back is a fact about the format, true of every store that keeps its map in it. -/
theorem ReadsBack.of_format (hf : s.format = s'.format) (h : s.ReadsBack V) : s'.ReadsBack V where
  nodup text es hd := h.nodup text es ((decode_eq_ok_iff_of_format hf text es).2 hd)
  readBack es hv hn := by
    obtain ⟨es', hd, hp⟩ := h.readBack es hv hn
    rw [← hf]
    exact ⟨es', (decode_eq_ok_iff_of_format hf _ es').1 hd, hp⟩

/-- A store that reads back the maps of entries drawn from `V` reads back those drawn from fewer. -/
theorem ReadsBack.mono (h : s.ReadsBack V) (hW : ∀ e, W e → V e) : s.ReadsBack W :=
  ⟨h.nodup, fun es hw hn => h.readBack es (fun e he => hW e (hw e he)) hn⟩

/-- The lists of distinct entries drawn from two: none, one of them, or both in either order. -/
theorem eq_of_mem_pair {a b : Entry} : ∀ {es : List Entry}, es.Nodup → (∀ e ∈ es, e ∈ [a, b]) →
    es = [] ∨ es = [a] ∨ es = [b] ∨ es = [a, b] ∨ es = [b, a]
  | [], _, _ => .inl rfl
  | [x], _, hs => by
    rcases List.mem_pair.1 (hs x List.mem_cons_self) with rfl | rfl <;> simp
  | [x, y], hn, hs => by
    rcases List.mem_pair.1 (hs x (by simp)) with rfl | rfl <;>
      rcases List.mem_pair.1 (hs y (by simp)) with rfl | rfl <;> simp_all
  | x :: y :: z :: _, hn, hs => by
    -- three distinct entries cannot be drawn from two
    rcases List.mem_pair.1 (hs x (by simp)) with rfl | rfl <;>
      rcases List.mem_pair.1 (hs y (by simp)) with rfl | rfl <;>
      rcases List.mem_pair.1 (hs z (by simp)) with rfl | rfl <;> simp_all

/-- **Checks that maps read back**: each of them, written, reads back as its entries in some
order. -/
def readsBackAll (s : Store) (maps : List (List Entry)) : Bool :=
  maps.all fun es =>
    (s.decode (s.format.write (documentItem es))).toOption.any fun es' => decide (es'.Perm es)

theorem exists_of_readsBackAll {maps : List (List Entry)} (h : s.readsBackAll maps = true)
    {es : List Entry} (hes : es ∈ maps) :
    ∃ es', s.decode (s.format.write (documentItem es)) = .ok es' ∧ es'.Perm es := by
  obtain ⟨es', hsome, hperm⟩ := (Option.any_eq_true _ _).1 (List.all_eq_true.1 h es hes)
  exact ⟨es', Except.eq_ok_of_toOption hsome, of_decide_eq_true hperm⟩

/-- **A YAML store reads back two entries** when the five maps they make are checked to read
back. -/
theorem ReadsBack.yaml_pair (hs : s.format = .yaml) {a b : Entry}
    (h : s.readsBackAll [[], [a], [b], [a, b], [b, a]] = true) :
    s.ReadsBack (· ∈ [a, b]) :=
  .yaml hs fun es hv hn => exists_of_readsBackAll h (by
    rcases eq_of_mem_pair (List.Nodup.of_map _ hn) hv with rfl | rfl | rfl | rfl | rfl <;> simp)

/-- **A store keeping its map in YAML reads back the maps of two entries of one class** when it
reads back the maps each makes alone: two entries of one class never stand in one map. -/
theorem ReadsBack.yaml_same_name (hs : s.format = .yaml) {a b : Entry} (hab : a.name = b.name)
    (h : s.readsBackAll [[], [a], [b]] = true) : s.ReadsBack (· ∈ [a, b]) :=
  .yaml hs fun es hv hn => exists_of_readsBackAll h (by
    rcases eq_of_mem_pair (List.Nodup.of_map _ hn) hv with rfl | rfl | rfl | rfl | rfl
    · simp
    · simp
    · simp
    · simp [hab] at hn
    · simp [hab] at hn)

end Accessors.ClassMap.Store
