import SecretSync.Proofs.Text.Utf8
import SecretSync.Vault.Pull

/-!
# What an answer tells

The data of an answer is a value of any sort.  It can be read exactly if it lists nothing, or a list
of records that each tell an id and a text as value; the last record of an id decides on its value.
The values that were read can be encoded unless one of them has halves of surrogate pairs in it.
-/

namespace SecretSync.Vault

/-- The value that a record of an answer tells for an id. -/
def told? (id : String) (item : Json) : Option String :=
  match item.member? "id", item.member? "value" with
  | some given, some (.str value) => if given.plain = id then some value else none
  | _, _ => none

/-- The records that data lists; what counts as false lists nothing. -/
def Lists (data : Json) (items : List Json) : Prop :=
  (data.member? "secrets").getD .null = .arr items ∨
    ((data.member? "secrets").getD .null).isTruthy = false ∧ items = []

/-- Data lists records, and each of them tells a value for some id. -/
structure Tells (data : Json) (items : List Json) : Prop where
  lists : Lists data items
  told : ∀ item ∈ items, ∃ id value, told? id item = some value

/-- One of the values that records tell has a half of a surrogate pair in it. -/
def Garbled (items : List Json) : Prop :=
  ∃ item ∈ items, ∃ id value, told? id item = some value ∧ Text.hasHalf value = true

/-- Changed values are all that data tells, and nothing else. -/
structure Delta.Gathers (delta : Delta) (data : Json) (items : List Json) : Prop where
  tells : Tells data items
  whole : ¬ Garbled items
  flag : delta.hasChanges = ((data.member? "has_changes").getD (.bool false)).isTruthy
  values : ∀ id, delta.values.get? id = (items.reverse.findSome? (told? id)).map Text.Utf8.encode

namespace Changes

variable {item data : Json} {items items' : List Json} {e : Entry} {changes : Changes}
  {delta : Delta}

private theorem entryMember_eq_ok_iff {name : String} {value : Json} :
    entryMember name item = .ok value ↔ item.member? name = some value := by
  unfold entryMember
  cases item.member? name <;> simp

/-- A record is read if it has an id and its value is a text. -/
theorem readEntry_eq_ok_iff :
    readEntry item = .ok e ↔ ∃ given, item.member? "id" = some given ∧ given.plain = e.id ∧
      item.member? "value" = some (.str e.value) := by
  rcases e with ⟨id, text⟩
  unfold readEntry
  constructor
  · intro h
    cases hid : entryMember "id" item with
    | error _ =>
      rw [hid] at h
      cases h
    | ok given =>
      cases hvalue : entryMember "value" item with
      | error _ =>
        rw [hid, hvalue] at h
        cases h
      | ok value =>
        rw [hid, hvalue] at h
        cases value with
        | str _ =>
          cases h
          exact ⟨given, entryMember_eq_ok_iff.mp hid, rfl, entryMember_eq_ok_iff.mp hvalue⟩
        | _ => cases h
  · rintro ⟨given, hid, rfl, hvalue⟩
    rw [entryMember_eq_ok_iff.mpr hid, entryMember_eq_ok_iff.mpr hvalue]
    rfl

/-- A record that is read tells its value for its id only. -/
theorem told?_of_readEntry (h : readEntry item = .ok e) (id : String) :
    told? id item = if e.id = id then some e.value else none := by
  rcases readEntry_eq_ok_iff.mp h with ⟨given, hid, hplain, hvalue⟩
  simp [told?, hid, hvalue, hplain]

/-- A record is read exactly if it tells a value for some id. -/
theorem exists_readEntry_iff :
    (∃ e, readEntry item = .ok e) ↔ ∃ id value, told? id item = some value := by
  constructor
  · rintro ⟨e, h⟩
    exact ⟨e.id, e.value, by rw [told?_of_readEntry h, if_pos rfl]⟩
  · rintro ⟨id, value, h⟩
    unfold told? at h
    split at h
    · next given text hid hvalue =>
      exact ⟨⟨given.plain, text⟩, readEntry_eq_ok_iff.mpr ⟨given, hid, rfl, hvalue⟩⟩
    · cases h

private theorem mapM_eq_ok_iff {α β ε : Type} {f : α → Except ε β} {l : List α} {l' : List β} :
    l.mapM f = .ok l' ↔ l.map f = l'.map Except.ok := by
  induction l generalizing l' with
  | nil => cases l' <;> simp [pure, Except.pure]
  | cons a l ih =>
    rw [List.mapM_cons, List.map_cons]
    cases f a with
    | error e => cases l' <;> simp [bind, Except.bind]
    | ok b =>
      cases hl : l.mapM f with
      | error e =>
        cases l' with
        | nil => simp [bind, Except.bind]
        | cons b' l' =>
          have hne : l.map f ≠ l'.map Except.ok := by
            rw [Ne, ← ih, hl]
            simp
          simp [bind, Except.bind, hne]
      | ok bs =>
        cases l' with
        | nil => simp [bind, Except.bind, pure, Except.pure]
        | cons b' l' =>
          have hrest : bs = l' ↔ l.map f = l'.map Except.ok := by
            rw [← ih, hl, Except.ok.injEq]
          simp [bind, Except.bind, pure, Except.pure, hrest]

/-- The characters of a text are no records. -/
theorem readEntry_str (s : String) : readEntry (.str s) ≠ .ok e := by
  intro h
  rcases readEntry_eq_ok_iff.mp h with ⟨given, hid, -⟩
  cases hid

/-- Of records that are all read each one is. -/
theorem exists_readEntry_of_mem {entries : List Entry}
    (h : items.map readEntry = entries.map Except.ok) (hitem : item ∈ items) :
    ∃ e, readEntry item = .ok e := by
  have hread : readEntry item ∈ entries.map Except.ok := by
    rw [← h]
    exact List.mem_map_of_mem hitem
  rcases List.mem_map.mp hread with ⟨e, -, he⟩
  exact ⟨e, he.symm⟩

/-- Items are those of a list, or none, or the characters of a text that is not empty. -/
theorem items_cases {secrets : Json} (h : Changes.items secrets = .ok items) :
    secrets = .arr items ∨ (secrets.isTruthy = false ∧ items = []) ∨
      ∃ s rest, items = .str s :: rest := by
  unfold Changes.items at h
  split at h
  · next hfalse =>
    cases h
    exact Or.inr (Or.inl ⟨by simpa using hfalse, rfl⟩)
  · next htrue =>
    split at h
    · cases h
      exact Or.inl rfl
    · next s =>
      cases h
      cases hchars : s.toList with
      | nil => simp [Json.isTruthy, String.toList_eq_nil_iff.mp hchars] at htrue
      | cons c rest => exact Or.inr (Or.inr ⟨_, _, List.map_cons⟩)
    · cases h

/-- Records that are listed are the items. -/
theorem items_of_lists (lists : Lists data items) :
    Changes.items ((data.member? "secrets").getD .null) = .ok items := by
  unfold Changes.items
  rcases lists with hlist | ⟨hfalse, rfl⟩
  · rw [hlist]
    cases items <;> rfl
  · rw [hfalse]
    rfl

/-- What is read of data was listed record by record. -/
theorem lists_of_ofAnswer (h : ofAnswer data = .ok changes) :
    ∃ items, Lists data items ∧ items.map readEntry = changes.entries.map Except.ok ∧
      changes.any = ((data.member? "has_changes").getD (.bool false)).isTruthy := by
  unfold ofAnswer at h
  cases hitems : Changes.items ((data.member? "secrets").getD .null) with
  | error _ =>
    rw [hitems] at h
    cases h
  | ok items =>
    rw [hitems] at h
    change items.mapM readEntry >>= _ = _ at h
    cases hentries : items.mapM readEntry with
    | error _ =>
      rw [hentries] at h
      cases h
    | ok entries =>
      rw [hentries] at h
      cases h
      have hmap := mapM_eq_ok_iff.mp hentries
      rcases items_cases hitems with hlist | hfalse | ⟨s, rest, rfl⟩
      · exact ⟨items, Or.inl hlist, hmap, rfl⟩
      · exact ⟨items, Or.inr hfalse, hmap, rfl⟩
      · cases entries with
        | nil => cases hmap
        | cons e entries => exact absurd (List.cons.inj hmap).1 (readEntry_str s)

/-- Data that lists records, each of which can be read, is read. -/
theorem exists_ofAnswer (lists : Lists data items)
    (whole : ∀ item ∈ items, ∃ e, readEntry item = .ok e) :
    ∃ changes, ofAnswer data = .ok changes := by
  have hentries : ∃ entries, items.mapM readEntry = .ok entries := by
    clear lists
    induction items with
    | nil => exact ⟨[], rfl⟩
    | cons item items ih =>
      rw [List.forall_mem_cons] at whole
      rcases whole.1 with ⟨e, he⟩
      rcases ih whole.2 with ⟨entries, hrest⟩
      refine ⟨e :: entries, ?_⟩
      rw [List.mapM_cons, he, hrest]
      rfl
  rcases hentries with ⟨entries, hentries⟩
  unfold ofAnswer
  rw [items_of_lists lists]
  change ∃ changes, (items.mapM readEntry >>= _) = _
  rw [hentries]
  exact ⟨_, rfl⟩

/-- Data is read exactly if it tells records. -/
theorem exists_ofAnswer_iff :
    (∃ changes, ofAnswer data = .ok changes) ↔ ∃ items, Tells data items := by
  constructor
  · rintro ⟨changes, h⟩
    rcases lists_of_ofAnswer h with ⟨items, hlists, hmap, -⟩
    exact ⟨items, hlists, fun item hitem =>
      exists_readEntry_iff.mp (exists_readEntry_of_mem hmap hitem)⟩
  · rintro ⟨items, hlists, htold⟩
    exact exists_ofAnswer hlists (fun item hitem => exists_readEntry_iff.mpr (htold item hitem))

/-- Data lists one row of records only. -/
theorem lists_unique (h : Lists data items) (h' : Lists data items') : items = items' := by
  have hitems := items_of_lists h
  rw [items_of_lists h'] at hitems
  exact (Except.ok.inj hitems).symm

/-- Looking up an id among entries finds what the first record tells for it. -/
theorem lookup_entries {entries : List Entry}
    (h : items.map readEntry = entries.map Except.ok) (id : String) :
    Dict.lookup id (entries.map (fun e => (e.id, Text.Utf8.encode e.value))) =
      (items.findSome? (told? id)).map Text.Utf8.encode := by
  induction items generalizing entries with
  | nil =>
    have hnil : entries = [] := by simpa using h.symm
    rw [hnil]
    rfl
  | cons item items ih =>
    cases entries with
    | nil => simp at h
    | cons e entries =>
      rcases List.cons.inj h with ⟨hfirst, hrest⟩
      rw [List.findSome?_cons, told?_of_readEntry hfirst, List.map_cons, Dict.lookup]
      by_cases hid : e.id = id
      · simp [hid]
      · simpa [hid] using ih hrest

/-- One of the values that were read has a half exactly if one of those that are told has. -/
theorem garbled_iff (h : items.map readEntry = changes.entries.map Except.ok) :
    Garbled items ↔ ∃ e ∈ changes.entries, Text.hasHalf e.value = true := by
  constructor
  · rintro ⟨item, hitem, id, value, htold, hhalf⟩
    have hread : readEntry item ∈ changes.entries.map Except.ok := by
      rw [← h]
      exact List.mem_map_of_mem hitem
    rcases List.mem_map.mp hread with ⟨e, hmem, he⟩
    rw [told?_of_readEntry he.symm] at htold
    split at htold
    · cases htold
      exact ⟨e, hmem, hhalf⟩
    · cases htold
  · rintro ⟨e, hmem, hhalf⟩
    have hread : Except.ok e ∈ items.map readEntry := by
      rw [h]
      exact List.mem_map_of_mem hmem
    rcases List.mem_map.mp hread with ⟨item, hitem, he⟩
    exact ⟨item, hitem, e.id, e.value, by rw [told?_of_readEntry he, if_pos rfl], hhalf⟩

/-- Values are encoded exactly if none of them has a half. -/
theorem ofChanges_eq_ok_iff :
    Delta.ofChanges changes = .ok delta ↔
      (∀ e ∈ changes.entries, Text.hasHalf e.value = false) ∧ delta = ⟨changes.any,
        Dict.ofList (changes.entries.map (fun e => (e.id, Text.Utf8.encode e.value)))⟩ := by
  have hmapM (hwhole : ∀ e ∈ changes.entries, Text.hasHalf e.value = false) :
      changes.entries.mapM (fun e => (Text.Utf8.encode? e.value).map (e.id, ·)) =
        .ok (changes.entries.map (fun e => (e.id, Text.Utf8.encode e.value))) := by
    rw [mapM_eq_ok_iff, List.map_map]
    apply List.map_congr_left
    intro e he
    rw [Text.Utf8.encode?_of_whole (hwhole e he)]
    rfl
  constructor
  · intro h
    have hwhole : ∀ e ∈ changes.entries, Text.hasHalf e.value = false := by
      unfold Delta.ofChanges at h
      cases hvalues : changes.entries.mapM
          (fun e => (Text.Utf8.encode? e.value).map (e.id, ·)) with
      | error _ =>
        rw [hvalues] at h
        cases h
      | ok values =>
        intro e he
        have hmem := List.mem_map_of_mem he
          (f := fun e => (Text.Utf8.encode? e.value).map (e.id, ·))
        rw [mapM_eq_ok_iff.mp hvalues] at hmem
        rcases List.mem_map.mp hmem with ⟨value, -, hvalue⟩
        cases hencode : Text.Utf8.encode? e.value with
        | error _ =>
          rw [hencode] at hvalue
          cases hvalue
        | ok octets => exact (Text.Utf8.encode?_eq_ok_iff.mp hencode).1
    refine ⟨hwhole, ?_⟩
    rw [Delta.ofChanges, hmapM hwhole] at h
    exact (Except.ok.inj h).symm
  · rintro ⟨hwhole, rfl⟩
    rw [Delta.ofChanges, hmapM hwhole]
    rfl

/-- Changes that are read and encoded gather what the data tells. -/
theorem gathers_ofAnswer (h : ofAnswer data = .ok changes)
    (hvalues : Delta.ofChanges changes = .ok delta) : ∃ items, delta.Gathers data items := by
  rcases lists_of_ofAnswer h with ⟨items, hlists, hmap, hany⟩
  rcases ofChanges_eq_ok_iff.mp hvalues with ⟨hwhole, rfl⟩
  refine ⟨items, ⟨hlists, fun item hitem => ?_⟩, ?_, hany, ?_⟩
  · exact exists_readEntry_iff.mp (exists_readEntry_of_mem hmap hitem)
  · rw [garbled_iff hmap]
    rintro ⟨e, hmem, hhalf⟩
    rw [hwhole e hmem] at hhalf
    cases hhalf
  · intro id
    have hreverse : items.reverse.map readEntry = changes.entries.reverse.map Except.ok := by
      rw [List.map_reverse, hmap, List.map_reverse]
    rw [← lookup_entries hreverse id, List.map_reverse]
    exact (Dict.get?_insertAll _ Dict.empty id).trans (Option.or_none)

/-- Changes that are read and not encoded have a half in one of the values that the data tells. -/
theorem garbled_ofAnswer {error : Text.Utf8.EncodeError} (h : ofAnswer data = .ok changes)
    (hvalues : Delta.ofChanges changes = .error error) :
    ∃ items, Tells data items ∧ Garbled items := by
  rcases lists_of_ofAnswer h with ⟨items, hlists, hmap, -⟩
  refine ⟨items, ⟨hlists, fun item hitem => ?_⟩, ?_⟩
  · exact exists_readEntry_iff.mp (exists_readEntry_of_mem hmap hitem)
  · rw [garbled_iff hmap]
    cases hany : changes.entries.any (fun e => Text.hasHalf e.value) with
    | true => exact List.any_eq_true.mp hany
    | false =>
      have hwhole : ∀ e ∈ changes.entries, Text.hasHalf e.value = false :=
        fun e he => Bool.eq_false_iff.mpr (List.any_eq_false.mp hany e he)
      have hok := ofChanges_eq_ok_iff.mpr ⟨hwhole, rfl⟩
      rw [hvalues] at hok
      cases hok

end Changes
end SecretSync.Vault
