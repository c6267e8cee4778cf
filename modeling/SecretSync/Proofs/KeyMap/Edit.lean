import SecretSync.Proofs.KeyMap.Recovery

/-!
# Which edits of a key map lose nothing

Stored data are all that is left of the vault data that were pulled.  When the key map is edited,
they are brought back by the earlier key map and filled again under the later one.  `Recovers` says
for which edits this is as good as having had the later key map from the beginning.
-/

namespace SecretSync.KeyMap

/-- Whether a map tells an identifier can be decided. -/
instance (m : KeyMap) (id : String) : Decidable (m.Tells id) := inferInstanceAs (Decidable (_ ∧ _))

/-- Whether a map is unambiguous can be decided. -/
instance (m : KeyMap) : Decidable m.Unambiguous :=
  inferInstanceAs (Decidable (∀ l ∈ m, ∀ l' ∈ m, l.keyName = l'.keyName → l.secretId = l'.secretId))

/-- What was filled under the earlier key map tells all that the later one needs. -/
def Recovers : Option KeyMap → Option KeyMap → Prop
  | none, _ => True
  | some _, none => False
  | some earlier, some later => ∀ l ∈ later, earlier.Tells l.secretId

/-- Whether one map recovers another can be decided. -/
instance : (earlier later : Option KeyMap) → Decidable (Recovers earlier later)
  | none, _ => isTrue trivial
  | some _, none => isFalse id
  | some earlier, some later => inferInstanceAs (Decidable (∀ l ∈ later, earlier.Tells l.secretId))

/-- Data filled under the earlier key map, brought back, with changes added, and filled under the
later one. -/
def refilled (earlier later : Option KeyMap) (data changes : Data) : Data :=
  applyOptional later ((restoreOptional earlier (applyOptional earlier data)).merge changes)

private theorem exists_last {α : Type} {p : α → Prop} [DecidablePred p] {l : List α}
    (h : ∃ a ∈ l, p a) :
    ∃ pre a post, l = pre ++ a :: post ∧ p a ∧ ∀ b ∈ post, ¬ p b := by
  induction l with
  | nil =>
    obtain ⟨a, ha, -⟩ := h
    cases ha
  | cons a l ih =>
    by_cases hl : ∃ b ∈ l, p b
    · obtain ⟨pre, b, post, rfl, hb⟩ := ih hl
      exact ⟨a :: pre, b, post, rfl, hb⟩
    · have hnone : ∀ b ∈ l, ¬ p b := fun b hb hp => hl ⟨b, hb, hp⟩
      obtain ⟨b, hb, hp⟩ := h
      rcases List.mem_cons.mp hb with rfl | hb
      · exact ⟨[], b, l, rfl, hp, hnone⟩
      · exact (hnone b hb hp).elim

private theorem exists_unlisted (m : KeyMap) : ∃ id, ∀ l ∈ m, l.secretId ≠ id := by
  have hbound : ∃ n, ∀ l ∈ m, l.secretId.length < n := by
    induction m with
    | nil => exact ⟨0, by simp⟩
    | cons l m ih =>
      obtain ⟨n, hn⟩ := ih
      refine ⟨n + l.secretId.length + 1, ?_⟩
      rw [List.forall_mem_cons]
      refine ⟨by omega, ?_⟩
      intro l' hl'
      have := hn l' hl'
      omega
  obtain ⟨n, hn⟩ := hbound
  refine ⟨String.ofList (List.replicate n 'x'), ?_⟩
  intro l hl he
  have hlt := hn l hl
  rw [he, String.length_ofList, List.length_replicate] at hlt
  exact Nat.lt_irrefl n hlt

/-! ### Data of one value -/

private def single (id : String) (v : List UInt8) : Data := Dict.empty.insert id v

private theorem get?_single (id x : String) (v : List UInt8) :
    (single id v).get? x = if id = x then some v else none := by
  rw [single, Dict.get?_insert, Dict.get?_empty]

private theorem eq_of_get?_single {id x : String} {v u : List UInt8}
    (h : (single id v).get? x = some u) : u = v := by
  rw [get?_single] at h
  split at h
  · exact (Option.some.inj h).symm
  · cases h

private theorem get?_restore_apply_single {m : KeyMap} {id x : String} {v u : List UInt8}
    (h : (m.restore (m.apply (single id v))).get? x = some u) : u = v := by
  rw [get?_restore] at h
  obtain ⟨l, -, -, hkey⟩ := exists_of_valueFor h
  rw [get?_apply] at hkey
  obtain ⟨l', -, -, hv⟩ := exists_of_valueUnder hkey
  exact eq_of_get?_single hv

/-- An id that shares a key with the only one that has a value comes back with that value. -/
theorem get?_restore_apply_of_shared_key {m : KeyMap} {first second : Mapping}
    (hfirst : first ∈ m) (hsecond : second ∈ m) (hkey : second.keyName = first.keyName)
    (v : List UInt8) :
    (m.restore (m.apply (single second.secretId v))).get? first.secretId = some v := by
  cases hback : (m.restore (m.apply (single second.secretId v))).get? first.secretId with
  | some u => rw [get?_restore_apply_single hback]
  | none =>
    rw [get?_restore, valueFor_eq_none_iff] at hback
    have hunder := hback first hfirst rfl
    rw [get?_apply, valueUnder_eq_none_iff] at hunder
    have hnone := hunder second hsecond hkey
    rw [get?_single, if_pos rfl] at hnone
    cases hnone

private theorem get?_merge_empty (data : Data) (x : String) :
    (data.merge Dict.empty).get? x = data.get? x := by
  rw [Dict.get?_merge, Dict.get?_empty, Option.none_or]

private theorem get?_restore_apply_of_unlisted {m : KeyMap} {id : String} {v : List UInt8}
    (h : ∀ l ∈ m, l.secretId ≠ id) (x : String) :
    (m.restore (m.apply (single id v))).get? x = none := by
  rw [get?_restore, valueFor_eq_none_iff]
  intro l _ _
  rw [get?_apply, valueUnder_eq_none_iff]
  intro l' hl' _
  rw [get?_single, if_neg (Ne.symm (h l' hl'))]

/-! ### Edits that lose something -/

private theorem not_refilled_of_unmapped (earlier : KeyMap) :
    ∃ data changes key, (refilled (some earlier) none data changes).get? key ≠
      (applyOptional none (data.merge changes)).get? key := by
  obtain ⟨id, hid⟩ := exists_unlisted earlier
  refine ⟨single id [0], Dict.empty, id, ?_⟩
  dsimp only [refilled, applyOptional, restoreOptional]
  rw [get?_merge_empty, get?_restore_apply_of_unlisted hid, get?_merge_empty, get?_single,
    if_pos rfl]
  exact Option.some_ne_none _ ∘ Eq.symm

private theorem not_refilled_of_unlisted {earlier later : KeyMap} {line : Mapping}
    (hline : line ∈ later) (h : ∀ l ∈ earlier, l.secretId ≠ line.secretId) :
    ∃ data changes key, (refilled (some earlier) (some later) data changes).get? key ≠
      (applyOptional (some later) (data.merge changes)).get? key := by
  refine ⟨single line.secretId [0], Dict.empty, line.keyName, ?_⟩
  intro he
  dsimp only [refilled, applyOptional, restoreOptional] at he
  have hlost : (later.apply ((earlier.restore (earlier.apply (single line.secretId [0]))).merge
      Dict.empty)).get? line.keyName = none := by
    rw [get?_apply, valueUnder_eq_none_iff]
    intro l _ _
    rw [get?_merge_empty, get?_restore_apply_of_unlisted h]
  rw [hlost, get?_apply] at he
  have hnone := valueUnder_eq_none_iff.mp he.symm line hline rfl
  rw [get?_merge_empty, get?_single, if_pos rfl] at hnone
  cases hnone

/-- Two ids under one key of the earlier key map: when only the second one has a value, the first
one comes back with that value too, and a later line shows it. -/
theorem not_refilled_of_shared_key (pre : KeyMap) {earlier post : KeyMap}
    {first second line : Mapping} (hfirst : first ∈ earlier) (hsecond : second ∈ earlier)
    (hkey : second.keyName = first.keyName) (hne : first.secretId ≠ second.secretId)
    (hline : line.secretId = first.secretId)
    (hpost : ∀ l ∈ post, l.keyName = line.keyName → l.secretId ≠ second.secretId) :
    ∃ data changes key,
      (refilled (some earlier) (some (pre ++ line :: post)) data changes).get? key ≠
        (applyOptional (some (pre ++ line :: post)) (data.merge changes)).get? key := by
  refine ⟨single second.secretId [0], single second.secretId [1], line.keyName, ?_⟩
  intro he
  dsimp only [refilled, applyOptional, restoreOptional] at he
  rw [get?_apply, get?_apply, valueUnder_append, valueUnder, if_pos rfl, hline] at he
  generalize hback : earlier.restore (earlier.apply (single second.secretId [0])) = back at he
  have hold : ∀ id, id ≠ second.secretId → ∀ v,
      (back.merge (single second.secretId [1])).get? id = some v → v = [0] := by
    intro id hid v hv
    rw [Dict.get?_merge, get?_single, if_neg hid.symm, Option.none_or, ← hback] at hv
    exact get?_restore_apply_single hv
  have hphantom : (back.merge (single second.secretId [1])).get? first.secretId = some [0] := by
    rw [Dict.get?_merge, get?_single, if_neg hne.symm, Option.none_or, ← hback,
      get?_restore_apply_of_shared_key hfirst hsecond hkey]
  have hshown : (valueUnder (back.merge (single second.secretId [1])) line.keyName post).or
      ((back.merge (single second.secretId [1])).get? first.secretId) = some [0] := by
    cases hv : valueUnder (back.merge (single second.secretId [1])) line.keyName post with
    | none => rw [Option.none_or, hphantom]
    | some v =>
      obtain ⟨l, hl, hk, hlv⟩ := exists_of_valueUnder hv
      rw [Option.some_or, hold l.secretId (hpost l hl hk) v hlv]
  rw [hshown, Option.some_or] at he
  obtain ⟨l, -, -, hv⟩ := exists_of_valueUnder he.symm
  rw [Dict.get?_merge, get?_single, get?_single] at hv
  split at hv
  · cases hv
  · cases hv

/-- Data refilled under a later key map are those that it would have given from the beginning,
whatever was pulled before and is pulled now, exactly when the earlier key map recovers them. -/
theorem refilled_eq_iff (earlier later : Option KeyMap) :
    (∀ data changes key, (refilled earlier later data changes).get? key =
      (applyOptional later (data.merge changes)).get? key) ↔ Recovers earlier later := by
  constructor
  · intro h
    cases earlier with
    | none => trivial
    | some earlier =>
      cases later with
      | none =>
        obtain ⟨data, changes, key, hne⟩ := not_refilled_of_unmapped earlier
        exact hne (h data changes key)
      | some later =>
        intro line hline
        refine ⟨?_, ?_⟩
        · apply Classical.byContradiction
          intro hunlisted
          obtain ⟨data, changes, key, hne⟩ := not_refilled_of_unlisted hline
            (fun l hl hid => hunlisted ⟨l, hl, hid⟩)
          exact hne (h data changes key)
        · intro a ha b hb hid hkey
          apply Classical.byContradiction
          intro hother
          -- Of the lines under this key, the last with one of the two ids decides which shows.
          obtain ⟨pre, last, post, rfl, ⟨hlast, hone⟩, hpost⟩ := exists_last
            (p := fun l : Mapping => l.keyName = line.keyName ∧
              (l.secretId = a.secretId ∨ l.secretId = b.secretId))
            ⟨line, hline, rfl, Or.inl hid.symm⟩
          have hafter : ∀ l ∈ post, l.keyName = last.keyName →
              l.secretId ≠ a.secretId ∧ l.secretId ≠ b.secretId := by
            intro l hl hk
            exact not_or.mp (fun hor => hpost l hl ⟨hk.trans hlast, hor⟩)
          have hab : a.secretId ≠ b.secretId := fun he => hother (he.symm.trans hid)
          rcases hone with hone | hone
          · obtain ⟨data, changes, key, hne⟩ := not_refilled_of_shared_key pre ha hb hkey hab
              hone (fun l hl hk => (hafter l hl hk).2)
            exact hne (h data changes key)
          · obtain ⟨data, changes, key, hne⟩ := not_refilled_of_shared_key pre hb ha
              hkey.symm hab.symm hone (fun l hl hk => (hafter l hl hk).1)
            exact hne (h data changes key)
  · intro h data changes key
    cases earlier with
    | none => rfl
    | some earlier =>
      cases later with
      | none => exact h.elim
      | some later =>
        exact congrArg (fun d => d.get? key) (apply_restore_apply_merge h data changes)

/-! ### One key map from round to round -/

/-- A map recovers its own values exactly if it is unambiguous. -/
theorem recovers_self_iff {m : KeyMap} : Recovers (some m) (some m) ↔ m.Unambiguous := by
  constructor
  · intro h l hl l' hl' hkey
    exact (h l' hl').2 l' hl' l hl rfl hkey
  · exact fun h _ hl => h.tells hl

/-- When a key is used for two ids, one of them has a value that outlives its change: the key keeps
showing it, by way of the other id. -/
theorem exists_stale {m : KeyMap} (h : ¬ m.Unambiguous) :
    ∃ line ∈ m, ∀ old new : List UInt8,
      (refilled (some m) (some m) (Dict.empty.insert line.secretId old)
        (Dict.empty.insert line.secretId new)).get? line.keyName = some old ∧
      (m.apply ((Dict.empty.insert line.secretId old).merge
        (Dict.empty.insert line.secretId new))).get? line.keyName = some new := by
  simp only [Unambiguous, Classical.not_forall] at h
  obtain ⟨l, hl, l', hl', hkey, hne⟩ := h
  -- The last line of the key decides what it shows; the change is made to another id of the key.
  obtain ⟨pre, last, post, rfl, hlast, hpost⟩ :=
    exists_last (p := fun x : Mapping => x.keyName = l.keyName) ⟨l, hl, rfl⟩
  obtain ⟨line, hline, hkey, hother⟩ : ∃ line ∈ pre ++ last :: post,
      line.keyName = l.keyName ∧ line.secretId ≠ last.secretId := by
    by_cases hid : l.secretId = last.secretId
    · exact ⟨l', hl', hkey.symm, fun he => hne (hid.trans he.symm)⟩
    · exact ⟨l, hl, rfl, hid⟩
  refine ⟨line, hline, fun old new => ⟨?_, ?_⟩⟩
  · have hback := get?_restore_apply_of_shared_key
      (List.mem_append_right pre List.mem_cons_self) hline (hkey.trans hlast.symm) old
    have hafter : ∀ data, valueUnder data line.keyName post = none := by
      intro data
      rw [valueUnder_eq_none_iff]
      exact fun b hb hk => (hpost b hb (hk.trans hkey)).elim
    change (apply _ ((restore _ (apply _ (single line.secretId old))).merge
      (single line.secretId new))).get? line.keyName = _
    rw [get?_apply, valueUnder_append, valueUnder, hafter, Option.none_or,
      if_pos (hlast.trans hkey.symm), Dict.get?_merge, get?_single, if_neg hother, Option.none_or,
      hback, Option.some_or]
  · change (apply _ ((single line.secretId old).merge (single line.secretId new))).get? _ = _
    rw [get?_apply]
    cases hv : valueUnder ((single line.secretId old).merge (single line.secretId new))
        line.keyName (pre ++ last :: post) with
    | none =>
      have hnone := valueUnder_eq_none_iff.mp hv line hline rfl
      rw [Dict.get?_merge, get?_single, if_pos rfl, Option.some_or] at hnone
      cases hnone
    | some v =>
      obtain ⟨b, -, -, hb⟩ := exists_of_valueUnder hv
      rw [Dict.get?_merge, get?_single, get?_single] at hb
      split at hb
      · exact hb.symm
      · cases hb

end SecretSync.KeyMap
