import SecretSync.Proofs.KeyMap.Edit
import SecretSync.Proofs.Secret.Annotation
import SecretSync.Proofs.Sync.Attempt

/-!
# Filling a target again

What a target holds after changed values have been taken over, and for which edits of the key map
these are the data that the later key map would have given from the beginning.
-/

namespace SecretSync.Sync

variable {key : ObjectKey} {d : Declaration} {values : Data} {now : Time.Instant}
  {s target restored filled : Secret} {earlier : Option KeyMap}

/-- A target that is brought back is brought back by the key map that it was written under. -/
theorem restoreIds_of_restored (h : Sync.restored target = .ok restored) :
    target.restoreIds = .ok restored := by
  unfold Sync.restored at h
  split at h
  · cases h
  · exact h

/-- Bringing back changes the values only. -/
theorem restored_cases (h : Sync.restored target = .ok restored) :
    restored = { target with data := restored.data } :=
  Secret.restoreIds_cases (restoreIds_of_restored h)

/-- Refilling changes the values and the annotations only: the values are those of the key map, and
the annotations record it. -/
theorem refill_cases {mapFault : Option String}
    (h : refill mapFault key d values now restored = .ok filled) :
    filled.data = KeyMap.applyOptional d.spec.map (restored.data.merge values) ∧
      filled.Records d.spec.map ∧
      filled = { restored with data := filled.data, annotations := filled.annotations } := by
  unfold refill at h
  cases ha : ((restored.addValues values).applyMap d.spec.map).annotate mapFault d.spec.map now with
  | error e =>
    rw [ha] at h
    cases h
  | ok annotated =>
    rw [ha] at h
    cases h
    obtain ⟨hrecords, heq⟩ := Secret.annotate_cases ha
    refine ⟨?_, hrecords, ?_⟩
    · rw [heq]
      rfl
    · rw [heq]
      rfl

/-- Refilling leaves the annotations of others. -/
theorem get?_refill {mapFault : Option String} {name : String}
    (h : refill mapFault key d values now restored = .ok filled)
    (hsync : name ≠ Annotation.syncTime) (hmap : name ≠ Annotation.customMap) :
    filled.annotations.get? name = restored.annotations.get? name := by
  unfold refill at h
  exact (Secret.get?_annotate (mapError_eq_ok_iff.mp h) hsync hmap :)

/-- A secret is refilled at its place. -/
theorem place_of_refill {mapFault : Option String} (hrestore : Sync.restored s = .ok restored)
    (hrefill : refill mapFault key d values now restored = .ok filled) :
    filled.place = s.place := by
  rw [(refill_cases hrefill).2.2, restored_cases hrestore]
  rfl

/-- A blank secret is filled with the changed values only. -/
theorem refill_blank {mapFault : Option String} (hs : s.Blank)
    (hrestore : Sync.restored s = .ok restored)
    (hrefill : refill mapFault key d values now restored = .ok filled) :
    filled.data = KeyMap.applyOptional d.spec.map values := by
  replace hrestore := restoreIds_of_restored hrestore
  rw [Secret.restoreIds, hs.annotation] at hrestore
  cases hrestore
  rw [(refill_cases hrefill).1, hs.data, Dict.empty_merge]

/-- Unless writing key maps is out of order, refilling succeeds. -/
theorem exists_refill (key : ObjectKey) (d : Declaration) (values : Data) (now : Time.Instant)
    (restored : Secret) : ∃ filled, refill none key d values now restored = .ok filled := by
  obtain ⟨filled, h⟩ := Secret.exists_annotate
    ((restored.addValues values).applyMap d.spec.map) d.spec.map now
  refine ⟨filled, ?_⟩
  rw [refill, h]
  rfl

/-- A target that was filled and annotated under a key map is refilled from what that key map tells
of its values. -/
theorem refill_annotated {before : Time.Instant} {data : Data}
    (hs : s.data = KeyMap.applyOptional earlier data)
    (ha : s.annotate none earlier before = .ok target) (key : ObjectKey) (d : Declaration)
    (values : Data) (now : Time.Instant) :
    ∃ restored filled, target.restoreIds = .ok restored ∧
      refill none key d values now restored = .ok filled ∧
      filled.data = KeyMap.refilled earlier d.spec.map data values := by
  obtain ⟨hrecords, heq⟩ := Secret.annotate_cases ha
  have htarget : target.data = KeyMap.applyOptional earlier data := by
    rw [heq]
    exact hs
  obtain ⟨filled, hfilled⟩ := exists_refill key d values now
    { target with data := KeyMap.restoreOptional earlier target.data }
  refine ⟨_, filled, hrecords.restoreIds, hfilled, ?_⟩
  rw [(refill_cases hfilled).1, htarget, KeyMap.refilled]

/-- An edit of the key map is without trace, for all data pulled before and all changes pulled now,
exactly when the key map of the last write recovers every id that the edited one stores, each under
keys of its own; an edit that removes the key map never is. -/
theorem refill_after_edit_iff (key : ObjectKey) (d : Declaration) (earlier : Option KeyMap) :
    (∀ (data changes : Data) (s target : Secret) (before now : Time.Instant),
      s.data = KeyMap.applyOptional earlier data →
      s.annotate none earlier before = .ok target →
      ∃ restored filled, target.restoreIds = .ok restored ∧
        refill none key d changes now restored = .ok filled ∧
        ∀ k, filled.value? k =
          (KeyMap.applyOptional d.spec.map (data.merge changes)).get? k) ↔
      KeyMap.Recovers earlier d.spec.map := by
  rw [← KeyMap.refilled_eq_iff]
  constructor
  · intro h data changes k
    let s : Secret := { Secret.shell d with data := KeyMap.applyOptional earlier data }
    obtain ⟨target, ha⟩ := s.exists_annotate earlier default
    obtain ⟨restored, filled, hrestored, hfilled, hvalue⟩ :=
      h data changes s target _ default rfl ha
    obtain ⟨restored', filled', hrestored', hfilled', hdata⟩ :=
      refill_annotated rfl ha key d changes default
    cases hrestored.symm.trans hrestored'
    cases hfilled.symm.trans hfilled'
    rw [← hvalue k, Secret.value?, hdata]
  · intro h data changes s target before now hs ha
    obtain ⟨restored, filled, hrestored, hfilled, hdata⟩ :=
      refill_annotated hs ha key d changes now
    refine ⟨restored, filled, hrestored, hfilled, ?_⟩
    intro k
    rw [Secret.value?, hdata, h data changes k]

namespace Sample

/-- A key map that stores one of two values. -/
def keyMap : KeyMap := [⟨"a", "X"⟩]

/-- The two values. -/
def pulled : Data := Dict.ofList [("a", "1".toUTF8.toList), ("b", "2".toUTF8.toList)]

/-- A declaration without a key map. -/
def unmapped : Declaration :=
  ⟨"app", some "default", some "u1", none, none, Dict.empty, Dict.empty,
    ⟨"org", "app-env", ⟨"auth", "token"⟩, none⟩, ⟨none, []⟩⟩

/-- What the target holds under an id when the key map is taken away and nothing has changed. -/
def valueAfterRemoval (k : String) : Option (List UInt8) := do
  let s : Secret :=
    { Secret.shell unmapped with data := KeyMap.applyOptional (some keyMap) pulled }
  let target ← (s.annotate none (some keyMap) default).toOption
  let restored ← target.restoreIds.toOption
  let filled ← (refill none ⟨"default", "app"⟩ unmapped Dict.empty default restored).toOption
  filled.value? k

end Sample

/-- A value that the key map has left out does not come back when the key map is taken away,
although it would be there if there never had been a key map. -/
theorem value_lost_with_removed_map :
    Sample.valueAfterRemoval "a" = some "1".toUTF8.toList ∧
      Sample.valueAfterRemoval "b" = none ∧
      (KeyMap.applyOptional Sample.unmapped.spec.map
        (Sample.pulled.merge Dict.empty)).get? "b" = some "2".toUTF8.toList := by
  decide +kernel

end SecretSync.Sync
