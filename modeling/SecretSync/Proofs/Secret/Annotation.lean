import SecretSync.Proofs.KeyMap.Codec
import SecretSync.Proofs.KeyMap.Recovery

/-!
# Annotated secrets tell their key map

The annotations of a write record the key map in force, and the next reading of them brings the
values back by that key map.
-/

namespace SecretSync.Secret

/-- The annotation with the key map holds a key map, or is absent for none. -/
def Records (s : Secret) (m : Option KeyMap) : Prop :=
  s.annotations.get? Annotation.customMap = m.map KeyMap.serialize

variable {s target : Secret} {m : Option KeyMap} {now : Time.Instant}

/-- Annotating changes the annotations only, and they record the key map. -/
theorem annotate_cases {fault : Option String} (h : s.annotate fault m now = .ok target) :
    target.Records m ∧ target = { s with annotations := target.annotations } := by
  cases m with
  | none =>
    cases h
    refine ⟨?_, rfl⟩
    rw [Records, Dict.get?_erase, if_pos rfl]
    rfl
  | some lines =>
    cases fault with
    | some reason => cases h
    | none =>
      cases h
      refine ⟨?_, rfl⟩
      rw [Records, Dict.get?_insert, if_pos rfl]
      rfl

/-- Annotations of others stay as they are. -/
theorem get?_annotate {fault : Option String} {name : String}
    (h : s.annotate fault m now = .ok target) (hsync : name ≠ Annotation.syncTime)
    (hmap : name ≠ Annotation.customMap) :
    target.annotations.get? name = s.annotations.get? name := by
  unfold annotate at h
  cases htext : m.mapM (KeyMap.write fault) with
  | error e =>
    rw [htext] at h
    cases h
  | ok text =>
    rw [htext] at h
    cases h
    cases text with
    | none =>
      change ((s.annotations.insert _ _).erase _).get? name = _
      rw [Dict.get?_erase, if_neg hmap.symm, Dict.get?_insert, if_neg hsync.symm]
    | some text =>
      change ((s.annotations.insert _ _).insert _ _).get? name = _
      rw [Dict.get?_insert, if_neg hmap.symm, Dict.get?_insert, if_neg hsync.symm]

/-- Unless writing key maps is out of order, annotating succeeds. -/
theorem exists_annotate (s : Secret) (m : Option KeyMap) (now : Time.Instant) :
    ∃ target, s.annotate none m now = .ok target := by
  cases m with
  | none => exact ⟨_, rfl⟩
  | some lines => exact ⟨_, rfl⟩

/-- Bringing values back changes the values only. -/
theorem restoreIds_cases {restored : Secret} (h : s.restoreIds = .ok restored) :
    restored = { s with data := restored.data } := by
  unfold Secret.restoreIds at h
  split at h
  · cases h
    rfl
  · next text _ =>
    cases hm : KeyMap.ofAnnotation text with
    | error e =>
      rw [hm] at h
      cases h
    | ok lines =>
      rw [hm] at h
      cases h
      rfl

/-- The values of a secret that records a key map come back by that key map. -/
theorem Records.restoreIds (h : s.Records m) :
    s.restoreIds = .ok { s with data := KeyMap.restoreOptional m s.data } := by
  unfold Records at h
  unfold Secret.restoreIds
  cases m with
  | none =>
    rw [h]
    rfl
  | some lines =>
    rw [h]
    dsimp only [Option.map_some]
    rw [KeyMap.ofAnnotation_serialize]
    rfl

end SecretSync.Secret
