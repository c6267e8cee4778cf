import SecretSync.Proofs.KeyMap.Edit
import SecretSync.Proofs.Secret.Annotation

/-!
# One key map from write to write

A secret that is written under a key map is brought back to vault ids before changed values are
added, and written under the key map again.  This is as good as having added them before the first
write exactly when no key is used for two ids.  Otherwise a value can come back under a shared key
after it has been replaced.
-/

namespace SecretSync.Secret

variable {m : KeyMap} {s : Secret}

/-- A secret whose values stand under vault ids, written under a key map at a time, brought back to
ids as its annotation tells, with changes added, and narrowed and renamed again. -/
def rekeyed (m : KeyMap) (s : Secret) (changes : Data) (now : Time.Instant) :
    Except AnnotationError Secret := do
  let written ← (s.applyMap (some m)).annotate none (some m) now
  let restored ← written.restoreIds
  return (restored.addValues changes).applyMap (some m)

/-- A secret with values and nothing else. -/
def holding (data : Data) : Secret :=
  ⟨"", none, none, none, Dict.empty, Dict.empty, opaqueType, data, []⟩

/-- The annotation of the write is read back, and the values are those that the key map recovers. -/
theorem exists_rekeyed (m : KeyMap) (s : Secret) (changes : Data) (now : Time.Instant) :
    ∃ filled, s.rekeyed m changes now = .ok filled ∧
      filled.data = KeyMap.refilled (some m) (some m) s.data changes := by
  obtain ⟨written, hwritten⟩ := (s.applyMap (some m)).exists_annotate (some m) now
  obtain ⟨hrecords, hsame⟩ := annotate_cases hwritten
  have hdata : written.data = m.apply s.data := by
    rw [hsame]
    rfl
  refine ⟨({ written with data := m.restore written.data }.addValues changes).applyMap (some m),
    ?_, ?_⟩
  · unfold rekeyed
    rw [hwritten]
    exact congrArg (fun restored => restored.map fun r => (r.addValues changes).applyMap (some m))
      hrecords.restoreIds
  · change m.apply ((m.restore written.data).merge changes) = _
    rw [hdata]
    rfl

/-- Changes added between two writes under one key map end up as if they had been added before the
first one, whatever the values and the changes are, exactly when no key is used for two ids.  When
one is, it has an id whose value, replaced by the changes, is shown by the key none the less. -/
theorem rekeyed_faithful_iff (m : KeyMap) :
    ((∀ (s : Secret) (changes : Data) (now : Time.Instant), ∃ filled,
        s.rekeyed m changes now = .ok filled ∧
          filled.data = m.apply (s.data.merge changes)) ↔ m.Unambiguous) ∧
      (¬ m.Unambiguous → ∃ line ∈ m, ∀ (s : Secret) (old new : List UInt8) (now : Time.Instant),
        s.data = Dict.empty.insert line.secretId old → ∃ filled,
          s.rekeyed m (Dict.empty.insert line.secretId new) now = .ok filled ∧
            filled.value? line.keyName = some old ∧
            (m.apply (s.data.merge (Dict.empty.insert line.secretId new))).get? line.keyName =
              some new) := by
  refine ⟨⟨fun h => ?_, fun h s changes now => ?_⟩, fun h => ?_⟩
  · rw [← KeyMap.recovers_self_iff, ← KeyMap.refilled_eq_iff]
    intro data changes key
    obtain ⟨filled, hfilled, hfaithful⟩ := h (holding data) changes default
    obtain ⟨filled', hfilled', hrefilled⟩ := exists_rekeyed m (holding data) changes default
    cases hfilled.symm.trans hfilled'
    exact congrArg (fun values => values.get? key) (hrefilled.symm.trans hfaithful)
  · obtain ⟨filled, hfilled, hrefilled⟩ := exists_rekeyed m s changes now
    refine ⟨filled, hfilled, hrefilled.trans ?_⟩
    exact KeyMap.apply_restore_apply_merge (fun _ hl => h.tells hl) s.data changes
  · obtain ⟨line, hline, hstale⟩ := KeyMap.exists_stale h
    refine ⟨line, hline, fun s old new now hs => ?_⟩
    obtain ⟨filled, hfilled, hrefilled⟩ :=
      exists_rekeyed m s (Dict.empty.insert line.secretId new) now
    rw [hs] at hrefilled ⊢
    refine ⟨filled, hfilled, ?_, (hstale old new).2⟩
    rw [value?, hrefilled, (hstale old new).1]

/-- A key map with two ids under one key. -/
def Sample.sharedKey : KeyMap := [⟨"a", "TOKEN"⟩, ⟨"b", "TOKEN"⟩]

/-- The other direction at a shared key: the stale value stays where the new one belongs. -/
theorem rekeyed_stale_under_shared_key :
    ¬ Sample.sharedKey.Unambiguous ∧ ∃ line ∈ Sample.sharedKey,
      ∀ (s : Secret) (old new : List UInt8) (now : Time.Instant),
        s.data = Dict.empty.insert line.secretId old → ∃ filled,
          s.rekeyed Sample.sharedKey (Dict.empty.insert line.secretId new) now = .ok filled ∧
            filled.value? line.keyName = some old ∧
            (Sample.sharedKey.apply
              (s.data.merge (Dict.empty.insert line.secretId new))).get? line.keyName =
                some new := by
  have hshared : ¬ Sample.sharedKey.Unambiguous := by decide
  exact ⟨hshared, (rekeyed_faithful_iff Sample.sharedKey).2 hshared⟩

end SecretSync.Secret
