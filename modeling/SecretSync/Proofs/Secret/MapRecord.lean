import SecretSync.Proofs.Secret.Annotation

/-!
# Key maps as annotations keep them

Annotated secrets tell whether they were written under a key map, and under which.  Each key map has
one text; another text that holds it is brought to that one by reading it and writing it again.
-/

namespace SecretSync

namespace KeyMap

/-- What is written for the key map of a text. -/
def rewritten (text : String) : Except AnnotationError String := do
  let m ← ofAnnotation text
  write none m

/-- Key maps with the same text are the same. -/
theorem serialize_injective {m m' : KeyMap} (h : m.serialize = m'.serialize) : m = m' := by
  have hread := ofAnnotation_serialize m
  rw [h, ofAnnotation_serialize] at hread
  exact (Except.ok.inj hread).symm

private theorem write_eq_ok_iff {m m' : KeyMap} : write none m = .ok m'.serialize ↔ m = m' := by
  rw [write, Except.ok.injEq]
  exact ⟨serialize_injective, congrArg serialize⟩

/-- The texts that are rewritten to the text of a key map are those that hold it. -/
theorem rewritten_eq_ok_iff {text : String} {m : KeyMap} :
    rewritten text = .ok m.serialize ↔ ofAnnotation text = .ok m := by
  rw [rewritten]
  cases ofAnnotation text with
  | error e => exact iff_of_false (fun h => nomatch h) (fun h => nomatch h)
  | ok m' =>
    change write none m' = .ok m.serialize ↔ _
    rw [write_eq_ok_iff, Except.ok.injEq]

end KeyMap

namespace Secret

/-- The key map that the annotations of a secret hold; none without the annotation for it. -/
def recordedMap (s : Secret) : Except AnnotationError (Option KeyMap) :=
  (s.annotations.get? Annotation.customMap).mapM KeyMap.ofAnnotation

private theorem Records.recordedMap_eq {s : Secret} {m : Option KeyMap} (h : s.Records m) :
    s.recordedMap = .ok m := by
  rw [recordedMap, h]
  cases m with
  | none => rfl
  | some m =>
    change KeyMap.ofAnnotation m.serialize >>= _ = _
    rw [KeyMap.ofAnnotation_serialize]
    rfl

/-- Every key map has a text that no other has, which holds it line by line; what any text that
holds it is rewritten to is this one, the text itself included.  An annotated secret tells its key
map, and an empty one from none. -/
theorem map_kept_as_text (m : KeyMap) :
    (∃ text, KeyMap.write none m = .ok text ∧ KeyMap.ofAnnotation text = .ok m ∧
      (∀ m', KeyMap.write none m' = .ok text ↔ m' = m) ∧
      (∀ t, KeyMap.ofAnnotation t = .ok m ↔ KeyMap.rewritten t = .ok text) ∧
      KeyMap.rewritten text = .ok text) ∧
    ∀ (s : Secret) (map : Option KeyMap) (now : Time.Instant),
      ∃ target, s.annotate none map now = .ok target ∧ target.recordedMap = .ok map := by
  refine ⟨⟨m.serialize, rfl, KeyMap.ofAnnotation_serialize m, fun m' => KeyMap.write_eq_ok_iff,
    fun t => KeyMap.rewritten_eq_ok_iff.symm, ?_⟩, fun s map now => ?_⟩
  · exact KeyMap.rewritten_eq_ok_iff.mpr (KeyMap.ofAnnotation_serialize m)
  · obtain ⟨target, htarget⟩ := exists_annotate s map now
    exact ⟨target, htarget, (annotate_cases htarget).1.recordedMap_eq⟩

/-- A text with the other names of the members, an escaped letter and one more member. -/
example : KeyMap.rewritten
    "[\x7b\"bw_secret_id\": \"\\u0061\", \"secret_key_name\": \"X\", \"note\": 1\x7d]" =
      .ok (KeyMap.serialize [⟨"a", "X"⟩]) := by
  cbv

end Secret
end SecretSync
