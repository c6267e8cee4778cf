import SecretSync.Proofs.Data.Values
import SecretSync.Proofs.Text.Base64
import SecretSync.Proofs.Text.Utf8
import SecretSync.Secret.Annotation
import SecretSync.Secret.Object

/-!
# Secrets with their values blacked out

A redacted secret has all values that are texts replaced by the empty text and keeps everything
else.  Reading, writing, renaming and merging values commutes with redaction, so none of them tells
anything about the values.
-/

namespace SecretSync

/-! ### Values -/

/-- Whether octets spell a text. -/
def spellsText (octets : List UInt8) : Bool := (Text.Utf8.decode octets).toOption.isSome

/-- A value without its text. -/
def redactedValue (octets : List UInt8) : List UInt8 := if spellsText octets then [] else octets

/-- A stored value without its text. -/
def redactedText (stored : String) : String :=
  if (Text.Base64.decode stored).toOption.any spellsText then "" else stored

private theorem redactedValue_nil : redactedValue [] = [] := ite_self []

/-- A redacted text is empty. -/
theorem redactedValue_encode (s : String) : redactedValue (Text.Utf8.encode s) = [] := by
  rw [redactedValue, spellsText, Text.Utf8.decode_encode]
  rfl

/-- Whether octets spell a text, and why they do not, shows without the text. -/
theorem decode_redactedValue {a b : List UInt8} (h : redactedValue a = redactedValue b) :
    (Text.Utf8.decode a).map (fun _ => ()) = (Text.Utf8.decode b).map (fun _ => ()) := by
  have hempty : spellsText [] = true := by
    rw [spellsText, Text.Utf8.decode, Text.Utf8.decodeFrom]
    rfl
  have htext : ∀ {octets}, spellsText octets = true →
      (Text.Utf8.decode octets).map (fun _ => ()) = .ok () := by
    intro octets hspells
    unfold spellsText at hspells
    cases hdecode : Text.Utf8.decode octets with
    | ok s => rfl
    | error e => rw [hdecode] at hspells; cases hspells
  unfold redactedValue at h
  by_cases ha : spellsText a = true
  · by_cases hb : spellsText b = true
    · rw [htext ha, htext hb]
    · rw [if_pos ha, if_neg hb] at h
      rw [← h] at hb
      exact absurd hempty hb
  · by_cases hb : spellsText b = true
    · rw [if_neg ha, if_pos hb] at h
      rw [h] at ha
      exact absurd hempty ha
    · rw [if_neg ha, if_neg hb] at h
      rw [h]

/-- A stored value without its text reads as its value without its text. -/
theorem decode_redactedText (stored : String) :
    (Text.Base64.decode (redactedText stored)).map redactedValue =
      (Text.Base64.decode stored).map redactedValue := by
  rw [redactedText]
  split
  · next htext =>
    cases hdecode : Text.Base64.decode stored with
    | error e =>
      rw [hdecode] at htext
      cases htext
    | ok octets =>
      rw [hdecode] at htext
      have hblack : redactedValue octets = [] := if_pos htext
      have hempty : Text.Base64.decode "" = .ok [] := rfl
      rw [hempty, Except.map, Except.map, hblack, redactedValue_nil]
  · rfl

/-- A value without its text is stored as the stored value without its text. -/
theorem redactedText_encode (octets : List UInt8) :
    redactedText (Text.Base64.encode (redactedValue octets)) =
      redactedText (Text.Base64.encode octets) := by
  rw [redactedValue]
  split
  · next htext =>
    have hblack : redactedText (Text.Base64.encode octets) = "" := by
      rw [redactedText, Text.Base64.decode_encode]
      exact if_pos htext
    rw [hblack]
    exact ite_self ""
  · rfl

/-! ### Data -/

namespace KeyMap

private theorem mapValues_foldl (f : List UInt8 → List UInt8) (step : Data → Data → Mapping → Data)
    (hstep : ∀ data acc line, (step data acc line).mapValues f =
      step (data.mapValues f) (acc.mapValues f) line) (m : KeyMap) (data acc : Data) :
    (m.foldl (step data) acc).mapValues f =
      m.foldl (step (data.mapValues f)) (acc.mapValues f) := by
  induction m generalizing acc with
  | nil => rfl
  | cons line m ih => rw [List.foldl_cons, ih, hstep, List.foldl_cons]

/-- A key map is applied to the keys, whatever the values. -/
theorem mapValues_apply (f : List UInt8 → List UInt8) (m : KeyMap) (data : Data) :
    (m.apply data).mapValues f = m.apply (data.mapValues f) := by
  refine mapValues_foldl f applyLine ?_ m data Dict.empty
  intro data acc line
  unfold applyLine
  rw [Dict.get?_mapValues]
  cases data.get? line.secretId with
  | none => rfl
  | some value => exact Dict.mapValues_insert f acc line.keyName value

private theorem mapValues_applyOptional (f : List UInt8 → List UInt8) (m : Option KeyMap)
    (data : Data) :
    (applyOptional m data).mapValues f = applyOptional m (data.mapValues f) := by
  cases m with
  | none => rfl
  | some m => exact mapValues_apply f m data

/-- A key map is undone on the keys, whatever the values. -/
theorem mapValues_restore (f : List UInt8 → List UInt8) (m : KeyMap) (data : Data) :
    (m.restore data).mapValues f = m.restore (data.mapValues f) := by
  refine mapValues_foldl f restoreLine ?_ m data Dict.empty
  intro data acc line
  unfold restoreLine
  rw [Dict.get?_mapValues]
  cases data.get? line.keyName with
  | none => rfl
  | some value => exact Dict.mapValues_insertNew f acc line.secretId value

end KeyMap

/-! ### Secrets -/

/-- The object without the texts among its values. -/
def SecretObject.redacted (o : SecretObject) : SecretObject :=
  { o with data := o.data.map (Dict.mapValues redactedText) }

namespace Secret

/-- The secret without the texts among its values. -/
def redacted (s : Secret) : Secret := { s with data := s.data.mapValues redactedValue }

private theorem decodeValues_redacted (l : List (String × String)) :
    (decodeValues (l.map (fun p => (p.1, redactedText p.2)))).map
        (List.map (fun p => (p.1, redactedValue p.2))) =
      (decodeValues l).map (List.map (fun p => (p.1, redactedValue p.2))) := by
  induction l with
  | nil => rfl
  | cons p l ih =>
    obtain ⟨key, stored⟩ := p
    rw [List.map_cons, decodeValues, decodeValues]
    obtain ⟨e, hred, hstored⟩ | ⟨a, b, hred, hstored, hab⟩ :=
      map_eq_map_cases (decode_redactedText stored)
    · rw [hred, hstored]
      rfl
    · rw [hred, hstored]
      obtain ⟨e, hreds, hvalues⟩ | ⟨as, bs, hreds, hvalues, habs⟩ := map_eq_map_cases ih
      · simp only [hreds, hvalues]
        rfl
      · simp only [hreds, hvalues]
        change Except.ok ((key, redactedValue a) :: as.map _) =
          Except.ok ((key, redactedValue b) :: bs.map _)
        rw [hab, habs]

/-- Only the redacted object matters for what a secret looks like. -/
theorem ofObject_redacted (o : SecretObject) :
    (ofObject o.redacted).map redacted = (ofObject o).map redacted := by
  have hentries : (o.redacted.data.getD Dict.empty).entries =
      (o.data.getD Dict.empty).entries.map (fun p => (p.1, redactedText p.2)) := by
    cases hdata : o.data with
    | none => simp [SecretObject.redacted, hdata, Dict.empty]
    | some data => simp [SecretObject.redacted, hdata, Dict.mapValues]
  unfold ofObject
  rw [hentries]
  cases hdefect : o.defect with
  | some rejection =>
    have hsame : o.redacted.defect = some rejection := hdefect
    rw [hsame]
    rfl
  | none =>
    have hsame : o.redacted.defect = none := hdefect
    rw [hsame]
    obtain ⟨e, hred, hstored⟩ | ⟨as, bs, hred, hstored, hab⟩ :=
      map_eq_map_cases (decodeValues_redacted (o.data.getD Dict.empty).entries)
    · simp only [hred, hstored]
      rfl
    · simp only [hred, hstored]
      have hdata : (Dict.ofList as).mapValues redactedValue =
          (Dict.ofList bs).mapValues redactedValue := by
        rw [Dict.mapValues_ofList, hab, Dict.mapValues_ofList]
      exact congrArg (fun data => Except.ok (⟨_, _, _, _, _, _, _, data, _⟩ : Secret)) hdata

/-- Only the redacted secret matters for what its stored object looks like. -/
theorem toObject_redacted (s : Secret) : s.redacted.toObject.redacted = s.toObject.redacted := by
  have hdata : ((s.data.mapValues redactedValue).mapValues Text.Base64.encode).mapValues
      redactedText = (s.data.mapValues Text.Base64.encode).mapValues redactedText := by
    apply Dict.ext
    simp only [Dict.mapValues, List.map_map, Function.comp_def, redactedText_encode]
  exact congrArg (fun data => (⟨_, _, _, some data, none⟩ : SecretObject)) hdata

/-- Ids are restored alike, whatever the values. -/
theorem restoreIds_redacted (s : Secret) :
    s.redacted.restoreIds = s.restoreIds.map redacted := by
  have hannotations : s.redacted.annotations = s.annotations := rfl
  rw [restoreIds, restoreIds, hannotations]
  cases s.annotations.get? Annotation.customMap with
  | none => rfl
  | some text =>
    cases hm : KeyMap.ofAnnotation text with
    | error e => simp only [hm]; rfl
    | ok m =>
      simp only [hm]
      exact congrArg (fun data => Except.ok { s with data := data })
        (KeyMap.mapValues_restore redactedValue m s.data).symm

/-- A key of a redacted secret finds its value redacted. -/
theorem value?_redacted (s : Secret) (key : String) :
    s.redacted.value? key = (s.value? key).map redactedValue := Dict.get?_mapValues _ _ _

/-- Redacting follows the addition of values. -/
theorem addValues_redacted (s : Secret) (values : Data) :
    s.redacted.addValues (values.mapValues redactedValue) = (s.addValues values).redacted :=
  congrArg (fun data => { s with data := data })
    (Dict.mapValues_merge redactedValue s.data values).symm

/-- Redacting follows the map. -/
theorem applyMap_redacted (m : Option KeyMap) (s : Secret) :
    s.redacted.applyMap m = (s.applyMap m).redacted :=
  congrArg (fun data => { s with data := data })
    (KeyMap.mapValues_applyOptional redactedValue m s.data).symm

/-- Annotations are set alike, whatever the values. -/
theorem annotate_redacted (fault : Option String) (m : Option KeyMap) (now : Time.Instant)
    (s : Secret) : s.redacted.annotate fault m now = (s.annotate fault m now).map redacted := by
  unfold annotate
  cases m.mapM (KeyMap.write fault) with
  | error e => rfl
  | ok text => rfl

end Secret
end SecretSync
