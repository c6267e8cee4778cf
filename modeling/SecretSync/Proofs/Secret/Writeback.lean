import SecretSync.Proofs.Secret.Object

/-!
# Secrets that are read and written back

A write replaces the whole object, so what a body does not carry over from the object that was read
is lost.  `SecretObject.CarriedBy` tells what is carried over: the texts may change, as the reader
of base64 is lenient and the writer is not, but not the octets that they spell.
-/

namespace SecretSync

/-- An owner reference whose flags are set, to false where they were not. -/
def OwnerObject.filled (o : OwnerObject) : OwnerObject :=
  { o with
    controller := some (o.controller.getD false)
    blockOwnerDeletion := some (o.blockOwnerDeletion.getD false) }

namespace SecretObject

/-- The texts of an object under their keys, none if there is no data. -/
def texts (o : SecretObject) : Dict String String := o.data.getD Dict.empty

/-- A body carries what an object holds, gaps filled. -/
structure CarriedBy (o body : SecretObject) : Prop where
  name : body.fields.name = some (o.fields.name.getD "")
  ns : body.fields.ns = o.fields.ns
  resourceVersion : body.fields.resourceVersion = o.fields.resourceVersion
  type : body.type = some (o.type.getD Secret.opaqueType)
  labels : body.fields.labels = some (o.fields.labels.getD Dict.empty)
  annotations : body.fields.annotations = some (o.fields.annotations.getD Dict.empty)
  owners : body.fields.owners.getD [] = (o.fields.owners.getD []).map OwnerObject.filled
  keys : body.texts.keys = o.texts.keys
  octets : ∀ key text, o.texts.get? key = some text → ∃ octets written,
    Text.Base64.decode text = .ok octets ∧ body.texts.get? key = some written ∧
      Text.Base64.decode written = .ok octets

end SecretObject

namespace Secret

open SecretObject

private theorem toObject_ofObject_owner (o : OwnerObject) :
    (OwnerRef.ofObject o).toObject = o.filled := rfl

/-- Owners that are read are written with their flags set. -/
theorem owners_toObject_ofObject {o : SecretObject} {s : Secret} (h : ofObject o = .ok s) :
    s.toObject.fields.owners.getD [] = (o.fields.owners.getD []).map OwnerObject.filled := by
  have howners : s.owners = (o.fields.owners.getD []).map OwnerRef.ofObject := by
    rw [ofObject_fields h]
  change (if s.owners.isEmpty then none else some (s.owners.map OwnerRef.toObject)).getD [] = _
  rw [howners]
  cases o.fields.owners.getD [] with
  | nil => rfl
  | cons owner rest => simp [toObject_ofObject_owner]

/-- The values of a secret that is read stand under the keys of the texts that spell them. -/
theorem values_ofObject {o : SecretObject} {s : Secret} (h : ofObject o = .ok s) :
    s.data.entries.map Prod.fst = o.texts.keys ∧
      ∀ key, (o.texts.get? key).map Text.Base64.decode = (s.data.get? key).map Except.ok := by
  rcases ofObject_data h with ⟨values, hvalues, hdata⟩
  rcases lookup_decodeValues hvalues with ⟨hkeys, hlookup⟩
  have hentries : s.data.entries = values := by
    have hnodup : (values.map Prod.fst).Nodup := by
      rw [hkeys]
      exact (o.data.getD Dict.empty).nodup_keys
    rw [hdata]
    exact Dict.entries_insertAll values Dict.empty hnodup
  refine ⟨by rw [hentries, hkeys]; rfl, ?_⟩
  intro key
  rw [Dict.get?, Dict.get?, hentries]
  exact hlookup key

/-- What is written for the values that were read spells the same octets under the same keys. -/
theorem texts_toObject_ofObject {o : SecretObject} {s : Secret} (h : ofObject o = .ok s) :
    s.toObject.texts.keys = o.texts.keys ∧
      ∀ key text, o.texts.get? key = some text → ∃ octets written,
        Text.Base64.decode text = .ok octets ∧ s.toObject.texts.get? key = some written ∧
          Text.Base64.decode written = .ok octets := by
  rcases values_ofObject h with ⟨hkeys, hvalues⟩
  have htexts : s.toObject.texts = s.data.mapValues Text.Base64.encode := rfl
  constructor
  · rw [htexts, ← hkeys]
    simp [Dict.keys, Dict.mapValues]
  · intro key text htext
    have hvalue := hvalues key
    rw [htext, Option.map_some] at hvalue
    cases hoctets : s.data.get? key with
    | none =>
      rw [hoctets] at hvalue
      cases hvalue
    | some octets =>
      rw [hoctets, Option.map_some, Option.some.injEq] at hvalue
      refine ⟨octets, Text.Base64.encode octets, hvalue, ?_, Text.Base64.decode_encode octets⟩
      rw [htexts, Dict.get?_mapValues, hoctets, Option.map_some]

/-- A body carries the object that was read for it. -/
theorem carriedBy_toObject {o : SecretObject} {s : Secret} (h : ofObject o = .ok s) :
    o.CarriedBy s.toObject where
  name := by
    change some s.name = _
    rw [ofObject_fields h]
  ns := by
    change s.ns = _
    rw [ofObject_fields h]
  resourceVersion := by
    change s.resourceVersion = _
    rw [ofObject_fields h]
  type := by
    change some s.type = _
    rw [ofObject_fields h]
  labels := by
    change some s.labels = _
    rw [ofObject_fields h]
  annotations := by
    change some s.annotations = _
    rw [ofObject_fields h]
  owners := owners_toObject_ofObject h
  keys := (texts_toObject_ofObject h).1
  octets := (texts_toObject_ofObject h).2

/-- Every secret reads back from its body, its uid apart.  An object is read exactly if it has the
form of a secret and its texts can be decoded, and the body of the secret that is read carries what
the object holds. -/
theorem read_and_written_back :
    (∀ s : Secret, ofObject s.toObject = .ok { s with uid := none }) ∧
    ∀ o : SecretObject,
      ((∃ s, ofObject o = .ok s) ↔ o.defect = none ∧
        ∀ text ∈ o.texts.values, ∃ octets, Text.Base64.decode text = .ok octets) ∧
      ∀ s, ofObject o = .ok s → o.CarriedBy s.toObject := by
  constructor
  · exact ofObject_toObject
  · intro o
    constructor
    · exact exists_ofObject_iff
    · intro s h
      exact carriedBy_toObject h

namespace Sample

/-- An object with gaps: its text is broken over two lines, has bits that no octet takes, and text
behind its end. -/
def broken : SecretObject where
  envelope := none
  metadata := some { SecretMetadata.absent with
    name := some "env", ns := some "default", resourceVersion := some "7"
    owners := some [⟨"v1", "Pod", "web", "u2", none, some true⟩] }
  type := none
  data := some (Dict.ofList [("k", "Y\nR== ?"), ("empty", "")])

/-- What is read of it. -/
def mended : Secret where
  name := "env"
  ns := some "default"
  uid := none
  resourceVersion := some "7"
  labels := Dict.empty
  annotations := Dict.empty
  type := opaqueType
  data := Dict.ofList [("k", [97]), ("empty", [])]
  owners := [⟨"v1", "Pod", "web", "u2", false, true⟩]

/-- An object without a name. -/
def nameless : SecretObject := ⟨none, none, none, none, none⟩

end Sample

/-- The statement at an object with gaps in its metadata. -/
theorem read_and_written_back_with_gaps :
    ofObject Sample.broken = .ok Sample.mended ∧
      Sample.broken.CarriedBy Sample.mended.toObject := by
  have h : ofObject Sample.broken = .ok Sample.mended := rfl
  exact ⟨h, (read_and_written_back.2 Sample.broken).2 Sample.mended h⟩

/-- An object without a name is read, and the body that is written back has the empty name. -/
theorem nameless_written_under_empty_name :
    ∃ s, ofObject Sample.nameless = .ok s ∧ Sample.nameless.fields.name = none ∧
      s.toObject.fields.name = some "" := ⟨_, rfl, rfl, rfl⟩

end Secret
end SecretSync
