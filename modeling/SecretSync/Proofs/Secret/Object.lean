import SecretSync.Proofs.Text.Base64
import SecretSync.Secret.Object

/-!
# Secrets come back from the cluster

What is written of a secret holds that secret, its uid apart; what the cluster stores of it holds it
under the namespace, the uid and the version that the cluster gives it.  An object of the cluster is
read exactly if it has the form of a secret and each of its texts can be decoded.
-/

namespace SecretSync

private theorem decodeValues_encode (entries : List (String × List UInt8)) :
    decodeValues (entries.map (fun p => (p.1, Text.Base64.encode p.2))) = .ok entries := by
  induction entries with
  | nil => rfl
  | cons p entries ih =>
    rw [List.map_cons, decodeValues, ih, Text.Base64.decode_encode]
    rfl

private theorem ofObject_toObject_owner (o : OwnerRef) : OwnerRef.ofObject o.toObject = o := rfl

private theorem owners_toObject (owners : List OwnerRef) :
    ((if owners.isEmpty then none else some (owners.map OwnerRef.toObject)).getD []).map
      OwnerRef.ofObject = owners := by
  cases owners with
  | nil => rfl
  | cons o owners =>
    rw [List.isEmpty_cons, if_neg Bool.false_ne_true, Option.getD_some, List.map_map]
    exact List.map_id'' ofObject_toObject_owner (o :: owners)

/-- Values that are decoded stand under the keys of their texts, each text spelling its value. -/
theorem lookup_decodeValues {entries : List (String × String)}
    {values : List (String × List UInt8)} (h : decodeValues entries = .ok values) :
    values.map Prod.fst = entries.map Prod.fst ∧
      ∀ key, (Dict.lookup key entries).map Text.Base64.decode =
        (Dict.lookup key values).map Except.ok := by
  induction entries generalizing values with
  | nil =>
    cases h
    exact ⟨rfl, fun _ => rfl⟩
  | cons p entries ih =>
    rcases p with ⟨name, text⟩
    rw [decodeValues] at h
    cases hvalue : Text.Base64.decode text with
    | error e =>
      rw [hvalue] at h
      cases h
    | ok value =>
      cases hrest : decodeValues entries with
      | error e =>
        rw [hvalue, hrest] at h
        cases h
      | ok rest =>
        rw [hvalue, hrest] at h
        cases h
        have hkeys := (ih hrest).1
        refine ⟨by simp [hkeys], ?_⟩
        intro key
        by_cases hkey : name = key
        · simp [Dict.lookup, hkey, hvalue]
        · simpa [Dict.lookup, hkey] using (ih hrest).2 key

/-- All texts are decoded, or one cannot be. -/
theorem exists_decodeValues_iff {entries : List (String × String)} :
    (∃ values, decodeValues entries = .ok values) ↔
      ∀ text ∈ entries.map Prod.snd, ∃ octets, Text.Base64.decode text = .ok octets := by
  induction entries with
  | nil => simp [decodeValues]
  | cons p entries ih =>
    rcases p with ⟨name, text⟩
    rw [List.map_cons, List.forall_mem_cons, ← ih, decodeValues]
    cases Text.Base64.decode text with
    | error e => simp [bind, Except.bind]
    | ok value => cases decodeValues entries <;> simp [bind, Except.bind, pure, Except.pure]

namespace Secret

/-- A secret reads back from its object, under the metadata that the object is given. -/
theorem ofObject_named (s : Secret) (ns uid version : Option String) :
    ofObject { s.toObject with metadata := some { s.toObject.fields with
      ns := ns, uid := uid, resourceVersion := version } } =
      .ok { s with ns := ns, uid := uid, resourceVersion := version } := by
  have hvalues : decodeValues (s.data.mapValues Text.Base64.encode).entries = .ok s.data.entries :=
    decodeValues_encode s.data.entries
  have howners := owners_toObject s.owners
  simp only [ofObject, SecretObject.fields, toObject, Option.getD_some, hvalues, howners]
  exact congrArg (fun data => Except.ok { s with
    ns := ns, uid := uid, resourceVersion := version, data := data })
    (Dict.ofList_entries s.data)

/-- A secret reads back from what is written of it, its uid apart. -/
theorem ofObject_toObject (s : Secret) : ofObject s.toObject = .ok { s with uid := none } :=
  ofObject_named s s.ns none s.resourceVersion

/-- A secret reads back from what is stored of it. -/
theorem ofObject_stored (s : Secret) (ns uid : Option String) (version : String) :
    ofObject (s.toObject.stored ns uid version) =
      .ok { s with ns := ns, uid := uid, resourceVersion := some version } :=
  ofObject_named s ns uid (some version)

/-- What is read of an object that has the form of a secret and whose texts can be decoded: gaps are
filled. -/
theorem ofObject_eq_ok_iff {o : SecretObject} {s : Secret} :
    ofObject o = .ok s ↔ o.defect = none ∧
      ∃ values, decodeValues (o.data.getD Dict.empty).entries = .ok values ∧
        s = {
          name := o.fields.name.getD "", ns := o.fields.ns, uid := o.fields.uid
          resourceVersion := o.fields.resourceVersion
          labels := o.fields.labels.getD Dict.empty
          annotations := o.fields.annotations.getD Dict.empty
          type := o.type.getD opaqueType
          data := Dict.ofList values
          owners := (o.fields.owners.getD []).map OwnerRef.ofObject } := by
  unfold ofObject
  cases o.defect with
  | some rejection =>
    constructor
    · intro h
      cases h
    · rintro ⟨h, -⟩
      cases h
  | none =>
    cases decodeValues (o.data.getD Dict.empty).entries with
    | error e =>
      constructor
      · intro h
        cases h
      · rintro ⟨-, values, hvalues, -⟩
        cases hvalues
    | ok values =>
      constructor
      · intro h
        cases h
        exact ⟨rfl, values, rfl, rfl⟩
      · rintro ⟨-, values', hvalues, rfl⟩
        cases hvalues
        rfl

/-- What is read of a stored secret, its values apart: gaps are filled. -/
theorem ofObject_fields {o : SecretObject} {s : Secret} (h : ofObject o = .ok s) :
    s = { s with
      name := o.fields.name.getD "", ns := o.fields.ns, uid := o.fields.uid
      resourceVersion := o.fields.resourceVersion
      labels := o.fields.labels.getD Dict.empty
      annotations := o.fields.annotations.getD Dict.empty
      type := o.type.getD opaqueType
      owners := (o.fields.owners.getD []).map OwnerRef.ofObject } := by
  rcases ofObject_eq_ok_iff.mp h with ⟨-, values, -, rfl⟩
  rfl

/-- The values of a secret that is read are what the texts of the object spell. -/
theorem ofObject_data {o : SecretObject} {s : Secret} (h : ofObject o = .ok s) :
    ∃ values, decodeValues (o.data.getD Dict.empty).entries = .ok values ∧
      s.data = Dict.ofList values := by
  rcases ofObject_eq_ok_iff.mp h with ⟨-, values, hvalues, rfl⟩
  exact ⟨values, hvalues, rfl⟩

/-- An object is read exactly if it has the form of a secret and its texts can be decoded. -/
theorem exists_ofObject_iff {o : SecretObject} :
    (∃ s, ofObject o = .ok s) ↔ o.defect = none ∧
      ∀ text ∈ (o.data.getD Dict.empty).values, ∃ octets, Text.Base64.decode text = .ok octets := by
  rw [Dict.values, ← exists_decodeValues_iff]
  constructor
  · rintro ⟨s, h⟩
    rcases ofObject_eq_ok_iff.mp h with ⟨hdefect, values, hvalues, -⟩
    exact ⟨hdefect, values, hvalues⟩
  · rintro ⟨hdefect, values, hvalues⟩
    exact ⟨_, ofObject_eq_ok_iff.mpr ⟨hdefect, values, hvalues, rfl⟩⟩

end Secret
end SecretSync
