import SecretSync.Proofs.Declaration.Status

/-!
# Statuses put in place of the stored ones

A declaration whose status is written in place of the stored one is read back with all it had, if
its times lie in years of four digits.  The first time that does not makes the object unreadable.
-/

namespace SecretSync.Declaration

/-! ### The parts of an object with another status -/

private theorem memberOr_put_status {name : String} (hname : name ≠ "status")
    (members : List (String × Json)) (value default : Json) :
    memberOr (Dict.put "status" value members) name default = memberOr members name default := by
  rw [memberOr, Dict.lookup_put, if_neg hname.symm, memberOr]

section
variable (object : Json) (s : Status)

private theorem status_replaced :
    truthyOr (object.setMember "status" s.toJson).members "status" (.obj []) = s.toJson := by
  change truthyOr (Dict.put "status" s.toJson object.members) "status" (.obj []) = _
  rw [truthyOr, memberOr, Dict.lookup_put, if_pos rfl]
  rfl

private theorem conditionsOf_replaced :
    conditionsOf (object.setMember "status" s.toJson) =
      (s.conditions.map Condition.toJson).mapM readCondition := by
  have hconditions : truthyOr s.toJson.members "conditions" (.arr []) =
      .arr (s.conditions.map Condition.toJson) := truthyOr_of_arr rfl
  have hstatus : membersOf s.toJson = .ok s.toJson.members := rfl
  rw [conditionsOf, status_replaced, bind_of_ok hstatus, hconditions]
  rfl

private theorem watermarkOf_replaced :
    watermarkOf (object.setMember "status" s.toJson) =
      (s.lastSync.map (fun t => Json.str (Time.Timestamp.format t))).getD .null := by
  rw [watermarkOf, status_replaced]
  obtain ⟨lastSync, conditions⟩ := s
  cases lastSync <;> rfl

private theorem specOf_replaced : specOf (object.setMember "status" s.toJson) = specOf object := by
  unfold specOf truthyOr
  rw [Json.setMember, Json.members, memberOr_put_status (by decide)]

end

/-- A declaration whose status is put in place of the stored one is read back as it is, unless one
of the times of the status lies before year 1000: the first of these makes the object unreadable. -/
theorem status_read_back {object : Json} {d : Declaration} (h : ofObject object = .ok d) :
    ofObject (object.setMember "status" d.status.toJson) =
      match d.status.times.find? (fun t => ¬ t.InFourDigitYear) with
      | none => .ok d
      | some t => .error (.time (.malformed
          (String.ofList (Time.Timestamp.normalise (Time.Timestamp.format t).toList)))) := by
  have hparts := ofObject_eq_ok_iff.mp h
  have hmembers : membersOf (object.setMember "status" d.status.toJson) =
      .ok (Dict.put "status" d.status.toJson object.members) := rfl
  have hmetadata : membersOf (memberOr (object.setMember "status" d.status.toJson).members
      "metadata" (.obj [])) = .ok (metadataOf object) := by
    rw [Json.setMember, Json.members, memberOr_put_status (by decide), hparts.metadata]
  have hspec : accept "BitwardenSecretSpec" (specOf (object.setMember "status" d.status.toJson)) =
      .ok d.spec := by
    rw [specOf_replaced, hparts.spec]
    rfl
  change _ = beside d.status.times d
  rw [ofObject_eq, bind_of_ok hmembers, conditionsOf_replaced, mapM_written]
  refine beside_bind ?_
  rw [bind_of_ok hmetadata, bind_of_ok hspec, watermarkOf_replaced, timestamp_written]
  refine beside_bind_ok ?_
  rw [hparts.checked]
  rfl

namespace Sample

/-- A declaration with a watermark and a condition of another writer, which tells no reason, and a
time at another place in fractions of a microsecond. -/
def dated (lastSync : String) : Json :=
  .obj [
    ("metadata", .obj [("name", .str "app"), ("namespace", .str "default"), ("uid", .str "u1")]),
    ("spec", .obj [("organizationId", .str "org"), ("secretName", .str "app-env"),
      ("authToken", .obj [("secretName", .str "auth"), ("secretKey", .str "token")])]),
    ("status", .obj [("lastSuccessfulSyncTime", .str lastSync),
      ("conditions", .arr [.obj [("type", .str "Seen"), ("status", .str "True"),
        ("lastTransitionTime", .str "2024-05-01T12:00:00.1234567+02:00")]])])]

/-- What that declaration is read as. -/
def read (lastSync : Time.Instant) : Declaration where
  name := "app"
  ns := some "default"
  uid := some "u1"
  resourceVersion := none
  generation := none
  labels := .empty
  annotations := .empty
  spec := ⟨"org", "app-env", ⟨"auth", "token"⟩, none⟩
  status := ⟨some lastSync,
    [⟨"Seen", "True", "", "", some ⟨63850154400123456, by decide⟩, none⟩]⟩

/-- The last second of year 999. -/
def lastOf999 : Time.Instant := ⟨31525372799000000, by decide⟩

/-- The first second of year 1000. -/
def firstOf1000 : Time.Instant := ⟨31525372800000000, by decide⟩

end Sample

/-- The statement at the first half hour of the year 1000, written with an offset. -/
theorem status_read_back_from_year_1000 :
    ofObject (Sample.dated "1000-01-01T00:30:00+00:30") = .ok (Sample.read Sample.firstOf1000) ∧
      ofObject ((Sample.dated "1000-01-01T00:30:00+00:30").setMember "status"
          (Sample.read Sample.firstOf1000).status.toJson) =
        match (Sample.read Sample.firstOf1000).status.times.find?
          (fun t => ¬ t.InFourDigitYear) with
        | none => .ok (Sample.read Sample.firstOf1000)
        | some t => .error (.time (.malformed
            (String.ofList (Time.Timestamp.normalise (Time.Timestamp.format t).toList)))) := by
  have h : ofObject (Sample.dated "1000-01-01T00:30:00+00:30") =
      .ok (Sample.read Sample.firstOf1000) := by decide +kernel
  exact ⟨h, status_read_back h⟩

/-- The last second of year 999 is read, but not what is then written for it. -/
theorem status_lost_before_year_1000 :
    ofObject (Sample.dated "0999-12-31T23:59:59Z") = .ok (Sample.read Sample.lastOf999) ∧
      ofObject ((Sample.dated "0999-12-31T23:59:59Z").setMember "status"
          (Sample.read Sample.lastOf999).status.toJson) =
        .error (.time (.malformed "999-12-31T23:59:59+00:00")) := by
  constructor <;> decide +kernel

end SecretSync.Declaration
