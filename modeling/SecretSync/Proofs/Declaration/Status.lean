import SecretSync.Declaration.Condition
import SecretSync.Proofs.Declaration.Reading

/-!
# Statuses that are read back

A declaration that is read, and whose status is then written, is read back with the written status;
what is not in the written status is as it was.
-/

namespace SecretSync

/-- The transition of a condition, if there was one, lies in a year of four digits. -/
def Condition.InFourDigitYear (c : Condition) : Prop :=
  ∀ t, c.lastTransition = some t → t.InFourDigitYear

/-- The times of a status, in the order in which they are read. -/
def Status.times (s : Status) : List Time.Instant :=
  s.conditions.filterMap (·.lastTransition) ++ s.lastSync.toList

/-- The times of a status lie in years of four digits. -/
structure Status.InFourDigitYears (s : Status) : Prop where
  lastSync : ∀ t, s.lastSync = some t → t.InFourDigitYear
  conditions : ∀ c ∈ s.conditions, c.InFourDigitYear

namespace Condition

private theorem member?_type (c : Condition) : c.toJson.member? "type" = some (.str c.type) := rfl

private theorem member?_observedGeneration (c : Condition) :
    c.toJson.member? "observedGeneration" = c.observedGeneration.map .int := by
  obtain ⟨type, status, reason, message, lastTransition, observedGeneration⟩ := c
  cases lastTransition <;> cases observedGeneration <;> rfl

end Condition

/-- Statuses that are written alike have conditions that are written alike. -/
theorem Status.conditions_of_toJson_eq {s s' : Status} (h : s.toJson = s'.toJson) :
    s.conditions.map Condition.toJson = s'.conditions.map Condition.toJson :=
  Json.arr.inj (Option.some.inj (congrArg (Json.member? "conditions") h))

namespace Report

/-- Recording leaves the conditions of other types as they are. -/
theorem filter_record (r : Report) (cs : List Condition) :
    (r.record cs).filter (·.type ≠ r.type.name) = cs.filter (·.type ≠ r.type.name) := by
  induction cs with
  | nil => simp [record, toCondition]
  | cons c cs ih =>
    by_cases htype : c.type = r.type.name
    · simp [record, htype, update]
    · simpa [record, htype] using ih

/-- A condition tells what a report says, the time apart. -/
structure ToldBy (r : Report) (c : Condition) : Prop where
  type : c.type = r.type.name
  status : c.status = r.status
  reason : c.reason = r.reason.name
  message : c.message = r.message
  observedGeneration : c.observedGeneration = r.generation

/-- The first recorded condition of the type of a report tells the report. -/
theorem find?_record (r : Report) (cs : List Condition) :
    ∃ c, (r.record cs).find? (·.type = r.type.name) = some c ∧ r.ToldBy c := by
  induction cs with
  | nil => exact ⟨r.toCondition, by simp [record, toCondition], rfl, rfl, rfl, rfl, rfl⟩
  | cons c cs ih =>
    by_cases htype : c.type = r.type.name
    · exact ⟨r.update c, by simp [record, update, htype], htype, rfl, rfl, rfl, rfl⟩
    · obtain ⟨told, hfind, htold⟩ := ih
      exact ⟨told, by simpa [record, htype] using hfind, htold⟩

/-- The generation that the first condition of the last sync tells; nothing if there is none. -/
def observed? (cs : List Condition) : Option (Option Int) :=
  (cs.find? (·.type = ConditionType.successfulSync.name)).map (·.observedGeneration)

/-- A recorded sync tells its generation. -/
theorem observed?_record (r : Report) (hsync : r.type = .successfulSync) (cs : List Condition) :
    observed? (r.record cs) = some r.generation := by
  obtain ⟨c, hfind, htold⟩ := r.find?_record cs
  rw [observed?, ← hsync, hfind, Option.map_some, htold.observedGeneration]

/-- A recorded failure leaves the generation of the last sync. -/
theorem observed?_record_of_ne (r : Report) (hsync : r.type ≠ .successfulSync)
    (cs : List Condition) : observed? (r.record cs) = observed? cs := by
  have hname : ConditionType.successfulSync.name ≠ r.type.name := by
    cases htype : r.type with
    | failedSync => decide
    | successfulSync => exact (hsync htype).elim
  have hother : ∀ cs : List Condition,
      (cs.filter (·.type ≠ r.type.name)).find? (·.type = ConditionType.successfulSync.name) =
        cs.find? (·.type = ConditionType.successfulSync.name) := by
    intro cs
    rw [List.find?_filter]
    congr 1
    funext c
    by_cases hc : c.type = ConditionType.successfulSync.name <;> simp [hc, hname]
  rw [observed?, ← hother, r.filter_record, hother, observed?]

/-- Conditions that are written alike tell the same generation of the last sync. -/
theorem observed?_congr {cs cs' : List Condition}
    (h : cs.map Condition.toJson = cs'.map Condition.toJson) : observed? cs = observed? cs' := by
  induction cs generalizing cs' with
  | nil => rw [List.map_eq_nil_iff.mp h.symm]
  | cons c cs ih =>
    obtain ⟨c', cs', rfl, hc, hcs⟩ := List.map_eq_cons_iff.mp h.symm
    have htype : c.type = c'.type := by
      simpa [Condition.member?_type] using congrArg (Json.member? "type") hc.symm
    have hgeneration : c.observedGeneration = c'.observedGeneration := by
      have hsame := congrArg (Json.member? "observedGeneration") hc.symm
      rw [Condition.member?_observedGeneration, Condition.member?_observedGeneration] at hsame
      exact Option.map_injective (fun _ _ => Json.int.inj) hsame
    have hrest := ih hcs.symm
    unfold observed? at hrest ⊢
    rw [List.find?_cons, List.find?_cons, ← htype]
    split
    · simp [hgeneration]
    · exact hrest

/-- Times of transition come from a report, or are kept. -/
theorem inFourDigitYear_record {r : Report} {cs : List Condition}
    (htime : r.time.InFourDigitYear) (h : ∀ c ∈ cs, c.InFourDigitYear) :
    ∀ c ∈ r.record cs, c.InFourDigitYear := by
  have hnow : ∀ t, some r.time = some t → t.InFourDigitYear := by
    rintro t ⟨⟩
    exact htime
  induction cs with
  | nil => exact List.forall_mem_singleton.mpr hnow
  | cons c cs ih =>
    rw [List.forall_mem_cons] at h
    unfold record
    split
    · refine List.forall_mem_cons.mpr ⟨?_, h.2⟩
      intro t ht
      simp only [update] at ht
      split at ht
      · exact h.1 t ht
      · exact hnow t ht
    · exact List.forall_mem_cons.mpr ⟨h.1, ih h.2⟩

end Report

namespace Declaration

/-- How the text of a time before year 1000 is refused. -/
def unread (t : Time.Instant) : ReadError :=
  .time (.malformed (String.ofList (Time.Timestamp.normalise (Time.Timestamp.format t).toList)))

/-- A value that is read beside some times; the first of them before year 1000 is refused. -/
def beside {α : Type} (times : List Time.Instant) (a : α) : Except ReadError α :=
  match times.find? (fun t => ¬ t.InFourDigitYear) with
  | none => .ok a
  | some t => .error (unread t)

section
variable {α β : Type} {times more : List Time.Instant} {a : α} {b : β} {f : α → Except ReadError β}

private theorem beside_eq_ok (h : ∀ t ∈ times, t.InFourDigitYear) (a : α) :
    beside times a = .ok a := by
  have hnone : times.find? (fun t => ¬ t.InFourDigitYear) = none := by
    rw [List.find?_eq_none]
    intro t ht
    simpa using h t ht
  rw [beside, hnone]

private theorem eq_of_beside_eq_ok {a' : α} (h : beside times a = .ok a') : a' = a := by
  unfold beside at h
  split at h
  · exact (Except.ok.inj h).symm
  · cases h

/-- What is read one after the other is read beside the times of both. -/
theorem beside_bind (h : f a = beside more b) :
    beside times a >>= f = beside (times ++ more) b := by
  unfold beside at h ⊢
  rw [List.find?_append]
  cases times.find? (fun t => ¬ t.InFourDigitYear) with
  | none => exact h
  | some t => rfl

/-- A part that succeeds beside others goes on with its value. -/
theorem beside_bind_ok (h : f a = .ok b) : beside times a >>= f = beside times b := by
  have hnone : f a = beside [] b := h
  rw [beside_bind hnone, List.append_nil]

end

/-- A written time, if there is one, is read back beside itself. -/
theorem timestamp_written (t : Option Time.Instant) :
    timestamp ((t.map (fun t => Json.str (Time.Timestamp.format t))).getD .null) =
      beside t.toList t := by
  cases t with
  | none => rfl
  | some t =>
    rw [Option.map_some, Option.getD_some, timestamp_format_eq, beside, Option.toList_some,
      List.find?_singleton]
    by_cases h : t.InFourDigitYear <;> simp [h, unread]

/-- A written condition is read back beside the time of its transition. -/
theorem readCondition_written (c : Condition) :
    readCondition c.toJson = beside c.lastTransition.toList c := by
  obtain ⟨type, status, reason, message, lastTransition, observedGeneration⟩ := c
  have htime : memberOr (Condition.toJson ⟨type, status, reason, message, lastTransition,
      observedGeneration⟩).members "lastTransitionTime" .null =
        (lastTransition.map (fun t => Json.str (Time.Timestamp.format t))).getD .null := by
    cases lastTransition <;> cases observedGeneration <;> rfl
  change timestamp (memberOr (Condition.toJson _).members "lastTransitionTime" .null) >>= _ = _
  rw [htime, timestamp_written]
  refine beside_bind_ok ?_
  cases lastTransition <;> cases observedGeneration <;> rfl

/-- Written conditions are read back, each beside its time. -/
theorem mapM_written (cs : List Condition) :
    (cs.map Condition.toJson).mapM readCondition = beside (cs.filterMap (·.lastTransition)) cs := by
  induction cs with
  | nil => rfl
  | cons c cs ih =>
    have htimes : (c :: cs).filterMap (·.lastTransition) =
        c.lastTransition.toList ++ cs.filterMap (·.lastTransition) := by
      cases h : c.lastTransition <;> simp [h]
    rw [List.map_cons, List.mapM_cons, readCondition_written, htimes]
    refine beside_bind ?_
    rw [ih]
    exact beside_bind_ok rfl

/-- Written conditions are read back. -/
theorem mapM_readCondition {cs : List Condition} (h : ∀ c ∈ cs, c.InFourDigitYear) :
    (cs.map Condition.toJson).mapM readCondition = .ok cs := by
  rw [mapM_written]
  refine beside_eq_ok (fun t ht => ?_) cs
  obtain ⟨c, hc, ht⟩ := List.mem_filterMap.mp ht
  exact h c hc t ht

/-- Written conditions that are read back tell the same generation of the last sync. -/
theorem observed?_of_mapM {cs cs' : List Condition}
    (h : (cs.map Condition.toJson).mapM readCondition = .ok cs') :
    Report.observed? cs' = Report.observed? cs := by
  rw [mapM_written] at h
  rw [eq_of_beside_eq_ok h]

private theorem exists_status (object body : Json) (version : String) :
    ∃ members, memberOr (Cluster.patched object body version).members "status" .null =
      .obj members := by
  unfold Cluster.patched
  change ∃ members, (Dict.lookup "status" (Dict.put "metadata" _
    (Dict.put "status" _ object.members))).getD .null = .obj members
  rw [Dict.lookup_put, if_neg (by decide), Dict.lookup_put, if_pos rfl, Option.getD_some]
  generalize ((body.member? "status").getD .null).members.foldl
    (fun acc m => acc.setMember m.1 m.2) ((object.member? "status").getD .null) = status
  cases status <;> exact ⟨_, rfl⟩

/-- A list counts for itself, also an empty one, when the default is empty. -/
theorem truthyOr_of_arr {members : List (String × Json)} {name : String} {items : List Json}
    (h : memberOr members name .null = .arr items) :
    truthyOr members name (.arr []) = .arr items := by
  rw [truthyOr, h]
  cases items <;> rfl

/-- The members of a written status: its conditions are the written ones. -/
theorem members_status (object : Json) (s : Status) (version : String) :
    ∃ members, truthyOr (Cluster.patched object (.obj [("status", s.toJson)]) version).members
        "status" (.obj []) = .obj members ∧
      truthyOr members "conditions" (.arr []) = .arr (s.conditions.map Condition.toJson) := by
  obtain ⟨members, hobject⟩ := exists_status object (.obj [("status", s.toJson)]) version
  have hmembers := status_patched object (.obj [("status", s.toJson)]) version
  have hnews : ((Json.obj [("status", s.toJson)]).member? "status").getD .null = s.toJson := rfl
  rw [hobject, hnews, Json.members] at hmembers
  have hlookup : Dict.lookup "conditions" members =
      some (.arr (s.conditions.map Condition.toJson)) := by
    rw [hmembers]
    cases hlast : s.lastSync <;> simp [Status.toJson, Json.members, hlast, Dict.lookup_put]
  have hfull : members ≠ [] := by
    rintro rfl
    cases hlookup
  refine ⟨members, ?_, ?_⟩
  · simp [truthyOr, hobject, Json.isTruthy, hfull]
  · refine truthyOr_of_arr ?_
    rw [memberOr, hlookup, Option.getD_some]

/-- A written status has the conditions that were written. -/
theorem conditionsOf_patched (object : Json) (s : Status) (version : String) :
    conditionsOf (Cluster.patched object (.obj [("status", s.toJson)]) version) =
      (s.conditions.map Condition.toJson).mapM readCondition := by
  obtain ⟨members, hstatus, hconditions⟩ := members_status object s version
  have hitems : itemsOf (.arr (s.conditions.map Condition.toJson)) =
      .ok (s.conditions.map Condition.toJson) := rfl
  rw [conditionsOf, hstatus, bind_of_ok (membersOf_obj _), hconditions, bind_of_ok hitems]

private theorem memberOr_put_version {metadata : List (String × Json)} {name : String}
    (hname : name ≠ "resourceVersion") (version : String) (default : Json) :
    memberOr (Dict.put "resourceVersion" (.str version) metadata) name default =
      memberOr metadata name default := by
  rw [memberOr, Dict.lookup_put, if_neg hname.symm, memberOr]

/-- Metadata with another version and around another status give a declaration that differs in these
two only. -/
theorem checkMetadata_put {metadata : List (String × Json)} {spec : Spec}
    {status : Status} {d : Declaration} (h : checkMetadata metadata spec status = .ok d)
    {version : String} (hversion : Text.hasHalf version = false) (status' : Status) :
    checkMetadata (Dict.put "resourceVersion" (.str version) metadata) spec status' =
      .ok { d with
        resourceVersion := some (Text.trimWhiteSpace version), status := status' } := by
  have hput : memberOr (Dict.put "resourceVersion" (.str version) metadata)
      "resourceVersion" .null = .str version := by
    rw [memberOr, Dict.lookup_put, if_pos rfl, Option.getD_some]
  have hread : Schema.orNull Schema.trimmedText (.str version) =
      .ok (some (Text.trimWhiteSpace version)) := by
    have hwhole : ¬ Text.hasHalf version = true := ne_true_of_eq_false hversion
    change (if Text.hasHalf version = true then Schema.Checked.fault .textUndecodable
      else .ok (Text.trimWhiteSpace version)).map some = _
    rw [if_neg hwhole]
    rfl
  simp only [checkMetadata, Functor.map, Seq.seq, Schema.Checked.seq_eq_ok_iff,
    Schema.Checked.map_eq_ok_iff] at h
  obtain ⟨_, generation, ⟨_, annotations, ⟨_, labels, ⟨_, _, ⟨_, uid, ⟨_, ns, ⟨name, hname, rfl⟩,
    hns, rfl⟩, huid, rfl⟩, -, rfl⟩, hlabels, rfl⟩, hannotations, rfl⟩, hgeneration, rfl⟩ := h
  simp only [checkMetadata, Functor.map, Seq.seq, truthyOr, hput, hread,
    memberOr_put_version (by decide : "name" ≠ "resourceVersion"),
    memberOr_put_version (by decide : "namespace" ≠ "resourceVersion"),
    memberOr_put_version (by decide : "uid" ≠ "resourceVersion"),
    memberOr_put_version (by decide : "labels" ≠ "resourceVersion"),
    memberOr_put_version (by decide : "annotations" ≠ "resourceVersion"),
    memberOr_put_version (by decide : "generation" ≠ "resourceVersion")] at *
  rw [hname, hns, huid, hlabels, hannotations, hgeneration]
  rfl

private theorem metadata_patched (object body : Json) (version : String) :
    memberOr (Cluster.patched object body version).members "metadata" (.obj []) =
      .obj (Dict.put "resourceVersion" (.str version)
        (memberOr object.members "metadata" (.obj [])).members) := by
  change (Dict.lookup "metadata" (Dict.put "metadata" _ _)).getD _ = _
  rw [Dict.lookup_put, if_pos rfl, Option.getD_some]
  have hmetadata : ((object.member? "metadata").getD .null).members =
      (memberOr object.members "metadata" (.obj [])).members := by
    rw [memberOr, member?_eq_lookup]
    cases Dict.lookup "metadata" object.members <;> rfl
  rw [← hmetadata]
  rfl

/-- A declaration whose status was written reads back with it; a watermark that the written status
has not is the stored one. -/
theorem ofObject_patched {object : Json} {d : Declaration} {s : Status}
    (h : ofObject object = .ok d) (hyears : s.InFourDigitYears) {version : String}
    (hversion : Text.hasHalf version = false) :
    ofObject (Cluster.patched object (.obj [("status", s.toJson)]) version) =
      .ok { d with
        resourceVersion := some (Text.trimWhiteSpace version)
        status := ⟨s.lastSync.or d.status.lastSync, s.conditions⟩ } := by
  have hparts := ofObject_eq_ok_iff.mp h
  refine ofObject_eq_ok_iff.mpr ?_
  constructor
  case members => rfl
  case conditions => rw [conditionsOf_patched, mapM_readCondition hyears.conditions]
  case metadata =>
    rw [metadataOf, metadata_patched]
    rfl
  case spec => rw [specOf_patched, hparts.spec]
  case lastSync =>
    rw [← readWatermark, readWatermark_patched (d := { d with status := s }) object version
      hyears.lastSync]
    cases s.lastSync with
    | some t => rfl
    | none => exact hparts.lastSync
  case checked =>
    rw [metadataOf_patched]
    exact checkMetadata_put hparts.checked hversion _

end Declaration
end SecretSync
