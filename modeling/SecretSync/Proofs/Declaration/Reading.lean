import SecretSync.Cluster.Requests
import SecretSync.Declaration.Reader
import SecretSync.Declaration.Writer
import SecretSync.Proofs.Time.Timestamp

/-!
# What a declaration is read from

The spec, the namespace and the watermark of a declaration each come from one place of the object
that it is read from.  A written status leaves the places of the spec and of the namespace as they
were.
-/

namespace SecretSync.Declaration

/-- The spec of an object. -/
def specOf (object : Json) : Schema.Checked Spec :=
  checkSpec (truthyOr object.members "spec" (.obj []))

/-- The metadata of an object. -/
def metadataOf (object : Json) : List (String × Json) :=
  (memberOr object.members "metadata" (.obj [])).members

/-- The name that the metadata of an object give. -/
def nameOf (object : Json) : Schema.Checked String :=
  Schema.trimmedText (memberOr (metadataOf object) "name" (.str ""))

/-- The namespace that the metadata of an object give. -/
def nsOf (object : Json) : Schema.Checked (Option String) :=
  Schema.orNull Schema.trimmedText (memberOr (metadataOf object) "namespace" .null)

/-- The watermark as the status of an object has it. -/
def watermarkOf (object : Json) : Json :=
  memberOr (truthyOr object.members "status" (.obj [])).members "lastSuccessfulSyncTime" .null

/-- The status of an object; null without one. -/
def statusOf (object : Json) : Json := memberOr object.members "status" .null

/-- The conditions that the status of an object tells. -/
def conditionsOf (object : Json) : Except ReadError (List Condition) := do
  let members ← membersOf (truthyOr object.members "status" (.obj []))
  let items ← itemsOf (truthyOr members "conditions" (.arr []))
  items.mapM readCondition

/-- A sequence that succeeds succeeds in both parts. -/
theorem bind_eq_ok {ε α β : Type} {x : Except ε α} {f : α → Except ε β} {b : β}
    (h : x >>= f = .ok b) : ∃ a, x = .ok a ∧ f a = .ok b := by
  cases x with
  | error e => cases h
  | ok a => exact ⟨a, rfl, h⟩

/-- Behind a success, the rest decides. -/
theorem bind_of_ok {ε α β : Type} {x : Except ε α} {a : α} {f : α → Except ε β}
    (h : x = .ok a) : x >>= f = f a := by
  rw [h]
  rfl

/-- The members of an object are at hand. -/
theorem membersOf_obj (members : List (String × Json)) : membersOf (.obj members) = .ok members :=
  rfl

private theorem membersOf_eq_ok {value : Json} {members : List (String × Json)}
    (h : membersOf value = .ok members) : value.members = members := by
  cases value with
  | obj ms =>
    cases h
    rfl
  | _ => cases h

private theorem accept_eq_ok {α : Type} {title : String} {checked : Schema.Checked α} {a : α}
    (h : accept title checked = .ok a) : checked = .ok a := by
  cases checked with
  | ok b =>
    cases h
    rfl
  | bad i is => cases h

private theorem under_eq_ok {α : Type} {part : Schema.Part} {checked : Schema.Checked α} {a : α}
    (h : checked.under part = .ok a) : checked = .ok a := by
  cases checked with
  | ok b =>
    cases h
    rfl
  | bad i is => cases h

private theorem checkMetadata_eq_ok {metadata : List (String × Json)} {spec : Spec}
    {status : Status} {d : Declaration} (h : checkMetadata metadata spec status = .ok d) :
    d.spec = spec ∧ d.status = status ∧
      Schema.trimmedText (memberOr metadata "name" (.str "")) = .ok d.name ∧
      Schema.orNull Schema.trimmedText (memberOr metadata "namespace" .null) = .ok d.ns := by
  simp only [checkMetadata, Functor.map, Seq.seq, Schema.Checked.seq_eq_ok_iff,
    Schema.Checked.map_eq_ok_iff] at h
  obtain ⟨_, _, ⟨_, _, ⟨_, _, ⟨_, _, ⟨_, _, ⟨_, ns, ⟨name, hname, rfl⟩, hns, rfl⟩, -, rfl⟩, -, rfl⟩,
    -, rfl⟩, -, rfl⟩, -, rfl⟩ := h
  exact ⟨rfl, rfl, under_eq_ok hname, under_eq_ok hns⟩

/-- Reading goes by the parts of an object: the conditions, the metadata, the spec and the
watermark. -/
theorem ofObject_eq (object : Json) :
    ofObject object = (do
      let _ ← membersOf object
      let conditions ← conditionsOf object
      let metadata ← membersOf (memberOr object.members "metadata" (.obj []))
      let spec ← accept "BitwardenSecretSpec" (specOf object)
      let lastSync ← timestamp (watermarkOf object)
      accept "BitwardenSecret" (checkMetadata metadata spec ⟨lastSync, conditions⟩)) := by
  cases hmembers : membersOf object with
  | error e =>
    rw [ofObject, hmembers]
    rfl
  | ok members =>
    rw [ofObject, bind_of_ok hmembers, bind_of_ok rfl, membersOf_eq_ok hmembers, conditionsOf,
      specOf, watermarkOf, membersOf_eq_ok hmembers]
    cases hstatus : membersOf (truthyOr members "status" (.obj [])) with
    | error e => rfl
    | ok statusMembers =>
      rw [membersOf_eq_ok hstatus]
      simp only [bind_assoc]
      rfl

/-- What an object has for the parts of a declaration. -/
structure ReadAs (object : Json) (d : Declaration) : Prop where
  members : membersOf object = .ok object.members
  conditions : conditionsOf object = .ok d.status.conditions
  metadata : membersOf (memberOr object.members "metadata" (.obj [])) = .ok (metadataOf object)
  spec : specOf object = .ok d.spec
  lastSync : timestamp (watermarkOf object) = .ok d.status.lastSync
  checked : checkMetadata (metadataOf object) d.spec d.status = .ok d

/-- A declaration is read from an object that has its parts. -/
theorem ofObject_eq_ok_iff {object : Json} {d : Declaration} :
    ofObject object = .ok d ↔ ReadAs object d := by
  rw [ofObject_eq]
  constructor
  · intro h
    obtain ⟨members, hmembers, h⟩ := bind_eq_ok h
    obtain ⟨conditions, hconditions, h⟩ := bind_eq_ok h
    obtain ⟨metadata, hmetadata, h⟩ := bind_eq_ok h
    obtain ⟨spec, hspec, h⟩ := bind_eq_ok h
    obtain ⟨lastSync, hsync, h⟩ := bind_eq_ok h
    have hchecked := accept_eq_ok h
    obtain ⟨rfl, hstatus, -, -⟩ := checkMetadata_eq_ok hchecked
    have hnames : metadataOf object = metadata := membersOf_eq_ok hmetadata
    rw [← membersOf_eq_ok hmembers] at hmembers
    rw [← hnames] at hmetadata hchecked
    constructor
    case members => exact hmembers
    case conditions => rw [hconditions, hstatus]
    case metadata => exact hmetadata
    case spec => exact accept_eq_ok hspec
    case lastSync => rw [hsync, hstatus]
    case checked => rwa [hstatus]
  · intro h
    rw [bind_of_ok h.members, bind_of_ok h.conditions, bind_of_ok h.metadata, h.spec]
    change timestamp (watermarkOf object) >>= _ = _
    rw [bind_of_ok h.lastSync, h.checked]
    rfl

/-- A declaration has the spec, the name, the namespace and the watermark of its object. -/
theorem ofObject_eq_ok {object : Json} {d : Declaration} (h : ofObject object = .ok d) :
    specOf object = .ok d.spec ∧ nameOf object = .ok d.name ∧ nsOf object = .ok d.ns ∧
      timestamp (watermarkOf object) = .ok d.status.lastSync := by
  have hparts := ofObject_eq_ok_iff.mp h
  obtain ⟨-, -, hname, hns⟩ := checkMetadata_eq_ok hparts.checked
  exact ⟨hparts.spec, hname, hns, hparts.lastSync⟩

/-- A declaration has the conditions of its object. -/
theorem conditionsOf_eq_ok {object : Json} {d : Declaration} (h : ofObject object = .ok d) :
    conditionsOf object = .ok d.status.conditions := (ofObject_eq_ok_iff.mp h).conditions

private theorem truthyOr_status_congr {object old : Json} (h : statusOf object = statusOf old) :
    truthyOr object.members "status" (.obj []) = truthyOr old.members "status" (.obj []) := by
  unfold truthyOr
  rw [← statusOf, h, statusOf]

/-- Only the status matters for the conditions. -/
theorem conditionsOf_congr {object old : Json} (h : statusOf object = statusOf old) :
    conditionsOf object = conditionsOf old := by
  rw [conditionsOf, truthyOr_status_congr h, conditionsOf]

/-- Only the status matters for the watermark. -/
theorem watermarkOf_congr {object old : Json} (h : statusOf object = statusOf old) :
    watermarkOf object = watermarkOf old := by
  rw [watermarkOf, truthyOr_status_congr h, watermarkOf]

/-- Another member than the status does not matter for it. -/
theorem statusOf_setMember {name : String} (hname : name ≠ "status") (object value : Json) :
    statusOf (object.setMember name value) = statusOf object := by
  change (Dict.lookup "status" (Dict.put name value object.members)).getD .null = _
  rw [Dict.lookup_put, if_neg hname, statusOf, memberOr]

/-! ### Written statuses -/

/-- A member is found by its name in the list of members. -/
theorem member?_eq_lookup (object : Json) (name : String) :
    object.member? name = Dict.lookup name object.members := by
  cases object <;> rfl

private theorem memberOr_patched {name : String} (hstatus : name ≠ "status")
    (hmetadata : name ≠ "metadata") (object body default : Json) (version : String) :
    memberOr (Cluster.patched object body version).members name default =
      memberOr object.members name default := by
  simp only [memberOr, Cluster.patched, Json.setMember, Json.members]
  rw [Dict.lookup_put, if_neg hmetadata.symm, Dict.lookup_put, if_neg hstatus.symm]

/-- A patch puts the new version into the metadata and leaves the rest. -/
theorem metadataOf_patched (object body : Json) (version : String) :
    metadataOf (Cluster.patched object body version) =
      Dict.put "resourceVersion" (.str version) (metadataOf object) := by
  have hmetadata : ((object.member? "metadata").getD .null).members = metadataOf object := by
    rw [metadataOf, memberOr, member?_eq_lookup]
    cases Dict.lookup "metadata" object.members <;> rfl
  rw [← hmetadata]
  simp only [metadataOf, memberOr, Cluster.patched, Json.setMember, Json.members]
  rw [Dict.lookup_put, if_pos rfl]
  rfl

private theorem memberOr_metadataOf_patched {name : String} (hname : name ≠ "resourceVersion")
    (object body default : Json) (version : String) :
    memberOr (metadataOf (Cluster.patched object body version)) name default =
      memberOr (metadataOf object) name default := by
  rw [metadataOf_patched, memberOr, Dict.lookup_put, if_neg hname.symm, memberOr]

/-- A written status does not change the spec. -/
theorem specOf_patched (object body : Json) (version : String) :
    specOf (Cluster.patched object body version) = specOf object := by
  simp only [specOf, truthyOr, memberOr_patched (by decide : "spec" ≠ "status") (by decide)]

/-- A written status does not change the namespace. -/
theorem nsOf_patched (object body : Json) (version : String) :
    nsOf (Cluster.patched object body version) = nsOf object := by
  rw [nsOf, memberOr_metadataOf_patched (by decide), nsOf]

private theorem members_truthyOr (members : List (String × Json)) (name : String) :
    (truthyOr members name (.obj [])).members = (memberOr members name .null).members := by
  unfold truthyOr
  dsimp only
  split
  · rfl
  · next hfalse =>
    cases hvalue : memberOr members name .null with
    | obj ms =>
      rw [hvalue] at hfalse
      cases ms with
      | nil => rfl
      | cons m ms => exact (hfalse rfl).elim
    | _ => rfl

private theorem watermarkOf_eq (object : Json) :
    watermarkOf object =
      memberOr (memberOr object.members "status" .null).members "lastSuccessfulSyncTime" .null := by
  rw [watermarkOf, members_truthyOr]

private theorem members_foldl_setMember (news : List (String × Json)) (old : Json) :
    (news.foldl (fun acc m => acc.setMember m.1 m.2) old).members =
      news.foldl (fun ms m => Dict.put m.1 m.2 ms) old.members := by
  induction news generalizing old with
  | nil => rfl
  | cons m news ih =>
    rw [List.foldl_cons, ih]
    rfl

/-- The members of a new status are put over those of the stored one. -/
theorem status_patched (object body : Json) (version : String) :
    (memberOr (Cluster.patched object body version).members "status" .null).members =
      ((body.member? "status").getD .null).members.foldl (fun ms m => Dict.put m.1 m.2 ms)
        (memberOr object.members "status" .null).members := by
  have hold : (object.member? "status").getD .null = memberOr object.members "status" .null := by
    rw [memberOr, member?_eq_lookup]
  rw [← hold, ← members_foldl_setMember]
  unfold Cluster.patched
  change Json.members ((Dict.lookup "status" (Dict.put "metadata" _
    (Dict.put "status" _ object.members))).getD .null) = _
  rw [Dict.lookup_put, if_neg (by decide), Dict.lookup_put, if_pos rfl, Option.getD_some]
  generalize ((body.member? "status").getD .null).members.foldl
    (fun acc m => acc.setMember m.1 m.2) ((object.member? "status").getD .null) = status
  cases status <;> rfl

/-- A written status has the watermark of the declaration, or keeps the stored one if there is
none. -/
theorem watermarkOf_patched (object : Json) (d : Declaration) (version : String) :
    watermarkOf (Cluster.patched object (.obj [("status", d.status.toJson)]) version) =
      match d.status.lastSync with
      | some t => .str (Time.Timestamp.format t)
      | none => watermarkOf object := by
  have hnews : ((Json.obj [("status", d.status.toJson)]).member? "status").getD .null =
      d.status.toJson := rfl
  rw [watermarkOf_eq, watermarkOf_eq, status_patched, hnews, Status.toJson]
  cases d.status.lastSync with
  | none =>
    simp only [Json.members, List.foldl_cons, List.foldl_nil]
    rw [memberOr, Dict.lookup_put, if_neg (by decide)]
    rfl
  | some t =>
    simp only [Json.members, List.foldl_cons, List.foldl_nil]
    rw [memberOr, Dict.lookup_put, if_pos rfl]
    rfl

/-- An object has a watermark, readable or not. -/
def Marked (object : Json) : Prop := timestamp (watermarkOf object) ≠ .ok none

/-- An equal watermark marks two objects alike. -/
theorem marked_congr {object old : Json} (h : watermarkOf object = watermarkOf old) :
    Marked object ↔ Marked old := by
  rw [Marked, h, Marked]

/-- An object is marked exactly if its reading has a last sync. -/
theorem marked_iff {object : Json} {d : Declaration} (h : ofObject object = .ok d) :
    Marked object ↔ d.status.lastSync ≠ none := by
  rw [Marked, (ofObject_eq_ok h).2.2.2, ne_eq, Except.ok.injEq]

/-- Only null and the empty text are no timestamp. -/
theorem timestamp_eq_none_iff {value : Json} :
    timestamp value = .ok none ↔ value = .null ∨ value = .str "" := by
  unfold timestamp Time.Timestamp.ofField
  split
  · exact iff_of_true rfl (Or.inl rfl)
  · exact iff_of_true rfl (Or.inr rfl)
  · next hnull hempty =>
    constructor
    · intro h
      cases hparse : Time.Timestamp.parse value.plain with
      | error e =>
        rw [hparse] at h
        cases h
      | ok t =>
        rw [hparse] at h
        cases h
    · rintro (rfl | rfl)
      · exact (hnull rfl).elim
      · exact (hempty rfl).elim

/-- What the watermark of an object reads as. -/
def readWatermark (object : Json) : Except ReadError (Option Time.Instant) :=
  timestamp (watermarkOf object)

/-- Equal watermarks are read alike. -/
theorem readWatermark_congr {object old : Json} (h : watermarkOf object = watermarkOf old) :
    readWatermark object = readWatermark old := congrArg timestamp h

/-- A written instant is read back from a field if its year has four digits, and else refused. -/
theorem timestamp_format_eq (t : Time.Instant) :
    timestamp (.str (Time.Timestamp.format t)) =
      if t.InFourDigitYear then .ok (some t)
      else .error (.time (.malformed
        (String.ofList (Time.Timestamp.normalise (Time.Timestamp.format t).toList)))) := by
  rw [timestamp, Time.Timestamp.ofField_format]
  split <;> rfl

/-- An instant of a year with four digits is read back from a field. -/
theorem timestamp_format {t : Time.Instant} (h : t.InFourDigitYear) :
    timestamp (.str (Time.Timestamp.format t)) = .ok (some t) := by
  rw [timestamp_format_eq, if_pos h]

/-- A written watermark is read back; without one the stored watermark stays. -/
theorem readWatermark_patched (object : Json) {d : Declaration} (version : String)
    (hyear : ∀ t, d.status.lastSync = some t → t.InFourDigitYear) :
    readWatermark (Cluster.patched object (.obj [("status", d.status.toJson)]) version) =
      match d.status.lastSync with
      | some t => .ok (some t)
      | none => readWatermark object := by
  rw [readWatermark, watermarkOf_patched]
  cases hlast : d.status.lastSync with
  | none => rfl
  | some t => exact timestamp_format (hyear t hlast)

/-- A written status takes no watermark away, and brings one if the declaration has one. -/
theorem marked_patched (object : Json) (d : Declaration) (version : String) :
    Marked (Cluster.patched object (.obj [("status", d.status.toJson)]) version) ↔
      d.status.lastSync ≠ none ∨ Marked object := by
  unfold Marked
  rw [watermarkOf_patched]
  cases d.status.lastSync with
  | none => simp
  | some t =>
    refine iff_of_true ?_ (Or.inl (Option.some_ne_none t))
    rw [ne_eq, timestamp_eq_none_iff, not_or]
    refine ⟨?_, ?_⟩
    · intro h
      cases h
    · intro h
      exact Time.Timestamp.format_ne_empty t (Json.str.inj h)

end SecretSync.Declaration
