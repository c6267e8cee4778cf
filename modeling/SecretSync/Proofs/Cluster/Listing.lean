import SecretSync.Proofs.Controller.Operation
import SecretSync.Proofs.Sync.Run
import SecretSync.Proofs.World.Steady

/-!
# What lists and streams hand on

A list hands on the declarations among its objects in their order, and a stream its events up to the
first that breaks it.  An object with an invalid record is left out.  An object that cannot be read
for another reason is not left out: it fails the list, or breaks the stream, that it is part of, and
a list that fails so ends the controller.
-/

namespace SecretSync

open Act

namespace Cluster.Declarations

/-! ### Objects -/

/-- The declaration of an object that can be read. -/
def declared? (object : Json) : Option Declaration := (Declaration.ofObject object).toOption

/-- Why an object blocks what it is part of: it cannot be read, and not because of an invalid
record; or its record is invalid and its metadata have no members from which to name it in the
log. -/
def blocker? (object : Json) : Option ReadError :=
  match Declaration.ofObject object with
  | .ok _ => none
  | .error (.rejected _) =>
    match Declaration.membersOf (Declaration.memberOr object.members "metadata" (.obj [])) with
    | .ok _ => none
    | .error e => some e
  | .error e => some e

/-- An object is a declaration, or its record is invalid and it has metadata. -/
def Passes (object : Json) : Prop :=
  (∃ d, Declaration.ofObject object = .ok d) ∨
    (∃ rejection, Declaration.ofObject object = .error (.rejected rejection)) ∧
      ∃ metadata, Declaration.memberOr object.members "metadata" (.obj []) = .obj metadata

/-- The objects that do not block are the declarations and the invalid records with metadata. -/
theorem blocker?_eq_none_iff {object : Json} : blocker? object = none ↔ Passes object := by
  unfold blocker? Passes
  cases hread : Declaration.ofObject object with
  | ok d => simp
  | error e =>
    cases e with
    | rejected rejection =>
      cases Declaration.memberOr object.members "metadata" (.obj []) <;>
        simp [Declaration.membersOf]
    | shape fault => simp
    | time error => simp

/-- What is made of the objects of a list: their declarations, unless one of them blocks. -/
def reading (objects : List Json) : Except ReadError (List Declaration) :=
  match objects.findSome? blocker? with
  | some e => .error e
  | none => .ok (objects.filterMap declared?)

/-! ### Lists -/

variable {access : Access} {ns : Option String} {w w' v : World}

private theorem readOrSkip_ends {object : Json} {r : Except ReadError (Option Declaration)}
    (h : Ends (readOrSkip object).run w r w') :
    r = match blocker? object with
      | some e => .error e
      | none => .ok (declared? object) := by
  unfold readOrSkip at h
  unfold blocker? declared?
  cases hread : Declaration.ofObject object with
  | ok d =>
    rw [hread] at h
    exact (ends_run_pure.mp h).1
  | error e =>
    rw [hread] at h
    cases e with
    | rejected rejection =>
      cases hmembers :
          Declaration.membersOf (Declaration.memberOr object.members "metadata" (.obj [])) with
      | error e =>
        simp only [hmembers] at h ⊢
        exact (ends_run_throw.mp h).1
      | ok metadata =>
        simp only [hmembers] at h ⊢
        obtain ⟨_, _, -, h⟩ := ends_run_lift_bind.mp h
        exact (ends_run_pure.mp h).1
    | shape fault => exact (ends_run_throw.mp h).1
    | time error => exact (ends_run_throw.mp h).1

/-- The first object of a list blocks it, or its declaration comes before those of the rest. -/
theorem reading_cons (object : Json) (rest : List Json) :
    reading (object :: rest) =
      match blocker? object with
      | some e => .error e
      | none => (reading rest).map ((declared? object).toList ++ ·) := by
  unfold reading
  rw [List.findSome?_cons]
  cases blocker? object with
  | some e => rfl
  | none =>
    cases rest.findSome? blocker? with
    | some e => rfl
    | none => cases hd : declared? object <;> simp [hd, Except.map]

private theorem readAll_ends {objects : List Json} {r : Except ReadError (List Declaration)}
    (h : Ends (readAll objects).run w r w') : r = reading objects := by
  induction objects generalizing w w' r with
  | nil => exact (ends_run_pure.mp h).1
  | cons object rest ih =>
    rw [reading_cons]
    obtain ⟨e, hfirst, rfl⟩ | ⟨d?, v, hfirst, h⟩ := ends_run_bind.mp h
    · have hread := readOrSkip_ends hfirst
      cases hblocked : blocker? object with
      | none => simp [hblocked] at hread
      | some e' => simpa [hblocked] using hread
    · have hread := readOrSkip_ends hfirst
      cases hblocked : blocker? object with
      | some e => simp [hblocked] at hread
      | none =>
        simp only [hblocked, Except.ok.injEq] at hread
        subst hread
        obtain ⟨e, hrest, rfl⟩ | ⟨ds, u, hrest, h⟩ := ends_run_bind.mp h
        · rw [← ih hrest]
          rfl
        · rw [← ih hrest]
          exact (ends_run_pure.mp h).1

/-- How a request for all declarations is answered does not depend on the log. -/
theorem listDeclarations_respects (ns : Option String) (timeout : Int) :
    Respects World.SameButLogs (listDeclarations ns timeout).run := by
  have htake : Respects World.SameButLogs (takeFault .listDeclarations) := by
    rintro w _ w' fault ⟨logs, rfl⟩ h
    have hends := ends_get_bind.mp h
    refine ⟨{ w' with logs := logs }, ends_get_bind.mpr ?_, logs, rfl⟩
    dsimp only
    split at hends
    · rw [ends_set_bind] at hends
      obtain ⟨rfl, rfl⟩ := ends_pure.mp hends
      exact ends_set_bind.mpr (ends_pure.mpr ⟨rfl, rfl⟩)
    · obtain ⟨rfl, rfl⟩ := ends_pure.mp hends
      exact ends_pure.mpr ⟨rfl, rfl⟩
  have hsend : Respects World.SameButLogs
      (send .listDeclarations (.listDeclarations ns timeout)).run := by
    refine steady_sameButLogs.yieldToOthers_respects.run_lift_bind (fun _ => ?_)
    refine (steady_sameButLogs.note_respects _).run_lift_bind (fun _ => ?_)
    refine htake.run_lift_bind (fun fault => ?_)
    cases fault with
    | none => exact respects_run_pure _
    | some fault => exact respects_run_throw _
  refine hsend.run_bind (fun _ => respects_run_get_bind ?_ (fun w => ?_))
  · rintro w _ ⟨logs, rfl⟩
    rfl
  · split <;> exact respects_run_pure _

section

variable {members metadata : List (String × Json)} {objects : List Json}
  (hitems : Declaration.memberOr members "items" (.arr []) = .arr objects)
  (hversion : Declaration.memberOr members "metadata" (.obj []) = .obj metadata)

include hitems hversion

/-- Of an answer the declarations among its objects are read and its version, unless an object
blocks it. -/
theorem readList_ends {r : Except ReadError (List Declaration × Json)}
    (h : Ends (readList (.obj members)).run w r w') :
    r = (reading objects).map (·, Declaration.memberOr metadata "resourceVersion" .null) := by
  unfold readList at h
  simp only [Declaration.membersOf, hitems, Declaration.itemsOf] at h
  obtain ⟨e, hread, rfl⟩ | ⟨ds, _, hread, hlast⟩ := ends_run_bind.mp h
  · rw [← readAll_ends hread]
    rfl
  · rw [← readAll_ends hread]
    simp only [hversion] at hlast
    obtain ⟨rfl, -⟩ := ends_run_pure.mp hlast
    rfl

/-- A list that is answered hands this on, or fails with the error of the object. -/
theorem list_ends {r : Except Escape (List Declaration × Json)}
    (answered : Ends (listDeclarations (Subject.part ns) access.timeout).run w
      (.ok (.obj members)) v)
    (h : Ends (list access ns).run w r w') :
    r = match reading objects with
      | .error e => .error (.unreadable e)
      | .ok ds => .ok (ds, Declaration.memberOr metadata "resourceVersion" .null) := by
  obtain ⟨_, x, hlog, h⟩ := ends_run_lift_bind.mp h
  have hsame : w.SameButLogs x := ⟨_, ends_modify.mp hlog⟩
  obtain ⟨_, hanswered, -⟩ := listDeclarations_respects _ _ hsame answered
  obtain ⟨answer, u, hanswer, h⟩ := ends_run_lift_bind.mp h
  obtain ⟨rfl, rfl⟩ := hanswered.unique hanswer
  obtain ⟨e, hfailed, rfl⟩ | ⟨found, y, hfound, h⟩ := ends_run_bind.mp h
  · obtain ⟨result, hlist, hresult⟩ := ends_run_adapt.mp hfailed
    rw [readList_ends hitems hversion hlist] at hresult
    cases hobjects : reading objects with
    | error e' =>
      rw [hobjects] at hresult
      exact hresult
    | ok ds =>
      rw [hobjects] at hresult
      cases hresult
  · obtain ⟨result, hlist, hresult⟩ := ends_run_adapt.mp hfound
    rw [readList_ends hitems hversion hlist] at hresult
    obtain ⟨_, _, -, h⟩ := ends_run_lift_bind.mp h
    obtain ⟨rfl, -⟩ := ends_run_pure.mp h
    cases hobjects : reading objects with
    | error e' =>
      rw [hobjects] at hresult
      cases hresult
    | ok ds =>
      rw [hobjects] at hresult
      exact hresult

end

/-! ### Streams -/

/-- The declaration that an item of a stream hands on, with the type of its event. -/
def handedOn? : WindowItem → Option (Json × Declaration)
  | .event (.obj event) =>
    match Declaration.memberOr event "object" .null with
    | .obj object => (declared? (.obj object)).map (eventType event, ·)
    | _ => none
  | _ => none

/-- How an item breaks a stream: the transport fails, the server tells an error, or what comes is no
event or holds an object that blocks. -/
def breaks? (ns : Option String) : WindowItem → Option ClusterError
  | .failure fault => some (.ofFault (subject ns none) fault)
  | .event (.obj event) =>
    if (eventType event).text? = some "ERROR" then
      some (reportedError (Declaration.memberOr event "object" .null))
    else
      match Declaration.memberOr event "object" .null with
      | .obj object =>
        (blocker? (.obj object)).map (fun e => .ofFault (subject ns none) (.ofReadError e))
      | _ => none
  | .event value =>
    some (.ofFault (subject ns none) (.ofReadError (.shape (.noMembers value.kindName))))
  | _ => none

/-- What an item of a stream yields. -/
def yields (ns : Option String) (item : WindowItem) : Received :=
  match breaks? ns item with
  | some e => .failed e
  | none =>
    match handedOn? item with
    | some (type, d) => .event type d
    | none => .nothing

private theorem receiveEvent_ends {event : List (String × Json)} {received : Received}
    (h : Ends (receiveEvent ns (.obj event)) w received w') :
    received = yields ns (.event (.obj event)) := by
  unfold receiveEvent at h
  simp only [Declaration.membersOf] at h
  unfold yields breaks? handedOn?
  by_cases herror : (eventType event).text? = some "ERROR"
  · rw [if_pos herror] at h
    simp only [if_pos herror]
    exact (ends_pure.mp h).1
  · rw [if_neg herror] at h
    simp only [if_neg herror]
    cases hobject : Declaration.memberOr event "object" .null with
    | obj object =>
      simp only [hobject] at h
      obtain ⟨one, v, hone, h⟩ := ends_bind.mp h
      have hread := readOrSkip_ends hone
      cases hblocked : blocker? (.obj object) with
      | some e =>
        simp only [hblocked] at hread
        subst hread
        simp only [hblocked, Option.map]
        exact (ends_pure.mp h).1
      | none =>
        simp only [hblocked] at hread
        subst hread
        cases hd : declared? (.obj object) with
        | none =>
          simp only [hd] at h
          simp only [hblocked, hd, Option.map]
          exact (ends_pure.mp h).1
        | some d =>
          simp only [hd] at h
          simp only [hblocked, hd, Option.map]
          exact (ends_pure.mp h).1
    | _ =>
      simp only [hobject] at h
      exact (ends_pure.mp h).1

private theorem receive_ends {item : WindowItem} {received : Received}
    (h : Ends (receive ns item) w received w') : received = yields ns item := by
  cases item with
  | advance time =>
    obtain ⟨_, _, -, h⟩ := ends_bind.mp h
    exact (ends_pure.mp h).1
  | stop =>
    obtain ⟨_, _, -, h⟩ := ends_bind.mp h
    exact (ends_pure.mp h).1
  | failure fault => exact (ends_pure.mp h).1
  | event value =>
    cases value with
    | obj event => exact receiveEvent_ends h
    | _ => exact (ends_pure.mp h).1

/-- A stream hands on the declarations of its events up to the first item that breaks it. -/
theorem receiveAll_ends {items : List WindowItem}
    {received : List (Json × Declaration) × Option ClusterError}
    (h : Ends (receiveAll ns items) w received w') :
    received = ((items.takeWhile (fun item => (breaks? ns item).isNone)).filterMap handedOn?,
      items.findSome? (breaks? ns)) := by
  induction items generalizing w w' received with
  | nil => exact (ends_pure.mp h).1
  | cons item rest ih =>
    obtain ⟨one, v, hone, h⟩ := ends_bind.mp h
    have hreceived := receive_ends hone
    rw [List.findSome?_cons]
    cases hbreaks : breaks? ns item with
    | some e =>
      simp only [yields, hbreaks] at hreceived
      subst hreceived
      obtain ⟨rfl, -⟩ := ends_pure.mp h
      simp [hbreaks]
    | none =>
      cases hhanded : handedOn? item with
      | none =>
        simp only [yields, hbreaks, hhanded] at hreceived
        subst hreceived
        rw [ih h]
        simp [hbreaks, hhanded]
      | some handed =>
        obtain ⟨type, d⟩ := handed
        simp only [yields, hbreaks, hhanded] at hreceived
        subst hreceived
        obtain ⟨⟨events, failure⟩, u, hrest, h⟩ := ends_bind.mp h
        obtain ⟨rfl, -⟩ := ends_pure.mp h
        have htail := ih hrest
        rw [Prod.mk.injEq] at htail
        simp [hbreaks, hhanded, htail]

end Cluster.Declarations

/-! ### The controller -/

namespace Controller

variable {c : Settings} {s s' : Schedule} {w w' v : World}

/-- A controller that needs a list and gets one with an object that blocks ends with the error of
that object, without another try and with nothing scheduled. -/
theorem runWindow_blocked {e : ReadError} (hcursor : s.cursor = .null)
    (hlist : Act.Ends (Cluster.Declarations.list c.access c.ns).run w (.error (.unreadable e)) v) :
    Ends (runWindow c) s w (.error (.unreadable e)) s v := by
  have hresync : Ends (resync c) s w (.error (.unreadable e)) s v :=
    ends_bind.mpr (Or.inl ⟨_, ends_mk_lift.mpr ⟨hlist, rfl⟩, rfl⟩)
  have honce : Ends (runOnce c) s w (.error (.unreadable e)) s v := by
    unfold runOnce
    rw [ends_getThe_bind, hcursor]
    exact ends_bind.mpr (Or.inl ⟨_, hresync, rfl⟩)
  unfold runWindow
  cases c.attempts - 1 with
  | zero => exact honce
  | succ more => exact ends_mk_bind.mpr ⟨_, s, v, honce, ends_throw.mpr ⟨rfl, rfl, rfl⟩⟩

end Controller

/-! ### Main result -/

namespace Cluster.Declarations

open Controller (runWindow)

/-- Lists and streams hand on their declarations, in order, up to what blocks them.  A list is the
declarations among its objects unless one of them blocks, and then it fails with the error of the
first that does, which also ends a controller that needs the list.  A stream is the declarations of
its events up to the first item that breaks it. -/
theorem handed_on_up_to_blocker (access : Access) (ns : Option String) :
    (∀ {w v : World} {members metadata : List (String × Json)} {objects : List Json},
      Ends (listDeclarations (Subject.part ns) access.timeout).run w (.ok (.obj members)) v →
      Declaration.memberOr members "items" (.arr []) = .arr objects →
      Declaration.memberOr members "metadata" (.obj []) = .obj metadata →
      ((∀ object ∈ objects, Passes object) → ∃ w', Ends (list access ns).run w
        (.ok (objects.filterMap declared?,
          Declaration.memberOr metadata "resourceVersion" .null)) w') ∧
      (∀ e, objects.findSome? blocker? = some e → ∃ w',
        Ends (list access ns).run w (.error (.unreadable e)) w' ∧
        ∀ (c : Controller.Settings) (s : Controller.Schedule), c.access = access → c.ns = ns →
          s.cursor = .null → Controller.Ends (runWindow c) s w (.error (.unreadable e)) s w')) ∧
    ∀ (items : List WindowItem) (w : World), ∃ w',
      Ends (receiveAll ns items) w
        ((items.takeWhile (fun item => (breaks? ns item).isNone)).filterMap handedOn?,
          items.findSome? (breaks? ns)) w' := by
  constructor
  · intro w v members metadata objects answered hitems hversion
    have hself := ends_self (list access ns).run w
    have hends := list_ends hitems hversion answered hself
    unfold reading at hends
    constructor
    · intro hpass
      have hnone : objects.findSome? blocker? = none :=
        List.findSome?_eq_none_iff.mpr (fun o ho => blocker?_eq_none_iff.mpr (hpass o ho))
      rw [hnone] at hends
      rw [hends] at hself
      exact ⟨_, hself⟩
    · intro e hsome
      rw [hsome] at hends
      rw [hends] at hself
      refine ⟨_, hself, ?_⟩
      rintro c s rfl rfl hcursor
      exact Controller.runWindow_blocked hcursor hself
  · intro items w
    have hself := ends_self (receiveAll ns items) w
    rw [receiveAll_ends hself] at hself
    exact ⟨_, hself⟩

namespace Sample

open Sync.Sample (object settings)

/-- A declaration with a watermark that is no timestamp. -/
def badTimestamp : Json :=
  .obj ((object []).members ++ [("status", .obj [("lastSuccessfulSyncTime", .str "yesterday")])])

/-- A declaration without a spec. -/
def unspecified : Json := .obj [("metadata", .obj [("name", .str "bare")])]

/-- The members of an answer with some objects. -/
def answer (objects : List Json) : List (String × Json) :=
  [("metadata", .obj [("resourceVersion", .str "7")]), ("items", .arr objects)]

/-- The world at noon, in which lists are answered with some objects. -/
def world (objects : List Json) : World :=
  { World.atTime Sync.Sample.noon with listOverride := some (.obj (answer objects)) }

/-- A controller for all namespaces. -/
def controller : Controller.Settings :=
  ⟨settings.access, none, Controller.defaultWatchTimeout, 3, Sync.reconcile settings⟩

/-- The sample cluster answers the list with all its objects. -/
theorem answered (objects : List Json) :
    ∃ v, Ends (listDeclarations none settings.access.timeout).run (world objects)
      (.ok (.obj (answer objects))) v := ⟨_, rfl⟩

end Sample

set_option maxRecDepth 10000 in
/-- The object without a spec is left out; the one with the bad timestamp fails the list and ends
the controller. -/
theorem handed_on_up_to_bad_timestamp :
    [Sample.unspecified, Sync.Sample.object []].filterMap declared? ≠ [] ∧
    (∃ w', Ends (list Sync.Sample.settings.access none).run
      (Sample.world [Sample.unspecified, Sync.Sample.object []])
      (.ok ([Sample.unspecified, Sync.Sample.object []].filterMap declared?, .str "7")) w') ∧
    ∃ e w', [Sample.badTimestamp, Sync.Sample.object []].findSome? blocker? = some e ∧
      Ends (list Sync.Sample.settings.access none).run
        (Sample.world [Sample.badTimestamp, Sync.Sample.object []]) (.error (.unreadable e)) w' ∧
      Controller.Ends (runWindow Sample.controller) Controller.Schedule.empty
        (Sample.world [Sample.badTimestamp, Sync.Sample.object []]) (.error (.unreadable e))
        Controller.Schedule.empty w' := by
  refine ⟨by decide +kernel, ?_, ?_⟩
  · obtain ⟨v, hanswered⟩ := Sample.answered [Sample.unspecified, Sync.Sample.object []]
    have hnone : ∀ o ∈ [Sample.unspecified, Sync.Sample.object []], blocker? o = none := by
      decide +kernel
    exact ((handed_on_up_to_blocker _ none).1 hanswered rfl rfl).1
      (fun o ho => blocker?_eq_none_iff.mp (hnone o ho))
  · obtain ⟨v, hanswered⟩ := Sample.answered [Sample.badTimestamp, Sync.Sample.object []]
    have hblocked : ([Sample.badTimestamp, Sync.Sample.object []].findSome? blocker?).isSome := by
      decide +kernel
    obtain ⟨e, he⟩ := Option.isSome_iff_exists.mp hblocked
    obtain ⟨w', hends, hrun⟩ := ((handed_on_up_to_blocker _ none).1 hanswered rfl rfl).2 e he
    exact ⟨e, w', he, hends, hrun Sample.controller _ rfl rfl rfl⟩

set_option maxRecDepth 10000 in
/-- One declaration can be read, and yet the list with it and an unreadable one fails. -/
theorem list_failed_by_bad_timestamp :
    (declared? (Sync.Sample.object [])).isSome ∧
      (StateT.run (list Sync.Sample.settings.access none).run
        (Sample.world [Sample.badTimestamp, Sync.Sample.object []])).1.toOption.isNone := by
  decide +kernel

end Cluster.Declarations
end SecretSync
