import SecretSync.Proofs.Declaration.Reading
import SecretSync.Proofs.Sync.Reconcile

/-!
# Runs of reconciles

A run is a sequence of reconciles of one declaration, between which the world may change.  The
values that the vault offered to the rounds that wrote the target accumulate.
-/

namespace SecretSync.Sync

/-- The outcome of a reconcile that ended with a result. -/
def outcome? : Except Escape Result → Option Outcome
  | .ok result => some result.outcome
  | .error _ => none

/-- A reconcile of a run, between two worlds. -/
structure Round where
  before : World
  ending : Except Escape Result
  after : World

namespace Round

/-- What the next session of the vault offered. -/
def offered (r : Round) : Option Vault.Delta := r.before.session.delta?

/-- Whether the target was written. -/
def synced (r : Round) : Bool := outcome? r.ending = some .synced

/-- The values that went into the target. -/
def taken (r : Round) : Data :=
  if r.synced then (r.offered.map Vault.Delta.values).getD Dict.empty else Dict.empty

end Round

/-- The values of all rounds that were written, later ones winning. -/
def accumulated (rounds : List Round) : Data :=
  rounds.foldl (fun data r => data.merge r.taken) Dict.empty

/-- A round that was not written adds nothing. -/
theorem Round.merge_taken {r : Round} (h : r.synced = false) (data : Data) :
    data.merge r.taken = data := by
  rw [Round.taken, h]
  rfl

/-- One more round merges what it took into what was accumulated. -/
theorem accumulated_append (rounds : List Round) (r : Round) :
    accumulated (rounds ++ [r]) = (accumulated rounds).merge r.taken := by
  rw [accumulated, List.foldl_append]
  rfl

/-- Without a sync nothing is accumulated. -/
theorem accumulated_of_none_synced {rounds : List Round} (h : ∀ r ∈ rounds, r.synced = false) :
    accumulated rounds = Dict.empty := by
  unfold accumulated
  induction rounds with
  | nil => rfl
  | cons r rounds ih =>
    rw [List.forall_mem_cons] at h
    rw [List.foldl_cons, Round.merge_taken h.1, ih h.2]

/-- A run that ends with an outcome ends with a result. -/
theorem exists_result {settings : Settings} {key : ObjectKey} {w : World} {outcome : Outcome}
    (h : outcome? (StateT.run (reconcile settings key).run w).1 = some outcome) :
    ∃ result : Result, result.outcome = outcome ∧ Act.Ends (reconcile settings key).run w
      (.ok result) (StateT.run (reconcile settings key).run w).2 := by
  cases hr : (StateT.run (reconcile settings key).run w).1 with
  | error e =>
    rw [hr] at h
    cases h
  | ok result =>
    rw [hr] at h
    refine ⟨result, Option.some.inj h, ?_⟩
    rw [← hr]
    exact Act.ends_self _ w

/-- A run of reconciles of a declaration, with `Between` for what may happen before each of them. -/
inductive Run (key : ObjectKey) (Between : World → World → Prop) :
    World → List Round → World → Prop
  | start (w : World) : Run key Between w [] w
  | round {w v u w' : World} {rounds : List Round} {settings : Settings}
    {ending : Except Escape Result} (earlier : Run key Between w rounds v)
    (between : Between v u) (ends : Act.Ends (reconcile settings key).run u ending w') :
    Run key Between w (rounds ++ [⟨u, ending, w'⟩]) w'

/-- The rounds of a run are reconciles. -/
theorem Run.ends {key : ObjectKey} {Between : World → World → Prop} {w v : World}
    {rounds : List Round} (run : Run key Between w rounds v) :
    ∀ r ∈ rounds, ∃ settings, Act.Ends (reconcile settings key).run r.before r.ending r.after := by
  induction run with
  | start => exact List.forall_mem_nil _
  | round earlier between ends ih =>
    exact List.forall_mem_append.mpr ⟨ih, List.forall_mem_singleton.mpr ⟨_, ends⟩⟩

/-! ### A sample

A declaration, the secret with its access token, and a session of the vault, to run reconciles
on. -/

namespace Sample

/-- Noon of a day in May. -/
def noon : Time.Instant := ⟨63850161600000000, by decide⟩

/-- An hour before noon. -/
def morning : Time.Instant := ⟨63850158000000000, by decide⟩

/-- A refresh every five minutes. -/
def settings : Settings :=
  ⟨⟨30⟩, ⟨"https://api", "https://identity"⟩, "/state", .ofSeconds 300, guardWindow⟩

/-- The declaration. -/
def key : ObjectKey := ⟨"default", "app"⟩

/-- A declaration with further members of its spec. -/
def object (further : List (String × Json)) : Json :=
  .obj [("metadata", .obj
      [("name", .str "app"), ("namespace", .str "default"), ("uid", .str "u1")]),
    ("spec", .obj ([("organizationId", .str "org"), ("secretName", .str "app-env"),
      ("authToken", .obj [("secretName", .str "auth"), ("secretKey", .str "token")])] ++ further))]

/-- The secret with the access token. -/
def auth : SecretObject := ⟨none, none, none, some (Dict.ofList [("token", "dG9rZW4=")]), none⟩

/-- A session that takes a time to tell changes. -/
def session (delay : Time.Duration) (changes : List (String × String)) : Vault.Session :=
  ⟨none, Vault.Session.accepted, delay, none, none, some (.obj [("has_changes", .bool true),
    ("secrets", .arr (changes.map (fun c => .obj [("id", .str c.1), ("value", .str c.2)])))])⟩

/-- The world at noon, with a session. -/
def world (further : List (String × Json)) (next : Vault.Session) : World :=
  { World.atTime noon with
    declarations := Dict.ofList [(key, object further)]
    secrets := Dict.ofList [(⟨"default", "auth"⟩, auth)]
    sessions := [next] }

/-- The world at noon, with a session, when the declaration was last synced at a time. -/
def syncedWorld (time : Time.Instant) (next : Vault.Session) : World :=
  { world [] next with
    declarations := Dict.ofList
      [(key, .obj ((object []).members ++ [("status", (Status.mk (some time) []).toJson)]))] }

end Sample
end SecretSync.Sync
