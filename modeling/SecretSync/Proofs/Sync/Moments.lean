import SecretSync.Proofs.Sync.Reconcile

/-!
# What a reconcile asks for

The requests of a reconcile in their order: it asks at most once for changes, and only when this is
done for a secret to be created, and at the end for the status to be written.
-/

namespace SecretSync

namespace Moment

/-- The body of the status that was written at a moment. -/
def status? : Moment → Option Json
  | .call (.patchStatus _ body _) _ => some body
  | _ => none

/-- Whether the creation of a secret was asked for at a moment. -/
def creates : Moment → Bool
  | .call (.createSecret _ _ _) _ => true
  | _ => false

variable {d : Declaration} {m : Moment}

/-- An attempt asks for the changes since the watermark of its declaration. -/
theorem InAttempt.pull?_eq (h : m.InAttempt d) {since : Option Time.Instant}
    {time : Time.Instant} (hpull : m.pull? = some (since, time)) : since = d.status.lastSync := by
  unfold pull? at hpull
  split at hpull
  · cases hpull
    exact h.2
  · cases hpull

/-- An attempt writes no status. -/
theorem InAttempt.status?_eq_none (h : m.InAttempt d) : m.status? = none := by
  unfold status?
  split
  · exact h.elim
  · rfl

end Moment

namespace Sync

variable {w w' : World} {settings : Settings} {key : ObjectKey} {d : Declaration}

/-- A moment neither asks for changes nor writes a status. -/
def Idle (m : Moment) : Prop := m.pull? = none ∧ m.status? = none

private theorem idle_pair {m₁ m₂ : Moment} (h₁ : Idle m₁) (h₂ : Idle m₂) :
    ∀ m ∈ [m₁, m₂], Idle m :=
  List.forall_mem_cons.mpr ⟨h₁, List.forall_mem_singleton.mpr h₂⟩

/-- Behind idle moments the first request for changes is the one that is sent next. -/
theorem findSome?_pull_append {before : List Moment} (h : ∀ m ∈ before, Idle m)
    (organization : String) (since : Option Time.Instant) (asked : Time.Instant)
    (between : List Moment) :
    (before ++ .call (.sync organization since) asked :: between).findSome? Moment.pull? =
      some (since, asked) := by
  have hnone : before.findSome? Moment.pull? = none :=
    List.findSome?_eq_none_iff.mpr (fun m hm => (h m hm).1)
  rw [List.findSome?_append, hnone]
  rfl

/-- Finding the declaration writes nothing. -/
theorem Found.idle {ms : List Moment} {now : Time.Instant}
    (h : Found settings key w ms d now w') : ∀ m ∈ ms, Idle m := by
  cases h with
  | mk => exact idle_pair ⟨rfl, rfl⟩ ⟨rfl, rfl⟩

private theorem TargetRead.idle {ms : List Moment} {s : Secret}
    (h : TargetRead settings key d w ms s w') : ∀ m ∈ ms, Idle m := by
  cases h with
  | found => exact List.forall_mem_singleton.mpr ⟨rfl, rfl⟩
  | created => exact idle_pair ⟨rfl, rfl⟩ ⟨rfl, rfl⟩

private theorem Refilled.idle {values : Data} {target : Secret} {ms : List Moment}
    (h : Refilled settings key d values target w ms w') : ∀ m ∈ ms, Idle m := by
  cases h with
  | mk => exact idle_pair ⟨rfl, rfl⟩ ⟨rfl, rfl⟩

/-- A pull asks once for the changes since the watermark, as its last step. -/
theorem Pulled.asks {ms : List Moment} {delta : Vault.Delta}
    (h : Pulled settings key d w ms delta w') :
    ∃ before asked, ms = before ++
        [.call (.sync d.spec.organizationId d.status.lastSync) asked] ∧ ∀ m ∈ before, Idle m := by
  cases h with
  | mk token read opened loggedIn asked passage offered =>
    refine ⟨[_, _, _], asked, rfl, ?_⟩
    simp [Idle, Moment.pull?, Moment.status?]

/-- An attempt that ends well asks once for the changes since the watermark. -/
theorem Attempted.asks {ms : List Moment} {progress : Progress}
    (h : Attempted settings key d w ms (.ok progress) w') :
    ∃ before asked between, ms = before ++
        .call (.sync d.spec.organizationId d.status.lastSync) asked :: between ∧
      ∀ m ∈ before ++ between, Idle m := by
  cases h with
  | unchanged pulled quiet after =>
    obtain ⟨before, asked, rfl, hbefore⟩ := pulled.asks
    refine ⟨before, asked, [], rfl, ?_⟩
    rw [List.append_nil]
    exact hbefore
  | @written _ _ _ _ ms' ms'' _ _ pulled changed target refilled =>
    obtain ⟨before, asked, rfl, hbefore⟩ := pulled.asks
    refine ⟨before, asked, ms' ++ ms'', List.append_assoc _ _ _, ?_⟩
    rw [List.forall_mem_append]
    exact ⟨hbefore, List.forall_mem_append.mpr ⟨target.idle, refilled.idle⟩⟩

/-- Recording reads the clock and asks for the status to be written. -/
theorem Recorded.moments {record : Time.Instant → Declaration} {ms : List Moment}
    (h : Recorded settings record w ms w') :
    ∃ now sent, ms = [.reading now, .call (.patchStatus (record now).key
      (Cluster.Declarations.statusBody (record now)) settings.access.timeout) sent] := by
  cases h with
  | refused now sent passage => exact ⟨now, sent, rfl⟩
  | written now sent passage stored after => exact ⟨now, sent, rfl⟩

/-! ### Creations -/

/-- Finding the declaration creates nothing. -/
theorem Found.any_creates {ms : List Moment} {now : Time.Instant}
    (h : Found settings key w ms d now w') : ms.any Moment.creates = false := by
  cases h with
  | mk => rfl

/-- A pull creates nothing. -/
theorem Pulled.any_creates {ms : List Moment} {delta : Vault.Delta}
    (h : Pulled settings key d w ms delta w') : ms.any Moment.creates = false := by
  cases h with
  | mk => rfl

/-- Filling the target in memory creates nothing. -/
theorem Refilled.any_creates {values : Data} {target : Secret} {ms : List Moment}
    (h : Refilled settings key d values target w ms w') : ms.any Moment.creates = false := by
  cases h with
  | mk => rfl

/-- Recording the status creates nothing. -/
theorem Recorded.any_creates {record : Time.Instant → Declaration} {ms : List Moment}
    (h : Recorded settings record w ms w') : ms.any Moment.creates = false := by
  obtain ⟨now, sent, rfl⟩ := h.moments
  rfl

/-- Where a creation was asked for, the target is a new one. -/
theorem TargetRead.created_of_creates {ms : List Moment} {s : Secret}
    (h : TargetRead settings key d w ms s w') (hms : ms.any Moment.creates = true) :
    s.Blank ∧ s.place = d.targetKey := by
  cases h with
  | found => cases hms
  | created read sent uid passage owned free after => exact Secret.blank_shell owned uid _

end Sync
end SecretSync
