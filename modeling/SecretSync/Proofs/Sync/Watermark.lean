import SecretSync.Proofs.Sync.Moments
import SecretSync.Proofs.Sync.Run

/-!
# The watermark and the window of the next pull

A reconcile that ends well writes as watermark the later of the previous one and the clock at its
end.  The next pull asks for what has changed since then, so changes between this pull and the end
of its reconcile may fall between the two windows; they do so exactly when the clock has moved on in
between, past the previous watermark.
-/

namespace SecretSync

/-- The watermark in the body of a written status. -/
def Status.writtenWatermark? (body : Json) : Option String :=
  ((body.member? "status").bind (·.member? "lastSuccessfulSyncTime")).bind Json.text?

namespace Sync

variable {w w' : World} {settings : Settings} {key : ObjectKey} {d : Declaration}

/-- The written watermark is the previous one, or not later than the request for changes, exactly
when the reading of the clock that it is made from is not later than one of them. -/
theorem nextWatermark_le_iff (previous : Option Time.Instant) (now asked : Time.Instant) :
    (previous = some (nextWatermark previous now) ∨ nextWatermark previous now ≤ asked) ↔
      (now ≤ asked ∨ ∃ t, previous = some t ∧ now ≤ t) := by
  cases previous with
  | none => simp [nextWatermark]
  | some t =>
    simp only [nextWatermark, Option.some.injEq, exists_eq_left']
    by_cases hlt : now < t
    · rw [if_pos hlt]
      exact iff_of_true (Or.inl rfl) (Or.inr (Nat.le_of_lt hlt))
    · rw [if_neg hlt]
      have hle : t ≤ now := Nat.le_of_not_lt hlt
      constructor
      · rintro (rfl | h)
        · exact Or.inr (Nat.le_refl _)
        · exact Or.inl h
      · rintro (h | h)
        · exact Or.inr h
        · exact Or.inl (Time.Instant.ext (Nat.le_antisymm hle h))

/-- A watermark that is recorded stands in the body. -/
theorem writtenWatermark?_statusBody {t : Time.Instant} (h : d.status.lastSync = some t) :
    Status.writtenWatermark? (Cluster.Declarations.statusBody d) =
      some (Time.Timestamp.format t) := by
  unfold Status.writtenWatermark? Cluster.Declarations.statusBody Status.toJson
  rw [h]
  rfl

/-- A reconcile that ends well asks once for the changes since the stored watermark, reads the clock
when everything else is done, and then asks once for the status to be written, with the later of the
stored watermark and that reading.  The written watermark is the stored one, or not later than the
request for changes, exactly when that reading is not later than one of them. -/
theorem watermark_of_success {result : Result}
    (hgood : result.outcome = .synced ∨ result.outcome = .noChanges)
    (hends : Act.Ends (reconcile settings key).run w (.ok result) w') :
    ∃ (ms before between : List Moment) (d : Declaration) (checked asked now sent : Time.Instant)
        (v : World) (body : Json),
      Found settings key w ms d checked v ∧
      w'.history = w.history ++ (before ++
        .call (.sync d.spec.organizationId d.status.lastSync) asked :: between ++
        [.reading now, .call (.patchStatus d.key body settings.access.timeout) sent]) ∧
      (∀ m ∈ before ++ between, m.pull? = none ∧ m.status? = none) ∧
      Status.writtenWatermark? body =
        some (Time.Timestamp.format (nextWatermark d.status.lastSync now)) ∧
      ((d.status.lastSync = some (nextWatermark d.status.lastSync now) ∨
          nextWatermark d.status.lastSync now ≤ asked) ↔
        (now ≤ asked ∨ ∃ t, d.status.lastSync = some t ∧ now ≤ t)) := by
  obtain ⟨ms, h⟩ := reconcile_ends hends
  have hhistory := h.history
  cases h with
  | unread passage outcome =>
    rcases outcome with ho | ho <;> rcases hgood with hg | hg <;> cases ho.symm.trans hg
  | echo found inside => rcases hgood with hg | hg <;> cases hg
  | @attempted v u _ msFound _ _ d checked ending found behind tried record =>
    cases ending with
    | error failure => rcases hgood with hg | hg <;> cases hg
    | ok progress =>
      obtain ⟨before, asked, between, rfl, hidle⟩ := tried.asks
      obtain ⟨now, sent, rfl⟩ := record.moments
      have hlast : (completed d (progress.message key) now).status.lastSync =
          some (nextWatermark d.status.lastSync now) := rfl
      refine ⟨msFound, msFound ++ before, between, d, checked, asked, now, sent, v, _, found, ?_,
        ?_, writtenWatermark?_statusBody hlast,
        nextWatermark_le_iff d.status.lastSync now asked⟩
      · rw [hhistory, List.append_assoc, List.append_assoc, List.append_assoc]
        rfl
      · rw [List.append_assoc]
        exact List.forall_mem_append.mpr ⟨found.idle, hidle⟩

set_option maxRecDepth 10000 in
/-- The statement at the first round of a declaration. -/
theorem watermark_of_success_first_round :
    ∃ (w' : World) (ms before between : List Moment) (d : Declaration)
        (checked asked now sent : Time.Instant) (v : World) (body : Json),
      let w := Sample.world [] (Sample.session .zero [("a", "1")])
      Found Sample.settings Sample.key w ms d checked v ∧
      w'.history = w.history ++ (before ++
        .call (.sync d.spec.organizationId d.status.lastSync) asked :: between ++
        [.reading now, .call (.patchStatus d.key body Sample.settings.access.timeout) sent]) ∧
      (∀ m ∈ before ++ between, m.pull? = none ∧ m.status? = none) ∧
      Status.writtenWatermark? body =
        some (Time.Timestamp.format (nextWatermark d.status.lastSync now)) ∧
      ((d.status.lastSync = some (nextWatermark d.status.lastSync now) ∨
          nextWatermark d.status.lastSync now ≤ asked) ↔
        (now ≤ asked ∨ ∃ t, d.status.lastSync = some t ∧ now ≤ t)) := by
  have houtcome : outcome? (StateT.run (reconcile Sample.settings Sample.key).run
      (Sample.world [] (Sample.session .zero [("a", "1")]))).1 = some .synced := by decide +kernel
  obtain ⟨result, hresult, hends⟩ := exists_result houtcome
  exact ⟨_, watermark_of_success (Or.inl hresult) hends⟩

/-- Five seconds after noon. -/
def Sample.later : Time.Instant := ⟨63850161605000000, by decide⟩

set_option maxRecDepth 10000 in
/-- When the vault takes five seconds to answer, the first watermark lies five seconds behind the
request, and what changed in the vault after its answer was made is not asked for again. -/
theorem watermark_past_request :
    let after := StateT.run (reconcile Sample.settings Sample.key).run
      (Sample.world [] (Sample.session (.ofSeconds 5) [("a", "1")]))
    outcome? after.1 = some .synced ∧
      after.2.history.findSome? Moment.pull? = some (none, Sample.noon) ∧
      (after.2.history.findSome? Moment.status?).bind Status.writtenWatermark? =
        some (Time.Timestamp.format Sample.later) ∧
      ¬ (none = some Sample.later ∨ Sample.later ≤ Sample.noon) := by
  decide +kernel

end Sync
end SecretSync
