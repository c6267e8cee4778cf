import SecretSync.Proofs.Vault.Redaction
import SecretSync.Proofs.World.Pairing
import SecretSync.Proofs.World.Turns

/-!
# Worlds with secret material blacked out

Two worlds differ at most in secret material if they are the same once the texts among the values of
secrets, the values that the vault tells, and the access tokens of logins are blacked out, in what
is stored, in what others will store and in the record of calls.
-/

namespace SecretSync

/-- A call without the secret material that it carries. -/
def Call.redacted : Call → Call
  | .createSecret ns body timeout => .createSecret ns body.redacted timeout
  | .replaceSecret key body timeout => .replaceSecret key body.redacted timeout
  | .login _ statePath => .login "" statePath
  | call => call

/-- A moment without the secret material of its call. -/
def Moment.redacted : Moment → Moment
  | .call c time => .call c.redacted time
  | .reading time => .reading time

/-- What others do, without the texts among the values of secrets. -/
def Disturbance.redacted : Disturbance → Disturbance
  | .putSecret key object => .putSecret key object.redacted
  | deed => deed

namespace World

/-- The world without secret material. -/
def redacted (w : World) : World :=
  { w with
    secrets := w.secrets.mapValues SecretObject.redacted
    sessions := w.sessions.map Vault.Session.redacted
    others := w.others.map (List.map Disturbance.redacted)
    calls := w.calls.map Call.redacted
    history := w.history.map Moment.redacted }

/-- Two worlds differ at most in secret material. -/
def SameButValues (w v : World) : Prop := w.redacted = v.redacted

variable {w v : World}

/-- A step that does the same without secret material leads on alike. -/
theorem SameButValues.step {f g k : World → World} (hf : ∀ w, (f w).redacted = k w.redacted)
    (hg : ∀ w, (g w).redacted = k w.redacted) ⦃w v : World⦄ (hsame : w.SameButValues v) :
    (f w).SameButValues (g v) := by
  rw [SameButValues, hf, hg, hsame]

/-- What has nothing to do with secret material is the same. -/
theorem SameButValues.same {α : Type} (h : w.SameButValues v) (f : World → α)
    (hf : ∀ w, f w.redacted = f w) : f w = f v := by
  rw [← hf w, h, hf]

private theorem redacted_disturb (w : World) (deed : Disturbance) :
    (w.disturb deed).redacted = w.redacted.disturb deed.redacted := by
  cases deed with
  | editDeclaration key changes generation =>
    change _ = w.redacted.disturb (.editDeclaration key changes generation)
    simp only [disturb, redacted]
    split <;> rfl
  | putSecret key object =>
    exact congrArg (fun secrets => { w.redacted with secrets := secrets })
      (Dict.mapValues_insert SecretObject.redacted w.secrets key object)
  | deleteSecret key =>
    exact congrArg (fun secrets => { w.redacted with secrets := secrets })
      (Dict.mapValues_erase SecretObject.redacted w.secrets key)
  | _ => rfl

/-- Redacting follows the turn of others. -/
theorem redacted_interlude (w : World) : w.interlude.redacted = w.redacted.interlude :=
  (interlude_related (R := fun w v => v = w.redacted) (g := Disturbance.redacted)
    (by rintro w _ rfl; rfl) (by rintro w _ rest rfl; rfl)
    (by rintro w _ deed rfl; exact (redacted_disturb w deed).symm) rfl).symm

/-- Redacting follows a noted call. -/
theorem redacted_noted (call : Call) (w : World) :
    (w.noted call).redacted = w.redacted.noted call.redacted := by
  simp only [noted, redacted, List.map_append, List.map_cons, List.map_nil, Moment.redacted]

/-- Redacting follows a reading of the clock. -/
theorem redacted_clockRead (w : World) : w.clockRead.redacted = w.redacted.clockRead := by
  simp only [clockRead, redacted, List.map_append, List.map_cons, List.map_nil, Moment.redacted]

/-- Redacting follows a written secret. -/
theorem redacted_withSecret (key : ObjectKey) (object : SecretObject) (w : World) :
    { w with secrets := w.secrets.insert key object : World }.redacted =
      { w.redacted with secrets := w.redacted.secrets.insert key object.redacted } :=
  congrArg (fun secrets => { w.redacted with secrets := secrets })
    (Dict.mapValues_insert SecretObject.redacted w.secrets key object)

/-- Worlds that differ in values alone hold the same secrets but for these. -/
theorem SameButValues.get?_secrets (h : w.SameButValues v) (key : ObjectKey) :
    (w.secrets.get? key).map SecretObject.redacted =
      (v.secrets.get? key).map SecretObject.redacted := by
  rw [← Dict.get?_mapValues, ← Dict.get?_mapValues]
  exact congrArg (fun u : World => u.secrets.get? key) h

/-- Worlds that differ in values alone hold secrets at the same places. -/
theorem SameButValues.contains_secrets (h : w.SameButValues v) (key : ObjectKey) :
    w.secrets.contains key = v.secrets.contains key := by
  rw [← Dict.contains_mapValues SecretObject.redacted w.secrets,
    ← Dict.contains_mapValues SecretObject.redacted v.secrets]
  exact congrArg (fun u : World => u.secrets.contains key) h

end World

/-! ### Computations that tell nothing -/

namespace Act

open World (SameButValues)

variable {ε α α' : Type}

/-- In worlds that differ at most in secret material the computations yield related values and end
in such worlds. -/
abbrev Hides (V : α → α' → Prop) (x : Act α) (y : Act α') : Prop := Paired SameButValues V x y

/-- In worlds that differ at most in secret material the computations fail alike or yield related
values, and end in such worlds. -/
abbrev HidesRun (V : α → α' → Prop) (x : ExceptT ε Act α) (y : ExceptT ε Act α') : Prop :=
  PairedRun SameButValues V x y

end Act
end SecretSync
