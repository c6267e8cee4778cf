import SecretSync.Time.Instant

/-!
# Trying again

An action that fails in a way that may pass is tried again after a wait.  The waits double from
one second up to ten, and the number of tries is limited; the last failure is handed on.
-/

namespace SecretSync.Controller

/-- The wait behind a failed try: one second behind the first, then doubling up to ten. -/
def backoff (tries : Nat) : Time.Duration := .ofSeconds (min 10 (Nat.pow 2 (tries - 1)))

/-- Do something, of which `tries` minus one tries have failed, and again while it fails in a way
that may pass, at most `more` times. -/
def retrying {m : Type → Type} [Monad m] {ε α : Type} (mayPass : ε → Bool)
    (wait : Time.Duration → m Unit) (action : m (Except ε α)) (tries : Nat) : Nat → m (Except ε α)
  | 0 => action
  | more + 1 => do
    match ← action with
    | .ok a => return .ok a
    | .error e =>
      if mayPass e then
        wait (backoff tries)
        retrying mayPass wait action (tries + 1) more
      else return .error e

end SecretSync.Controller
