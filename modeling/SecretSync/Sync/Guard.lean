import SecretSync.Time.Instant

/-!
# The echo guard and the watermark

A status write comes back as an event at once.  An attempt that starts within a short window
behind the watermark is taken for such an echo.  The watermark itself only moves forward.
-/

namespace SecretSync.Sync

/-- The window behind the watermark. -/
def guardWindow : Time.Duration := Time.Duration.ofSeconds 1

/-- Whether an attempt is an echo; nothing if the end of the window is no instant. -/
def isEcho? (lastSync : Option Time.Instant) (now : Time.Instant) (window : Time.Duration) :
    Option Bool :=
  match lastSync with
  | none => some false
  | some t => (t.add? window).map (fun windowEnd => decide (now < windowEnd))

/-- The watermark after an attempt that succeeded. -/
def nextWatermark (previous : Option Time.Instant) (now : Time.Instant) : Time.Instant :=
  match previous with
  | some t => if now < t then t else now
  | none => now

end SecretSync.Sync
