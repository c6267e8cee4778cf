import SecretSync.Json.Basic
import SecretSync.Sync.Reconcile

/-!
# The schedule

Which declarations are to be reconciled when.  A key is scheduled at most once; keys that are
due at the same time run in the order in which they entered the schedule.  Besides the due times
the schedule remembers the polls that results have asked for, the generations last seen, and the
version behind which the next watch starts.
-/

namespace SecretSync.Controller

/-- The state of the controller. -/
structure Schedule where
  /-- When each key is due. -/
  due : Dict ObjectKey Time.Instant
  /-- The poll that the last attempt for each key has asked for. -/
  polls : Dict ObjectKey Time.Instant
  /-- The generation of each key as it was last reported. -/
  generations : Dict ObjectKey (Option Int)
  /-- The version behind which the next watch starts; null if a list is needed first. -/
  cursor : Json

namespace Schedule

/-- Nothing is scheduled, and a list is needed. -/
def empty : Schedule := ⟨Dict.empty, Dict.empty, Dict.empty, .null⟩

/-- Make a key due at a time, unless it is due earlier. -/
def enqueueAt (key : ObjectKey) (time : Time.Instant) (s : Schedule) : Schedule :=
  match s.due.get? key with
  | none => { s with due := s.due.insert key time }
  | some current => if time < current then { s with due := s.due.insert key time } else s

/-- Drop all that is known about a key. -/
def forget (key : ObjectKey) (s : Schedule) : Schedule :=
  { s with
    due := s.due.erase key
    polls := s.polls.erase key
    generations := s.generations.erase key }

/-- Take a key off the schedule because its run starts. -/
def start (key : ObjectKey) (s : Schedule) : Schedule := { s with due := s.due.erase key }

/-- Take in the result of a run that ended at a time: a requested poll is scheduled and
remembered, an echo falls back on the remembered poll, and a declaration that is gone loses it.
Nothing if the poll lies outside the calendar. -/
def settle? (key : ObjectKey) (result : Sync.Result) (now : Time.Instant) (s : Schedule) :
    Option Schedule :=
  match result.requeueAfter with
  | some delay =>
    (now.add? delay).map (fun time =>
      { s with due := s.due.insert key time, polls := s.polls.insert key time })
  | none =>
    if result.outcome = .notFound then some { s with polls := s.polls.erase key }
    else
      match s.polls.get? key with
      | some time => some { s with due := s.due.insert key (time.later now) }
      | none => some s

/-- The keys with their due times, earliest first; keys due at the same time in the order in
which they entered the schedule. -/
def inOrder (s : Schedule) : List (ObjectKey × Time.Instant) :=
  s.due.entries.mergeSort (fun a b => decide (a.2 ≤ b.2))

/-- The earliest due time. -/
def earliest? (s : Schedule) : Option Time.Instant :=
  match s.due.values with
  | [] => none
  | t :: rest => some (rest.foldl (fun a b => if b < a then b else a) t)

/-- Whole seconds for which a watch may stay open when so many whole seconds are left to the
earliest due time: until just behind it, at least one and at most a limit. -/
def windowSeconds (limit secondsLeft : Int) : Int := max 1 (min limit (secondsLeft + 1))

/-- Whether an event repeats the generation that is known of its key. -/
def repeats (type : Option String) (d : Declaration) (s : Schedule) : Bool :=
  type == some "MODIFIED" && s.generations.get? d.key == some d.generation

/-- Move the cursor to the version of a declaration, if it has one. -/
def advanceCursor (d : Declaration) (s : Schedule) : Schedule :=
  match Subject.part d.resourceVersion with
  | some version => { s with cursor := .str version }
  | none => s

/-- Note the generation of a declaration and make it due at a time. -/
def enlist (d : Declaration) (now : Time.Instant) (s : Schedule) : Schedule :=
  { s with generations := s.generations.insert d.key d.generation }.enqueueAt d.key now

end Schedule
end SecretSync.Controller
