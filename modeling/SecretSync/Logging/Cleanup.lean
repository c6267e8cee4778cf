import SecretSync.Files.Glob
import SecretSync.Files.Path
import SecretSync.Time.Instant

/-!
# Removing old log files

Beside a log file stand the older ones, whose names go on where its own ends.  Those that have
not been written for thirty days are removed; what cannot be examined or removed stays.  A time
that is no date ends the cleanup.
-/

namespace SecretSync.Logging

/-- Something in a directory.  Directories that are not listed themselves have been written just
now. -/
structure Entry where
  /-- The parts of its path. -/
  path : List (List Char)
  /-- When it was written, in microseconds since the start of year 1 on the local clock; nothing if
  it cannot be examined or the system has no year for the time. -/
  modified : Option Int
  /-- Whether it is a directory. -/
  isFolder : Bool
  /-- Whether the operator may not remove it. -/
  isLocked : Bool
  deriving DecidableEq, Repr

/-- What is wrong with the path of a log file. -/
inductive PathFault where
  /-- Two stars stand beside each other in the pattern for old files. -/
  | doubledStar
  /-- It holds a NUL character. -/
  | embeddedNul
  deriving DecidableEq, Repr

/-- The text of a fault. -/
def PathFault.message : PathFault → String
  | doubledStar => "Invalid pattern: '**' can only be an entire path component"
  | embeddedNul => "embedded null byte"

/-- What ends a cleanup. -/
inductive CleanupFault where
  | path (fault : PathFault)
  /-- Thirty days ago there was no calendar yet. -/
  | earlyClock
  /-- The time of an entry is looked for in a year outside the calendar. -/
  | undated (year : Int)
  deriving DecidableEq, Repr

/-- The text of a fault. -/
def CleanupFault.message : CleanupFault → String
  | path fault => fault.message
  | earlyClock => "date value out of range"
  | undated year => "year " ++ toString year ++ " is out of range"

/-- What a cleanup comes to. -/
structure Cleanup where
  /-- The entries that are left. -/
  left : List Entry
  /-- What has ended it before it was through. -/
  fault : Option CleanupFault
  deriving DecidableEq, Repr

/-- How long old log files are kept. -/
def retention : Time.Duration := ⟨30 * 86400000000⟩

/-- The time before which old log files have been written, if it is in the calendar. -/
def cutoff? (now : Time.Instant) : Option Time.Instant := now.add? ⟨-retention.micros⟩

/-- The year of a time in microseconds since the start of year 1. -/
def yearOf (time : Int) : Int :=
  let days := time.fdiv Time.dayLength
  days.fdiv 146097 * 400 + (Time.Date.ofDayNumber (days.fmod 146097).toNat).year

/-- Whether a date can be made of a time.  Hours that come twice are told apart by the day before,
so that the first day of the calendar is no date. -/
def isDated (time : Int) : Bool := Time.dayLength ≤ time ∧ time < Time.Instant.limit

namespace Entry

/-- The name of an entry. -/
def name (e : Entry) : List Char := e.path.getLast?.getD []

/-- Whether an entry stands directly in a directory. -/
def isIn (folder : List (List Char)) (e : Entry) : Bool := e.path.dropLast = folder

/-- Whether an entry can be removed. -/
def removable (e : Entry) : Bool := !e.isFolder && !e.isLocked

/-- Whether an entry was written before a time. -/
def isExpired (cutoff : Time.Instant) (e : Entry) : Bool :=
  e.modified.any (fun time => decide (time < (cutoff.micros : Int)))

/-- Why no date can be made of the time of an entry that can be examined. -/
def fault? (e : Entry) : Option CleanupFault :=
  match e.modified with
  | none => none
  | some time =>
    if isDated time then none
    else some (.undated (if 0 ≤ time ∧ time < Time.dayLength then 0 else yearOf time))

/-- What is left when an entry has been removed, if it has expired; none if that fails. -/
def expire (cutoff : Time.Instant) (e : Entry) (entries : List Entry) : Option (List Entry) :=
  if e.isExpired cutoff then
    if e.removable then some (entries.filter (· ≠ e)) else none
  else some entries

end Entry

/-- Remove entries that have expired, one after another.  One with which that fails is passed over;
one without a date ends it. -/
def expireAll (cutoff : Time.Instant) : List Entry → List Entry → Cleanup
  | [], entries => ⟨entries, none⟩
  | e :: rest, entries =>
    match e.fault? with
    | some fault => ⟨entries, some fault⟩
    | none => expireAll cutoff rest ((e.expire cutoff entries).getD entries)

/-- Whether something is there: it is listed or something stands in it. -/
def isThere (path : List (List Char)) (entries : List Entry) : Bool :=
  entries.any (fun e => path.isPrefixOf e.path)

/-- Whether a directory is there. -/
def hasFolder (path : List (List Char)) (entries : List Entry) : Bool :=
  entries.any (fun e => path.isPrefixOf e.path && (e.path ≠ path || e.isFolder))

/-- A directory that a path leads to. -/
inductive Place where
  /-- One outside of the working directory, where nothing is touched. -/
  | outside
  /-- One below the working directory, by its parts. -/
  | inside (path : List (List Char))
  deriving DecidableEq, Repr

/-- Whether an entry stands directly in a directory. -/
def Place.holds : Place → Entry → Bool
  | outside, _ => false
  | inside path, e => e.isIn path

/-- Whether an entry stands at a place or somewhere below it. -/
def Place.covers : Place → Entry → Bool
  | outside, _ => false
  | inside path, e => path.isPrefixOf e.path

/-- Where parts of a path lead to, one after another; nowhere if a directory is missing. -/
def follow (entries : List Entry) : Place → List (List Char) → Option Place
  | place, [] => some place
  | .outside, _ :: rest => follow entries .outside rest
  | .inside path, part :: rest =>
    if part = ['.', '.'] then
      follow entries (if path.isEmpty then .outside else .inside path.dropLast) rest
    else if hasFolder (path ++ [part]) entries || (rest.isEmpty && isThere (path ++ [part]) entries)
      then follow entries (.inside (path ++ [part])) rest
    else none

/-- Whether a name has two stars beside each other. -/
def doublesStar : List Char → Bool
  | '*' :: '*' :: _ => true
  | _ :: rest => doublesStar rest
  | [] => false

/-- The pattern for a log file and the older ones: its name, and whatever goes on from there. -/
def patternFor (path : List (List Char)) : List Char := (path.getLast?.getD []) ++ ['*']

/-- Why a log file cannot be set up.  Its directory is made first, then older files are looked
for, and at last the file is opened. -/
def pathFault? (logFile : String) : Option PathFault :=
  let path := FilePath.parts logFile.toList
  if path.dropLast.any (·.contains '\x00') then some .embeddedNul
  else if patternFor path ≠ ['*', '*'] ∧ doublesStar (patternFor path) then some .doubledStar
  else if logFile.toList.contains '\x00' then some .embeddedNul
  else none

/-- The directory that a log file stands in, if it is there. -/
def directory? (logFile : String) (entries : List Entry) : Option Place :=
  let start := if (FilePath.root logFile.toList).isEmpty then Place.inside [] else .outside
  follow entries start (FilePath.parts logFile.toList).dropLast

/-- Look at the entries of a directory whose names have a pattern, and remove those that have
expired.  The pattern of two stars stands for the directory and the directories below it. -/
def sweep (cutoff : Time.Instant) (place : Place) (pattern : List Char) (entries : List Entry) :
    Cleanup :=
  if pattern = ['*', '*'] then
    expireAll cutoff (entries.filter (fun e => place.covers e && e.isFolder)) entries
  else if doublesStar pattern then ⟨entries, some (.path .doubledStar)⟩
  else
    expireAll cutoff (entries.filter (fun e => place.holds e &&
      Files.Glob.accepts (String.ofList pattern) (String.ofList e.name))) entries

/-- Remove old log files.  The name of the log file is taken as the begin of a pattern. -/
def cleanUp (now : Time.Instant) (logFile : String) (entries : List Entry) : Cleanup :=
  match directory? logFile entries with
  | none => ⟨entries, none⟩
  | some place =>
    match cutoff? now with
    | none => ⟨entries, some .earlyClock⟩
    | some cutoff => sweep cutoff place (patternFor (FilePath.parts logFile.toList)) entries

end SecretSync.Logging
