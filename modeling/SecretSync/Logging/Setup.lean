import SecretSync.Json.Basic
import SecretSync.Logging.Level
import SecretSync.Logging.Plain

/-!
# Where log records go

Records go to the console and perhaps to a file that is rotated when it is full.  The options set
the least level for the console and for the operator's own records; the file takes every record
that is written at all.  Two libraries are heard only from warnings up.
-/

namespace SecretSync.Logging

/-- What the log is to look like. -/
structure Options where
  verbose : Bool
  debug : Bool
  /-- Records are written to the console as JSON. -/
  json : Bool
  /-- The path of a log file. -/
  file : Option String
  deriving DecidableEq, Repr

/-- A place that records are written to. -/
structure Handler where
  /-- The least level that is written. -/
  level : LogLevel
  /-- For a file, the size that it is rotated at and how many old ones are kept. -/
  rotation : Option (Nat × Nat)
  deriving DecidableEq, Repr

/-- A record. -/
structure Record where
  logger : String
  level : LogLevel
  event : String
  fields : List (String × Json)
  /-- Written by a library, not by the operator. -/
  foreign : Bool

/-- Why a record cannot be written. -/
inductive RecordFault where
  /-- A field has a name that is taken. -/
  | takenName (name : String)
  /-- The field for the record itself holds something else. -/
  | noRecord
  /-- No level has that name. -/
  | noLevel (word : String)
  deriving DecidableEq, Repr

/-- The level of all loggers that have none of their own. -/
def rootLevel : LogLevel := .debug

/-- Loggers with a level of their own, which counts for the loggers below them. -/
def quieted : List (String × LogLevel) :=
  [("kubernetes.client.rest", .warning), ("urllib3", .warning)]

/-- The size in octets that a log file is rotated at, and how many old ones are kept. -/
def rotation : Nat × Nat := (10 * 1024 * 1024, 5)

namespace Options

/-- The least level for the console and for records of the operator. -/
def threshold (o : Options) : LogLevel :=
  if o.debug then .debug else if o.verbose then .info else .warning

/-- The places that records are written to. -/
def handlers (o : Options) : List Handler :=
  ⟨o.threshold, none⟩ :: (if o.file.isSome then [⟨.debug, some rotation⟩] else [])

end Options

/-- Whether a logger is another one or stands below it. -/
def isWithin (logger ancestor : String) : Bool :=
  logger == ancestor || (ancestor ++ ".").toList.isPrefixOf logger.toList

/-- The level of a logger. -/
def loggerLevel (logger : String) : LogLevel :=
  match quieted.find? (fun q => isWithin logger q.1) with
  | some q => q.2
  | none => rootLevel

namespace Record

/-- Whether a record is made at all: those of libraries are, those of the operator from the least
level up. -/
def isMade (o : Options) (r : Record) : Bool := r.foreign || r.level.reaches o.threshold

/-- Whether a record is handed on to the handlers. -/
def isWritten (o : Options) (r : Record) : Bool :=
  r.isMade o && r.level.reaches (loggerLevel r.logger)

/-- What is wrong with a record of the operator.  Some names of fields are taken in every record,
and others only in those that are made. -/
def fault? (o : Options) (r : Record) : Option RecordFault :=
  let taken := ["event", "self"] ++ (if r.isMade o then ["method_name"] else [])
  if r.foreign then none
  else
    match r.fields.find? (fun f => taken.contains f.1) with
    | some f => some (.takenName f.1)
    | none =>
      if r.isMade o && !((Dict.lookup "_record" r.fields).getD .null).isNull then some .noRecord
      else none

/-- Names of fields that the writer fills in itself and does not show. -/
def hiddenFields : List String := ["timestamp", "stack_info", "_record", "_from_structlog"]

/-- The record, if nothing is wrong with it. -/
def checked (o : Options) (r : Record) : Except RecordFault Record :=
  match r.fault? o with
  | some fault => .error fault
  | none => .ok r

/-- The record of a call by the word for its level.  One about an exception is an error that says
so, though there is no exception to show; the operator has a further word for news. -/
def ofCall (logger word event : String) (fields : List (String × Json)) (foreign : Bool) :
    Except RecordFault Record :=
  match LogLevel.ofWord? word with
  | some level => .ok ⟨logger, level, event, if foreign then [] else fields, foreign⟩
  | none =>
    if word = "exception" then
      if foreign then
        .ok ⟨logger, .error, event, [("exc_info", .arr [.null, .null, .null])], foreign⟩
      else
        let raised := (Dict.lookup "exc_info" fields).getD (.bool true)
        let fields := ((Json.obj fields).setMember "exc_info" raised).members
        .ok ⟨logger, .error, event, fields, foreign⟩
    else if word = "msg" && !foreign then .ok ⟨logger, .info, event, fields, foreign⟩
    else .error (.noLevel word)

/-- The fields that are shown. -/
def shownFields (r : Record) : List (String × Json) :=
  r.fields.filter (fun f => !hiddenFields.contains f.1)

/-- The logger as it is shown. -/
def shownLogger (r : Record) : String := if r.logger.isEmpty then "root" else r.logger

/-- The record as an object, without its time; its level and its logger replace fields of the same
names. -/
def line (r : Record) : Json :=
  (((Json.obj r.shownFields).setMember "event" (.str r.event)).setMember
    "level" (.str r.level.name)).setMember "logger" (.str r.shownLogger)

/-- How many lines of plain text a record takes that are not empty. -/
def height (r : Record) : Nat :=
  match Plain.text? r.event r.shownLogger r.shownFields with
  | some cs => Text.fullLines cs
  | none => 0

end Record

/-- The records that a handler writes. -/
def written (o : Options) (h : Handler) (records : List Record) : List Record :=
  records.filter (fun r => r.isWritten o && r.level.reaches h.level)

end SecretSync.Logging
