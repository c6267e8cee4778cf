import SecretSync.Json.Basic
import SecretSync.Text.Blank

/-!
# Records as plain text

The console shows a record on a line of its own: the time, the level and the event, the logger in
brackets, and each field by its name and its value.  Every part is wrapped in colour codes.  A
stack and an exception follow on lines of their own.
-/

namespace SecretSync.Logging.Plain

/-- The character that colour codes start with; it stands for a code here. -/
def colour : Char := '\x1b'

/-- A part of a line, behind a space. -/
def part (cs : List Char) : List Char := ' ' :: colour :: cs ++ [colour]

/-- The characters for which a text is quoted as the value of a field. -/
def quotedFor : List Char := [' ', '\t', '=', '\r', '\n', '"', '\'']

/-- The value of a field. -/
def fieldValue : Json → List Char
  | .str s => if s.toList.any quotedFor.contains then (Text.quoted s).toList else s.toList
  | v => v.shown.toList

/-- The fields that have a place of their own in the text. -/
def placed : List String := ["logger", "logger_name", "level", "exc_info", "exception", "stack"]

/-- A field with its name. -/
def field (f : String × Json) : List Char := part (f.1.toList ++ colour :: '=' :: fieldValue f.2)

/-- The text of a field that follows the line, if the field is there; nothing else than a text
can follow. -/
def follower? (name : String) (fields : List (String × Json)) : Option (Option (List Char)) :=
  match (Dict.lookup name fields).getD .null with
  | .null => some none
  | .str s => some (some s.toList)
  | _ => none

/-- What stands between a stack and an exception. -/
def ruler : List Char := '\n' :: '\n' :: List.replicate 79 '=' ++ ['\n']

/-- The text of a record without its time and its level; none if it has a stack or an exception
that is no text. -/
def text? (event logger : String) (fields : List (String × Json)) :
    Option (List Char) := do
  let stack ← follower? "stack" fields
  let exception ← follower? "exception" fields
  let loggers := match Dict.lookup "logger_name" fields with
    | some v => [logger, v.plain]
    | none => [logger]
  let others := fields.filter (fun f => !placed.contains f.1)
  let raised := exception.isSome || ((Dict.lookup "exc_info" fields).getD .null).isTruthy
  return part [] ++ part event.toList ++
    loggers.flatMap (fun s => part ('[' :: s.toList ++ [']'])) ++ others.flatMap field ++
    (stack.elim [] (fun cs => '\n' :: cs ++ (if raised then ruler else []))) ++
    (exception.elim [] ('\n' :: ·))

end SecretSync.Logging.Plain
