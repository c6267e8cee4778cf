import SecretSync.Sync.Reconcile

/-!
# Reporting a reconcile

The result of a reconcile is shown as a table of three rows.  Colours are given by markup.
-/

namespace SecretSync.Cli

/-- A table: its title, the heads of its columns and its rows. -/
structure Table where
  title : String
  columns : List String
  rows : List (List String)
  deriving DecidableEq, Repr

/-- A table as lines of text. -/
def Table.lines (t : Table) : List String :=
  t.title :: (t.columns :: t.rows).map (fun cells => " | ".intercalate cells)

/-- Text in a colour. -/
def coloured (colour s : String) : String := "[" ++ colour ++ "]" ++ s ++ "[/" ++ colour ++ "]"

/-- The time until the next run in whole seconds; no time at all counts as none asked for. -/
def requeueText (requeueAfter : Option Time.Duration) : String :=
  match requeueAfter with
  | none => "not requested"
  | some d => if d.micros = 0 then "not requested" else toString d.roundedSeconds ++ "s"

/-- The table of a result. -/
def report (key : ObjectKey) (result : Sync.Result) : Table where
  title := "BitwardenSecret " ++ key.text
  columns := ["Field", "Value"]
  rows := [
    ["Outcome", coloured (if result.outcome.succeeded then "green" else "red") result.outcome.name],
    ["Message", if result.message.isEmpty then "-" else result.message],
    ["Requeue", requeueText result.requeueAfter]]

end SecretSync.Cli
