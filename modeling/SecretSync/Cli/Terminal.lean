import SecretSync.Cli.Markup
import SecretSync.Cli.Report
import SecretSync.Config.File

/-!
# The terminal

What a command prints may not reach the terminal: text that cannot be rendered, or that has halves
of surrogate pairs in it, ends the command instead.  The terminal is a parameter of the commands;
`Terminal.console` is the one they have.
-/

namespace SecretSync.Cli

/-- Something that a command prints. -/
inductive Printed where
  /-- A text with markup. -/
  | text (s : String)
  | table (t : Table)
  deriving DecidableEq, Repr

/-- The texts of something printed, in the order in which they are rendered. -/
def Printed.texts : Printed → List String
  | text s => [s]
  | table t => t.columns ++ t.rows.flatten ++ [t.title]

/-- Why something cannot be printed. -/
inductive PrintFault where
  /-- The markup of a text cannot be rendered. -/
  | markup (fault : Markup.Fault)
  /-- A text has halves of surrogate pairs in it. -/
  | unencodable
  deriving DecidableEq, Repr

/-- What a command prints on. -/
structure Terminal where
  /-- What stands in the text of an error behind its own message. -/
  details : Config.LoadError → String
  /-- Why something cannot be printed, if it cannot. -/
  fault? : Printed → Option PrintFault

namespace Terminal

/-- A terminal that renders markup, and on which errors have nothing but their own messages. -/
def console : Terminal where
  details _ := ""
  fault? p :=
    match p.texts.findSome? Markup.fault? with
    | some fault => some (.markup fault)
    | none => if p.texts.any Text.hasHalf then some .unencodable else none

end Terminal
end SecretSync.Cli
