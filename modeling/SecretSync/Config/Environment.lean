import SecretSync.Files.Path

/-!
# The environment of the process

Variables, the home directory of the user, and the home directories of accounts by their names.
A variable that is set to nothing counts as not set.
-/

namespace SecretSync.Config

/-- The environment of the process. -/
structure Environment where
  vars : List (String × String)
  /-- The home directory of the user, if it is known. -/
  home : Option String
  /-- The home directories of accounts. -/
  accounts : List (String × String)
  deriving Repr

namespace Environment

/-- The value of a variable that is set to something. -/
def get? (env : Environment) (name : String) : Option String :=
  (env.vars.lookup name).filter (fun s => !s.isEmpty)

end Environment

/-- Why a path cannot be expanded. -/
inductive PathError where
  /-- The account has no known home directory. -/
  | unknownHome
  /-- The name of the account holds a NUL character. -/
  | embeddedNul
  deriving DecidableEq, Repr

end SecretSync.Config

namespace SecretSync.FilePath

open Config (Environment PathError)

/-- The home directory that `~` or `~account` stands for; one that is empty is the root, and one
that begins with `~` again stands for none. -/
def homeOf (env : Environment) (account : List Char) : Except PathError String :=
  if account.contains '\x00' then .error .embeddedNul
  else
    match if account.isEmpty then env.home else env.accounts.lookup (String.ofList account) with
    | some home =>
      if home.toList.head? = some '~' then .error .unknownHome
      else .ok (if home.isEmpty then "/" else home)
    | none => .error .unknownHome

/-- A path without superfluous parts, and with the home directory in place of `~` at its front. -/
def expand (env : Environment) (path : String) : Except PathError String := do
  let cs := path.toList
  match root cs, parts cs with
  | [], ('~' :: account) :: rest =>
    let home := (← homeOf env account).toList
    return String.ofList (join (root home) (parts home ++ rest))
  | root, parts => return String.ofList (join root parts)

end SecretSync.FilePath
