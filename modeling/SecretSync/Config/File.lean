import SecretSync.Config.Basic
import SecretSync.Files.Folder
import SecretSync.Files.Reading
import SecretSync.Yaml.Document

/-!
# Settings in a file

The settings may stand in a YAML file, whose path is taken from the working directory.  A path
that cannot be opened, text that cannot be decoded and a document that is no mapping are refused.
-/

namespace SecretSync.Config

open Files (Folder OpenFault)

/-- Why settings cannot be loaded. -/
inductive LoadError where
  /-- A file cannot be opened. -/
  | unopened (fault : OpenFault) (path : String)
  /-- A path holds a NUL character. -/
  | embeddedNul
  /-- The content of a file is no text. -/
  | undecodable (error : Text.Utf8.DecodeError)
  /-- The document in a file is not well-formed. -/
  | malformed (path : String)
  /-- A scalar of the document in a file has no value. -/
  | badScalar (fault : Yaml.Fault)
  /-- The document in a file is no mapping. -/
  | noMapping (path : String)
  /-- The settings are refused. -/
  | settings (error : Error)
  deriving DecidableEq, Repr

/-- The text of an error. -/
def LoadError.message : LoadError → String
  | unopened fault path => fault.message path
  | embeddedNul => "embedded null byte"
  | undecodable error => error.message
  | malformed path => "Invalid YAML in " ++ path
  | badScalar fault => fault.message
  | noMapping path => "Configuration file " ++ path ++ " must contain a mapping"
  | settings error => error.message

/-- Whether an error is one of values, which is reported to the user; any other one is not
expected. -/
def LoadError.isReported : LoadError → Bool
  | unopened _ _ => false
  | badScalar fault =>
    match fault with
    | .noCharacter code => code < 0x80000000
    | .noInteger _ => true
    | .noReal _ => true
    | .badTimestamp error => !error.isOverflow
    | _ => false
  | settings error =>
    match error with
    | .malformedVariable _ => true
    | .rejected _ => true
    | _ => false
  | _ => true

/-- The levels of a document that are looked at: the sections, their settings, and what these
hold. -/
def documentDepth : Nat := 4

/-- A fault of the document in a file. -/
def LoadError.ofFault (path : String) : Yaml.Fault → LoadError
  | .malformed => malformed path
  | .unclosed => malformed path
  | .undecodable error => undecodable error
  | fault => badScalar fault

/-- The document in a file. -/
def readDocument (folder : Folder) (path : List Char) : Except LoadError Yaml.Value := do
  let shown := String.ofList (FilePath.normalise path)
  if path.contains '\x00' then throw .embeddedNul
  let content ← (folder.read path).mapError (LoadError.unopened · shown)
  let reading := Files.Reading.ofOctets content
  let value ← (Yaml.Value.ofText documentDepth reading.text
    (reading.fault.map .undecodable)).mapError (LoadError.ofFault shown)
  if !value.isTruthy then return .map []
  match value with
  | .map entries => return .map entries
  | _ => throw (.noMapping shown)

/-- The settings of a file, if there is one, and of the environment. -/
def load (env : Environment) (folder : Folder) (path : Option String) :
    ExceptT LoadError Act OperatorSettings := do
  let document ← match path with
    | none => pure (.map [])
    | some path =>
      match readDocument folder path.toList with
      | .ok value =>
        Act.log .debug "loaded_config_file"
          [("path", .str (String.ofList (FilePath.normalise path.toList)))]
        pure value
      | .error e => throw e
  ExceptT.adapt LoadError.settings (OperatorSettings.load env document)

end SecretSync.Config
