import SecretSync.Files.Path
import SecretSync.Text.Quoted
import SecretSync.Text.Utf8

/-!
# Opening files

Which file a path leads to, from the working directory or from the root of the system, and why it
leads to none.
-/

namespace SecretSync.Files

/-- Files with their contents, by their paths. -/
abbrev Folder := List (String × List UInt8)

/-- Why a file cannot be opened. -/
inductive OpenFault where
  | missing
  /-- The path leads through a file. -/
  | notFolder
  /-- The path leads to a directory. -/
  | isFolder
  | nameTooLong
  deriving DecidableEq, Repr

namespace OpenFault

/-- The number of a fault, and what it means. -/
def code : OpenFault → Nat × String
  | missing => (2, "No such file or directory")
  | notFolder => (20, "Not a directory")
  | isFolder => (21, "Is a directory")
  | nameTooLong => (36, "File name too long")

/-- The text of a fault for a path. -/
def message (fault : OpenFault) (path : String) : String :=
  "[Errno " ++ toString fault.code.1 ++ "] " ++ fault.code.2 ++ ": " ++ Text.quoted path

end OpenFault

namespace Folder

/-- Most octets of a name. -/
def maxName : Nat := 255

/-- Most octets of a path. -/
def maxPath : Nat := 4095

/-- How many octets a text has. -/
def octetCount (cs : List Char) : Nat := (Text.Utf8.encode (String.ofList cs)).length

/-- The parts of the directories that stand at the root of every system. -/
def rootFolders : List String := ["bin", "boot", "dev", "etc", "home", "lib", "media", "mnt", "opt",
  "proc", "root", "run", "sbin", "srv", "sys", "tmp", "usr", "var"]

/-- The files of every system whose content is known. -/
def system : Folder := [("/dev/null", [])]

/-- A directory that a path leads to. -/
inductive Place where
  /-- One below the root of the system, or else below the working directory, by its parts. -/
  | known (absolute : Bool) (path : List (List Char))
  /-- One above the working directory, where nothing is known but the way up. -/
  | above
  deriving DecidableEq, Repr

namespace Place

/-- The directory that a path starts from. -/
def start (path : List Char) : Place := known (!(FilePath.root path).isEmpty) []

/-- The directory above a directory; the root stands in itself. -/
def up : Place → Place
  | above => above
  | known true path => known true path.dropLast
  | known false [] => above
  | known false path => known false path.dropLast

end Place

/-- Whether a file stands at a place, or somewhere below it. -/
def isBelow (absolute : Bool) (path : List (List Char)) (file : String × List UInt8) : Bool :=
  !(FilePath.root file.1.toList).isEmpty == absolute &&
    path.isPrefixOf (FilePath.parts file.1.toList)

/-- The file at a place. -/
def file? (folder : Folder) (absolute : Bool) (path : List (List Char)) :
    Option (String × List UInt8) :=
  folder.find? (fun f => isBelow absolute path f && FilePath.parts f.1.toList = path)

/-- Whether there is a directory at a place. -/
def hasFolder (folder : Folder) (absolute : Bool) (path : List (List Char)) : Bool :=
  folder.any (isBelow absolute path) ||
    (absolute && rootFolders.any (fun name => path = [name.toList]))

/-- The content of the file that parts of a path lead to from a directory, one after another. -/
def follow (folder : Folder) : Place → List (List Char) → Except OpenFault (List UInt8)
  | _, [] => .error .isFolder
  | place, part :: rest =>
    if part = ['.', '.'] then follow folder place.up rest
    else
      let fault := if maxName < octetCount part then OpenFault.nameTooLong else .missing
      match place with
      | .above => .error fault
      | .known absolute path =>
        let path := path ++ [part]
        match folder.file? absolute path with
        | some f => if rest.isEmpty then .ok f.2 else .error .notFolder
        | none =>
          if folder.hasFolder absolute path then follow folder (.known absolute path) rest
          else .error fault

/-- The content of the file that a path leads to. -/
def read (folder : Folder) (path : List Char) : Except OpenFault (List UInt8) :=
  if maxPath < octetCount (FilePath.normalise path) then .error .nameTooLong
  else folder.follow (Place.start path) (FilePath.parts path)

/-- Whether a path leads to a file. -/
def hasFile (folder : Folder) (path : List Char) : Bool := (folder.read path).toOption.isSome

end Folder

end SecretSync.Files
