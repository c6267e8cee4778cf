/-!
# Paths of files

A path is a list of parts between slashes, behind one or two slashes if it starts at the root.
-/

namespace SecretSync.FilePath

/-- The parts of a path between slashes; empty ones and single points say nothing. -/
def parts (cs : List Char) : List (List Char) :=
  (cs.foldr (fun c parts =>
    if c = '/' then [] :: parts
    else
      match parts with
      | [] => [[c]]
      | part :: rest => (c :: part) :: rest) [[]]).filter (fun p => p != [] && p != ['.'])

/-- The slashes at the front of a path: two stay two, more are one. -/
def root (cs : List Char) : List Char :=
  match cs with
  | '/' :: '/' :: '/' :: _ => ['/']
  | '/' :: '/' :: _ => ['/', '/']
  | '/' :: _ => ['/']
  | _ => []

/-- Parts behind a root as a path. -/
def join (root : List Char) (parts : List (List Char)) : List Char :=
  match root ++ (parts.intersperse ['/']).flatten with
  | [] => ['.']
  | cs => cs

/-- A path without superfluous parts. -/
def normalise (cs : List Char) : List Char := join (root cs) (parts cs)

/-- The last part of a path, empty if there is none. -/
def name (cs : List Char) : List Char := (parts cs).getLast?.getD []

end SecretSync.FilePath
