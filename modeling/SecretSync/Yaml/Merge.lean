import SecretSync.Yaml.Fault
import SecretSync.Yaml.Node

/-!
# Merged mappings

An entry with the merge key stands for the entries of the mapping, or of the mappings in a list,
that it has as its value.  They come in front of the entries of the mapping itself, those of later
mappings of a list before those of earlier ones.  A mapping may be merged into itself: then those
entries count that it has without the merge.
-/

namespace SecretSync.Yaml.Merge

/-- Merging changes the graph, and fails where something else than a mapping is to be merged. -/
abbrev Merging := StateT Graph (Except Fault)

/-- The entries that the mappings of a list bring. -/
def bringAll (flatten : Place → Merging Unit) : List Place → Merging (List (Place × Place))
  | [] => return []
  | p :: rest => do
    match (← get).node p with
    | .mapping _ _ =>
      flatten p
      let own := (← get).entries p
      let others ← bringAll flatten rest
      return others ++ own
    | _ => throw .malformed

/-- The entries that the value of a merge key brings. -/
def bring (flatten : Place → Merging Unit) (value : Place) : Merging (List (Place × Place)) := do
  match (← get).node value with
  | .mapping _ _ =>
    flatten value
    return (← get).entries value
  | .sequence _ items => bringAll flatten items
  | .scalar _ _ => throw .malformed

/-- Go through the entries of a mapping from one on: `front` has been gone through, and `merged` is
what merge keys have brought.  Each merge key is taken out before its value is looked at, so that
the mapping may be merged into itself; if it has been gone through to its end on the way, nothing
is left to do. -/
def flattenFrom (flatten : Place → Merging Unit) (p : Place) (front merged : List (Place × Place)) :
    List (Place × Place) → Merging Unit
  | [] => modify (·.withEntries p (merged ++ front))
  | (key, value) :: rest => do
    match (← get).tag key with
    | .merge =>
      modify (·.withEntries p (front ++ rest))
      let brought ← bring flatten value
      let entries := (← get).entries p
      if entries = front ++ rest then flattenFrom flatten p front (merged ++ brought) rest
      else modify (·.withEntries p (merged ++ brought ++ entries))
    | .value =>
      modify (fun g => g.replace key ((g.node key).withTag .text))
      flattenFrom flatten p (front ++ [(key, value)]) merged rest
    | _ => flattenFrom flatten p (front ++ [(key, value)]) merged rest

/-- Merge what is to be merged into the mapping at a place.  Every merge takes a merge key out of
the graph, so that merges are not nested deeper than there are places. -/
def flatten : Nat → Place → Merging Unit
  | 0, _ => throw .malformed
  | fuel + 1, p => do flattenFrom (flatten fuel) p [] [] ((← get).entries p)

end SecretSync.Yaml.Merge
