import SecretSync.Yaml.Fault

/-!
# Tokens of documents

The text of a document is cut into tokens: marks, the limits of collections, properties of nodes
and scalars.  The limits of block collections are marks that the indentation stands for.
-/

namespace SecretSync.Yaml

/-- A token of a document. -/
inductive Token where
  /-- The version that a document says it is written in: its major number. -/
  | version (major : Nat)
  /-- A short form for the front of tags. -/
  | tagHandle (handle front : String)
  /-- A directive that says nothing here. -/
  | otherDirective
  | documentStart
  | documentEnd
  | blockSequenceStart
  | blockMappingStart
  | blockEnd
  | flowSequenceStart
  | flowSequenceEnd
  | flowMappingStart
  | flowMappingEnd
  | blockEntry
  | flowEntry
  | key
  | value
  /-- The node with a name stands here again. -/
  | again (name : String)
  | anchor (name : String)
  /-- A tag: the short form it starts with, if it is not written out, and the rest. -/
  | tag (handle : Option String) (suffix : String)
  | scalar (plain : Bool) (text : String)
  deriving DecidableEq, Repr, Inhabited

/-- How many collections may stand inside each other. -/
def Token.maxDepth : Nat := 488

/-- How many flow collections may be open where tokens are read.  What begins like a key is read
up to 1024 characters ahead, so that more are never asked for. -/
def Token.maxOpen : Nat := maxDepth + 1025

/-- The tokens of a document that can be had, and why no more can. -/
structure Token.Supply where
  tokens : List Token
  fault : Option Fault
  deriving Repr

end SecretSync.Yaml
