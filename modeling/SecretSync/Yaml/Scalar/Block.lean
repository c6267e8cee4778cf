import SecretSync.Yaml.Fault
import SecretSync.Yaml.Spot

/-!
# Block scalars

A block scalar stands on lines of its own, all indented alike.  A literal one keeps its line
ends; in a folded one lines are joined, but for those that start with a blank.  The header may
give the indentation and says which line ends are kept at the end.
-/

namespace SecretSync.Yaml.Block

/-- What becomes of the line ends behind the text. -/
inductive Chomping where
  /-- None is kept. -/
  | strip
  /-- The first is kept. -/
  | clip
  /-- All are kept. -/
  | keep
  deriving DecidableEq, Repr

/-- What the header of a block scalar says. -/
structure Header where
  chomping : Chomping
  /-- Columns of indentation beyond those of the surroundings. -/
  indentation : Option Nat

/-- The sign for the line ends at the end. -/
def chomping? : Char → Option Chomping
  | '+' => some .keep
  | '-' => some .strip
  | _ => none

/-- A digit from one to nine for the indentation; none if there is no digit. -/
def indentation (spots : List Spot) : Except Fault (Option Nat × List Spot) :=
  match Text.asciiDigit? (charOf spots) with
  | none => .ok (none, spots)
  | some 0 => .error .malformed
  | some n => .ok (some n, spots.tail)

/-- The header, in which the two signs come in any order. -/
def header (spots : List Spot) : Except Fault (Header × List Spot) :=
  match chomping? (charOf spots) with
  | some chomping => (indentation spots.tail).map (fun p => (⟨chomping, p.1⟩, p.2))
  | none => do
    let (columns, rest) ← indentation spots
    if columns.isSome then
      match chomping? (charOf rest) with
      | some chomping => return (⟨chomping, columns⟩, rest.tail)
      | none => return (⟨.clip, columns⟩, rest)
    else return (⟨.clip, none⟩, rest)

/-- Behind spaces and a comment a line has to end. -/
def lineRest (spots : List Spot) : Except Fault (List Spot) :=
  let rest := skip (· == ' ') spots
  let rest := if charOf rest == '#' then skip (fun c => !isLineEnd c) rest else rest
  if isBreak (charOf rest) then .ok rest.tail
  else if charOf rest == endMark then .ok rest
  else .error .malformed

/-- Empty lines and indentation up to the next text: the line ends, and the widest indentation. -/
def leadingLines : List Spot → List Char × Nat × List Spot
  | [] => ([], 0, [])
  | s :: rest =>
    if s.char == ' ' then
      let (breaks, width, rest) := leadingLines rest
      (breaks, max (s.column + 1) width, rest)
    else if isBreak s.char then
      let (breaks, width, rest) := leadingLines rest
      (s.char :: breaks, width, rest)
    else ([], 0, s :: rest)

/-- Line ends, and up to `indent` columns of indentation. -/
def emptyLines (indent : Nat) : List Spot → List Char × List Spot
  | [] => ([], [])
  | s :: rest =>
    if s.char == ' ' && s.column < indent then emptyLines indent rest
    else if isBreak s.char then
      let (breaks, rest) := emptyLines indent rest
      (s.char :: breaks, rest)
    else ([], s :: rest)

/-- Whether text of the scalar follows. -/
def continues (indent : Nat) (spots : List Spot) : Bool :=
  columnOf spots == indent && charOf spots != endMark

/-- Whether a line starts with a blank. -/
def startsBlank (spots : List Spot) : Bool := charOf spots == ' ' || charOf spots == '\t'

/-- The text of the lines, the line end behind it, the line ends after that, and the rest. -/
def lines (fold : Bool) (indent : Nat) :
    Nat → List Char → List Spot → List Char × List Char × List Char × List Spot
  | 0, breaks, spots => ([], [], breaks, spots)
  | fuel + 1, breaks, spots =>
    if !continues indent spots then ([], [], breaks, spots)
    else
      let (line, rest) := spanChars (fun c => !isLineEnd c) spots
      let (lineEnd, rest) :=
        if isBreak (charOf rest) then ([charOf rest], rest.tail) else ([], rest)
      let (next, rest) := emptyLines indent rest
      if continues indent rest then
        let between :=
          if fold && lineEnd == ['\n'] && !startsBlank spots && !startsBlank rest then
            if next.isEmpty then [' '] else []
          else lineEnd
        let (text, last, after, rest) := lines fold indent fuel next rest
        (breaks ++ line ++ between ++ text, last, after, rest)
      else (breaks ++ line, lineEnd, next, rest)

/-- A block scalar from behind its indicator, in surroundings indented by `outer` columns. -/
def read (fold : Bool) (outer : Nat) (spots : List Spot) :
    Except Fault (List Char × List Spot) := do
  let (header, rest) ← header spots
  if !isSpaceOrEnd (charOf rest) then throw .malformed
  let rest ← lineRest rest
  let least := max outer 1
  let (indent, breaks, rest) := match header.indentation with
    | none =>
      let (breaks, width, rest) := leadingLines rest
      (max least width, breaks, rest)
    | some n =>
      let indent := least + n - 1
      let (breaks, rest) := emptyLines indent rest
      (indent, breaks, rest)
  let (text, last, after, rest) := lines fold indent (rest.length + 1) breaks rest
  return match header.chomping with
    | .strip => (text, rest)
    | .clip => (text ++ last, rest)
    | .keep => (text ++ last ++ after, rest)

end SecretSync.Yaml.Block
