import SecretSync.Yaml.Spot

/-!
# Plain scalars

A plain scalar has no quotes.  It ends before a comment, before a colon that is followed by a
blank, inside flow collections before their punctuation, and where the indentation ends.
-/

namespace SecretSync.Yaml.Plain

/-- Whether a plain scalar may start with `c`, followed by `next`. -/
def starts (flow : Bool) (c next : Char) : Bool :=
  !(isBlankOrEnd c || "-?:,[]{}#&*!|>'\"%@\x60".toList.contains c) ||
    (!isBlankOrEnd next && (c == '-' || (!flow && (c == '?' || c == ':'))))

/-- Whether a stretch of a plain scalar ends before `c`, followed by `next`. -/
def stops (flow : Bool) (c next : Char) : Bool :=
  isBlankOrEnd c ||
    (c == ':' && (isBlankOrEnd next || (flow && ",[]\x7b\x7d".toList.contains next))) ||
    (flow && ",?[]\x7b\x7d".toList.contains c)

/-- A stretch of a plain scalar without blanks. -/
def stretch (flow : Bool) : List Spot → List Char × List Spot
  | [] => ([], [])
  | s :: rest =>
    if stops flow s.char (charOf rest) then ([], s :: rest)
    else
      let (cs, rest) := stretch flow rest
      (s.char :: cs, rest)

/-- The line ends up to the next text, and whether a mark between documents comes first. -/
def emptyLines : List Spot → List Char × Bool × List Spot
  | [] => ([], false, [])
  | s :: rest =>
    if atDocumentMark (s :: rest) then ([], true, s :: rest)
    else if s.char == ' ' then emptyLines rest
    else if isBreak s.char then
      let (breaks, marked, rest) := emptyLines rest
      (s.char :: breaks, marked, rest)
    else ([], false, s :: rest)

/-- What stands between two stretches of a scalar. -/
structure Gap where
  /-- What becomes of it in the value. -/
  text : List Char
  /-- Whether it holds the end of a line. -/
  endsLine : Bool

/-- The gap behind a stretch; a mark between documents behind it leaves nothing. -/
def gap (spots : List Spot) : Gap × List Spot :=
  let (spaces, rest) := spanChars (· == ' ') spots
  if isBreak (charOf rest) then
    match emptyLines rest.tail with
    | (_, true, behind) => (⟨[], true⟩, behind)
    | (breaks, false, behind) => (⟨folded (charOf rest) breaks, true⟩, behind)
  else (⟨spaces, false⟩, rest)

/-- A plain scalar, with whether a line ended behind its text.  Outside flow collections its
lines have at least `indent` columns of indentation. -/
def read (flow : Bool) (indent : Nat) : Nat → List Spot → List Char × Bool × List Spot
  | 0, spots => ([], false, spots)
  | fuel + 1, spots =>
    if charOf spots == '#' then ([], false, spots)
    else
      let (text, rest) := stretch flow spots
      if text.isEmpty then ([], false, rest)
      else
        let (gap, rest) := gap rest
        if gap.text.isEmpty || charOf rest == '#' || (!flow && columnOf rest < indent) then
          (text, gap.endsLine, rest)
        else
          match read flow indent fuel rest with
          | ([], _, rest) => (text, gap.endsLine, rest)
          | (more, endsLine, rest) => (text ++ gap.text ++ more, endsLine, rest)

end SecretSync.Yaml.Plain
