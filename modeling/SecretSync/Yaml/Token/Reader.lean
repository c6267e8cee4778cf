import SecretSync.Files.Reading
import SecretSync.Yaml.Scalar.Plain
import SecretSync.Yaml.Scalar.Quoted
import SecretSync.Yaml.Token.Property

/-!
# Cutting a document into tokens

`Token.ofText` goes through a document once.  Two things are found out later than where they
belong: that a block collection has ended, from the indentation of what follows, and that a node
is the key of a mapping, from the colon behind it.  For the second the place where a key may have
begun is remembered, one for each collection that is open.
-/

namespace SecretSync.Yaml.Token

/-- A place where a key may have begun. -/
structure KeyStart where
  /-- How many tokens stand before it. -/
  position : Nat
  /-- Whether nothing but a key can stand here. -/
  required : Bool
  spot : Spot

/-- How far a document has been gone through. -/
structure Progress where
  rest : List Spot
  /-- The tokens so far, the last one first. -/
  tokens : List Token
  /-- The indentations of the open block collections, innermost first: one more than the column
  that their entries start in. -/
  margins : List Nat
  /-- Whether a key may begin here. -/
  keyAllowed : Bool
  /-- Where a key of the innermost collection may have begun. -/
  keyStart : Option KeyStart
  /-- The same for the collections around each open flow collection. -/
  outerStarts : List (Option KeyStart)

namespace Progress

/-- Whether a flow collection is open. -/
def inFlow (p : Progress) : Bool := !p.outerStarts.isEmpty

/-- The indentation of the innermost block collection. -/
def margin (p : Progress) : Nat := p.margins.headD 0

/-- The column of the next character. -/
def column (p : Progress) : Nat := columnOf p.rest

/-- Go on behind a number of characters. -/
def advance (n : Nat) (p : Progress) : Progress := { p with rest := p.rest.drop n }

/-- Add a token. -/
def emit (token : Token) (p : Progress) : Progress := { p with tokens := token :: p.tokens }

/-- Add a token, and go on behind it. -/
def emitAt (token : Token) (rest : List Spot) (p : Progress) : Progress :=
  { p with tokens := token :: p.tokens, rest := rest }

/-- Put a token behind the first `position` ones. -/
def insert (position : Nat) (token : Token) (p : Progress) : Progress :=
  { p with tokens := p.tokens.insertIdx (p.tokens.length - position) token }

/-- End the block collections that are indented by more than `least`. -/
def closeTo (least : Nat) (p : Progress) : Progress :=
  let closed := p.margins.takeWhile (least < ·)
  { p with margins := p.margins.drop closed.length,
           tokens := List.replicate closed.length blockEnd ++ p.tokens }

/-- Begin a block collection at a column, if none with this indentation is open: its first token
goes behind the first `position` ones. -/
def openAt (column position : Nat) (token : Token) (p : Progress) : Progress :=
  if p.margin < column + 1 then
    { p.insert position token with margins := (column + 1) :: p.margins }
  else p

/-- Begin a block collection here. -/
def openHere (token : Token) (p : Progress) : Progress := p.openAt p.column p.tokens.length token

/-- Whether a key that began at a place can no longer be one: it is on another line, or too long. -/
def isStale (p : Progress) (start : KeyStart) : Bool :=
  match p.rest with
  | [] => true
  | s :: _ => start.spot.line != s.line || start.spot.index + 1024 < s.index

/-- Forget places that are stale. -/
def forgetStale (p : Progress) : Except Fault Progress :=
  let staleAt (start : Option KeyStart) : Option KeyStart := start.filter p.isStale
  let fresh (start : Option KeyStart) : Option KeyStart := start.filter (fun k => !p.isStale k)
  if ((p.keyStart :: p.outerStarts).filterMap staleAt).any KeyStart.required then .error .malformed
  else .ok { p with keyStart := fresh p.keyStart, outerStarts := p.outerStarts.map fresh }

/-- Forget the place of the innermost collection. -/
def forgetKey (p : Progress) : Except Fault Progress :=
  match p.keyStart with
  | some start => if start.required then .error .malformed else .ok { p with keyStart := none }
  | none => .ok p

/-- Remember that a key may begin here. -/
def rememberKey (p : Progress) : Except Fault Progress :=
  match p.rest with
  | s :: _ =>
    if p.keyAllowed then do
      let p ← p.forgetKey
      return { p with
        keyStart := some ⟨p.tokens.length, !p.inFlow && p.margin == s.column + 1, s⟩ }
    else return p
  | [] => return p

/-- Allow or forbid that a key begins. -/
def allowKey (allowed : Bool) (p : Progress) : Progress := { p with keyAllowed := allowed }

/-- Go to the next token: over spaces, comments and line ends.  Behind a line end outside flow
collections a key may begin. -/
def skipToToken (p : Progress) : Progress :=
  let (breaks, rest) := skipBlank false p.rest
  { p with rest := rest, keyAllowed := p.keyAllowed || (breaks && !p.inFlow) }

/-- End all block collections before something that stands outside a document. -/
def leaveDocument (p : Progress) : Except Fault Progress := do
  return (← (p.closeTo 0).forgetKey).allowKey false

/-- A mark between documents. -/
def documentMark (token : Token) (p : Progress) : Except Fault Progress := do
  return ((← p.leaveDocument).emit token).advance 3

/-- A directive. -/
def directive (p : Progress) : Except Fault Progress := do
  let p ← p.leaveDocument
  let (token, rest) ← readDirective p.rest.tail
  return p.emitAt token rest

/-- The begin of a flow collection. -/
def flowStart (token : Token) (p : Progress) : Except Fault Progress := do
  if p.outerStarts.length ≥ maxOpen then throw .tooDeep
  let p ← p.rememberKey
  let p := { p with
    keyStart := none
    outerStarts := p.keyStart :: p.outerStarts
    keyAllowed := true }
  return (p.emit token).advance 1

/-- The end of a flow collection. -/
def flowEnd (token : Token) (p : Progress) : Except Fault Progress := do
  let p ← p.forgetKey
  match p.outerStarts with
  | [] => throw .malformed
  | start :: outer =>
    let p := { p with keyStart := start, outerStarts := outer, keyAllowed := false }
    return (p.emit token).advance 1

/-- A comma in a flow collection. -/
def nextInFlow (p : Progress) : Except Fault Progress := do
  return ((← (p.allowKey true).forgetKey).emit flowEntry).advance 1

/-- The indicator of an entry of a block sequence. -/
def entry (p : Progress) : Except Fault Progress := do
  if !p.inFlow && !p.keyAllowed then throw .malformed
  let p := if p.inFlow then p else p.openHere blockSequenceStart
  return ((← (p.allowKey true).forgetKey).emit blockEntry).advance 1

/-- The indicator of a key. -/
def explicitKey (p : Progress) : Except Fault Progress := do
  if !p.inFlow && !p.keyAllowed then throw .malformed
  let p := if p.inFlow then p else p.openHere blockMappingStart
  return ((← (p.allowKey !p.inFlow).forgetKey).emit key).advance 1

/-- The indicator of a value: what has begun where a key may begin was one. -/
def valueMark (p : Progress) : Except Fault Progress := do
  match p.keyStart with
  | some start =>
    let p := { p with keyStart := none }.insert start.position key
    let p := if p.inFlow then p else p.openAt start.spot.column start.position blockMappingStart
    return ((p.allowKey false).emit value).advance 1
  | none =>
    if !p.inFlow && !p.keyAllowed then throw .malformed
    let p := if p.inFlow then p else p.openHere blockMappingStart
    return ((p.allowKey !p.inFlow).emit value).advance 1

/-- A name behind an indicator. -/
def named (token : String → Token) (p : Progress) : Except Fault Progress := do
  let p ← p.rememberKey
  let (name, rest) ← readName p.rest.tail
  return (p.allowKey false).emitAt (token name) rest

/-- A tag. -/
def tagged (p : Progress) : Except Fault Progress := do
  let p ← p.rememberKey
  let (token, rest) ← readTag p.rest
  return (p.allowKey false).emitAt token rest

/-- A block scalar. -/
def blockScalar (fold : Bool) (p : Progress) : Except Fault Progress := do
  let p ← (p.allowKey true).forgetKey
  let (text, rest) ← Block.read fold p.margin p.rest.tail
  return p.emitAt (scalar false (String.ofList text)) rest

/-- A quoted scalar. -/
def quotedScalar (double : Bool) (fuel : Nat) (p : Progress) : Except Fault Progress := do
  let p ← p.rememberKey
  let (text, rest) ← Quoted.read double fuel p.rest.tail
  return (p.allowKey false).emitAt (scalar false (String.ofList text)) rest

/-- A plain scalar; behind a line end after it a key may begin. -/
def plainScalar (fuel : Nat) (p : Progress) : Except Fault Progress := do
  let p ← p.rememberKey
  let (text, endsLine, rest) := Plain.read p.inFlow p.margin fuel p.rest
  return (p.allowKey endsLine).emitAt (scalar true (String.ofList text)) rest

/-- Read the token that starts here; `fuel` is more than the number of characters that are left. -/
def token (fuel : Nat) (p : Progress) : Except Fault Progress :=
  let c := charOf p.rest
  let next := secondOf p.rest
  let blankBehind := isBlankOrEnd next
  if c == '%' && p.column == 0 then p.directive
  else if p.column == 0 && startsWith '-' p.rest then p.documentMark documentStart
  else if p.column == 0 && startsWith '.' p.rest then p.documentMark documentEnd
  else if c == '[' then p.flowStart flowSequenceStart
  else if c == '\x7b' then p.flowStart flowMappingStart
  else if c == ']' then p.flowEnd flowSequenceEnd
  else if c == '\x7d' then p.flowEnd flowMappingEnd
  else if c == ',' then p.nextInFlow
  else if c == '-' && blankBehind then p.entry
  else if c == '?' && (p.inFlow || blankBehind) then p.explicitKey
  else if c == ':' && (p.inFlow || blankBehind) then p.valueMark
  else if c == '*' then p.named again
  else if c == '&' then p.named anchor
  else if c == '!' then p.tagged
  else if c == '|' && !p.inFlow then p.blockScalar false
  else if c == '>' && !p.inFlow then p.blockScalar true
  else if c == '\'' then p.quotedScalar false fuel
  else if c == '"' then p.quotedScalar true fuel
  else if Plain.starts p.inFlow c next then p.plainScalar fuel
  else .error .malformed

/-- The tokens that can be had when none can be read any more: those in front of the first one
that may still turn out to be a key. -/
def stuck (fault : Fault) (p : Progress) : Supply :=
  let starts := ((p.keyStart :: p.outerStarts).filterMap id).filter
    (fun k => k.required || !p.isStale k)
  let count := starts.foldl (fun n k => min n k.position) p.tokens.length
  ⟨p.tokens.reverse.take count, some fault⟩

/-- Read the token behind spaces and comments. -/
def step (fuel : Nat) (p : Progress) : Except Fault Progress := do
  let p ← p.forgetStale
  (if p.inFlow then p else p.closeTo (p.column + 1)).token fuel

/-- End the document. -/
def finish (p : Progress) : Except Fault Progress := do
  let p ← p.forgetStale
  (if p.inFlow then p else p.closeTo (p.column + 1)).leaveDocument

/-- Read tokens up to the end of the text.  If the text is cut off there, so are the tokens. -/
def run (cut : Option Fault) : Nat → Progress → Supply
  | 0, p => p.stuck .malformed
  | fuel + 1, p =>
    let next := p.skipToToken
    if charOf next.rest == endMark then
      match cut, next.finish with
      | some fault, _ => p.stuck fault
      | none, .ok last => ⟨last.tokens.reverse, none⟩
      | none, .error fault => p.stuck fault
    else
      match next.step (fuel + 1), cut with
      | .ok next, none => run cut fuel next
      | .ok next, some fault =>
        if charOf next.rest == endMark then p.stuck fault else run cut fuel next
      | .error .unclosed, some fault => p.stuck fault
      | .error fault, _ => p.stuck fault

end Progress

/-- The tokens of a text.  A character that no document may hold cuts the text off in front of its
page; `cut` tells why the text is cut off already. -/
def ofText (cs : List Char) (cut : Option Fault) : Supply :=
  let (cs, cut) := match cs.findIdx? (fun c => !isAllowed c) with
    | some index => (cs.take (Files.Reading.pageStart index), some .malformed)
    | none => (cs, cut)
  let start := spots cs
  let start := if charOf start == byteOrderMark then start.tail else start
  Progress.run cut (start.length + 1) ⟨start, [], [], true, none, []⟩

end SecretSync.Yaml.Token
