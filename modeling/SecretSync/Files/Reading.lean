import SecretSync.Number.Binary64
import SecretSync.Text.Utf8

/-!
# Reading the text of a file

A file is read page by page as far as it is needed; the first two pages are read as one.  Its
octets are decoded chunk by chunk, and a chunk is at least as long as the page is expected to be.
Where a chunk cannot be decoded the page that needed it cannot be read, and the place of the
fault is told within the chunk.  Every line end becomes a line feed.
-/

namespace SecretSync.Files

/-- The text of a file as far as it can be read. -/
structure Reading where
  text : List Char
  /-- Why the page behind the text cannot be read. -/
  fault : Option Text.Utf8.DecodeError
  deriving Repr

namespace Reading

/-- How many characters a page has. -/
def pageSize : Nat := 4096

/-- The least number of octets that are decoded at once. -/
def leastChunk : Nat := 8192

/-- The index of the first character of the page that a character stands on. -/
def pageStart (index : Nat) : Nat :=
  if index < 2 * pageSize then 0 else index / pageSize * pageSize

/-- How many octets to decode at once when `missing` characters of a page are missing and the last
chunk had so many octets and characters. -/
def chunkSize (octets characters missing : Nat) : Nat :=
  let density :=
    if octets ≤ characters ∨ characters = 0 then Number.Binary64.ofRatio false 1 1
    else Number.Binary64.ofRatio false octets characters
  max leastChunk ((density.scale missing).wholePart?.getD 0).toNat

/-- Text whose lines end in line feeds. -/
def lineFeeds : List Char → List Char
  | [] => []
  | '\r' :: '\n' :: rest => '\n' :: lineFeeds rest
  | c :: rest => (if c = '\r' then '\n' else c) :: lineFeeds rest

/-- How far decoding has come. -/
structure Progress where
  /-- Octets of a sequence that goes on in the next chunk. -/
  pending : List UInt8
  /-- Whether a carriage return waits for the character behind it. -/
  held : Bool
  /-- How many octets and characters the last chunk had. -/
  lastChunk : Nat × Nat
  /-- How many characters there are so far. -/
  count : Nat

/-- The text of a chunk: what was held is put in front, and a carriage return at the end is held
until the next chunk. -/
def Progress.take (p : Progress) (octets : Nat) (cs : List Char) (pending : List UInt8) :
    List Char × Progress :=
  let cs := if p.held && !cs.isEmpty then '\r' :: cs else cs
  let returns := cs.getLast? = some '\r'
  let text := lineFeeds (if returns then cs.dropLast else cs)
  (text, ⟨pending, returns || (cs.isEmpty && p.held), (octets, text.length), p.count + text.length⟩)

/-- The text of octets up to the first chunk that cannot be decoded. -/
def decodeFrom : Nat → Progress → List UInt8 → Reading
  | 0, _, _ => ⟨[], none⟩
  | _ + 1, p, [] =>
    match Text.Utf8.decode p.pending with
    | .ok _ => ⟨if p.held then ['\n'] else [], none⟩
    | .error e => ⟨[], some e⟩
  | fuel + 1, p, octet :: octets =>
    let octets := octet :: octets
    let missing := pageSize - p.count % pageSize
    let size := chunkSize p.lastChunk.1 p.lastChunk.2 missing
    let chunk := octets.take size
    match Text.Utf8.decodePart (p.pending ++ chunk) with
    | .error e => ⟨[], some e⟩
    | .ok (cs, pending) =>
      let (text, p) := p.take chunk.length cs pending
      let more := decodeFrom fuel p (octets.drop size)
      ⟨text ++ more.text, more.fault⟩

/-- The text of a file, without the page that a fault stands on. -/
def ofOctets (content : List UInt8) : Reading :=
  let r := decodeFrom (content.length + 1) ⟨[], false, (0, 0), 0⟩ content
  match r.fault with
  | none => r
  | some fault => ⟨r.text.take (pageStart r.text.length), some fault⟩

end Reading
end SecretSync.Files
