import SecretSync.Json.Basic
import SecretSync.Schema.Scalar
import SecretSync.Time.DateTime

/-!
# YAML values

What a YAML document means: scalars of several sorts, sequences, mappings and sets.  Keys of
mappings may be any scalar; two keys are the same if they are equal as values, so that `1`,
`1.0` and `true` are.
-/

namespace SecretSync.Yaml

/-- A value of a document. -/
inductive Value where
  | null
  | bool (b : Bool)
  | int (n : Int)
  | real (x : Number.Binary64)
  | text (s : String)
  | octets (bytes : List UInt8)
  | date (d : Time.Date)
  /-- A date with a time of day and perhaps an offset from UTC. -/
  | timestamp (t : Time.DateTime) (offset : Option Time.Duration)
  | seq (items : List Value)
  /-- A sequence of pairs. -/
  | pairs (items : List (Value × Value))
  | map (entries : List (Value × Value))
  | set (members : List Value)
  deriving Repr, Inhabited

namespace Value

mutual
/-- A JSON value as a YAML value. -/
def ofJson : Json → Value
  | .null => null
  | .bool b => bool b
  | .int n => int n
  | .real x => real x
  | .str s => text s
  | .arr items => seq (ofJsonItems items)
  | .obj members => map (ofJsonMembers members)

/-- The items of a JSON list as YAML values. -/
def ofJsonItems : List Json → List Value
  | [] => []
  | v :: rest => ofJson v :: ofJsonItems rest

/-- The members of a JSON object as entries of a mapping. -/
def ofJsonMembers : List (String × Json) → List (Value × Value)
  | [] => []
  | (k, v) :: rest => (text k, ofJson v) :: ofJsonMembers rest
end

/-- A value as a scalar of a record. -/
def scalar : Value → Schema.Scalar
  | null => .null
  | bool b => .bool b
  | int n => .int n
  | real x => .real x
  | text s => .text s
  | octets bytes => .octets bytes
  | _ => .other

/-- Whether a value counts as true: null, false, zeros and empty values do not. -/
def isTruthy : Value → Bool
  | null => false
  | bool b => b
  | int n => n != 0
  | real x => !x.isZero
  | text s => !s.isEmpty
  | octets bytes => !bytes.isEmpty
  | date _ => true
  | timestamp _ _ => true
  | seq items => !items.isEmpty
  | pairs items => !items.isEmpty
  | map entries => !entries.isEmpty
  | set members => !members.isEmpty

/-- The whole number that a value equals. -/
def wholeNumber? : Value → Option Int
  | bool b => some (if b then 1 else 0)
  | int n => some n
  | real x => x.toInt?
  | _ => none

/-- Whether two keys are the same. -/
def sameKey (a b : Value) : Bool :=
  match a.wholeNumber?, b.wholeNumber? with
  | some m, some n => m == n
  | none, none =>
    match a, b with
    | null, null => true
    | real x, real y => x == y
    | text s, text t => s == t
    | octets x, octets y => x == y
    | date x, date y => x == y
    | timestamp x ox, timestamp y oy =>
      match ox, oy with
      | none, none => x == y
      | some ox, some oy =>
        match x.localMicros, y.localMicros with
        | .ok a, .ok b => (a : Int) - ox.micros == b - oy.micros
        | _, _ => false
      | _, _ => false
    | _, _ => false
  | _, _ => false

/-- Put an entry into a mapping: over the one with the same key, or behind the others. -/
def put {α : Type} (key : Value) (value : α) : List (Value × α) → List (Value × α)
  | [] => [(key, value)]
  | (k, v) :: rest => if k.sameKey key then (k, value) :: rest else (k, v) :: put key value rest

/-- Entries without those that a later one with the same key replaces. -/
def collected (entries : List (Value × Value)) : List (Value × Value) :=
  entries.foldl (fun acc e => put e.1 e.2 acc) []

/-- The value of a text key. -/
def find? {α : Type} (key : String) (entries : List (Value × α)) : Option α :=
  (entries.find? (fun e => e.1.sameKey (text key))).map Prod.snd

/-- Octets between quotes, as messages show them. -/
def quotedOctets (bytes : List UInt8) : String :=
  let cs := bytes.map (fun b => Char.ofNat b.toNat)
  let q := Text.quoteFor cs
  String.ofList ('b' :: q :: cs.flatMap (fun c =>
    if c.toNat < 0x80 then Text.escapeChar q c else '\\' :: 'x' :: Text.hexText 2 c.toNat) ++ [q])

/-- An offset from UTC, as messages show it. -/
def offsetText (offset : Time.Duration) : String :=
  if offset.micros = 0 then "datetime.timezone.utc"
  else "datetime.timezone(" ++ offset.text ++ ")"

/-- A date with a time of day, as messages show it: seconds and fractions of zero are left out. -/
def timestampText (t : Time.DateTime) (offset : Option Time.Duration) : String :=
  let seconds :=
    if t.microsecond ≠ 0 then [t.second, t.microsecond]
    else if t.second ≠ 0 then [t.second]
    else []
  let numbers := [t.year, t.month, t.day, t.hour, t.minute] ++ seconds
  let zone := match offset with
    | some offset => ["tzinfo=" ++ offsetText offset]
    | none => []
  "datetime.datetime(" ++ ", ".intercalate (numbers.map toString ++ zone) ++ ")"

/-- A key that is no text, as a part of a path: a number of a machine word stands for itself. -/
def keyPart : Value → Schema.Part
  | text s => .member s
  | bool b => .item (if b then 1 else 0)
  | int n =>
    if -9223372036854775808 ≤ n ∧ n ≤ 9223372036854775807 then .item n else .member (toString n)
  | null => .member "None"
  | real x => .member x.text
  | octets bytes => .member (quotedOctets bytes)
  | date d => .member ("datetime.date(" ++ toString d.year ++ ", " ++ toString d.month ++ ", " ++
      toString d.day ++ ")")
  | timestamp t offset => .member (timestampText t offset)
  | _ => .member ""

end Value
end SecretSync.Yaml
