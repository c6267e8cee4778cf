import SecretSync.Text.Digit

/-!
# Internet addresses

Whether a text is an address of version 4, four decimal numbers between points, or of version
6, eight hexadecimal numbers between colons of which one run may be left out.
-/

namespace SecretSync.Net

/-- The parts of a text between a separator. -/
def splitAt (separator : Char) (cs : List Char) : List (List Char) :=
  cs.foldr (fun c parts =>
    if c = separator then [] :: parts
    else
      match parts with
      | [] => [[c]]
      | part :: rest => (c :: part) :: rest) [[]]

/-- Whether a text is a decimal number below 256 without a superfluous zero. -/
def isOctet (cs : List Char) : Bool :=
  match cs.mapM Text.asciiDigit? with
  | none => false
  | some ds =>
    !ds.isEmpty && ds.length ≤ 3 && (cs == ['0'] || cs.head? != some '0') &&
      Text.ofDigitValues 10 ds < 256

/-- Whether a text is an address of version 4. -/
def isAddress4 (cs : List Char) : Bool :=
  let parts := splitAt '.' cs
  parts.length == 4 && parts.all isOctet

/-- Whether a text is a hexadecimal number of at most four digits. -/
def isGroup (cs : List Char) : Bool :=
  !cs.isEmpty && cs.length ≤ 4 && cs.all (fun c => (Text.hexDigit? c).isSome)

/-- The parts between colons, an address of version 4 at the end counted as two groups. -/
def groups? (cs : List Char) : Option (List (List Char)) :=
  let parts := splitAt ':' cs
  let last := parts.getLast?.getD []
  if parts.length < 3 then none
  else if last.contains '.' then
    if isAddress4 last then some (parts.dropLast ++ [['0'], ['0']]) else none
  else some parts

/-- Whether groups, of which one inside may be empty for a run of zeros, make an address. -/
def areGroups (parts : List (List Char)) : Bool :=
  if 9 < parts.length then false
  else
    let inner := (parts.drop 1).dropLast
    match inner.findIdx? List.isEmpty with
    | none => parts.length == 8 && parts.all isGroup
    | some i =>
      let front := parts.take (i + 1)
      let back := parts.drop (i + 2)
      let front := if front == [[]] then [] else front
      let back := if back == [[]] then [] else back
      front.all isGroup && back.all isGroup && front.length + back.length < 8

/-- Whether a text is an address of version 6; a zone may follow behind a percent sign. -/
def isAddress6 (cs : List Char) : Bool :=
  let address := cs.takeWhile (· != '%')
  let zone := cs.dropWhile (· != '%')
  let zoneAllowed := match zone with
    | [] => true
    | _ :: rest => !rest.isEmpty && !rest.contains '%'
  zoneAllowed && !cs.contains '/' &&
    match groups? address with
    | none => false
    | some parts => areGroups parts

end SecretSync.Net
