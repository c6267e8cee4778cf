import SecretSync.Net.Address
import SecretSync.Text.Quoted

/-!
# Addresses of services

A service is addressed by a URL with the scheme http or https and a non-empty authority.
`Url.authority?` takes a URL apart as far as that needs, and reports an authority that cannot be
one.
-/

namespace SecretSync.Net

/-- Why an authority cannot be one. -/
inductive UrlError where
  /-- A bracket without its partner. -/
  | unpairedBracket
  /-- Something beside the brackets of a host that is no port. -/
  | strayBracket
  /-- What stands in brackets is no address. -/
  | noAddress (host : String)
  /-- An address of version 4 in brackets. -/
  | address4InBrackets
  /-- What stands in brackets starts like an address of a later version and is none. -/
  | malformedFuture
  /-- A character that stands for one with a meaning in URLs. -/
  | disguisedDelimiter (authority : String)
  deriving DecidableEq, Repr

/-- The text of a URL error. -/
def UrlError.message : UrlError → String
  | unpairedBracket => "Invalid IPv6 URL"
  | strayBracket => "Invalid IPv6 URL"
  | noAddress host => Text.quoted host ++ " does not appear to be an IPv4 or IPv6 address"
  | address4InBrackets => "An IPv4 address cannot be in brackets"
  | malformedFuture => "IPvFuture address is invalid"
  | disguisedDelimiter authority => "netloc '" ++ authority ++
      "' contains invalid characters under NFKC normalization"

namespace Url

/-- The characters whose compatibility form contains one of `/ ? # @ :`. -/
def disguised : List Nat := [
  0x2047, 0x2048, 0x2049, 0x2100, 0x2101, 0x2105, 0x2106, 0x2a74, 0xfe13, 0xfe16, 0xfe55, 0xfe56,
  0xfe5f, 0xfe6b, 0xff03, 0xff0f, 0xff1a, 0xff1f, 0xff20]

/-- A URL without leading blanks and control characters, and without tabs and line breaks. -/
def cleaned (cs : List Char) : List Char :=
  (cs.dropWhile (fun c => c.toNat ≤ 0x20)).filter (fun c => c != '\t' && c != '\r' && c != '\n')

/-- Whether a character is an ASCII letter. -/
def isLetter (c : Char) : Bool := ('a' ≤ c && c ≤ 'z') || ('A' ≤ c && c ≤ 'Z')

/-- Whether a character may stand in a scheme. -/
def isSchemeChar (c : Char) : Bool :=
  isLetter c || ('0' ≤ c && c ≤ '9') || c == '+' || c == '-' || c == '.'

/-- The scheme in lower case, if there is one, and what follows. -/
def scheme (cs : List Char) : List Char × List Char :=
  let front := cs.takeWhile (· != ':')
  match front, cs.dropWhile (· != ':') with
  | first :: _, _ :: rest =>
    if isLetter first && front.all isSchemeChar then (front.map Char.toLower, rest) else ([], cs)
  | _, _ => ([], cs)

/-- What follows the user in an authority: the host, and the port if there is one. -/
def hostAndPort (authority : List Char) : List Char :=
  (authority.reverse.takeWhile (· != '@')).reverse

/-- The host of an authority with brackets in it.  Nothing but a port may stand outside of the
brackets of the host; a host without brackets ends at the first colon. -/
def bracketedHost (authority : List Char) : Except UrlError (List Char) :=
  let host := hostAndPort authority
  match host.dropWhile (· != '[') with
  | [] => .ok (host.takeWhile (· != ':'))
  | _ :: rest =>
    match (rest.dropWhile (· != ']')).drop 1 with
    | [] => if host.head? = some '[' then .ok (rest.takeWhile (· != ']')) else .error .strayBracket
    | c :: _ =>
      if host.head? = some '[' ∧ c = ':' then .ok (rest.takeWhile (· != ']'))
      else .error .strayBracket

/-- Whether a text is an address of a later version: `v`, a hexadecimal number, a point, and
more. -/
def isFutureAddress (cs : List Char) : Bool :=
  let number := (cs.drop 1).takeWhile (fun c => (Text.hexDigit? c).isSome)
  match (cs.drop 1).drop number.length with
  | '.' :: _ :: _ => !number.isEmpty
  | _ => false

/-- Check what stands in brackets. -/
def checkBracketed (host : List Char) : Except UrlError Unit :=
  if host.head? = some 'v' then
    if isFutureAddress host then .ok () else .error .malformedFuture
  else if isAddress4 host then .error .address4InBrackets
  else if isAddress6 host then .ok ()
  else .error (.noAddress (String.ofList host))

/-- Check an authority. -/
def checkAuthority (cs : List Char) : Except UrlError Unit := do
  if cs.contains '[' != cs.contains ']' then throw .unpairedBracket
  if cs.contains '[' then checkBracketed (← bracketedHost cs)
  if cs.any (fun c => disguised.contains c.toNat) then
    throw (.disguisedDelimiter (String.ofList cs))

/-- The authority at the front of what follows a scheme. -/
def authority (cs : List Char) : List Char :=
  match cs with
  | '/' :: '/' :: rest => rest.takeWhile (fun c => c != '/' && c != '?' && c != '#')
  | _ => []

/-- Whether a text addresses a service. -/
def isService (s : String) : Except UrlError Bool := do
  let (scheme, rest) := scheme (cleaned s.toList)
  let authority := authority rest
  checkAuthority authority
  return (scheme == "http".toList || scheme == "https".toList) && !authority.isEmpty

end Url
end SecretSync.Net
