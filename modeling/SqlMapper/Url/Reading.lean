import SqlMapper.Text.Lowercase
import SqlMapper.Text.Percent
import SqlMapper.Number.Size
import SqlMapper.Url.Ipv6

/-!
# Addresses

The parts of an address such as a connection is opened with: scheme, user, host, port, path and query. Schemes of the
web need a host and take a backslash for a slash; any other scheme has a host only behind two slashes.
-/

namespace SqlMapper

/-- Why a text is not an address. -/
inductive UrlFault where
  | noScheme
  | emptyHost
  | invalidPort
  | invalidIpv6
  | invalidHost
deriving DecidableEq, Repr

/-- The fault in words. -/
def UrlFault.message : UrlFault → String
  | .noScheme => "relative URL without a base"
  | .emptyHost => "empty host"
  | .invalidPort => "invalid port number"
  | .invalidIpv6 => "invalid IPv6 address"
  | .invalidHost => "invalid domain character"

/-- The parts of an address, still percent-encoded. -/
structure Url where
  scheme : String
  username : String
  password : Option String
  host : Option String
  port : Option Nat
  /-- The steps of the path behind its first slash, none if it does not begin with a slash. -/
  segments : List String
  query : Option String
deriving Repr, Inhabited

namespace Url

/-- Blanks and control characters, which do not count at the ends of an address. -/
def isPadding (c : Char) : Bool := c ≤ ' '

/-- The characters of an address that count. -/
def significant (s : String) : List Char :=
  (((s.toList.dropWhile isPadding).reverse.dropWhile isPadding).reverse).filter fun c =>
    c ≠ '\t' ∧ c ≠ '\n' ∧ c ≠ '\r'

/-- A character of a scheme behind its first. -/
def isSchemeChar (c : Char) : Bool := c.isAlphanum || c = '+' || c = '-' || c = '.'

/-- The scheme of an address, and what stands behind its colon. -/
def scheme? (cs : List Char) : Option (String × List Char) :=
  match cs, Text.Percent.cut ':' cs with
  | c :: _, (name, some rest) =>
    if c.isAlpha && name.all isSchemeChar then some (Text.lowercase (String.ofList name), rest) else none
  | _, _ => none

/-- The schemes that always have a host. -/
def webSchemes : List String := ["http", "https", "ws", "wss", "ftp"]

/-- The character ends the part of an address with the host. -/
def endsAuthority (web : Bool) (c : Char) : Bool := c = '/' || c = '?' || c = '#' || (web && c = '\x5c')

/-- The last place where a character stands, as what is before and what is behind it. -/
def cutLast (separator : Char) (cs : List Char) : Option (List Char × List Char) :=
  match Text.Percent.cut separator cs.reverse with
  | (behind, some before) => some (before.reverse, behind.reverse)
  | (_, none) => none

/-- The characters up to the colon in front of the port; a colon between brackets does not count. -/
def hostChars : (bracketed : Bool) → List Char → List Char × List Char
  | _, [] => ([], [])
  | bracketed, c :: rest =>
    if c = ':' && !bracketed then ([], c :: rest)
    else
      let inside := if c = '[' then true else if c = ']' then false else bracketed
      (c :: (hostChars inside rest).1, (hostChars inside rest).2)

/-- The character cannot stand in a host. -/
def isForbidden (c : Char) : Bool :=
  c = '\x00' || " #/:<>?@[]^|".toList.contains c || c = '\x5c'

/-- The host that some characters name. -/
def host? (cs : List Char) : Except UrlFault String :=
  match cs with
  | '[' :: rest =>
    match rest.getLast?, Ipv6.read? (String.ofList rest.dropLast) with
    | some ']', some groups => .ok ("[" ++ Ipv6.text groups ++ "]")
    | _, _ => .error .invalidIpv6
  | cs => if cs.any isForbidden then .error .invalidHost else .ok (Text.Percent.encodeControls (String.ofList cs))

/-- The port behind the host, none if there are no digits. -/
def port? (cs : List Char) : Except UrlFault (Option Nat) :=
  match cs with
  | [] | [':'] => .ok none
  | _ :: digits =>
    match Number.readSizeDigits 65536 0 (Text.Utf8.encode (String.ofList digits)) with
    | .ok n => .ok (some n)
    | .error _ => .error .invalidPort

/-- A step of a path that stays where it is. -/
def isHere (s : String) : Bool := s = "." || s.toLower = "%2e"

/-- A step of a path that goes back. -/
def isBack (s : String) : Bool := ["..", ".%2e", "%2e.", "%2e%2e"].contains s.toLower

/-- Follows the steps of a path; the last one leaves its place even if it goes nowhere. -/
def follow : (done : List String) → List String → List String
  | done, [] => done
  | done, [last] => if isBack last then done.dropLast ++ [""] else if isHere last then done ++ [""] else done ++ [last]
  | done, s :: rest =>
    if isBack s then follow done.dropLast rest else if isHere s then follow done rest else follow (done ++ [s]) rest

/-- The steps of a path that begins with a slash. -/
def steps (cs : List Char) : List String :=
  match cs with
  | [] => []
  | c :: rest => follow [] ((String.ofList (if c = '/' then rest else cs)).splitOn "/")

/-- The user and the password in front of the host. -/
def credentials (cs : List Char) : String × Option String :=
  match Text.Percent.cut ':' cs with
  | (name, some (c :: rest)) => (String.ofList name, some (String.ofList (c :: rest)))
  | (name, _) => (String.ofList name, none)

/-- The parts of an address with a host. -/
def withHost (scheme : String) (web : Bool) (query : Option String) (cs : List Char) : Except UrlFault Url := do
  let authority := cs.takeWhile fun c => !endsAuthority web c
  let path := cs.dropWhile fun c => !endsAuthority web c
  let (user, place) := match cutLast '@' authority with
    | some (user, place) => (some user, place)
    | none => (none, authority)
  if user = some [] && place.isEmpty && !path.isEmpty then .error .emptyHost
  let (hostText, portText) := hostChars false place
  if hostText.isEmpty && (web || !portText.isEmpty) then .error .emptyHost
  let host ← host? hostText
  let port ← port? portText
  let (username, password) := credentials (user.getD [])
  if host.isEmpty && (!username.isEmpty || password.isSome) then .error .emptyHost
  return { scheme := scheme, username := username, password := password
           host := if host.isEmpty then none else some host
           port := port, segments := steps path, query := query }

/-- The parts of an address without a host. -/
def withoutHost (scheme : String) (query : Option String) (cs : List Char) : Url :=
  { scheme := scheme, username := "", password := none, host := none, port := none
    segments := if cs.head? = some '/' then steps cs else [], query := query }

/-- The parts of an address. -/
def read (s : String) : Except UrlFault Url :=
  match scheme? (significant s) with
  | none => .error .noScheme
  | some (scheme, rest) =>
    let (body, query) := Text.Percent.cut '?' (Text.Percent.cut '#' rest).1
    let query := query.map String.ofList
    if webSchemes.contains scheme then
      withHost scheme true query (body.dropWhile fun c => c = '/' ∨ c = '\x5c')
    else
      match body with
      | '/' :: '/' :: rest => if scheme = "file" then .ok (withoutHost scheme query rest) else withHost scheme false query rest
      | body => .ok (withoutHost scheme query body)

end Url

end SqlMapper
