import NoKnowledge.Errors

/-!
# Taking URLs apart

The scheme, the host and the port of a URL, as the URL parser of the standard
library finds them.  What it looks up elsewhere, the Unicode tables and the
registries of network addresses, is a parameter.
-/

namespace NoKnowledge.Url

/-- What the address registries say of an address. -/
structure IpAddress where
  version4 : Bool := true
  isPrivate : Bool := false
  isLoopback : Bool := false
  isLinkLocal : Bool := false
  isReserved : Bool := false
  isMulticast : Bool := false
  isUnspecified : Bool := false

structure Tables where
  /-- Lower case of a text. -/
  lower : List Char → List Char
  /-- Compatibility normal form of a text. -/
  nfkc : List Char → List Char
  /-- The address a text spells, when it spells one. -/
  ipAddress : List Char → Option IpAddress

def invalid (text : String) : Raised := { class_ := .value, text }

def isAscii (character : Char) : Bool := character.toNat < 128

/-- A control character of the first block or a space. -/
def isControlOrSpace (character : Char) : Bool := character.toNat ≤ 0x20

def isUnsafe (character : Char) : Bool :=
  character = '\t' || character = '\r' || character = '\n'

def isSchemeChar (character : Char) : Bool :=
  character.isAlphanum || character = '+' || character = '-' || character = '.'

def isHexDigit (character : Char) : Bool :=
  character.isDigit || ('a' ≤ character && character ≤ 'f') ||
    ('A' ≤ character && character ≤ 'F')

/-- What follows the first separator of a text. -/
def afterFirst (separator : Char) (text : List Char) : List Char :=
  (text.dropWhile (· ≠ separator)).drop 1

def beforeFirst (separator : Char) (text : List Char) : List Char :=
  text.takeWhile (· ≠ separator)

/-- What follows the last separator of a text, or all of it. -/
def afterLast (separator : Char) (text : List Char) : List Char :=
  (text.reverse.takeWhile (· ≠ separator)).reverse

/-- The scheme in lower case, and what follows its colon. -/
def splitScheme (url : List Char) : List Char × List Char :=
  match url with
  | first :: _ =>
      if ':' ∈ url && first.isAlpha && (beforeFirst ':' url).all isSchemeChar then
        ((beforeFirst ':' url).map Char.toLower, afterFirst ':' url)
      else ([], url)
  | [] => ([], url)

structure Parts where
  scheme : List Char
  netloc : List Char
deriving DecidableEq

variable (tables : Tables)

/-- `_check_bracketed_host` -/
def checkBracketedHost (host : List Char) : Except Raised Unit :=
  match host with
  | 'v' :: future =>
      refuse ((future.takeWhile isHexDigit).isEmpty ||
          (match future.dropWhile isHexDigit with
            | '.' :: rest => rest.isEmpty
            | _ => true))
        (invalid "IPvFuture address is invalid")
  | _ =>
      match tables.ipAddress host with
      | none => .error (invalid "not an IPv4 or IPv6 address")
      | some address =>
          refuse address.version4 (invalid "An IPv4 address cannot be in brackets")

/-- `_checknetloc` -/
def checkNetloc (netloc : List Char) : Except Raised Unit :=
  let bare := netloc.filter fun character => character ∉ ['@', ':', '#', '?']
  refuse (!netloc.all isAscii && tables.nfkc bare ≠ bare &&
      (tables.nfkc bare).any fun character => character ∈ ['/', '?', '#', '@', ':'])
    (invalid "netloc contains invalid characters under NFKC normalization")

/-- `urlparse`, as far as the network location. -/
def urlparse (url : List Char) : Except Raised Parts := do
  let url := (url.dropWhile isControlOrSpace).filter fun character => !isUnsafe character
  let (scheme, rest) := splitScheme url
  match rest with
  | '/' :: '/' :: located =>
      let netloc := located.takeWhile fun character => character ∉ ['/', '?', '#']
      refuse (netloc.contains '[' != netloc.contains ']') (invalid "Invalid IPv6 URL")
      if '[' ∈ netloc then
        checkBracketedHost tables (beforeFirst ']' (afterFirst '[' netloc))
      checkNetloc tables netloc
      return { scheme, netloc }
  | _ => return { scheme, netloc := [] }

namespace Parts

/-- `_hostinfo` -/
def hostinfo (parts : Parts) : List Char × List Char :=
  let host := afterLast '@' parts.netloc
  if '[' ∈ host then
    let bracketed := afterFirst '[' host
    (beforeFirst ']' bracketed, afterFirst ':' (afterFirst ']' bracketed))
  else (beforeFirst ':' host, afterFirst ':' host)

/-- The host in lower case, but for its zone; empty when there is none. -/
def hostname (parts : Parts) : List Char :=
  let host := parts.hostinfo.1
  tables.lower (beforeFirst '%' host) ++ host.dropWhile (· ≠ '%')

def digitsValue (digits : List Char) : Nat :=
  digits.foldl (fun value digit => 10 * value + (digit.toNat - 48)) 0

def port (parts : Parts) : Except Raised (Option Nat) :=
  match parts.hostinfo.2 with
  | [] => .ok none
  | digits =>
      if !digits.all Char.isDigit then
        .error (invalid "Port could not be cast to integer value")
      else if 65535 < digitsValue digits then .error (invalid "Port out of range 0-65535")
      else .ok (some (digitsValue digits))

end Parts

end NoKnowledge.Url
