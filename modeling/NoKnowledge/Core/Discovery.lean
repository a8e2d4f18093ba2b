import NoKnowledge.Core.World
import NoKnowledge.Foundation.Gather
import NoKnowledge.Foundation.Url

/-!
# Relay discovery

Every relay is asked which relays it knows.  An advertised URL becomes a
candidate when it may be probed and its host is new, and the candidates that
answer a health check are added to the relays.  Both loops are gatherings up
to a number, so discovery returns exactly when nothing that it comes to look
at is faulty.
-/

namespace NoKnowledge.Core.Discovery

open Url (Tables)

/-- An answer of a relay; its body may fail to be read as JSON. -/
structure Response where
  statusCode : Int := 200
  json : Except Raised Json

/-- What a request for an address brings.  No address is asked for twice, so
this is any behaviour of a transport during one discovery. -/
abbrev Transport := String → Except Raised Response

abbrev HostKey := List Char × List Char × Nat

def relaysPath : String := "/api/relays"
def healthPath : String := "/api/health"

section Hosts

variable (tables : Tables) (allowPrivate : Bool)

def hostIsInternal (host : List Char) : Bool :=
  let bracket := fun character => character = '[' || character = ']'
  let host := tables.lower ((host.dropWhile bracket).reverse.dropWhile bracket).reverse
  host.isEmpty || host = "localhost".toList || ".local".toList.isSuffixOf host ||
    match tables.ipAddress host with
    | none => false
    | some address =>
        address.isPrivate || address.isLoopback || address.isLinkLocal ||
          address.isReserved || address.isMulticast || address.isUnspecified

/-- Whether an advertised URL is safe for us to probe automatically. -/
def isDiscoverable (url : String) : Except Raised Bool := do
  let parsed ← Url.urlparse tables url.toList
  if parsed.scheme ≠ "http".toList ∧ parsed.scheme ≠ "https".toList then return false
  if (parsed.hostname tables).isEmpty then return false
  match parsed.port with
  | .error _ => return false
  | .ok port =>
      if port = some 0 then return false
      if hostIsInternal tables (parsed.hostname tables) && !allowPrivate then return false
      return true

def hostKey (url : String) : Except Raised HostKey := do
  let parsed ← Url.urlparse tables url.toList
  let default := if parsed.scheme = "https".toList then 443 else 80
  let port := match ← parsed.port with
    | none | some 0 => default
    | some port => port
  return (parsed.scheme, tables.lower (parsed.hostname tables), port)

end Hosts

section Requests

variable (transport : Transport)

/-- `items[:limit]` -/
def sliceTo {α : Type} (limit : Int) (items : List α) : List α :=
  if 0 ≤ limit then items.take limit.toNat else items.take (items.length - (-limit).toNat)

/-- Read the body of an answer, if it is one. -/
def readAnswer {α : Type} (reply : Except Raised Response) (nothing : α)
    (read : Json → Except Raised α) : Except Raised α :=
  match reply with
  | .error _ => .ok nothing
  | .ok response =>
      if response.statusCode ≠ 200 then .ok nothing
      else
        match response.json with
        | .error raised => if raised.class_ = .value then .ok nothing else .error raised
        | .ok payload => read payload

/-- Ask one relay which relays it knows about. -/
def fetchKnownRelays (relayUrl : String) (limit : Int) : Except Raised (List String) :=
  readAnswer (transport (relayUrl ++ relaysPath)) [] fun payload => do
    match ← payload.attempt "relays" with
    | .arr advertised =>
        return (sliceTo limit advertised).filterMap fun
          | .str url => some url
          | _ => none
    | _ => return []

/-- Whether a relay answers its health check. -/
def probeRelay (url : String) : Except Raised Bool :=
  readAnswer (transport (url ++ healthPath)) false fun payload => do
    return (← payload.attempt "status") = .str "ok"

end Requests

structure Candidates where
  seen : List HostKey
  urls : List String := []

section Loops

variable (tables : Tables) (allowPrivate : Bool) (transport : Transport)
variable (maxCandidates maxRelays : Int) (probe : Bool)

/-- The loop over what one relay advertises. -/
def considerAdvertised (candidates : Candidates) : List String → Except Raised Candidates
  | [] => .ok candidates
  | advertised :: rest =>
      match normalizeRelayUrls [advertised] with
      | [] => considerAdvertised candidates rest
      | candidate :: _ => do
          if !(← isDiscoverable tables allowPrivate candidate) then
            considerAdvertised candidates rest
          else
            let key ← hostKey tables candidate
            if key ∈ candidates.seen then considerAdvertised candidates rest
            else
              let candidates : Candidates :=
                { seen := candidates.seen ++ [key], urls := candidates.urls ++ [candidate] }
              if maxCandidates ≤ candidates.urls.length then return candidates
              considerAdvertised candidates rest

/-- The loop over the relays that are asked. -/
def gatherCandidates (candidates : Candidates) : List String → Except Raised Candidates
  | [] => .ok candidates
  | relay :: relays => do
      let advertised ← fetchKnownRelays transport relay maxCandidates
      let candidates ← considerAdvertised tables allowPrivate maxCandidates candidates advertised
      if maxCandidates ≤ candidates.urls.length then return candidates
      gatherCandidates candidates relays

/-- The loop over the candidates. -/
def addAlive (result : List String) : List String → Except Raised (List String)
  | [] => .ok result
  | candidate :: candidates => do
      if maxRelays ≤ result.length then return result
      if !probe then addAlive (result ++ [candidate]) candidates
      else if ← probeRelay transport candidate then
        addAlive (result ++ [candidate]) candidates
      else addAlive result candidates

/-- Return `current` plus any newly discovered relays that are alive. -/
def discoverRelays (current : List String) : Except Raised (List String) := do
  let known := normalizeRelayUrls current
  let seen ← known.mapM (hostKey tables)
  let candidates ←
    gatherCandidates tables allowPrivate transport maxCandidates { seen } known
  let result ← addAlive transport maxRelays probe known candidates.urls
  return normalizeRelayUrls result

end Loops

/-- An answer that is not one, or one whose body is an object. -/
def Tolerated : Except Raised Response → Prop
  | .error _ => True
  | .ok response =>
      response.statusCode = 200 →
        match response.json with
        | .error raised => raised.class_ = .value
        | .ok payload => payload.isObj = true

/-- A relay's answer, or a URL that it advertises. -/
inductive Heard where
  | answer (relay : String)
  | url (text : String)

section Heard

variable (tables : Tables) (allowPrivate : Bool) (transport : Transport)
variable (maxCandidates : Int) (known : List String)

/-- The host of a URL that can be parsed. -/
def keyOf (url : String) : HostKey :=
  match hostKey tables url with
  | .ok key => key
  | .error _ => ([], [], 0)

def advertisedBy (relay : String) : List String :=
  match fetchKnownRelays transport relay maxCandidates with
  | .ok urls => urls
  | .error _ => []

def heardFrom (relay : String) : List Heard :=
  .answer relay :: (advertisedBy transport maxCandidates relay).map .url

/-- Without room for a candidate no second relay is asked. -/
def asked (relays : List String) : List String :=
  if 0 < maxCandidates then relays else relays.take 1

/-- Everything there is to hear. -/
def allHeard : List Heard :=
  (asked maxCandidates known).flatMap (heardFrom transport maxCandidates)

def enoughCandidates : Nat := (max maxCandidates 1).toNat

/-- A URL that may be probed and whose host is new becomes a candidate. -/
def offer (found : List String) (text : String) : Except Raised (Option String) :=
  match cleanUrl text with
  | none => .ok none
  | some candidate => do
      if !(← isDiscoverable tables allowPrivate candidate) then return none
      let key ← hostKey tables candidate
      return if key ∈ (known ++ found).map (keyOf tables) then none else some candidate

def hear (found : List String) : Heard → Except Raised (Option String)
  | .answer relay => do
      let _ ← fetchKnownRelays transport relay maxCandidates
      return none
  | .url text => offer tables allowPrivate known found text

/-- The first candidates of all there is to hear. -/
def firstCandidates : List String :=
  (gatherAll (hear tables allowPrivate transport maxCandidates known) []
    (allHeard transport maxCandidates known)).take (enoughCandidates maxCandidates)

/-- A candidate that is alive is added. -/
def examine (probe : Bool) (_ : List String) (candidate : String) :
    Except Raised (Option String) :=
  if !probe then .ok (some candidate)
  else do return if ← probeRelay transport candidate then some candidate else none

/-- An answer is tolerated, and a URL can be parsed. -/
def Heard.Fine : Heard → Prop
  | .answer relay => Tolerated (transport (relay ++ relaysPath))
  | .url text => ∀ candidate, cleanUrl text = some candidate →
      ∃ parts, Url.urlparse tables candidate.toList = .ok parts

end Heard

end NoKnowledge.Core.Discovery
