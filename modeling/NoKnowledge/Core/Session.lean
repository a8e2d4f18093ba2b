import NoKnowledge.Core.Devices
import NoKnowledge.Crypto.Ratchet

/-!
# Sessions of a contact

A session is a ratchet with the handshake material it was started from.  A
contact has sessions towards each of its devices and sessions from them; an
older store holds a single session instead.
-/

namespace NoKnowledge

structure Session where
  sid : Bytes
  ratchet : RatchetState
  sk : Option Bytes := none
  init : Option Json := none
  established : Bool := false
deriving DecidableEq

/-- True until the peer has confirmed the session by any message. -/
def Session.isPending (session : Session) : Bool := !session.established

/-- The stored session column of a contact. -/
inductive SessionBlob where
  | v1 (session : Session)
  | v2 (devices : List Json) (outbound inbound : Dict String Session)
deriving DecidableEq

/-- Session state of a contact in memory. -/
structure SessionState where
  devices : List DeviceEntry
  /-- Keyed by the peer's device id. -/
  outbound : Dict String Session
  /-- Keyed by our own device id. -/
  inbound : Dict String Session
deriving DecidableEq

namespace SessionState

def empty : SessionState := ⟨[], Dict.empty, Dict.empty⟩

/-- A stored device entry that is malformed is left out. -/
def loadDevices (devices : List Json) : List DeviceEntry :=
  devices.filterMap fun data => (DeviceEntry.fromDict data).toOption

def load : Option SessionBlob → SessionState
  | some (.v2 devices outbound inbound) => ⟨loadDevices devices, outbound, inbound⟩
  | some (.v1 session) => ⟨[], Dict.empty.insert legacyDevice session, Dict.empty⟩
  | none => empty

def save (state : SessionState) : SessionBlob :=
  .v2 (state.devices.map DeviceEntry.toDict) state.outbound state.inbound

/-- The two session tables of a contact. -/
inductive Bucket where
  | outbound
  | inbound
deriving DecidableEq

def bucket (state : SessionState) : Bucket → Dict String Session
  | .outbound => state.outbound
  | .inbound => state.inbound

/-- File a session in one of the tables. -/
def file (state : SessionState) (bucket : Bucket) (key : String)
    (session : Session) : SessionState :=
  match bucket with
  | .outbound => { state with outbound := state.outbound.insert key session }
  | .inbound => { state with inbound := state.inbound.insert key session }

/-- The first session with the given wire id in one table. -/
def findIn (sessions : Dict String Session) (sid : Bytes) : Option (String × Session) :=
  sessions.entries.find? fun entry => entry.2.sid = sid

/-- A session by its wire id, outbound sessions first. -/
def find (state : SessionState) (sid : Bytes) : Option (Bucket × String × Session) :=
  match findIn state.outbound sid with
  | some (key, session) => some (.outbound, key, session)
  | none => (findIn state.inbound sid).map fun entry => (.inbound, entry.1, entry.2)

end SessionState

end NoKnowledge
