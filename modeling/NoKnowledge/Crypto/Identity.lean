import NoKnowledge.Crypto.Suite
import NoKnowledge.Errors

/-!
# Identities

An identity is a signing key and a key-agreement key; its id is a fingerprint
of the two public keys in Crockford base32.
-/

namespace NoKnowledge

def b32Alphabet : List Char := "0123456789ABCDEFGHJKMNPQRSTVWXYZ".toList

def b32Digit (value : Nat) : Char := b32Alphabet.getD (value % 32) '0'

/-- The digits that are complete once `bits` bits are pending. -/
def b32Drain (value : Nat) : Nat → List Char
  | bits + 5 => b32Digit (value / 2 ^ bits) :: b32Drain value bits
  | _ => []

def b32Loop : Bytes → (value bits : Nat) → List Char
  | [], value, bits =>
      if bits = 0 then [] else [b32Digit (value * 2 ^ (5 - bits))]
  | byte :: rest, value, bits =>
      let value := value * 256 + byte.toNat
      let bits := bits + 8
      b32Drain value bits ++ b32Loop rest value (bits % 5)

/-- Crockford base32 without padding. -/
def b32e (data : Bytes) : String := String.ofList (b32Loop data 0 0)

variable (suite : Suite)

/-- 26-character fingerprint of the public keys. -/
def computeIdentityId (edPublic xPublic : Bytes) : String :=
  String.ofList
    ((b32e (suite.sha256 (idHashInfo ++ edPublic ++ xPublic))).toList.take 26)

structure Identity where
  edPrivate : Bytes
  xPrivate : Bytes
deriving DecidableEq, Repr

namespace Identity

variable (identity : Identity)

def edPublic : Bytes := suite.signingPublic identity.edPrivate

def xPublic : Bytes := suite.dhPublic identity.xPrivate

def identityId : String :=
  computeIdentityId suite (identity.edPublic suite) (identity.xPublic suite)

def sign (message : Bytes) : Bytes := suite.sign identity.edPrivate message

end Identity

end NoKnowledge
