import NoKnowledge.Errors

/-!
# Envelope padding

Envelopes are padded to a multiple of a bucket so that the ciphertext length
does not reveal the plaintext length.  The padding text is drawn by the caller.
-/

namespace NoKnowledge

namespace Padding

def bucketSize : Nat := 256
def defaultMax : Nat := 2048
def maxAttachmentEnvelope : Nat := 65536

def padAlphabet : List Char :=
  "ABCDEFGHIJKLMNOPQRSTUVWXYZabcdefghijklmnopqrstuvwxyz0123456789".toList

/-- The padded length of a payload of `baseLength` bytes. -/
def paddedSize (baseLength bucket : Nat) (maxSize : Option Nat) : Nat :=
  let target := max bucket ((baseLength / bucket + 1) * bucket)
  match maxSize with
  | some limit => if limit < target then limit else target
  | none => target

/-- Serialise an envelope padded to a size bucket.  `draw` chooses the padding
characters. -/
def padEnvelope (draw : Nat → Nat) (envelope : Json) (maxSize : Option Nat) :
    Except Raised Bytes := do
  let base := canonicalJson (envelope.setField "pad" (.str ""))
  refuse (maxSize.any fun limit => limit < base.length)
    { class_ := .padding
      text := "envelope body is " ++ toString base.length ++
        " bytes, exceeds limit " ++ toString (maxSize.getD 0) }
  let target := paddedSize base.length bucketSize maxSize
  refuse (target < base.length)
    { class_ := .padding, text := "envelope too large to pad" }
  let pad := (List.range (target - base.length)).map fun place =>
    padAlphabet.getD (draw place % 62) 'A'
  let data := canonicalJson (envelope.setField "pad" (.str (String.ofList pad)))
  refuse (data.length ≠ target)
    { class_ := .padding
      text := "padding produced " ++ toString data.length ++ " bytes, wanted " ++
        toString target }
  return data

/-- Parse a padded envelope and strip the padding field. -/
def unpadEnvelope (data : Bytes) : Except Raised Json :=
  match loadJson data with
  | none => .error { class_ := .value }
  | some (.obj fields) => .ok ((Json.obj fields).eraseField "pad")
  | some _ => .error { class_ := .padding, text := "envelope is not an object" }

end Padding

end NoKnowledge
