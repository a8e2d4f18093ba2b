import Mathlib.Algebra.Group.Int.Defs
import Mathlib.Algebra.GroupWithZero.Nat
import Mathlib.Data.List.Basic

/-!
# Byte strings and their textual encodings

A byte string is a list of octets.  The two encodings below are the ones every
framed format of the development is built from: UTF-8 text and fixed-width
big-endian integers.
-/

namespace NoKnowledge

/-- An octet string. -/
abbrev Bytes := List UInt8

/-- UTF-8 encoding of a text. -/
def utf8 (text : String) : Bytes :=
  text.toList.flatMap String.utf8EncodeChar

/-- Strict UTF-8 decoding; `none` is a decoding error. -/
def decodeUtf8 (data : Bytes) : Option String :=
  data.toByteArray.utf8Decode?.map fun characters =>
    String.ofList characters.toList

@[simp] theorem decodeUtf8_utf8 (text : String) :
    decodeUtf8 (utf8 text) = some text := by
  have encoded : (utf8 text).toByteArray = text.toList.utf8Encode := rfl
  rw [decodeUtf8, encoded, List.utf8Decode?_utf8Encode]
  simp

theorem utf8_injective : Function.Injective utf8 := by
  intro left right equality
  have decoded := congrArg decodeUtf8 equality
  simpa using decoded

@[simp] theorem utf8_append (left right : String) :
    utf8 (left ++ right) = utf8 left ++ utf8 right := by
  simp [utf8]

/-- A text in front of the data is decoded first. -/
theorem decodeUtf8_append (left : String) (rest : Bytes) :
    decodeUtf8 (utf8 left ++ rest) = (decodeUtf8 rest).map fun right => left ++ right := by
  have decoded : ∀ characters : List Char,
      decodeUtf8 (characters.flatMap String.utf8EncodeChar ++ rest) =
        (decodeUtf8 rest).map fun right => String.ofList characters ++ right := by
    intro characters
    induction characters with
    | nil => simp
    | cons character characters induction =>
        have encoded :
            ((character :: characters).flatMap String.utf8EncodeChar ++ rest).toByteArray =
              [character].utf8Encode ++
                (characters.flatMap String.utf8EncodeChar ++ rest).toByteArray := by
          simp [List.utf8Encode]
        have step : decodeUtf8
              ((character :: characters).flatMap String.utf8EncodeChar ++ rest) =
            (decodeUtf8 (characters.flatMap String.utf8EncodeChar ++ rest)).map
              fun right => String.ofList [character] ++ right := by
          rw [decodeUtf8, encoded, ByteArray.utf8Decode?_utf8Encode_singleton_append,
            decodeUtf8, Option.map_map, Option.map_map]
          congr 1
          funext decoded
          simp
        rw [step, induction, Option.map_map]
        congr 1
        funext right
        simp [← String.append_assoc]
  rw [utf8, decoded, String.ofList_toList]

/-- Big-endian value of an octet string. -/
def fromBigEndian (data : Bytes) : Nat :=
  data.foldl (fun value octet => value * 256 + octet.toNat) 0

/-- The low `width` octets of a number, most significant first. -/
def bigEndianOctets : Nat → Nat → Bytes
  | 0, _ => []
  | width + 1, value =>
      bigEndianOctets width (value / 256) ++ [UInt8.ofNat (value % 256)]

/-- Fixed-width big-endian encoding; a value that does not fit is refused. -/
def toBigEndian (width value : Nat) : Option Bytes :=
  if value < 256 ^ width then some (bigEndianOctets width value) else none

@[simp] theorem length_bigEndianOctets (width value : Nat) :
    (bigEndianOctets width value).length = width := by
  induction width generalizing value with
  | zero => rfl
  | succ width induction => simp [bigEndianOctets, induction]

theorem fromBigEndian_bigEndianOctets (width value : Nat)
    (fits : value < 256 ^ width) :
    fromBigEndian (bigEndianOctets width value) = value := by
  induction width generalizing value with
  | zero =>
      have zero : value = 0 := by simpa using fits
      simp [bigEndianOctets, fromBigEndian, zero]
  | succ width induction =>
      have quotientFits : value / 256 < 256 ^ width := by
        rw [Nat.div_lt_iff_lt_mul (by decide)]
        simpa [Nat.pow_succ] using fits
      have prefixValue := induction (value / 256) quotientFits
      simp only [fromBigEndian] at prefixValue
      simp only [fromBigEndian, bigEndianOctets, List.foldl_append,
        prefixValue, List.foldl_cons, List.foldl_nil, UInt8.toNat_ofNat']
      omega

theorem fromBigEndian_toBigEndian {width value : Nat} {octets : Bytes}
    (encoded : toBigEndian width value = some octets) :
    octets.length = width ∧ fromBigEndian octets = value := by
  unfold toBigEndian at encoded
  split at encoded
  · rename_i fits
    cases encoded
    exact ⟨length_bigEndianOctets width value,
      fromBigEndian_bigEndianOctets width value fits⟩
  · cases encoded

end NoKnowledge
