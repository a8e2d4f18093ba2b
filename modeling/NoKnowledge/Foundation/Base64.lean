import NoKnowledge.Foundation.Bytes

/-!
# Base64url without padding

The encoder writes unpadded base64url.  The decoder is the lenient one of the
standard library it models: it restores the padding, reads both alphabets,
skips characters of neither, and stops at a complete padding sequence.
-/

namespace NoKnowledge

namespace Base64

def alphabet : List Char :=
  "ABCDEFGHIJKLMNOPQRSTUVWXYZabcdefghijklmnopqrstuvwxyz0123456789-_".toList

def digit (value : Nat) : Char := alphabet.getD (value % 64) 'A'

/-- Value of a character of the standard or the URL-safe alphabet. -/
def digitValue (character : Char) : Option Nat :=
  let code := character.toNat
  if 65 ≤ code ∧ code ≤ 90 then some (code - 65)
  else if 97 ≤ code ∧ code ≤ 122 then some (code - 71)
  else if 48 ≤ code ∧ code ≤ 57 then some (code + 4)
  else if character = '-' ∨ character = '+' then some 62
  else if character = '_' ∨ character = '/' then some 63
  else none

def encode : Bytes → List Char
  | first :: second :: third :: rest =>
      digit (first.toNat / 4) ::
        digit (first.toNat % 4 * 16 + second.toNat / 16) ::
        digit (second.toNat % 16 * 4 + third.toNat / 64) ::
        digit (third.toNat % 64) :: encode rest
  | [first, second] =>
      [digit (first.toNat / 4),
        digit (first.toNat % 4 * 16 + second.toNat / 16),
        digit (second.toNat % 16 * 4)]
  | [first] => [digit (first.toNat / 4), digit (first.toNat % 4 * 16)]
  | [] => []

/-- Decoder state: position in the quad, bits left over, padding characters
seen since the last digit, and the octets produced, last first. -/
structure Decoder where
  position : Nat
  leftover : Nat
  pads : Nat
  output : Bytes

def Decoder.start : Decoder := ⟨0, 0, 0, []⟩

/-- Consume one digit. -/
def Decoder.push (decoder : Decoder) (value : Nat) : Decoder :=
  match decoder.position with
  | 0 => ⟨1, value, 0, decoder.output⟩
  | 1 => ⟨2, value % 16, 0,
      UInt8.ofNat (decoder.leftover * 4 + value / 16) :: decoder.output⟩
  | 2 => ⟨3, value % 4, 0,
      UInt8.ofNat (decoder.leftover * 16 + value / 4) :: decoder.output⟩
  | _ => ⟨0, 0, 0,
      UInt8.ofNat (decoder.leftover * 64 + value) :: decoder.output⟩

/-- The decoding loop; an unfinished quad at the end is an error. -/
def decodeLoop : Decoder → List Char → Option Bytes
  | decoder, [] =>
      if decoder.position = 0 then some decoder.output.reverse else none
  | decoder, character :: rest =>
      if character = '=' then
        if 2 ≤ decoder.position then
          if 4 ≤ decoder.position + (decoder.pads + 1) then
            some decoder.output.reverse
          else decodeLoop { decoder with pads := decoder.pads + 1 } rest
        else decodeLoop decoder rest
      else
        match digitValue character with
        | none => decodeLoop decoder rest
        | some value => decodeLoop (decoder.push value) rest

def padding (length : Nat) : Nat := (4 - length % 4) % 4

end Base64

open Base64

/-- base64url without padding. -/
def b64e (data : Bytes) : String := String.ofList (encode data)

/-- Decode base64url that may lack padding; only ASCII text is accepted. -/
def b64d (text : String) : Option Bytes :=
  if text.toList.all fun character => character.toNat < 128 then
    decodeLoop Decoder.start
      (text.toList ++ List.replicate (padding text.toList.length) '=')
  else none

namespace Base64

set_option maxRecDepth 4000 in
private theorem digit_table : ∀ value, value < 64 →
    digitValue (alphabet.getD value 'A') = some value ∧
      alphabet.getD value 'A' ≠ '=' ∧
      (alphabet.getD value 'A').toNat < 128 := by
  decide

private theorem digitValue_digit {value : Nat} (small : value < 64) :
    digitValue (digit value) = some value := by
  rw [digit, Nat.mod_eq_of_lt small]
  exact (digit_table value small).1

private theorem digit_ne_pad (value : Nat) : digit value ≠ '=' :=
  (digit_table (value % 64) (Nat.mod_lt _ (by decide))).2.1

private theorem digit_ascii (value : Nat) : (digit value).toNat < 128 :=
  (digit_table (value % 64) (Nat.mod_lt _ (by decide))).2.2

private theorem decodeLoop_digit (decoder : Decoder) {value : Nat}
    (rest : List Char) (small : value < 64) :
    decodeLoop decoder (digit value :: rest) =
      decodeLoop (decoder.push value) rest := by
  simp [decodeLoop, digit_ne_pad, digitValue_digit small]

private theorem ofNat_eq {octet : UInt8} {value : Nat}
    (equality : value = octet.toNat) : UInt8.ofNat value = octet := by
  rw [equality, UInt8.ofNat_toNat]

private theorem decode_quad (first second third : UInt8) (output : Bytes)
    (rest : List Char) :
    decodeLoop ⟨0, 0, 0, output⟩
        (digit (first.toNat / 4) ::
          digit (first.toNat % 4 * 16 + second.toNat / 16) ::
          digit (second.toNat % 16 * 4 + third.toNat / 64) ::
          digit (third.toNat % 64) :: rest) =
      decodeLoop ⟨0, 0, 0, third :: second :: first :: output⟩ rest := by
  have firstBound := first.toNat_lt
  have secondBound := second.toNat_lt
  have thirdBound := third.toNat_lt
  rw [decodeLoop_digit _ _ (by omega), decodeLoop_digit _ _ (by omega),
    decodeLoop_digit _ _ (by omega), decodeLoop_digit _ _ (by omega)]
  have firstOctet : UInt8.ofNat (first.toNat / 4 * 4 +
      (first.toNat % 4 * 16 + second.toNat / 16) / 16) = first :=
    ofNat_eq (by omega)
  have secondOctet : UInt8.ofNat
      ((first.toNat % 4 * 16 + second.toNat / 16) % 16 * 16 +
        (second.toNat % 16 * 4 + third.toNat / 64) / 4) = second :=
    ofNat_eq (by omega)
  have thirdOctet : UInt8.ofNat
      ((second.toNat % 16 * 4 + third.toNat / 64) % 4 * 64 +
        third.toNat % 64) = third :=
    ofNat_eq (by omega)
  simp only [Decoder.push, firstOctet, secondOctet, thirdOctet]

private theorem decode_pair (first second : UInt8) (output : Bytes) :
    decodeLoop ⟨0, 0, 0, output⟩
        [digit (first.toNat / 4),
          digit (first.toNat % 4 * 16 + second.toNat / 16),
          digit (second.toNat % 16 * 4), '='] =
      some (second :: first :: output).reverse := by
  have firstBound := first.toNat_lt
  have secondBound := second.toNat_lt
  rw [decodeLoop_digit _ _ (by omega), decodeLoop_digit _ _ (by omega),
    decodeLoop_digit _ _ (by omega)]
  have firstOctet : UInt8.ofNat (first.toNat / 4 * 4 +
      (first.toNat % 4 * 16 + second.toNat / 16) / 16) = first :=
    ofNat_eq (by omega)
  have secondOctet : UInt8.ofNat
      ((first.toNat % 4 * 16 + second.toNat / 16) % 16 * 16 +
        second.toNat % 16 * 4 / 4) = second :=
    ofNat_eq (by omega)
  simp only [Decoder.push, firstOctet, secondOctet]
  simp [decodeLoop]

private theorem decode_single (first : UInt8) (output : Bytes) :
    decodeLoop ⟨0, 0, 0, output⟩
        [digit (first.toNat / 4), digit (first.toNat % 4 * 16), '=', '='] =
      some (first :: output).reverse := by
  have firstBound := first.toNat_lt
  rw [decodeLoop_digit _ _ (by omega), decodeLoop_digit _ _ (by omega)]
  have firstOctet : UInt8.ofNat (first.toNat / 4 * 4 +
      first.toNat % 4 * 16 / 16) = first :=
    ofNat_eq (by omega)
  simp only [Decoder.push, firstOctet]
  simp [decodeLoop]

private theorem padding_add_four (length : Nat) :
    padding (length + 4) = padding length := by
  simp [padding]

private theorem decodeLoop_encode (data output : Bytes) :
    decodeLoop ⟨0, 0, 0, output⟩
        (encode data ++ List.replicate (padding (encode data).length) '=') =
      some (output.reverse ++ data) := by
  induction data using encode.induct generalizing output with
  | case1 first second third rest induction =>
      simp only [encode, List.cons_append, List.length_cons, padding_add_four]
      rw [decode_quad, induction]
      simp
  | case2 first second =>
      have tail := decode_pair first second output
      simpa [encode, padding] using tail
  | case3 first =>
      have tail := decode_single first output
      simpa [encode, padding] using tail
  | case4 => simp [encode, padding, decodeLoop]

private theorem encode_ascii (data : Bytes) :
    ∀ character ∈ encode data, character.toNat < 128 := by
  induction data using encode.induct with
  | case1 first second third rest induction =>
      intro character member
      simp only [encode, List.mem_cons] at member
      rcases member with rfl | rfl | rfl | rfl | later
      · exact digit_ascii _
      · exact digit_ascii _
      · exact digit_ascii _
      · exact digit_ascii _
      · exact induction character later
  | case2 first second => simp [encode, digit_ascii]
  | case3 first => simp [encode, digit_ascii]
  | case4 => simp [encode]

end Base64

@[simp] theorem b64d_b64e (data : Bytes) : b64d (b64e data) = some data := by
  have ascii : (encode data).all (fun character => character.toNat < 128) =
      true := by
    rw [List.all_eq_true]
    exact fun character member => by simpa using encode_ascii data character member
  have decoded := decodeLoop_encode data []
  simp only [List.reverse_nil, List.nil_append] at decoded
  simp only [b64d, b64e, String.toList_ofList, ascii, if_true]
  exact decoded

private theorem length_encode (data : Bytes) :
    (encode data).length = (data.length * 4 + 2) / 3 := by
  induction data using encode.induct with
  | case1 first second third rest induction =>
      simp only [encode, List.length_cons, induction]
      omega
  | case2 first second => simp [encode]
  | case3 first => simp [encode]
  | case4 => rfl

/-- Encoded text takes one octet for each of its characters. -/
theorem length_utf8_b64e (data : Bytes) :
    (utf8 (b64e data)).length = (data.length * 4 + 2) / 3 := by
  have octets : ∀ characters : List Char,
      (∀ character ∈ characters, character.toNat < 128) →
        (characters.flatMap String.utf8EncodeChar).length = characters.length := by
    intro characters ascii
    induction characters with
    | nil => rfl
    | cons character rest induction =>
        have single : character.utf8Size = 1 := by
          have small := ascii character List.mem_cons_self
          rw [Char.utf8Size_eq_one_iff]
          exact Nat.le_of_lt_succ small
        rw [List.flatMap_cons, List.length_append, String.length_utf8EncodeChar, single,
          induction fun other member => ascii other (List.mem_cons_of_mem _ member),
          List.length_cons, Nat.add_comm]
  rw [utf8, b64e, String.toList_ofList, octets _ (encode_ascii data), length_encode]

theorem digit_mem_alphabet (value : Nat) : digit value ∈ alphabet := by
  unfold digit
  rw [List.getD_eq_getElem?_getD]
  cases found : alphabet[value % 64]? with
  | none => exact (by decide : 'A' ∈ alphabet)
  | some character => exact List.mem_of_getElem? found

/-- Encoded text has characters of the alphabet only. -/
theorem mem_alphabet_of_mem_encode {data : Bytes} {character : Char}
    (member : character ∈ encode data) : character ∈ alphabet := by
  induction data using encode.induct with
  | case1 first second third rest induction =>
      simp only [encode, List.mem_cons] at member
      rcases member with rfl | rfl | rfl | rfl | later
      · exact digit_mem_alphabet _
      · exact digit_mem_alphabet _
      · exact digit_mem_alphabet _
      · exact digit_mem_alphabet _
      · exact induction later
  | case2 first second =>
      simp only [encode, List.mem_cons, List.not_mem_nil, or_false] at member
      rcases member with rfl | rfl | rfl <;> exact digit_mem_alphabet _
  | case3 first =>
      simp only [encode, List.mem_cons, List.not_mem_nil, or_false] at member
      rcases member with rfl | rfl <;> exact digit_mem_alphabet _
  | case4 => cases member

theorem colon_not_mem_encode (data : Bytes) : ':' ∉ encode data := fun member =>
  absurd (mem_alphabet_of_mem_encode member) (by decide)

theorem b64e_injective : Function.Injective b64e := by
  intro left right equality
  have decoded := congrArg b64d equality
  simpa using decoded

theorem b64e_ne_empty {data : Bytes} (nonempty : data ≠ []) : b64e data ≠ "" := by
  intro empty
  exact nonempty (b64e_injective (empty.trans (show "" = b64e [] from rfl)))

end NoKnowledge
