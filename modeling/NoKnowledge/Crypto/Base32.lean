import NoKnowledge.Crypto.SymbolicSuite
import NoKnowledge.Crypto.Identity
import NoKnowledge.Foundation.Bits

/-!
# Crockford base32

Both loops shift bits into an accumulator and take groups out of it at the top:
the encoder puts in eight and takes five, the decoder puts in five and takes
eight.  What was taken out, followed by what is pending, is always the string of
bits that was put in.
-/

namespace NoKnowledge

/-- Upper case of a text, character by character; on ASCII it is the usual one. -/
structure Uppercase where
  apply : Char → List Char
  ascii : ∀ character : Char, character.toNat < 128 →
    apply character = [character.toUpper]

/-- Upper case of ASCII letters only. -/
def Uppercase.ofAscii : Uppercase := ⟨fun character => [character.toUpper], fun _ _ => rfl⟩

def b32Lookup (character : Char) : Option Nat := b32Alphabet.idxOf? character

def b32Confusables : Char → Char
  | 'I' => '1'
  | 'L' => '1'
  | 'O' => '0'
  | 'U' => 'V'
  | character => character

def b32DecodeLoop : List Char → (value bits : Nat) → Except Raised Bytes
  | [], _, _ => .ok []
  | character :: rest, value, bits =>
      match b32Lookup (b32Confusables character) with
      | none => .error
          { class_ := .value
            text := "invalid base32 character: " ++ (b32Confusables character).quote }
      | some digit =>
          let value := value * 32 + digit
          let bits := bits + 5
          if 8 ≤ bits then do
            let out ← b32DecodeLoop rest value (bits - 8)
            return UInt8.ofNat (value / 2 ^ (bits - 8)) :: out
          else b32DecodeLoop rest value bits

variable (upper : Uppercase)

/-- `text.strip().replace("-", "").upper()` -/
def b32Clean (text : List Char) : List Char :=
  ((Json.strip text).filter (· ≠ '-')).flatMap upper.apply

/-- Decode Crockford base32, tolerating confusable characters. -/
def b32d (text : String) : Except Raised Bytes := b32DecodeLoop (b32Clean upper text.toList) 0 0

namespace Base32

open Bits

/-- The five bits a character of the alphabet stands for. -/
def spell (character : Char) : List Bool := Bits.ofNat 5 (b32Alphabet.idxOf character)

theorem length_spell (character : Char) : (spell character).length = 5 := length_ofNat 5 _

/-- The digits of the alphabet, each at its own place. -/
theorem alphabet_places : ∀ place < 32,
    b32Digit place ∈ b32Alphabet ∧ b32Alphabet.idxOf (b32Digit place) = place := by
  decide

theorem forall_mem_of_all {α : Type} {holds : α → Prop} [DecidablePred holds] {items : List α}
    (all : items.all (fun item => decide (holds item)) = true) : ∀ item ∈ items, holds item :=
  fun item member => of_decide_eq_true (List.all_eq_true.mp all item member)

/-- What every character of the alphabet is: found at its place, and never confused. -/
theorem alphabet_digits : ∀ character ∈ b32Alphabet,
    b32Lookup (b32Confusables character) = some (b32Alphabet.idxOf character) ∧
      b32Alphabet.idxOf character < 32 ∧
      b32Digit (b32Alphabet.idxOf character) = character :=
  forall_mem_of_all (by decide)

theorem b32Digit_mod (value : Nat) : b32Digit (value % 32) = b32Digit value := by
  rw [b32Digit, b32Digit, Nat.mod_mod]

theorem mem_alphabet (value : Nat) : b32Digit value ∈ b32Alphabet := by
  rw [← b32Digit_mod]
  exact (alphabet_places _ (Nat.mod_lt _ (by decide))).1

theorem spell_b32Digit (value : Nat) : spell (b32Digit value) = Bits.ofNat 5 value := by
  have place := (alphabet_places (value % 32) (Nat.mod_lt _ (by decide))).2
  rw [b32Digit_mod] at place
  rw [spell, place]
  exact ofNat_mod 5 value

/-- A character of the alphabet is the digit of the bits it stands for. -/
theorem b32Digit_spell {character : Char} (member : character ∈ b32Alphabet) :
    b32Digit (toNat (spell character)) = character := by
  obtain ⟨-, -, digit⟩ := alphabet_digits character member
  rw [spell, toNat_ofNat]
  exact (b32Digit_mod _).trans digit

/-- Whole groups are taken out at the top, and fewer than five bits stay. -/
theorem spell_b32Drain (value bits : Nat) :
    (b32Drain value bits).flatMap spell ++ Bits.ofNat (bits % 5) value =
      Bits.ofNat bits value := by
  fun_induction b32Drain value bits with
  | case1 bits induction =>
      have pending : (bits + 5) % 5 = bits % 5 := Nat.add_mod_right bits 5
      change _ ++ Bits.ofNat ((bits + 5) % 5) value = Bits.ofNat (bits + 5) value
      rw [List.flatMap_cons, spell_b32Digit, pending, List.append_assoc, induction,
        Nat.add_comm bits 5, ofNat_add]
  | case2 bits short =>
      have few : bits < 5 := by
        by_contra many
        exact short (bits - 5) (by omega)
      rw [Nat.mod_eq_of_lt few, List.flatMap_nil, List.nil_append]

theorem mem_b32Drain {value bits : Nat} {character : Char}
    (member : character ∈ b32Drain value bits) : character ∈ b32Alphabet := by
  fun_induction b32Drain value bits with
  | case1 bits induction =>
      rcases List.mem_cons.mp member with rfl | later
      · exact mem_alphabet _
      · exact induction later
  | case2 bits short => exact absurd member List.not_mem_nil

/-- The loop writes what is pending and what it reads, filled up with zeros. -/
theorem spell_b32Loop (data : Bytes) (value bits : Nat) (few : bits < 5) :
    ∃ pad < 5, (b32Loop data value bits).flatMap spell =
      Bits.ofNat bits value ++ ofBytes data ++ List.replicate pad false := by
  induction data generalizing value bits with
  | nil =>
      rw [b32Loop]
      by_cases none : bits = 0
      · refine ⟨0, by decide, ?_⟩
        rw [if_pos none, none]
        rfl
      · refine ⟨5 - bits, by omega, ?_⟩
        have whole : bits + (5 - bits) = 5 := by omega
        have shifted := ofNat_shift bits value (Nat.two_pow_pos (5 - bits))
        rw [whole, Nat.add_zero, ofNat_zero] at shifted
        rw [if_neg none, List.flatMap_cons, List.flatMap_nil, List.append_nil, spell_b32Digit,
          shifted, ofBytes_nil, List.append_nil]
  | cons byte rest induction =>
      obtain ⟨pad, padding, written⟩ :=
        @induction (value * 256 + byte.toNat) ((bits + 8) % 5) (Nat.mod_lt _ (by decide))
      refine ⟨pad, padding, ?_⟩
      have drained := spell_b32Drain (value * 256 + byte.toNat) (bits + 8)
      have shifted : Bits.ofNat (bits + 8) (value * 256 + byte.toNat) =
          Bits.ofNat bits value ++ Bits.ofNat 8 byte.toNat :=
        @ofNat_shift 8 byte.toNat bits value byte.toNat_lt
      rw [b32Loop, List.flatMap_append, written, ofBytes_cons, ← List.append_assoc,
        ← List.append_assoc, drained, shifted]
      simp only [List.append_assoc]

theorem mem_b32Loop {data : Bytes} {value bits : Nat} {character : Char}
    (member : character ∈ b32Loop data value bits) : character ∈ b32Alphabet := by
  induction data generalizing value bits with
  | nil =>
      rw [b32Loop] at member
      split at member
      · exact absurd member List.not_mem_nil
      · rw [List.mem_singleton.mp member]
        exact mem_alphabet _
  | cons byte rest induction =>
      rw [b32Loop] at member
      rcases List.mem_append.mp member with now | later
      · exact mem_b32Drain now
      · exact induction later

/-- The characters of an encoding spell the data, filled up with zeros. -/
theorem spell_b32e (data : Bytes) :
    ∃ pad < 5, (b32e data).toList.flatMap spell =
      ofBytes data ++ List.replicate pad false := by
  have written := spell_b32Loop data 0 0 (by decide)
  rw [b32e, String.toList_ofList]
  exact written

theorem mem_b32e {data : Bytes} {character : Char} (member : character ∈ (b32e data).toList) :
    character ∈ b32Alphabet := by
  rw [b32e, String.toList_ofList] at member
  exact mem_b32Loop member

theorem length_b32e (data : Bytes) : (b32e data).toList.length = (8 * data.length + 4) / 5 := by
  obtain ⟨pad, padding, written⟩ := spell_b32e data
  have lengths := congrArg List.length written
  rw [length_flatMap_uniform length_spell, List.length_append, length_ofBytes,
    List.length_replicate] at lengths
  omega

/-- The bits of a string from a place on, filled up with zeros. -/
def fiveBits (bits : List Bool) (index : Nat) : List Bool :=
  ((bits ++ List.replicate 4 false).drop (5 * index)).take 5

theorem spell_getElem (data : Bytes) {index : Nat} (inside : index < (b32e data).toList.length) :
    spell (b32e data).toList[index] = fiveBits (ofBytes data) index := by
  obtain ⟨pad, padding, written⟩ := spell_b32e data
  have lengths := congrArg List.length written
  rw [length_flatMap_uniform length_spell] at lengths
  have zeros : List.replicate 4 false =
      List.replicate pad false ++ List.replicate (4 - pad) false := by
    rw [← List.replicate_add]
    congr 1
    omega
  have further : ((ofBytes data ++ List.replicate pad false) ++
        List.replicate (4 - pad) false).drop (5 * index) =
      (ofBytes data ++ List.replicate pad false).drop (5 * index) ++
        List.replicate (4 - pad) false :=
    List.drop_append_of_le_length (by omega)
  rw [← group_flatMap length_spell inside, fiveBits, zeros, ← List.append_assoc, written,
    further, List.take_append_of_le_length]
  rw [List.length_drop]
  omega

theorem getElem_b32e (data : Bytes) {index : Nat} (inside : index < (b32e data).toList.length) :
    (b32e data).toList[index] = b32Digit (toNat (fiveBits (ofBytes data) index)) := by
  rw [← spell_getElem data inside]
  exact (b32Digit_spell (mem_b32e (List.getElem_mem inside))).symm

/-- The loop reads whole octets, and fewer than eight bits stay. -/
theorem b32DecodeLoop_spec {characters : List Char} (value bits : Nat)
    (digits : ∀ character ∈ characters, character ∈ b32Alphabet) (few : bits < 8) :
    ∃ out rest, b32DecodeLoop characters value bits = .ok out ∧ rest.length < 8 ∧
      ofBytes out ++ rest = Bits.ofNat bits value ++ characters.flatMap spell := by
  induction characters generalizing value bits with
  | nil =>
      refine ⟨[], Bits.ofNat bits value, rfl, by rwa [length_ofNat], ?_⟩
      rw [ofBytes_nil, List.nil_append, List.flatMap_nil, List.append_nil]
  | cons character characters induction =>
      have later : ∀ other ∈ characters, other ∈ b32Alphabet := fun other member =>
        digits other (List.mem_cons_of_mem _ member)
      obtain ⟨found, small, -⟩ := alphabet_digits character (digits _ List.mem_cons_self)
      have shifted : Bits.ofNat (bits + 5)
            (value * 32 + b32Alphabet.idxOf character) =
          Bits.ofNat bits value ++ spell character :=
        @ofNat_shift 5 (b32Alphabet.idxOf character) bits value small
      rw [b32DecodeLoop, found, List.flatMap_cons, ← List.append_assoc, ← shifted]
      dsimp only
      by_cases whole : 8 ≤ bits + 5
      · obtain ⟨out, rest, decoded, left, read⟩ := induction
          (value * 32 + b32Alphabet.idxOf character) (bits + 5 - 8) later (by omega)
        have enough : 8 + (bits + 5 - 8) = bits + 5 := by omega
        have taken := ofNat_add 8 (bits + 5 - 8) (value * 32 + b32Alphabet.idxOf character)
        rw [enough] at taken
        rw [if_pos whole, decoded]
        refine ⟨_, rest, rfl, left, ?_⟩
        rw [ofBytes_cons, List.append_assoc, read, taken, List.append_assoc,
          UInt8.toNat_ofNat', ofNat_mod]
      · rw [if_neg whole]
        exact induction _ _ later (by omega)

/-- What is decoded depends on what the characters are taken for. -/
theorem b32DecodeLoop_congr {left right : List Char} (value bits : Nat)
    (same : left.map b32Confusables = right.map b32Confusables) :
    b32DecodeLoop left value bits = b32DecodeLoop right value bits := by
  induction left generalizing right value bits with
  | nil =>
      rw [List.map_nil, eq_comm, List.map_eq_nil_iff] at same
      rw [same]
  | cons character left induction =>
      cases right with
      | nil => cases same
      | cons other right =>
          rw [List.map_cons, List.map_cons, List.cons.injEq] at same
          obtain ⟨here, later⟩ := same
          have further := fun value bits => induction value bits later
          simp only [b32DecodeLoop, here, further]

theorem b32DecodeLoop_b32e (data : Bytes) : b32DecodeLoop (b32e data).toList 0 0 = .ok data := by
  obtain ⟨pad, padding, written⟩ := spell_b32e data
  obtain ⟨out, rest, decoded, left, read⟩ := b32DecodeLoop_spec 0 0
    (fun character (member : character ∈ (b32e data).toList) => mem_b32e member) (by decide)
  rw [Bits.ofNat, List.nil_append, written] at read
  -- Both ends are shorter than an octet, so the octets are the same.
  have lengths := congrArg List.length read
  simp only [List.length_append, length_ofBytes, List.length_replicate] at lengths
  have octets := (List.append_inj read (by rw [length_ofBytes, length_ofBytes]; omega)).1
  rw [decoded, ofBytes_injective octets]

/-- A digit in either case, and what is taken for it. -/
def spellings : Char → List Char
  | '0' => ['0', 'O', 'o']
  | '1' => ['1', 'I', 'i', 'L', 'l']
  | 'V' => ['V', 'v', 'U', 'u']
  | character => [character, character.toLower]

/-- An encoding with other spellings of its digits and with hyphens. -/
inductive Respelled : List Char → List Char → Prop
  | nil : Respelled [] []
  | digit {character other : Char} {characters text : List Char}
      (tolerated : other ∈ spellings character) (rest : Respelled characters text) :
      Respelled (character :: characters) (other :: text)
  | hyphen {characters text : List Char} (rest : Respelled characters text) :
      Respelled characters ('-' :: text)

/-- What a person makes of an encoding: other spellings, hyphens and blanks around it. -/
def Tolerated (encoded text : String) : Prop :=
  ∃ before core after, text.toList = before ++ core ++ after ∧
    before.all Json.isBlank = true ∧ after.all Json.isBlank = true ∧
    Respelled encoded.toList core

theorem spellings_digits : ∀ character ∈ b32Alphabet, ∀ other ∈ spellings character,
    other.toNat < 128 ∧ b32Confusables other.toUpper = character ∧
      b32Confusables character = character ∧ other ≠ '-' ∧ Json.isBlank other = false := by
  have table : ∀ character ∈ b32Alphabet, (spellings character).all (fun other =>
      decide (other.toNat < 128 ∧ b32Confusables other.toUpper = character ∧
        b32Confusables character = character ∧ other ≠ '-' ∧ Json.isBlank other = false)) =
          true := forall_mem_of_all (by decide)
  exact fun character member => forall_mem_of_all (table character member)

variable {characters text : List Char}

theorem Respelled.not_blank (respelled : Respelled characters text)
    (digits : ∀ character ∈ characters, character ∈ b32Alphabet) :
    ∀ other ∈ text, Json.isBlank other = false := by
  induction respelled with
  | nil => exact fun other member => absurd member List.not_mem_nil
  | digit tolerated rest induction =>
      intro other member
      rcases List.mem_cons.mp member with rfl | later
      · exact (spellings_digits _ (digits _ List.mem_cons_self) _ tolerated).2.2.2.2
      · exact induction (fun _ held => digits _ (List.mem_cons_of_mem _ held)) other later
  | hyphen rest induction =>
      intro other member
      rcases List.mem_cons.mp member with rfl | later
      · decide
      · exact induction digits other later

/-- Whatever the spelling, the digits are read as they were written. -/
theorem Respelled.digits (respelled : Respelled characters text)
    (digits : ∀ character ∈ characters, character ∈ b32Alphabet) :
    ((text.filter (· ≠ '-')).flatMap upper.apply).map b32Confusables =
      characters.map b32Confusables := by
  induction respelled with
  | nil => rfl
  | digit tolerated rest induction =>
      obtain ⟨ascii, read, fixed, digit, -⟩ :=
        spellings_digits _ (digits _ List.mem_cons_self) _ tolerated
      have later := induction fun _ held => digits _ (List.mem_cons_of_mem _ held)
      rw [List.filter_cons_of_pos (by simpa using digit), List.flatMap_cons, upper.ascii _ ascii,
        List.map_append, later, List.map_cons, List.map_cons, read, fixed]
      rfl
  | hyphen rest induction =>
      rw [List.filter_cons_of_neg (by simp)]
      exact induction digits

theorem strip_between {before core after : List Char}
    (front : before.all Json.isBlank = true) (back : after.all Json.isBlank = true)
    (visible : ∀ character ∈ core, Json.isBlank character = false) :
    Json.strip (before ++ core ++ after) = core := by
  have dropFront : ∀ {blanks : List Char} (rest : List Char),
      blanks.all Json.isBlank = true →
        (blanks ++ rest).dropWhile Json.isBlank = rest.dropWhile Json.isBlank :=
    fun rest blank => List.dropWhile_append_of_pos (List.all_eq_true.mp blank)
  cases core with
  | nil =>
      have all : (before ++ after).dropWhile Json.isBlank = [] := by
        rw [dropFront after front, List.dropWhile_eq_nil_iff]
        exact List.all_eq_true.mp back
      rw [List.append_nil, Json.strip, all]
      rfl
  | cons first rest =>
      have last : ∀ text : List Char, (∀ character ∈ text, Json.isBlank character = false) →
          text.dropWhile Json.isBlank = text := by
        intro text seen
        cases text with
        | nil => rfl
        | cons head tail =>
            exact List.dropWhile_cons_of_neg (by simp [seen head List.mem_cons_self])
      have head : (first :: rest ++ after).dropWhile Json.isBlank = first :: rest ++ after :=
        List.dropWhile_cons_of_neg (by simp [visible first List.mem_cons_self])
      rw [Json.strip, List.append_assoc, dropFront _ front, head, List.reverse_append,
        dropFront _ (by rwa [List.all_reverse]), last, List.reverse_reverse]
      intro character member
      exact visible character (List.mem_reverse.mp member)

/-- Every tolerated spelling decodes to the data. -/
theorem b32d_of_tolerated {data : Bytes} {text : String}
    (tolerated : Tolerated (b32e data) text) : b32d upper text = .ok data := by
  obtain ⟨before, core, after, written, front, back, respelled⟩ := tolerated
  have digits : ∀ character ∈ (b32e data).toList, character ∈ b32Alphabet :=
    fun character member => mem_b32e member
  rw [b32d, b32Clean, written, strip_between front back (respelled.not_blank digits),
    b32DecodeLoop_congr 0 0 (respelled.digits upper digits), b32DecodeLoop_b32e]

theorem Respelled.refl {characters : List Char}
    (digits : ∀ character ∈ characters, character ∈ b32Alphabet) :
    Respelled characters characters := by
  have own : ∀ character ∈ b32Alphabet, character ∈ spellings character :=
    forall_mem_of_all (by decide)
  induction characters with
  | nil => exact .nil
  | cons character characters induction =>
      exact .digit (own character (digits character List.mem_cons_self))
        (induction fun other member => digits other (List.mem_cons_of_mem _ member))

/-- An encoding is a tolerated spelling of itself. -/
theorem tolerated_b32e (data : Bytes) : Tolerated (b32e data) (b32e data) :=
  ⟨[], (b32e data).toList, [], by simp, rfl, rfl, .refl fun _ member => mem_b32e member⟩

theorem fiveBits_take {bits : List Bool} {index : Nat} (width : Nat)
    (inside : 5 * index + 5 ≤ width) (long : width ≤ bits.length) :
    fiveBits bits index = ((bits.take width).drop (5 * index)).take 5 := by
  have taken : (bits.take width).length = width := List.length_take_of_le long
  have cut : bits ++ List.replicate 4 false =
      bits.take width ++ (bits.drop width ++ List.replicate 4 false) := by
    rw [← List.append_assoc, List.take_append_drop]
  rw [fiveBits, cut, List.drop_append_of_le_length (by omega), List.take_append_of_le_length]
  rw [List.length_drop]
  omega

/-- The first characters of two encodings are the same exactly when the bits are
that they spell, as long as no zeros are filled in. -/
theorem take_b32e_iff {left right : Bytes} (count : Nat)
    (leftLong : 5 * count ≤ 8 * left.length) (rightLong : 5 * count ≤ 8 * right.length) :
    (b32e left).toList.take count = (b32e right).toList.take count ↔
      (ofBytes left).take (5 * count) = (ofBytes right).take (5 * count) := by
  have spelled : ∀ {data : Bytes}, 5 * count ≤ 8 * data.length →
      ((b32e data).toList.take count).flatMap spell = (ofBytes data).take (5 * count) := by
    intro data long
    obtain ⟨pad, padding, written⟩ := spell_b32e data
    rw [← take_flatMap_uniform length_spell, written, List.take_append_of_le_length]
    rwa [length_ofBytes]
  constructor
  · intro same
    rw [← spelled leftLong, ← spelled rightLong, same]
  · intro same
    have leftLength := length_b32e left
    have rightLength := length_b32e right
    apply List.ext_getElem
    · rw [List.length_take, List.length_take]
      omega
    · intro index leftInside rightInside
      rw [List.length_take] at leftInside rightInside
      rw [List.getElem_take, List.getElem_take, getElem_b32e, getElem_b32e,
        fiveBits_take (5 * count) (by omega) (by rwa [length_ofBytes]), same,
        ← fiveBits_take (5 * count) (by omega) (by rwa [length_ofBytes])]

/-- The fingerprint of two keys is that of the digest they are hashed to. -/
theorem toList_computeIdentityId (suite : Suite) (edPublic xPublic : Bytes) :
    (computeIdentityId suite edPublic xPublic).toList =
      (b32e (suite.sha256 (idHashInfo ++ edPublic ++ xPublic))).toList.take 26 :=
  String.toList_ofList

/-- Crockford base32 writes five bits at a time and reads back what it wrote, in
every tolerated spelling; a fingerprint is the first 130 bits of a digest. -/
theorem base32_exact (data : Bytes) :
    (b32e data).toList.length = (8 * data.length + 4) / 5 ∧
    (∀ index (inside : index < (b32e data).toList.length),
      (b32e data).toList[index] = b32Digit (toNat (fiveBits (ofBytes data) index))) ∧
    b32d upper (b32e data) = .ok data ∧
    (∀ text, Tolerated (b32e data) text → b32d upper text = .ok data) ∧
    (∀ left right : Bytes, left.length = 32 → right.length = 32 →
      ((b32e left).toList.take 26 = (b32e right).toList.take 26 ↔
        (ofBytes left).take 130 = (ofBytes right).take 130)) ∧
    (∀ suite : Suite, (∀ message, (suite.sha256 message).length = 32) →
      ∀ edPublic xPublic edOther xOther : Bytes,
      computeIdentityId suite edPublic xPublic = computeIdentityId suite edOther xOther ↔
        (ofBytes (suite.sha256 (idHashInfo ++ edPublic ++ xPublic))).take 130 =
          (ofBytes (suite.sha256 (idHashInfo ++ edOther ++ xOther))).take 130) := by
  have digests : ∀ left right : Bytes, left.length = 32 → right.length = 32 →
      ((b32e left).toList.take 26 = (b32e right).toList.take 26 ↔
        (ofBytes left).take 130 = (ofBytes right).take 130) := by
    intro left right leftLength rightLength
    exact take_b32e_iff 26 (by omega) (by omega)
  refine ⟨length_b32e data, fun index inside => getElem_b32e data inside,
    b32d_of_tolerated upper (tolerated_b32e data),
    fun text tolerated => b32d_of_tolerated upper tolerated, digests, ?_⟩
  intro suite sized edPublic xPublic edOther xOther
  rw [← digests _ _ (sized _) (sized _), ← toList_computeIdentityId, ← toList_computeIdentityId,
    String.toList_inj]

/-- A hash that answers as SHA-256 does for two pairs of keys. -/
def twoDigests (message : Bytes) : Bytes :=
  if message.getLast? = some 8 then
    [207, 62, 178, 141, 149, 7, 179, 10, 162, 127, 141, 217, 94, 107, 193, 99, 252, 38, 25, 114,
    212, 37, 107, 87, 44, 34, 248, 49, 47, 234, 177, 80]
  else
    [30, 197, 61, 244, 203, 99, 203, 154, 99, 62, 125, 104, 191, 131, 32, 172, 0, 229, 73, 161,
    38, 215, 216, 86, 100, 59, 124, 233, 58, 11, 86, 91]

/-- A respelled encoding is read, and the two pairs of keys have different ids. -/
theorem base32_exact_specimen :
    b32d .ofAscii " Ol-xg\n" = .ok [0x00, 0x7B] ∧
      computeIdentityId { Symbolic.suite with sha256 := twoDigests } [7] [8] ≠
        computeIdentityId { Symbolic.suite with sha256 := twoDigests } [7] [9] := by
  have encoded : (b32e [0x00, 0x7B]).toList = ['0', '1', 'X', 'G'] := by
    rw [b32e, String.toList_ofList]
    decide
  have tolerated : Tolerated (b32e [0x00, 0x7B]) " Ol-xg\n" := by
    refine ⟨[' '], ['O', 'l', '-', 'x', 'g'], ['\n'], by decide, by decide, by decide, ?_⟩
    rw [encoded]
    exact .digit (by decide) (.digit (by decide) (.hyphen (.digit (by decide)
      (.digit (by decide) .nil))))
  have exact_ := base32_exact .ofAscii [0x00, 0x7B]
  have sized : ∀ message, (twoDigests message).length = 32 := by
    intro message
    rw [twoDigests]
    split
    · decide
    · decide
  refine ⟨exact_.2.2.2.1 _ tolerated, ?_⟩
  rw [Ne, exact_.2.2.2.2.2 { Symbolic.suite with sha256 := twoDigests } sized]
  decide

end Base32

end NoKnowledge
