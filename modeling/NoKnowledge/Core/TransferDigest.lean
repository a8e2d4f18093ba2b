import NoKnowledge.Core.RecordIntegrity
import NoKnowledge.Foundation.HashChain

/-!
# The digest of a transfer

Both ends of a transfer hash its items into a chain that starts at the transfer
identifier.  Where SHA-256 has no collision among the messages they hashed,
equal digests mean the same transfer and the same items in the same order.
-/

namespace NoKnowledge.Channel

variable {suite : Suite}

theorem unhexDigit_hexDigits : ∀ value, value < 16 →
    unhexDigit (hexDigits.getD value '0') = some value ∧
      hexDigits.getD value '0' ≠ ' ' := by
  decide

theorem unhex_flatMap (data : Bytes) :
    unhex (data.flatMap fun byte =>
      [hexDigits.getD (byte.toNat / 16) '0', hexDigits.getD (byte.toNat % 16) '0']) =
      .ok data := by
  induction data with
  | nil => rfl
  | cons byte rest induction =>
      have small : byte.toNat / 16 < 16 := by
        have bound := byte.toNat_lt
        omega
      obtain ⟨high, notBlank⟩ := unhexDigit_hexDigits _ small
      obtain ⟨low, -⟩ := unhexDigit_hexDigits _ (Nat.mod_lt byte.toNat (by decide : 0 < 16))
      have joined : UInt8.ofNat (byte.toNat / 16 * 16 + byte.toNat % 16) = byte := by
        rw [Nat.div_add_mod', UInt8.ofNat_toNat]
      rw [List.flatMap_cons, List.cons_append, List.cons_append, List.nil_append, unhex]
      · rw [high, low, induction]
        simp only [joined]
        rfl
      · exact notBlank

@[simp] theorem unhex_hex (data : Bytes) : unhex (hex data).toList = .ok data := by
  rw [hex, String.toList_ofList]
  exact unhex_flatMap data

theorem hex_injective : Function.Injective hex := by
  intro first second same
  have decoded := congrArg (fun text => unhex text.toList) same
  simpa using decoded

theorem hex_ne_empty {data : Bytes} (nonempty : data ≠ []) : hex data ≠ "" := by
  intro empty
  apply nonempty
  exact hex_injective empty

/-- The digest of a transfer after its entries, each an item and its number. -/
def chainDigest (suite : Suite) (transfer : String) (entries : List (Bytes × Int)) :
    Except Raised Bytes :=
  entries.foldlM (fun digest entry => chainAdd suite digest entry.1 entry.2)
    (chainStart suite transfer)

/-- An entry whose number fits its four octets. -/
def Numbered (entry : Bytes × Int) : Prop := ∃ octets, fourBytes entry.2 = .ok octets

/-- The message that joins an entry to a digest. -/
def joined (digest : Bytes) (entry : Bytes × Int) : Bytes :=
  digest ++ (fourBytes entry.2).toOption.getD [] ++ entry.1

theorem chainDigest_append_singleton {transfer : String} {entries : List (Bytes × Int)}
    {entry : Bytes × Int} :
    chainDigest suite transfer (entries ++ [entry]) =
      chainDigest suite transfer entries >>= fun digest =>
        chainAdd suite digest entry.1 entry.2 := by
  rw [chainDigest, List.foldlM_append]
  simp only [List.foldlM_cons, List.foldlM_nil, bind_pure]
  rfl

theorem chainAdd_eq_ok {digest next : Bytes} {entry : Bytes × Int} :
    chainAdd suite digest entry.1 entry.2 = .ok next ↔
      Numbered entry ∧ suite.sha256 (joined digest entry) = next := by
  simp only [chainAdd, except_bind_eq_ok]
  constructor
  · rintro ⟨octets, encoded, built⟩
    cases built
    exact ⟨⟨octets, encoded⟩, by rw [joined, encoded]; rfl⟩
  · rintro ⟨⟨octets, encoded⟩, rfl⟩
    exact ⟨octets, encoded, by rw [joined, encoded]; rfl⟩

theorem chainDigest_eq_ok {transfer : String} {entries : List (Bytes × Int)}
    {digest : Bytes} :
    chainDigest suite transfer entries = .ok digest ↔
      (∀ entry ∈ entries, Numbered entry) ∧
        HashChain.digest suite.sha256 utf8 joined transfer entries = digest := by
  induction entries using List.reverseRecOn generalizing digest with
  | nil =>
      constructor
      · intro started
        cases started
        exact ⟨by simp, rfl⟩
      · rintro ⟨-, rfl⟩
        rfl
  | append_singleton entries entry induction =>
      rw [chainDigest_append_singleton, HashChain.digest_append_singleton, except_bind_eq_ok]
      constructor
      · rintro ⟨reached, before, added⟩
        obtain ⟨numbered, rfl⟩ := induction.mp before
        obtain ⟨last, next⟩ := chainAdd_eq_ok.mp added
        refine ⟨?_, next⟩
        intro other member
        rcases List.mem_append.mp member with earlier | same
        · exact numbered other earlier
        · rwa [List.mem_singleton.mp same]
      · rintro ⟨numbered, next⟩
        refine ⟨_, induction.mpr ⟨?_, rfl⟩, chainAdd_eq_ok.mpr ⟨?_, next⟩⟩
        · exact fun other member => numbered other (List.mem_append_left _ member)
        · exact numbered entry (by simp)

/-- The messages hashed for the digest of a transfer. -/
def hashed (suite : Suite) (transfer : String) (entries : List (Bytes × Int)) :
    List Bytes :=
  HashChain.messages suite.sha256 utf8 joined transfer entries

/-- Identifiers that `new_transfer_id` may draw: sixteen bytes in base64. -/
def TransferId (transfer : String) : Prop :=
  ∃ drawn : Bytes, drawn.length = 16 ∧ transfer = b64e drawn

theorem fourBytes_injective {value value' : Int} {octets : Bytes}
    (first : fourBytes value = .ok octets) (second : fourBytes value' = .ok octets) :
    value = value' :=
  (fourBytes_eq_ok first).2.symm.trans (fourBytes_eq_ok second).2

/-- Digests have 32 bytes, so a link is read back from its front; an identifier
is too short to be one. -/
theorem separated_joined (size : ∀ data, (suite.sha256 data).length = 32) :
    HashChain.Separated suite.sha256 utf8 joined TransferId Numbered where
  start_injective := fun same => utf8_injective same
  link_injective := by
    rintro first second ⟨item, seq⟩ ⟨item', seq'⟩ ⟨octets, encoded⟩ ⟨octets', encoded'⟩ same
    dsimp only at encoded encoded'
    simp only [joined, encoded, encoded', Except.toOption, Option.getD_some] at same
    have sizes := (fourBytes_eq_ok encoded).1.trans (fourBytes_eq_ok encoded').1.symm
    rw [List.append_assoc, List.append_assoc] at same
    obtain ⟨sameDigest, rest⟩ := List.append_inj same ((size _).trans (size _).symm)
    obtain ⟨rfl, rfl⟩ := List.append_inj rest sizes
    exact ⟨sameDigest, by rw [fourBytes_injective encoded encoded']⟩
  apart := by
    rintro transfer message ⟨item, seq⟩ ⟨drawn, length, rfl⟩ ⟨octets, encoded⟩ same
    dsimp only at encoded
    have lengths := congrArg List.length same
    simp only [joined, encoded, Except.toOption, Option.getD_some, List.length_append, size,
      (fourBytes_eq_ok encoded).1, length_utf8_b64e, length] at lengths
    omega

/-- No two different messages of a list have one hash. -/
def CollisionFree (suite : Suite) (messages : List Bytes) : Prop :=
  ∀ message ∈ messages, ∀ message' ∈ messages,
    suite.sha256 message = suite.sha256 message' → message = message'

theorem chainDigest_injective (size : ∀ data, (suite.sha256 data).length = 32)
    {transfer transfer' : String} (drawn : TransferId transfer)
    (drawn' : TransferId transfer') {entries entries' : List (Bytes × Int)}
    (collisionFree : CollisionFree suite
      (hashed suite transfer entries ++ hashed suite transfer' entries'))
    {digest : Bytes} (first : chainDigest suite transfer entries = .ok digest)
    (second : chainDigest suite transfer' entries' = .ok digest) :
    transfer = transfer' ∧ entries = entries' := by
  obtain ⟨numbered, reached⟩ := chainDigest_eq_ok.mp first
  obtain ⟨numbered', reached'⟩ := chainDigest_eq_ok.mp second
  apply HashChain.digest_injective (separated_joined size) drawn drawn' numbered numbered'
  · exact fun message member message' member' => collisionFree message
      (List.mem_append_left _ member) message' (List.mem_append_right _ member')
  · exact reached.trans reached'.symm

end NoKnowledge.Channel
