import NoKnowledge.Core.DeviceChannel
import NoKnowledge.Crypto.SymbolicSuite

/-!
# What the seal of a device record covers

The header of a record is signed and is the associated data of its payload, so
an accepted header and payload come from one sealing.  The kind of a record is
a byte of the frame around them, which neither the signature nor the associated
data covers.
-/

namespace NoKnowledge.Channel

open Json

variable {suite : Suite}

namespace SealCall

variable (call : SealCall)

theorem canonical_baseHeader : (call.baseHeader suite).Canonical := by
  apply canonical_mkObj
  intro field member
  rcases List.mem_append.mp member with base | extra
  · simp only [List.mem_cons, List.not_mem_nil, or_false] at base
    rcases base with rfl | rfl | rfl | rfl | rfl | rfl <;> trivial
  · exact call.extra.canonical field extra

theorem canonical_header : (call.header suite).Canonical :=
  canonical_setField call.canonical_baseHeader
    (show (Json.str _).Canonical from trivial) "sig"

theorem unsigned_header : unsigned (call.header suite) = unsigned (call.baseHeader suite) :=
  eraseField_setField _ _ _

/-- The additional fields do not hide those every header has. -/
theorem baseHeader_get? {field : String} (common : field ∈ headerFields) :
    (call.baseHeader suite).get? field = ([
      ("v", Json.int 1),
      ("transfer", .str call.transferId),
      ("from", .str call.senderDeviceId),
      ("eph", .str (b64e (suite.dhPublic call.ephemeralPrivate))),
      ("ts", .int call.timestamp),
      ("seq", .int call.seq)] : List (String × Json)).reverse.lookup field := by
  have absent : call.extra.fields.reverse.lookup field = none := by
    rw [List.lookup_eq_none_iff]
    intro extra member
    have other := call.extra.additional extra (List.mem_reverse.mp member)
    rw [bne_iff_ne]
    rintro rfl
    exact other common
  rw [baseHeader, get?_mkObj, List.reverse_append, List.lookup_append, absent,
    Option.none_or]

theorem header_get? {field : String} :
    (call.header suite).get? field = if field = "sig" then
      some (.str (b64e (suite.sign call.senderSdevPrivate
        (canonicalJson (unsigned (call.baseHeader suite))))))
      else (call.baseHeader suite).get? field :=
  get?_setField _ _ _ _

end SealCall

theorem readHeader_eq_ok {header : Json} {signature ephemeral : Bytes}
    {transferId : String} {seq : Int} :
    readHeader header = .ok (signature, ephemeral, transferId, seq) ↔
      (∃ found, header.get? "sig" = some found ∧ b64d found.toText = some signature) ∧
      (∃ found, header.get? "eph" = some found ∧ b64d found.toText = some ephemeral) ∧
      (∃ found, header.get? "transfer" = some found ∧ found.toText = transferId) ∧
      ((header.getD "seq").orElse (.int 0)).toInt = .ok seq := by
  simp only [readHeader, Except.rewrap_eq_ok, except_bind_eq_ok, item_eq_ok,
    toBytes_str_eq_ok]
  constructor
  · rintro ⟨sig, sigFound, _, sigRead, eph, ephFound, _, ephRead, transfer,
      transferFound, _, seqRead, built⟩
    cases built
    exact ⟨⟨sig, sigFound, sigRead⟩, ⟨eph, ephFound, ephRead⟩,
      ⟨transfer, transferFound, rfl⟩, seqRead⟩
  · rintro ⟨⟨sig, sigFound, sigRead⟩, ⟨eph, ephFound, ephRead⟩,
      ⟨transfer, transferFound, rfl⟩, seqRead⟩
    exact ⟨sig, sigFound, _, sigRead, eph, ephFound, _, ephRead, transfer,
      transferFound, _, seqRead, rfl⟩

/-- What a header says when its signed part is that of a sealing. -/
theorem readHeader_sealed {header : Json} {signature ephemeral : Bytes}
    {transferId : String} {seq : Int}
    (read : readHeader header = .ok (signature, ephemeral, transferId, seq))
    {call : SealCall} (same : unsigned header = unsigned (call.baseHeader suite)) :
    ephemeral = suite.dhPublic call.ephemeralPrivate ∧ transferId = call.transferId ∧
      seq = call.seq := by
  have common : ∀ field, field ≠ "sig" → field ∈ headerFields →
      header.get? field = (call.baseHeader suite).get? field := by
    intro field other _
    have fields := congrArg (fun value => value.get? field) same
    simpa only [unsigned, get?_eraseField, if_neg other] using fields
  obtain ⟨-, ⟨eph, ephFound, ephRead⟩, ⟨transfer, transferFound, rfl⟩, seqRead⟩ :=
    readHeader_eq_ok.mp read
  rw [common "eph" (by decide) (by decide), call.baseHeader_get? (by decide)] at ephFound
  rw [common "transfer" (by decide) (by decide), call.baseHeader_get? (by decide)]
    at transferFound
  have seqField : header.getD "seq" = .int call.seq := by
    rw [getD, common "seq" (by decide) (by decide), call.baseHeader_get? (by decide)]
    rfl
  cases ephFound
  cases transferFound
  rw [toText_str, b64d_b64e] at ephRead
  rw [seqField, toInt_orElse_int] at seqRead
  cases ephRead
  cases seqRead
  exact ⟨rfl, rfl, rfl⟩

theorem parseRecord_canonical {blob payload : Bytes} {kind : Nat} {header : Json}
    (parsed : parseRecord blob = .ok (kind, header, payload)) : header.Canonical := by
  simp only [parseRecord, except_bind_eq_ok] at parsed
  obtain ⟨_, _, _, _, _, _, loaded⟩ := parsed
  split at loaded
  · cases loaded
  · rename_i found read
    simp only [except_bind_eq_ok] at loaded
    obtain ⟨_, _, built⟩ := loaded
    cases built
    exact canonical_loadJson read

theorem agreement_eq_ok {private_ public_ shared : Bytes} :
    agreement suite private_ public_ = .ok shared ↔
      suite.exchange private_ public_ = some shared := by
  unfold agreement
  split
  · rename_i found
    simp [found]
  · rename_i missing
    simp [missing]

/-- What was checked of a record that was opened. -/
structure Opened (suite : Suite) (blob mySagreePrivate senderSdev : Bytes)
    (kind : Nat) (header : Json) (plaintext : Bytes) : Prop where
  parsed : ∃ payload, parseRecord blob = .ok (kind, header, payload)
  decrypted : ∃ signature ephemeral transferId seq shared key nonce ciphertext,
    readHeader header = .ok (signature, ephemeral, transferId, seq) ∧
    suite.verify senderSdev signature (canonicalJson (unsigned header)) = true ∧
    suite.exchange mySagreePrivate ephemeral = some shared ∧
    itemKey suite (transferKey suite shared transferId) seq = .ok key ∧
    suite.aeadDecrypt key nonce ciphertext (canonicalJson header) = some plaintext

theorem Opened.canonical {blob mySagreePrivate senderSdev plaintext : Bytes} {kind : Nat}
    {header : Json}
    (opened : Opened suite blob mySagreePrivate senderSdev kind header plaintext) :
    header.Canonical := by
  obtain ⟨payload, parsed⟩ := opened.parsed
  exact parseRecord_canonical parsed

theorem openRecord_returns {blob mySagreePrivate senderSdev plaintext : Bytes}
    {senderDeviceId : String} {kind : Nat} {header : Json}
    (opened : openRecord suite blob mySagreePrivate senderSdev senderDeviceId =
      .ok (kind, header, plaintext)) :
    Opened suite blob mySagreePrivate senderSdev kind header plaintext := by
  simp only [openRecord, except_bind_eq_ok, refuse_eq_ok] at opened
  obtain ⟨⟨parsedKind, parsedHeader, payload⟩, parsed, _, _,
    ⟨signature, ephemeral, transferId, seq⟩, read, _, verified, shared, agreed, _, _, key,
    derived, decrypted⟩ := opened
  split at decrypted
  · cases decrypted
  · rename_i found
    cases decrypted
    exact ⟨⟨payload, parsed⟩, signature, ephemeral, transferId, seq, shared, key, _, _, read,
      by simpa using verified, agreement_eq_ok.mp agreed, derived, found⟩

/-- The key a sealing encrypts under. -/
def SealCall.sealingKey (suite : Suite) (call : SealCall) : Except Raised Bytes := do
  let shared ← agreement suite call.ephemeralPrivate call.recipientSagree
  itemKey suite (transferKey suite shared call.transferId) call.seq

/-- The key a recipient derives for a sealing. -/
def SealCall.AgreedWith (suite : Suite) (call : SealCall) (sagreePrivate key : Bytes) :
    Prop :=
  ∃ shared, suite.exchange sagreePrivate (suite.dhPublic call.ephemeralPrivate) =
      some shared ∧
    itemKey suite (transferKey suite shared call.transferId) call.seq = .ok key

/-- Ideal cryptography between a recipient and the device whose sealings are
`calls`. -/
structure Ideal (suite : Suite) (calls : SealCall → Prop)
    (sagreePrivate sdev : Bytes) : Prop where
  /-- Only the headers the device signed verify under its key. -/
  unforgeable : ∀ {signature message}, suite.verify sdev signature message = true →
    ∃ call, calls call ∧ message = canonicalJson (unsigned (call.baseHeader suite))
  /-- What opens under a key agreed with the recipient was encrypted by the
  device, under that key, with that associated data. -/
  encrypted : ∀ {call key nonce ciphertext ad plaintext}, calls call →
    call.AgreedWith suite sagreePrivate key →
    suite.aeadDecrypt key nonce ciphertext ad = some plaintext →
      ∃ source, calls source ∧ source.sealingKey suite = .ok key ∧
        ad = canonicalJson (source.header suite) ∧ plaintext = source.plaintext
  /-- Key derivation has no collisions. -/
  derivation : ∀ {ikm ikm' salt salt' info info'},
    suite.hkdf ikm salt info keySize = suite.hkdf ikm' salt' info' keySize → ikm = ikm'
  /-- With one party fixed, a shared secret determines the other. -/
  agreement : ∀ {private_ public_ shared},
    suite.exchange private_ public_ = some shared →
    suite.exchange sagreePrivate (suite.dhPublic private_) = some shared →
      public_ = suite.dhPublic sagreePrivate
  /-- Every sealing draws a new ephemeral key. -/
  fresh : ∀ {first second}, calls first → calls second →
    suite.dhPublic first.ephemeralPrivate = suite.dhPublic second.ephemeralPrivate →
      first = second

theorem itemKey_injective {calls : SealCall → Prop} {sagreePrivate sdev : Bytes}
    (ideal : Ideal suite calls sagreePrivate sdev) {shared shared' key : Bytes}
    {transferId transferId' : String} {seq seq' : Int}
    (first : itemKey suite (transferKey suite shared transferId) seq = .ok key)
    (second : itemKey suite (transferKey suite shared' transferId') seq' = .ok key) :
    shared = shared' := by
  simp only [itemKey, except_bind_eq_ok] at first second
  obtain ⟨_, -, firstKey⟩ := first
  obtain ⟨_, -, secondKey⟩ := second
  cases firstKey
  have same := Except.ok.inj secondKey
  exact (ideal.derivation (ideal.derivation same)).symm

/-- The header and the payload of an accepted record come from one sealing for
its recipient. -/
theorem Opened.sealed {calls : SealCall → Prop} {blob sagreePrivate sdev plaintext : Bytes}
    {kind : Nat} {header : Json} (ideal : Ideal suite calls sagreePrivate sdev)
    (opened : Opened suite blob sagreePrivate sdev kind header plaintext) :
    ∃ call, calls call ∧ call.recipientSagree = suite.dhPublic sagreePrivate ∧
      call.header suite = header ∧ call.plaintext = plaintext := by
  obtain ⟨signature, ephemeral, transferId, seq, shared, key, nonce, ciphertext, read,
    verified, agreed, derived, decrypted⟩ := opened.decrypted
  obtain ⟨signer, signed, sameMessage⟩ := ideal.unforgeable verified
  have sameUnsigned : unsigned header = unsigned (signer.baseHeader suite) :=
    canonicalJson_injective (canonical_eraseField opened.canonical _)
      (canonical_eraseField signer.canonical_baseHeader _) sameMessage
  obtain ⟨rfl, rfl, rfl⟩ := readHeader_sealed read sameUnsigned
  obtain ⟨source, sourceCalled, sourceKey, sameHeader, rfl⟩ :=
    ideal.encrypted signed ⟨shared, agreed, derived⟩ decrypted
  simp only [SealCall.sealingKey, except_bind_eq_ok, agreement_eq_ok] at sourceKey
  obtain ⟨sourceShared, sourceAgreed, sourceDerived⟩ := sourceKey
  have headerEq : header = source.header suite :=
    canonicalJson_injective opened.canonical source.canonical_header sameHeader
  refine ⟨source, sourceCalled, ?_, headerEq.symm, rfl⟩
  have sourceUnsigned : unsigned header = unsigned (source.baseHeader suite) := by
    rw [headerEq, source.unsigned_header]
  obtain ⟨sameEphemeral, -, -⟩ := readHeader_sealed read sourceUnsigned
  have sameShared := itemKey_injective ideal derived sourceDerived
  rw [sameEphemeral] at agreed
  exact ideal.agreement sourceAgreed (sameShared ▸ agreed)

theorem header_determines_sealing {calls : SealCall → Prop} {sagreePrivate sdev : Bytes}
    (ideal : Ideal suite calls sagreePrivate sdev) {first second : SealCall}
    (firstCalled : calls first) (secondCalled : calls second)
    (same : first.header suite = second.header suite) : first = second := by
  have fields := congrArg (fun header => header.get? "eph") same
  simp only [SealCall.header_get?, if_neg (show "eph" ≠ "sig" by decide),
    first.baseHeader_get? (show "eph" ∈ headerFields by decide),
    second.baseHeader_get? (show "eph" ∈ headerFields by decide)] at fields
  have texts : b64e (suite.dhPublic first.ephemeralPrivate) =
      b64e (suite.dhPublic second.ephemeralPrivate) := by
    simpa [List.lookup_cons] using fields
  exact ideal.fresh firstCalled secondCalled (b64e_injective texts)

/-- The kind of an accepted record is the byte its frame has for it. -/
theorem parseRecord_kind {blob payload : Bytes} {kind : Nat} {header : Json}
    (parsed : parseRecord blob = .ok (kind, header, payload)) :
    (blob.getD 5 0).toNat = kind := by
  simp only [parseRecord, except_bind_eq_ok] at parsed
  obtain ⟨_, _, _, _, _, _, loaded⟩ := parsed
  split at loaded
  · cases loaded
  · simp only [except_bind_eq_ok] at loaded
    obtain ⟨_, _, built⟩ := loaded
    cases built
    rfl

/-- Under ideal cryptography the header and the plaintext of an accepted record are
those of one sealing for its recipient, and of no other; its kind is that of this
sealing exactly when the kind byte is. -/
theorem opened_record_was_sealed {calls : SealCall → Prop}
    {blob sagreePrivate sdev plaintext : Bytes} {senderDeviceId : String} {kind : Nat}
    {header : Json} (ideal : Ideal suite calls sagreePrivate sdev)
    (opened : openRecord suite blob sagreePrivate sdev senderDeviceId =
      .ok (kind, header, plaintext)) :
    ∃ source, calls source ∧ source.recipientSagree = suite.dhPublic sagreePrivate ∧
      source.header suite = header ∧ source.plaintext = plaintext ∧
      (∀ call, calls call → call.header suite = header → call = source) ∧
      ((∃ call, calls call ∧ call.recipientSagree = suite.dhPublic sagreePrivate ∧
        call.kind = kind ∧ call.header suite = header ∧ call.plaintext = plaintext) ↔
      (blob.getD 5 0).toNat = source.kind) := by
  have checked := openRecord_returns opened
  obtain ⟨payload, parsed⟩ := checked.parsed
  obtain ⟨source, sourceCalled, recipient, sameHeader, samePlaintext⟩ :=
    checked.sealed ideal
  have only : ∀ call, calls call → call.header suite = header → call = source :=
    fun call called same =>
      header_determines_sealing ideal called sourceCalled (same.trans sameHeader.symm)
  refine ⟨source, sourceCalled, recipient, sameHeader, samePlaintext, only, ?_⟩
  rw [parseRecord_kind parsed]
  constructor
  · rintro ⟨call, called, -, sameKind, same, -⟩
    rw [← only call called same, sameKind]
  · intro sameKind
    exact ⟨source, sourceCalled, recipient, sameKind.symm, sameHeader, samePlaintext⟩

theorem fourBytes_eq_ok {value : Int} {octets : Bytes}
    (encoded : fourBytes value = .ok octets) :
    octets.length = 4 ∧ (fromBigEndian octets : Int) = value := by
  unfold fourBytes at encoded
  split at encoded
  · cases encoded
  · split at encoded
    · rename_i nonnegative _ found
      cases encoded
      obtain ⟨length, same⟩ := fromBigEndian_toBigEndian found
      exact ⟨length, by omega⟩
    · cases encoded

theorem magic_eq : magic = [78, 75, 83, 49] := by decide

theorem fourOctets {octets : Bytes} (length : octets.length = 4) :
    ∃ first second third fourth, octets = [first, second, third, fourth] := by
  rcases octets with _ | ⟨first, _ | ⟨second, _ | ⟨third, _ | ⟨fourth, _ | ⟨fifth, rest⟩⟩⟩⟩⟩ <;>
    simp_all

/-- A frame with any kind byte is split into that kind, its header and its
payload. -/
theorem parseRecord_frame {kind : Nat} {header : Json} {payload blob : Bytes}
    (canonical : header.Canonical) (isObj : header.isObj = true)
    (framed : frame kind header payload = .ok blob) (byte : UInt8) :
    parseRecord (blob.set 5 byte) = .ok (byte.toNat, header, payload) := by
  simp only [frame, except_bind_eq_ok] at framed
  obtain ⟨_, -, octets, encoded, built⟩ := framed
  obtain ⟨length, value⟩ := fourBytes_eq_ok encoded
  have loaded := loadJson_canonicalJson canonical
  have nonempty : canonicalJson header ≠ [] := by
    intro empty
    rw [empty] at loaded
    cases loaded
  have positive := List.length_pos_iff.mpr nonempty
  have size : fromBigEndian octets = (canonicalJson header).length := by
    exact_mod_cast value
  obtain ⟨first, second, third, fourth, rfl⟩ := fourOctets length
  cases built
  have different : (canonicalJson header).length ≠ 0 := by omega
  have long : ¬ (canonicalJson header).length + payload.length + 12 <
      (canonicalJson header).length + 12 := by omega
  simp only [parseRecord, isDeviceRecord, magic_eq, version, prefixBytes, refuse,
    size, loaded, isObj, bind, Except.bind, pure, Except.pure, List.cons_append,
    List.nil_append, List.set_cons_succ, List.set_cons_zero, List.length_cons,
    List.length_append, List.drop_succ_cons, List.drop_zero, List.take_succ_cons,
    List.take_zero, List.take_left, List.getD_cons_succ, List.getD_cons_zero,
    Nat.add_comm 12]
  simp [different, long]

/-- Setting the kind byte of a frame to its kind changes nothing. -/
theorem frame_kind {kind : Nat} {header : Json} {payload blob : Bytes}
    (framed : frame kind header payload = .ok blob) :
    blob.set 5 (UInt8.ofNat kind) = blob ∧ (UInt8.ofNat kind).toNat = kind := by
  simp only [frame, except_bind_eq_ok, refuse_eq_ok] at framed
  obtain ⟨_, small, octets, -, built⟩ := framed
  cases built
  have bound : kind < 256 := by simpa using small
  refine ⟨by simp [magic_eq], ?_⟩
  rw [UInt8.toNat_ofNat', Nat.mod_eq_of_lt bound]

theorem sealRecord_kind {call : SealCall} {blob : Bytes}
    (sealed : sealRecord suite call = .ok blob) :
    blob.set 5 (UInt8.ofNat call.kind) = blob ∧
      (UInt8.ofNat call.kind).toNat = call.kind := by
  simp only [sealRecord, except_bind_eq_ok] at sealed
  obtain ⟨_, -, _, -, framed⟩ := sealed
  split at framed
  · cases framed
  · exact frame_kind framed

/-- The plaintext that is sealed last is the one that is opened, whatever byte
stands for the kind. -/
theorem openRecord_sealRecord {call : SealCall} {blob : Bytes}
    (sealed : sealRecord suite call = .ok blob) (size : call.nonce.length = 12)
    {sagreePrivate : Bytes}
    (recipient : ∀ {shared},
      suite.exchange call.ephemeralPrivate call.recipientSagree = some shared →
        suite.exchange sagreePrivate (suite.dhPublic call.ephemeralPrivate) = some shared)
    (signed : ∀ {message}, message = canonicalJson (unsigned (call.baseHeader suite)) →
      suite.verify (suite.signingPublic call.senderSdevPrivate)
        (suite.sign call.senderSdevPrivate message) message = true)
    (decrypts : ∀ {key ciphertext}, call.sealingKey suite = .ok key →
      suite.aeadEncrypt key call.nonce call.plaintext
        (canonicalJson (call.header suite)) = some ciphertext →
      ciphertext ≠ [] ∧ suite.aeadDecrypt key call.nonce ciphertext
        (canonicalJson (call.header suite)) = some call.plaintext)
    (byte : UInt8) :
    openRecord suite (blob.set 5 byte) sagreePrivate
        (suite.signingPublic call.senderSdevPrivate) call.senderDeviceId =
      .ok (byte.toNat, call.header suite, call.plaintext) := by
  simp only [sealRecord, except_bind_eq_ok] at sealed
  obtain ⟨shared, agreed, key, derived, framed⟩ := sealed
  split at framed
  · cases framed
  · rename_i ciphertext encrypted
    have sealingKey : call.sealingKey suite = .ok key :=
      except_bind_eq_ok.mpr ⟨shared, agreed, derived⟩
    obtain ⟨nonempty, decrypted⟩ := decrypts sealingKey encrypted
    have agreedBack := recipient (agreement_eq_ok.mp agreed)
    have parsed := parseRecord_frame call.canonical_header
      (show (call.header suite).isObj = true from rfl) framed byte
    have sender : (call.header suite).getD "from" = .str call.senderDeviceId := by
      rw [getD, call.header_get?, if_neg (by decide), call.baseHeader_get? (by decide)]
      rfl
    have sequence : (call.header suite).getD "seq" = .int call.seq := by
      rw [getD, call.header_get?, if_neg (by decide), call.baseHeader_get? (by decide)]
      rfl
    have read : readHeader (call.header suite) = .ok
        (suite.sign call.senderSdevPrivate
          (canonicalJson (unsigned (call.baseHeader suite))),
        suite.dhPublic call.ephemeralPrivate, call.transferId, call.seq) := by
      rw [readHeader_eq_ok, sequence]
      refine ⟨⟨_, call.header_get?, b64d_b64e _⟩,
        ⟨.str (b64e (suite.dhPublic call.ephemeralPrivate)), ?_, b64d_b64e _⟩,
        ⟨.str call.transferId, ?_, rfl⟩, ?_⟩
      · rw [call.header_get?, if_neg (by decide), call.baseHeader_get? (by decide)]
        rfl
      · rw [call.header_get?, if_neg (by decide), call.baseHeader_get? (by decide)]
        rfl
      · exact toInt_orElse_int call.seq
    have long : ¬ (call.nonce ++ ciphertext).length ≤ 12 := by
      have positive := List.length_pos_iff.mpr nonempty
      rw [List.length_append, size]
      omega
    have taken : (call.nonce ++ ciphertext).take 12 = call.nonce := by
      rw [← size, List.take_left]
    have dropped : (call.nonce ++ ciphertext).drop 12 = ciphertext := by
      rw [← size, List.drop_left]
    unfold openRecord
    rw [parsed, except_ok_bind]
    simp only [sender, toText_str, ne_eq, not_true_eq_false, decide_false]
    rw [show refuse false _ = .ok () from rfl, except_ok_bind, read, except_ok_bind]
    simp only [call.unsigned_header, signed rfl]
    rw [show refuse (!true) _ = .ok () from rfl, except_ok_bind,
      agreement_eq_ok.mpr agreedBack, except_ok_bind]
    simp only [long, decide_false, taken, dropped]
    rw [show refuse false _ = .ok () from rfl, except_ok_bind, derived, except_ok_bind,
      decrypted]
    rfl

/-- The symbolic suite with signatures that do not spell out what they sign. -/
def tokens : Suite :=
  { Symbolic.suite with
    sign := fun private_ _ => 8 :: 9 :: private_
    verify := fun public_ signature _ => signature == 8 :: public_ }

/-- The suite of a device that has sealed `calls`: a signature stands for one of
their headers, and nobody else can encrypt to the device's siblings. -/
def guarded (calls : List SealCall) : Suite :=
  { tokens with
    verify := fun public_ signature message =>
      tokens.verify public_ signature message &&
        calls.any fun call => message = canonicalJson (unsigned (call.baseHeader tokens))
    aeadDecrypt := fun key nonce ciphertext ad =>
      (tokens.aeadDecrypt key nonce ciphertext ad).filter fun plaintext =>
        calls.any fun call => call.sealingKey tokens = .ok key &&
          ad = canonicalJson (call.header tokens) && plaintext = call.plaintext }

theorem guarded_ideal {calls : List SealCall} (sagreePrivate sdev : Bytes)
    (fresh : ∀ first ∈ calls, ∀ second ∈ calls,
      first.ephemeralPrivate = second.ephemeralPrivate → first = second) :
    Ideal (guarded calls) (· ∈ calls) sagreePrivate sdev where
  unforgeable := by
    intro signature message verified
    obtain ⟨-, signed⟩ := Bool.and_eq_true_iff.mp verified
    obtain ⟨call, member, same⟩ := List.any_eq_true.mp signed
    exact ⟨call, member, of_decide_eq_true same⟩
  encrypted := by
    intro call key nonce ciphertext ad plaintext _ _ decrypted
    obtain ⟨-, known⟩ := Option.filter_eq_some_iff.mp decrypted
    obtain ⟨source, member, same⟩ := List.any_eq_true.mp known
    simp only [Bool.and_eq_true, decide_eq_true_eq] at same
    obtain ⟨⟨used, named⟩, opened⟩ := same
    exact ⟨source, member, used, named, opened⟩
  derivation := by
    intro ikm ikm' salt salt' info info' same
    simp only [guarded, tokens, Symbolic.suite, List.cons.injEq, true_and,
      Symbolic.pair_inj] at same
    exact same.1
  agreement := by
    intro private_ public_ shared agreed agreedBack
    simp only [guarded, tokens, Symbolic.suite, Symbolic.exchange] at agreed agreedBack
    split at agreed
    · rename_i theirs
      cases agreed
      simp only [Option.some.injEq, List.cons.injEq, true_and] at agreedBack
      rw [Symbolic.unordered_comm sagreePrivate] at agreedBack
      rw [← Symbolic.unordered_cancel agreedBack]
      rfl
    · cases agreed
  fresh := by
    intro first second member otherMember same
    simp only [guarded, tokens, Symbolic.suite, List.cons.injEq, true_and] at same
    exact fresh first member second otherMember same

/-- A sealed record of a symbolic device opens, whatever its kind byte is. -/
theorem guarded_opens {calls : List SealCall} {call : SealCall} (called : call ∈ calls)
    {blob sagreePrivate : Bytes} (sealed : sealRecord tokens call = .ok blob) (size : call.nonce.length = 12)
    (recipient : call.recipientSagree = tokens.dhPublic sagreePrivate)
    (byte : UInt8) :
    openRecord (guarded calls) (blob.set 5 byte) sagreePrivate
        (tokens.signingPublic call.senderSdevPrivate) call.senderDeviceId =
      .ok (byte.toNat, call.header tokens, call.plaintext) := by
  apply @openRecord_sealRecord (guarded calls) call blob sealed size sagreePrivate
  · intro shared agreed
    rw [recipient] at agreed
    rw [← agreed]
    exact congrArg (fun term => some (6 :: term)) (Symbolic.unordered_comm _ _)
  · rintro message same
    exact Bool.and_eq_true_iff.mpr ⟨beq_self_eq_true _, List.any_eq_true.mpr
      ⟨call, called, decide_eq_true same⟩⟩
  · intro key ciphertext used encrypted
    have decrypted := Symbolic.aeadDecrypt_aeadEncrypt encrypted
    have used' : call.sealingKey tokens = .ok key := used
    refine ⟨?_, Option.filter_eq_some_iff.mpr ⟨decrypted, List.any_eq_true.mpr
      ⟨call, called, ?_⟩⟩⟩
    · cases encrypted
      exact List.cons_ne_nil _ _
    · have sameHeader : canonicalJson (call.header (guarded calls)) =
          canonicalJson (call.header tokens) := rfl
      rw [decide_eq_true used', decide_eq_true sameHeader]
      simp

/-- A request. -/
def requestCall : SealCall where
  kind := request
  plaintext := utf8 "{}"
  recipientSagree := tokens.dhPublic [2]
  senderDeviceId := "d"
  senderSdevPrivate := [3]
  transferId := "t"
  ephemeralPrivate := [1]
  nonce := List.replicate 12 0
  timestamp := 0

/-- The blob of a request with another byte for its kind. -/
def alteredRequest (byte : UInt8) : Bytes :=
  ((sealRecord tokens requestCall).toOption.getD []).set 5 byte

theorem alteredRequest_opens (byte : UInt8) :
    openRecord (guarded [requestCall]) (alteredRequest byte) [2]
        (tokens.signingPublic [3]) "d" =
      .ok (byte.toNat, requestCall.header tokens, requestCall.plaintext) := by
  have succeeds : (sealRecord tokens requestCall).toOption.isSome = true := by
    decide +kernel
  unfold alteredRequest
  cases sealed : sealRecord tokens requestCall with
  | error raised =>
      rw [sealed] at succeeds
      cases succeeds
  | ok blob => exact guarded_opens (List.mem_singleton_self _) sealed rfl rfl byte

theorem requestCall_ideal :
    Ideal (guarded [requestCall]) (· ∈ [requestCall]) [2]
      (tokens.signingPublic [3]) := by
  apply guarded_ideal
  intro first member second otherMember _
  rw [List.mem_singleton.mp member, List.mem_singleton.mp otherMember]

/-- A request whose kind byte is left alone is one the device sealed. -/
theorem opened_record_was_sealed_request :
    ∃ call, call ∈ [requestCall] ∧
      call.recipientSagree = (guarded [requestCall]).dhPublic [2] ∧ call.kind = 1 ∧
      call.header (guarded [requestCall]) = requestCall.header tokens ∧
      call.plaintext = requestCall.plaintext := by
  obtain ⟨source, called, -, -, -, -, kinds⟩ :=
    opened_record_was_sealed requestCall_ideal (alteredRequest_opens 1)
  obtain ⟨payload, parsed⟩ := (openRecord_returns (alteredRequest_opens 1)).parsed
  apply kinds.mpr
  rw [parseRecord_kind parsed, List.mem_singleton.mp called]
  rfl

/-- A request is accepted as an approval once its kind byte says so. -/
theorem request_opens_as_approval :
    openRecord (guarded [requestCall]) (alteredRequest 5) [2]
        (tokens.signingPublic [3]) "d" =
      .ok (approval, requestCall.header tokens, requestCall.plaintext) ∧
    ¬ ∃ call, call ∈ [requestCall] ∧
      call.recipientSagree = (guarded [requestCall]).dhPublic [2] ∧
      call.kind = approval ∧
      call.header (guarded [requestCall]) = requestCall.header tokens ∧
      call.plaintext = requestCall.plaintext := by
  refine ⟨alteredRequest_opens 5, ?_⟩
  rintro ⟨call, member, -, kind, -⟩
  rw [List.mem_singleton.mp member] at kind
  cases kind

end NoKnowledge.Channel
