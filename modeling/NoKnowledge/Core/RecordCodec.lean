import NoKnowledge.Core.RecordSize
import NoKnowledge.Wire.Protocol

/-!
# The codec of device records

Sealing and opening agree on every field of a record, and the magic that begins
a record keeps it apart from a wire message, which begins with a brace.
-/

namespace NoKnowledge

/-- No document begins with these two letters. -/
theorem Json.parse_magic (rest : List Char) : Json.parse ('N' :: 'K' :: rest) = none := by
  have literal : parseLiteral ('N' :: 'K' :: rest) = none := rfl
  simp [Json.parse, parseValue, skipSpace, isSpace, literal]

namespace Channel

variable {suite : Suite}

theorem parseRecord_of_frame {kind : Nat} {header : Json} {payload blob : Bytes}
    (canonical : header.Canonical) (isObj : header.isObj = true)
    (framed : frame kind header payload = .ok blob) :
    parseRecord blob = .ok (kind, header, payload) := by
  obtain ⟨unchanged, value⟩ := frame_kind framed
  have parsed := parseRecord_frame canonical isObj framed (UInt8.ofNat kind)
  rwa [unchanged, value] at parsed

theorem frame_layout {kind : Nat} {header : Json} {payload blob : Bytes}
    (framed : frame kind header payload = .ok blob) :
    ∃ octets, octets.length = 4 ∧ fromBigEndian octets = (canonicalJson header).length ∧
      blob = utf8 "NKS1" ++
        ([version, UInt8.ofNat kind, 0, 0] ++ octets ++ canonicalJson header ++ payload) := by
  simp only [frame, except_bind_eq_ok] at framed
  obtain ⟨_, -, octets, encoded, built⟩ := framed
  obtain ⟨length, value⟩ := fourBytes_eq_ok encoded
  cases built
  refine ⟨octets, length, by exact_mod_cast value, ?_⟩
  simp [magic]

/-- A frame that stops before the end of its header is refused. -/
theorem parseRecord_truncated {kind : Nat} {header : Json} {payload blob : Bytes}
    (framed : frame kind header payload = .ok blob) {size : Nat}
    (short : size < prefixBytes + (canonicalJson header).length) :
    ∃ text, parseRecord (blob.take size) = .error { class_ := .sync, text } := by
  obtain ⟨octets, length, value, rfl⟩ := frame_layout framed
  rcases Nat.lt_or_ge size prefixBytes with inPrefix | afterPrefix
  · have small : isDeviceRecord
        ((utf8 "NKS1" ++ ([version, UInt8.ofNat kind, 0, 0] ++ octets ++
          canonicalJson header ++ payload)).take size) = false := by
      rw [isDeviceRecord, List.length_take, decide_eq_false (by omega), Bool.false_and]
    refine ⟨"not a device record", ?_⟩
    rw [parseRecord, small]
    rfl
  · obtain ⟨kept, rfl⟩ := Nat.exists_eq_add_of_le afterPrefix
    have cut : kept < (canonicalJson header).length := by omega
    refine ⟨"device record is truncated", ?_⟩
    have begins : utf8 "NKS1" = [78, 75, 83, 49] := magic_eq
    have shorter : min kept ((canonicalJson header).length + payload.length) + 12 <
        (canonicalJson header).length + 12 := by omega
    obtain ⟨first, second, third, fourth, rfl⟩ := fourOctets length
    simp only [parseRecord, isDeviceRecord, begins, magic_eq, version, prefixBytes,
      refuse, value, bind, Except.bind, pure, Except.pure, List.cons_append,
      List.nil_append, List.take_succ_cons, List.length_cons, List.length_append,
      List.length_take, List.drop_succ_cons, List.drop_zero, List.take_zero,
      List.getD_cons_succ, List.getD_cons_zero, Nat.add_comm 12]
    simp [shorter]

theorem parseWire_deviceRecord {blob : Bytes} (routed : isDeviceRecord blob = true) :
    ∃ text, Wire.parseWire blob = .error { class_ := .wire, text } := by
  obtain ⟨-, begins⟩ := Bool.and_eq_true_iff.mp routed
  have split : blob = utf8 "NKS1" ++ blob.drop 4 := by
    have taken : blob.take 4 = utf8 "NKS1" := of_decide_eq_true begins
    rw [← taken, List.take_append_drop]
  have decoded := decodeUtf8_append "NKS1" (blob.drop 4)
  rw [← split] at decoded
  unfold Wire.parseWire
  rw [decoded]
  cases decodeUtf8 (blob.drop 4) with
  | none => exact ⟨_, rfl⟩
  | some rest =>
      have characters : ("NKS1" ++ rest).toList = 'N' :: 'K' :: 'S' :: '1' :: rest.toList :=
        String.toList_append
      rw [Option.map_some]
      dsimp only
      rw [pure_bind, characters, Json.parse_magic]
      exact ⟨_, rfl⟩

theorem isDeviceRecord_buildWire (sid : Bytes) (header : Json) (nonce ciphertext : Bytes)
    (init : Option Json) :
    isDeviceRecord (Wire.buildWire sid header nonce ciphertext init) = false := by
  have brace := head?_canonicalJson ([
    ("v", .int Wire.wireVersion), ("sid", .str (b64e sid)), ("hdr", header),
    ("nonce", .str (b64e nonce)), ("ct", .str (b64e ciphertext))] ++
      (init.map fun init => ("init", init)).toList)
  obtain ⟨rest, begins⟩ := List.head?_eq_some_iff.mp brace
  unfold Wire.buildWire
  rw [begins, isDeviceRecord, magic_eq]
  simp

/-- The fields that a caller gives the header of its record. -/
def SealCall.given (call : SealCall) : List (String × Json) :=
  [("v", Json.int 1), ("transfer", .str call.transferId),
    ("from", .str call.senderDeviceId), ("seq", .int call.seq)] ++ call.extra.fields

theorem lookup_of_mem {fields : List (String × Json)}
    (distinct : (fields.map Prod.fst).Nodup) {field : String × Json}
    (member : field ∈ fields) : fields.lookup field.1 = some field.2 := by
  induction fields with
  | nil => cases member
  | cons head fields induction =>
      obtain ⟨different, distinct⟩ := List.nodup_cons.mp distinct
      rw [Dict.lookup_cons_eq_ite]
      rcases List.mem_cons.mp member with rfl | later
      · exact if_pos rfl
      · have other : field.1 ≠ head.1 := by
          intro same
          exact different (same ▸ List.mem_map_of_mem later)
        rw [if_neg other, induction distinct later]

theorem SealCall.get?_given {call : SealCall}
    (distinct : (call.extra.fields.map Prod.fst).Nodup) {field : String × Json}
    (member : field ∈ call.given) :
    (call.header suite).get? field.1 = some field.2 := by
  rw [call.header_get?]
  rcases List.mem_append.mp member with base | extra
  · simp only [List.mem_cons, List.not_mem_nil, or_false] at base
    rcases base with rfl | rfl | rfl | rfl
    · rw [if_neg (show "v" ≠ "sig" by decide),
        call.baseHeader_get? (show "v" ∈ headerFields by decide)]
      rfl
    · rw [if_neg (show "transfer" ≠ "sig" by decide),
        call.baseHeader_get? (show "transfer" ∈ headerFields by decide)]
      rfl
    · rw [if_neg (show "from" ≠ "sig" by decide),
        call.baseHeader_get? (show "from" ∈ headerFields by decide)]
      rfl
    · rw [if_neg (show "seq" ≠ "sig" by decide),
        call.baseHeader_get? (show "seq" ∈ headerFields by decide)]
      rfl
  · have other : field.1 ≠ "sig" := by
      intro named
      apply call.extra.additional field extra
      rw [named]
      decide
    have found : call.extra.fields.reverse.lookup field.1 = some field.2 := by
      apply lookup_of_mem
      · rw [List.map_reverse]
        exact List.nodup_reverse.mpr distinct
      · exact List.mem_reverse.mpr extra
    rw [if_neg other, SealCall.baseHeader, Json.get?_mkObj, List.reverse_append,
      List.lookup_append, found, Option.some_or]

/-- Key agreement, signatures and encryption are correct. -/
structure Correct (suite : Suite) : Prop where
  commutes : ∀ {mine theirs shared},
    suite.exchange mine (suite.dhPublic theirs) = some shared →
      suite.exchange theirs (suite.dhPublic mine) = some shared
  verifies : ∀ {private_ message},
    suite.verify (suite.signingPublic private_) (suite.sign private_ message) message = true
  decrypts : ∀ {key nonce plaintext ad ciphertext}, nonce.length = nonceSize →
    suite.aeadEncrypt key nonce plaintext ad = some ciphertext →
      ciphertext ≠ [] ∧ suite.aeadDecrypt key nonce ciphertext ad = some plaintext

theorem Correct.opens (correct : Correct suite) {call : SealCall} {blob : Bytes}
    (size : call.nonce.length = nonceSize) {sagreePrivate : Bytes}
    (recipient : call.recipientSagree = suite.dhPublic sagreePrivate)
    (sealed : sealRecord suite call = .ok blob) :
    openRecord suite blob sagreePrivate (suite.signingPublic call.senderSdevPrivate)
        call.senderDeviceId =
      .ok (call.kind, call.header suite, call.plaintext) := by
  obtain ⟨unchanged, value⟩ := sealRecord_kind sealed
  have opened := @openRecord_sealRecord suite call blob sealed size sagreePrivate
    (fun agreed => correct.commutes (recipient ▸ agreed)) (fun _ => correct.verifies)
    (fun _ encrypted => correct.decrypts size encrypted) (UInt8.ofNat call.kind)
  rwa [unchanged, value] at opened

theorem sealRecord_framed {call : SealCall} {blob : Bytes}
    (sealed : sealRecord suite call = .ok blob) :
    ∃ payload, frame call.kind (call.header suite) payload = .ok blob := by
  simp only [sealRecord, except_bind_eq_ok] at sealed
  obtain ⟨_, -, _, -, framed⟩ := sealed
  split at framed
  · cases framed
  · exact ⟨_, framed⟩

theorem isDeviceRecord_sealed {call : SealCall} {blob : Bytes}
    (sealed : sealRecord suite call = .ok blob) : isDeviceRecord blob = true := by
  obtain ⟨payload, framed⟩ := sealRecord_framed sealed
  obtain ⟨octets, length, -, rfl⟩ := frame_layout framed
  have begins : utf8 "NKS1" = [78, 75, 83, 49] := magic_eq
  obtain ⟨first, second, third, fourth, rfl⟩ := fourOctets length
  simp [isDeviceRecord, begins, magic_eq, prefixBytes]

/-- What becomes of a sealed record at its recipient: it opens to what was
sealed, under a header with every given field, and is never taken for a wire
message. -/
structure Delivered (suite : Suite) (call : SealCall) (blob sagreePrivate : Bytes) :
    Prop where
  opens : openRecord suite blob sagreePrivate (suite.signingPublic call.senderSdevPrivate)
      call.senderDeviceId =
    .ok (call.kind, call.header suite, call.plaintext)
  given : ∀ field ∈ call.given, (call.header suite).get? field.1 = some field.2
  routed : isDeviceRecord blob = true
  notWire : ∃ text, Wire.parseWire blob = .error { class_ := .wire, text }

theorem record_codec (correct : Correct suite) :
    (∀ call blob sagreePrivate, call.nonce.length = nonceSize →
      (call.extra.fields.map Prod.fst).Nodup →
      call.recipientSagree = suite.dhPublic sagreePrivate →
      sealRecord suite call = .ok blob → Delivered suite call blob sagreePrivate) ∧
    (∀ call shared, call.kind < 256 → 0 ≤ call.seq ∧ call.seq < 2 ^ 32 →
      suite.exchange call.ephemeralPrivate call.recipientSagree = some shared →
      (∀ ikm info ad, ∃ ciphertext,
        suite.aeadEncrypt (suite.hkdf ikm [] info keySize) call.nonce call.plaintext ad =
          some ciphertext) →
      (canonicalJson (call.header suite)).length < 2 ^ 32 →
        ∃ blob, sealRecord suite call = .ok blob) ∧
    (∀ kind header payload blob, header.Canonical → header.isObj = true →
      frame kind header payload = .ok blob →
        parseRecord blob = .ok (kind, header, payload) ∧
        ∀ size < prefixBytes + (canonicalJson header).length,
          ∃ text, parseRecord (blob.take size) = .error { class_ := .sync, text }) ∧
    ∀ sid header nonce ciphertext init,
      isDeviceRecord (Wire.buildWire sid header nonce ciphertext init) = false := by
  refine ⟨?_, ?_, ?_, isDeviceRecord_buildWire⟩
  · intro call blob sagreePrivate size distinct recipient sealed
    have routed := isDeviceRecord_sealed sealed
    exact {
      opens := correct.opens size recipient sealed
      given := fun _ => SealCall.get?_given distinct
      routed
      notWire := parseWire_deviceRecord routed }
  · intro call shared kindByte numbered agreed encrypts short
    exact sealRecord_succeeds kindByte agreed numbered encrypts short
  · intro kind header payload blob canonical isObj framed
    exact ⟨parseRecord_of_frame canonical isObj framed,
      fun _ short => parseRecord_truncated framed short⟩

theorem tokens_correct : Correct tokens where
  commutes := by
    intro mine theirs shared agreed
    rw [← agreed]
    exact congrArg (fun term => some (6 :: term)) (Symbolic.unordered_comm _ _)
  verifies := beq_self_eq_true _
  decrypts := by
    intro key nonce plaintext ad ciphertext _ encrypted
    refine ⟨?_, Symbolic.aeadDecrypt_aeadEncrypt encrypted⟩
    cases encrypted
    exact List.cons_ne_nil _ _

/-- A mirrored state, with one field of its own. -/
def mirroredState : SealCall where
  kind := mirror
  plaintext := utf8 "\x7b\"kind\":\"state\"\x7d"
  recipientSagree := tokens.dhPublic [2]
  senderDeviceId := "alice-device"
  senderSdevPrivate := [3]
  transferId := "t1"
  seq := 7
  extra := {
    fields := [("total", .int 9)]
    canonical := by simp [Json.Canonical]
    additional := by decide }
  ephemeralPrivate := [1]
  nonce := List.replicate nonceSize 0
  timestamp := 5

theorem record_codec_mirrored :
    ∃ blob, sealRecord tokens mirroredState = .ok blob ∧
      Delivered tokens mirroredState blob [2] := by
  obtain ⟨delivers, succeeds, -, -⟩ := record_codec tokens_correct
  have small : 4 * (mirroredState.header tokens).normalize.dump.length < 2 ^ 32 := by
    decide
  obtain ⟨blob, sealed⟩ := succeeds mirroredState _ (by decide) (by decide) rfl
    (fun _ _ _ => ⟨_, rfl⟩) (lt_of_le_of_lt (length_canonicalJson_le _) small)
  exact ⟨blob, sealed, delivers _ _ _ rfl (by decide) rfl sealed⟩

end Channel

end NoKnowledge
