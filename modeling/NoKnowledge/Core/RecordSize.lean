import NoKnowledge.Core.RecordIntegrity

/-!
# The size of device records

A record is a frame around its header, the nonce and the ciphertext.
-/

namespace NoKnowledge

theorem length_utf8_le (text : String) : (utf8 text).length ≤ 4 * text.toList.length := by
  unfold utf8
  induction text.toList with
  | nil => simp
  | cons character rest induction =>
      have octets : (String.utf8EncodeChar character).length ≤ 4 := by
        rw [String.length_utf8EncodeChar]
        exact character.utf8Size_le_four
      rw [List.flatMap_cons, List.length_append, List.length_cons]
      omega

theorem length_canonicalJson_le (value : Json) :
    (canonicalJson value).length ≤ 4 * value.normalize.dump.length := by
  have bound := length_utf8_le (String.ofList value.normalize.dump)
  rwa [String.toList_ofList] at bound

theorem fourBytes_fits {value : Int} (nonnegative : 0 ≤ value) (fits : value < 2 ^ 32) :
    ∃ octets, fourBytes value = .ok octets := by
  have within : value.toNat < 256 ^ 4 := by omega
  have encoded : toBigEndian 4 value.toNat = some (bigEndianOctets 4 value.toNat) :=
    if_pos within
  refine ⟨bigEndianOctets 4 value.toNat, ?_⟩
  rw [fourBytes, if_neg (not_lt.mpr nonnegative), encoded]

namespace Channel

variable {suite : Suite}

/-- What makes a sealing succeed. -/
theorem sealRecord_succeeds {call : SealCall} (kindByte : call.kind < 256)
    {shared : Bytes}
    (agreed : suite.exchange call.ephemeralPrivate call.recipientSagree = some shared)
    (numbered : 0 ≤ call.seq ∧ call.seq < 2 ^ 32)
    (encrypts : ∀ ikm info ad, ∃ ciphertext,
      suite.aeadEncrypt (suite.hkdf ikm [] info keySize) call.nonce call.plaintext ad =
        some ciphertext)
    (short : (canonicalJson (call.header suite)).length < 2 ^ 32) :
    ∃ blob, sealRecord suite call = .ok blob := by
  obtain ⟨number, counted⟩ := fourBytes_fits numbered.1 numbered.2
  have size : ((canonicalJson (call.header suite)).length : Int) < 2 ^ 32 := by
    exact_mod_cast short
  obtain ⟨octets, sized⟩ := fourBytes_fits (Int.natCast_nonneg _) size
  obtain ⟨ciphertext, encrypted⟩ := encrypts (transferKey suite shared call.transferId)
    (deviceSyncItemInfo ++ number) (canonicalJson (call.header suite))
  have notLarge : (256 ≤ call.kind) = False := eq_false (not_le.mpr kindByte)
  refine ⟨magic ++ [version, UInt8.ofNat call.kind] ++ [0, 0] ++ octets ++
    canonicalJson (call.header suite) ++ (call.nonce ++ ciphertext), ?_⟩
  simp only [sealRecord, agreement, agreed, itemKey, counted, encrypted, frame, refuse,
    notLarge, sized, bind, Except.bind, pure, Except.pure, decide_false, Bool.false_eq_true,
    if_false]

end Channel

end NoKnowledge
