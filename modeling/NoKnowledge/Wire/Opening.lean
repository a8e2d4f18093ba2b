import NoKnowledge.Core.SignedRecords
import NoKnowledge.Crypto.PaddingSize
import NoKnowledge.Crypto.RatchetDraw

/-!
# Opening what was sealed

A sealed envelope is padded, encrypted and framed.  The receiver reads the frame
back as it was written, so it opens the envelope exactly when its ratchet opens
the ciphertext.
-/

namespace NoKnowledge

namespace Wire

open Prog

variable {suite : Suite} {sid nonce ciphertext plaintext newPrivate : Bytes}
  {header envelope : Json} {init : Option Json} {state final : RatchetState}

/-- What sealing an envelope puts into the frame. -/
theorem sealWire_returns {draw : Nat → Nat} {maxSize : Option Nat} {blob : Bytes}
    (returned : (sealWire suite draw nonce envelope sid init maxSize).run state =
      (.ok blob, final)) :
    ∃ plaintext header used ciphertext,
      Padding.padEnvelope draw envelope (some (maxSize.getD Padding.defaultMax)) =
        .ok plaintext ∧
      (Ratchet.encrypt suite nonce plaintext init).run state =
        (.ok (header, used, ciphertext), final) ∧
      blob = buildWire sid header used ciphertext init := by
  obtain ⟨plaintext, middle, lifted, rest⟩ := bind_returns returned
  obtain ⟨padded, rfl⟩ := lift_returns lifted
  obtain ⟨⟨header, used, ciphertext⟩, last, encrypted, framed⟩ := bind_returns rest
  cases framed
  rw [run_liftRatchet] at encrypted
  refine ⟨plaintext, header, used, ciphertext, padded, ?_, rfl⟩
  cases ran : (Ratchet.encrypt suite nonce plaintext init).run middle with
  | mk result after =>
      rw [ran, after_eq ran] at encrypted
      cases result with
      | error raised => cases encrypted
      | ok found =>
          cases encrypted
          rfl

/-- Sealing returns when padding and encryption do. -/
theorem run_sealWire {draw : Nat → Nat} {used : Bytes} {maxSize : Option Nat}
    (padded : Padding.padEnvelope draw envelope (some (maxSize.getD Padding.defaultMax)) =
      .ok plaintext)
    (encrypted : (Ratchet.encrypt suite nonce plaintext init).run state =
      (.ok (header, used, ciphertext), final)) :
    (sealWire suite draw nonce envelope sid init maxSize).run state =
      (.ok (buildWire sid header used ciphertext init), final) := by
  have lifted : (liftRatchet (Ratchet.encrypt suite nonce plaintext init)).run state =
      (.ok (header, used, ciphertext), final) := by
    rw [run_liftRatchet, encrypted, after_eq encrypted]
    rfl
  unfold sealWire
  dsimp only
  rw [padded, run_bind_ok (run_lift_ok _ state), run_bind_ok lifted]
  rfl

/-- A padded envelope is read back. -/
theorem unpadEnvelope_of_padEnvelope {draw : Nat → Nat} {limit : Nat}
    (canonical : envelope.Canonical) (object : envelope.isObj = true)
    (unpadded : envelope.get? "pad" = none)
    (padded : Padding.padEnvelope draw envelope (some limit) = .ok plaintext) :
    Padding.unpadEnvelope plaintext = .ok envelope := by
  by_cases exceeds : limit < Padding.baseLength envelope
  · rw [Padding.padEnvelope_exceeds exceeds] at padded
    cases padded
  · rw [Padding.padEnvelope_fits canonical object unpadded (Nat.le_of_not_lt exceeds)]
      at padded
    cases padded
    exact Padding.unpadEnvelope_padded canonical object unpadded _

/-- The object of a frame. -/
def frameObject (sid : Bytes) (header : Json) (nonce ciphertext : Bytes)
    (init : Option Json) : Json :=
  .mkObj ([
    ("v", .int wireVersion),
    ("sid", .str (b64e sid)),
    ("hdr", header),
    ("nonce", .str (b64e nonce)),
    ("ct", .str (b64e ciphertext))] ++ (init.map fun init => ("init", init)).toList)

theorem get?_frameObject (key : String) :
    (frameObject sid header nonce ciphertext init).get? key =
      if key = "init" then init
      else if key = "ct" then some (.str (b64e ciphertext))
      else if key = "nonce" then some (.str (b64e nonce))
      else if key = "hdr" then some header
      else if key = "sid" then some (.str (b64e sid))
      else if key = "v" then some (.int wireVersion)
      else none := by
  unfold frameObject
  cases init with
  | none =>
      simp only [Json.get?_mkObj, Option.map_none, Option.toList_none, List.append_nil,
        List.reverse_cons, List.reverse_nil, List.nil_append, List.cons_append,
        Dict.lookup_cons_eq_ite, List.lookup_nil]
      by_cases isInit : key = "init"
      · subst isInit
        simp
      · rw [if_neg isInit]
  | some init =>
      simp only [Json.get?_mkObj, Option.map_some, Option.toList_some, List.reverse_cons,
        List.reverse_nil, List.nil_append, List.cons_append, Dict.lookup_cons_eq_ite,
        List.lookup_nil]

theorem canonical_frameObject (headerCanonical : header.Canonical)
    (initCanonical : ∀ value ∈ init, value.Canonical) :
    (frameObject sid header nonce ciphertext init).Canonical := by
  apply Json.canonical_mkObj
  intro field member
  rcases List.mem_append.mp member with fixed | given
  · simp only [List.mem_cons, List.not_mem_nil, or_false] at fixed
    rcases fixed with rfl | rfl | rfl | rfl | rfl
    all_goals first | exact headerCanonical | exact trivial
  · obtain ⟨value, found, rfl⟩ := Option.map_eq_some_iff.mp (Option.mem_toList.mp given)
    exact initCanonical value found

/-- A frame is read back. -/
theorem parseWire_buildWire (headerCanonical : header.Canonical)
    (initCanonical : ∀ value ∈ init, value.Canonical) :
    parseWire (buildWire sid header nonce ciphertext init) =
      .ok (frameObject sid header nonce ciphertext init) := by
  apply parseWire_canonicalJson (canonical_frameObject headerCanonical initCanonical) rfl
  · simp [Json.getD, get?_frameObject, Json.equalsInt]
  · intro field member
    simp only [requiredFields, List.mem_cons, List.not_mem_nil, or_false] at member
    rcases member with rfl | rfl | rfl | rfl <;> simp [get?_frameObject]

theorem sid_frameObject :
    (do (← (frameObject sid header nonce ciphertext init).item "sid").toBytes) =
      Except.ok sid := by
  have item : (frameObject sid header nonce ciphertext init).item "sid" =
      .ok (.str (b64e sid)) :=
    Json.item_eq_ok.mpr (by simp [get?_frameObject])
  rw [item]
  exact toBytes_b64e sid

theorem openParts_frameObject (state : RatchetState) :
    (openParts suite newPrivate (frameObject sid header nonce ciphertext init)).run state =
      match (Ratchet.decrypt suite newPrivate header nonce ciphertext init).run state with
      | (.ok plaintext, final) => (.ok plaintext, final)
      | (.error raised, final) =>
          (.error { class_ := .wire
                    text := "could not open message: " ++ raised.raised.text }, final) := by
  have headerItem : (frameObject sid header nonce ciphertext init).item "hdr" =
      .ok header := Json.item_eq_ok.mpr (by simp [get?_frameObject])
  have nonceItem : (frameObject sid header nonce ciphertext init).item "nonce" =
      .ok (.str (b64e nonce)) := Json.item_eq_ok.mpr (by simp [get?_frameObject])
  have textItem : (frameObject sid header nonce ciphertext init).item "ct" =
      .ok (.str (b64e ciphertext)) := Json.item_eq_ok.mpr (by simp [get?_frameObject])
  have given : (frameObject sid header nonce ciphertext init).get? "init" = init := by
    simp [get?_frameObject]
  unfold openParts
  rw [headerItem, nonceItem, textItem, given, run_tryCatch]
  simp only [except_ok_bind, toBytes_b64e]
  rw [run_bind_ok (run_lift_ok _ state), run_bind_ok (run_lift_ok _ state),
    run_bind_ok (run_lift_ok _ state), run_liftRatchet]
  cases ran : (Ratchet.decrypt suite newPrivate header nonce ciphertext init).run state with
  | mk result after =>
      rw [after_eq ran]
      cases result <;> rfl

variable (headerCanonical : header.Canonical) (initCanonical : ∀ value ∈ init, value.Canonical)

include headerCanonical initCanonical

/-- The frame opens if its ciphertext does. -/
theorem unsealWire_opens
    (decrypted : (Ratchet.decrypt suite newPrivate header nonce ciphertext init).run state =
      (.ok plaintext, final))
    (unpadded : Padding.unpadEnvelope plaintext = .ok envelope) :
    (unsealWire suite newPrivate (buildWire sid header nonce ciphertext init)).run state =
      (.ok (envelope, sid, init.getD .null), final) := by
  have opened : (openParts suite newPrivate
      (frameObject sid header nonce ciphertext init)).run state = (.ok plaintext, final) := by
    rw [openParts_frameObject, decrypted]
  unfold unsealWire
  rw [parseWire_buildWire headerCanonical initCanonical, run_bind_ok (run_lift_ok _ state),
    run_bind_ok opened, unpadded, run_bind_ok (run_lift_ok _ final), sid_frameObject,
    run_bind_ok (run_lift_ok _ final)]
  simp [Json.getD, get?_frameObject]

/-- A ciphertext that does not open makes opening the frame a wire error. -/
theorem unsealWire_refuses {raised : RatchetError}
    (refused : (Ratchet.decrypt suite newPrivate header nonce ciphertext init).run state =
      (.error raised, final)) :
    ∃ text, (unsealWire suite newPrivate (buildWire sid header nonce ciphertext init)).run
      state = (.error { class_ := .wire, text }, final) := by
  have opened : ∃ text, (openParts suite newPrivate
      (frameObject sid header nonce ciphertext init)).run state =
        (.error { class_ := .wire, text }, final) := by
    rw [openParts_frameObject, refused]
    exact ⟨_, rfl⟩
  obtain ⟨text, opened⟩ := opened
  unfold unsealWire
  rw [parseWire_buildWire headerCanonical initCanonical, run_bind_ok (run_lift_ok _ state)]
  exact ⟨text, run_bind_error opened⟩

end Wire

end NoKnowledge
