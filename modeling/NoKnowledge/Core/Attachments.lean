import NoKnowledge.Core.Client
import NoKnowledge.Core.RecordDelivery
import NoKnowledge.Core.SignedRecords
import NoKnowledge.Core.TransferDigest
import NoKnowledge.Crypto.SymbolicSuite

/-!
# Attachments

A file is cut into pieces, every piece is sealed under a nonce of its own, and a
manifest names the chunks in their order with their nonces and the hash of the
file.  The chunks in the order of the manifest give the file back, and the hash
keeps out any other file.
-/

namespace NoKnowledge.Core

open Prog

namespace Client

variable (suite : Suite)

/-- What `decrypt` raises: a malformed parameter is noticed before the tag. -/
def decryptError (key nonce : Bytes) : Raised :=
  { class_ := .aead
    text := if key.length ≠ keySize then "invalid key size: " ++ toString key.length
      else if nonce.length ≠ nonceSize then "invalid nonce size: " ++ toString nonce.length
      else "authentication failed" }

def decryptPiece (key : Bytes) (chunk : Bytes × Bytes) : Except Raised Bytes :=
  match suite.aeadDecrypt key chunk.1 chunk.2 [] with
  | some piece => .ok piece
  | none => .error (decryptError key chunk.1)

def decryptAttachment (key : Bytes) (nonces ciphertexts : List Bytes)
    (expectedSha256 : String) : Except Raised Bytes := do
  refuse (nonces.length ≠ ciphertexts.length)
    { class_ := .attachment, text := "chunk count mismatch" }
  let pieces ← (nonces.zip ciphertexts).mapM (decryptPiece suite key)
  refuse (Channel.hex (suite.sha256 pieces.flatten) ≠ expectedSha256)
    { class_ := .attachment, text := "attachment hash mismatch" }
  return pieces.flatten

/-- The manifest for chunk ids of any number. -/
def checkedManifest (attachment : Attachment) (chunkIds : List String) :
    Except Raised Json := do
  refuse (chunkIds.length ≠ attachment.chunks.length)
    { class_ := .attachment, text := "chunk id count mismatch" }
  return manifestDict attachment chunkIds

/-- What a manifest tells about its file. -/
structure Manifest where
  key : Bytes
  chunkIds : List String
  nonces : List Bytes
  sha256 : String
deriving DecidableEq

def chunkIdOf (entry : Json) : Except Raised String := do return (← entry.item "id").toText

def chunkNonceOf (entry : Json) : Except Raised Bytes := do (← entry.item "nonce").toBytes

/-- Read the fields of a manifest, before any check. -/
def readManifest (manifest : Json) : Except Raised (Manifest × Int) := do
  let key ← (← manifest.item "key").toBytes
  let size ← (← manifest.item "size").toInt
  let sha256 := (← manifest.item "sha256").toText
  let chunkIds ← (← (← manifest.item "chunks").elements).mapM chunkIdOf
  let nonces ← (← (← manifest.item "chunks").elements).mapM chunkNonceOf
  return ({ key, chunkIds, nonces, sha256 }, size)

def decodeManifest (manifest : Json) : Except Raised Manifest := do
  let (decoded, size) ← Except.rewrap ErrorClass.isMalformed
    (fun _ => { class_ := .attachment, text := "malformed attachment manifest" })
    (readManifest manifest)
  refuse (decoded.key.length ≠ keySize) { class_ := .attachment, text := "bad attachment key" }
  refuse (maxFileSize < size)
    { class_ := .attachment, text := "attachment exceeds maximum size" }
  return decoded

end Client

namespace Attachments

open Client

variable {suite : Suite} {environment : Environment} {data : Bytes}

/-- The first pieces are the front of the file. -/
theorem flatten_pieces_take (size count : Nat) :
    ((List.range count).map fun index => (data.drop (index * size)).take size).flatten =
      data.take (count * size) := by
  induction count with
  | zero => simp
  | succ count induction =>
      rw [List.range_succ, List.map_append, List.flatten_append, induction, Nat.succ_mul,
        List.take_add]
      simp

theorem flatten_pieces (data : Bytes) : (pieces data).flatten = data := by
  rw [pieces, flatten_pieces_take, List.take_of_length_le]
  have positive : 0 < chunkSize := by decide
  have enough := Nat.lt_div_mul_add (a := max data.length 1 + chunkSize - 1) positive
  omega

theorem length_piece_le {piece : Bytes} (member : piece ∈ pieces data) :
    piece.length ≤ chunkSize := by
  obtain ⟨index, -, rfl⟩ := List.mem_map.mp member
  exact List.length_take_le _ _

/-- Only the last piece may be short. -/
theorem length_piece {index : Nat} {piece : Bytes} (found : (pieces data)[index]? = some piece)
    (before : index + 1 < (pieces data).length) : piece.length = chunkSize := by
  rw [pieces, List.length_map, List.length_range] at before
  rw [pieces, List.getElem?_map, List.getElem?_range (by omega), Option.map_some] at found
  cases found
  rw [List.length_take, List.length_drop]
  have full : (index + 1) * chunkSize < max data.length 1 := by
    rw [chunkSize] at before ⊢
    omega
  rw [chunkSize] at full ⊢
  omega

/-- The cryptography attachments rest on: encryption under a key and a nonce of the
right sizes succeeds, and decryption inverts it. -/
structure Cipher (suite : Suite) : Prop where
  encrypts : ∀ {key nonce plaintext : Bytes}, key.length = keySize →
    nonce.length = nonceSize →
      ∃ ciphertext, suite.aeadEncrypt key nonce plaintext [] = some ciphertext
  decrypts : ∀ {key nonce plaintext ciphertext : Bytes}, nonce.length = nonceSize →
    suite.aeadEncrypt key nonce plaintext [] = some ciphertext →
      suite.aeadDecrypt key nonce ciphertext [] = some plaintext

/-- The suite of the source has it when the primitives do. -/
theorem cipher_suite {primitives : Primitives}
    (correct : ∀ key nonce plaintext ad, key.length = keySize → nonce.length = nonceSize →
      primitives.chachaDecrypt key nonce
        (primitives.chachaEncrypt key nonce plaintext ad) ad = some plaintext) :
    Cipher primitives.suite where
  encrypts := fun size _ => ⟨_, if_neg (not_not.mpr size)⟩
  decrypts := fun size encrypted =>
    primitives.suite_aeadCorrect correct _ _ _ _ _ size encrypted

/-- A chunk that was sealed from a piece. -/
structure SealedFrom (suite : Suite) (key : Bytes) (chunk : Bytes × Bytes) (piece : Bytes) :
    Prop where
  size : chunk.1.length = nonceSize
  encrypted : suite.aeadEncrypt key chunk.1 piece [] = some chunk.2

theorem SealedFrom.opens (cipher : Cipher suite) {key piece : Bytes} {chunk : Bytes × Bytes}
    (made : SealedFrom suite key chunk piece) : decryptPiece suite key chunk = .ok piece := by
  rw [decryptPiece, cipher.decrypts made.size made.encrypted]

theorem run_encryptPieces (cipher : Cipher suite) (environment : Environment) {key : Bytes}
    (keyLength : key.length = keySize) (items : List Bytes) (world : World) :
    ∃ chunks final,
      (items.mapM (encryptPiece suite environment key)).run world = (.ok chunks, final) ∧
        List.Forall₂ (SealedFrom suite key) chunks items := by
  have := lawful (σ := World) (ε := Raised)
  induction items generalizing world with
  | nil => exact ⟨[], world, rfl, .nil⟩
  | cons piece items induction =>
      have nonceLength := @length_drawnAt environment nonceSize world.tick
      obtain ⟨ciphertext, encrypted⟩ :=
        @Cipher.encrypts suite cipher key _ piece keyLength nonceLength
      have first : (encryptPiece suite environment key piece).run world =
          (.ok (drawnAt environment nonceSize world.tick, ciphertext),
            { world with tick := world.tick + 1 }) := by
        rw [encryptPiece, run_bind_ok (run_urandom nonceSize world), encrypted]
        rfl
      have sealed : SealedFrom suite key
          (drawnAt environment nonceSize world.tick, ciphertext) piece :=
        ⟨nonceLength, encrypted⟩
      obtain ⟨chunks, final, rest, made⟩ := induction { world with tick := world.tick + 1 }
      refine ⟨_ :: chunks, final, ?_, .cons sealed made⟩
      rw [List.mapM_cons, run_bind_ok first, run_bind_ok rest]
      rfl

/-- Encryption of a file that is not too large. -/
theorem encryptAttachment_returns (cipher : Cipher suite) (fits : data.length ≤ maxFileSize)
    (environment : Environment) (world : World) :
    ∃ attachment final,
      (encryptAttachment suite environment data).run world = (.ok attachment, final) ∧
        attachment.key.length = keySize ∧ attachment.size = data.length ∧
        attachment.sha256 = Channel.hex (suite.sha256 data) ∧
        List.Forall₂ (SealedFrom suite attachment.key) attachment.chunks (pieces data) := by
  have keyLength := @length_drawnAt environment keySize world.tick
  obtain ⟨chunks, final, sealed, made⟩ := run_encryptPieces cipher environment
    keyLength (pieces data) { world with tick := world.tick + 1 }
  refine ⟨⟨_, chunks, data.length, Channel.hex (suite.sha256 data)⟩, final, ?_, keyLength, rfl,
    rfl, made⟩
  rw [encryptAttachment, if_neg (Nat.not_lt.mpr fits), run_bind_ok (run_urandom keySize world),
    run_bind_ok sealed]
  rfl

theorem mapM_of_forall₂ {α β : Type} {read : α → Except Raised β} {items : List α}
    {values : List β}
    (reads : List.Forall₂ (fun item value => read item = .ok value) items values) :
    items.mapM read = .ok values := by
  induction reads with
  | nil => rfl
  | cons here _ induction =>
      rw [List.mapM_cons, here, except_ok_bind, induction]
      rfl

/-- The chunks in their order give the file back. -/
theorem decryptAttachment_made (cipher : Cipher suite) {key : Bytes}
    {chunks : List (Bytes × Bytes)}
    (made : List.Forall₂ (SealedFrom suite key) chunks (pieces data)) :
    decryptAttachment suite key (chunks.map Prod.fst) (chunks.map Prod.snd)
      (Channel.hex (suite.sha256 data)) = .ok data := by
  have opened : ((chunks.map Prod.fst).zip (chunks.map Prod.snd)).mapM (decryptPiece suite key) =
      .ok (pieces data) := by
    rw [List.zip_map', List.map_id']
    exact mapM_of_forall₂ (made.imp fun chunk piece sealed => sealed.opens cipher)
  refine except_bind_eq_ok.mpr ⟨(), refuse_eq_ok.mpr (by simp), ?_⟩
  refine except_bind_eq_ok.mpr ⟨_, opened, ?_⟩
  rw [flatten_pieces]
  exact except_bind_eq_ok.mpr ⟨(), refuse_eq_ok.mpr (by simp), rfl⟩

/-- Whatever chunks are decrypted, they are refused unless what they give has the hash
of the file. -/
theorem decryptAttachment_returned {key found : Bytes} {nonces ciphertexts : List Bytes}
    (returned : decryptAttachment suite key nonces ciphertexts
      (Channel.hex (suite.sha256 data)) = .ok found) :
    ∃ opened, (nonces.zip ciphertexts).mapM (decryptPiece suite key) = .ok opened ∧
      opened.flatten = found ∧ suite.sha256 found = suite.sha256 data := by
  obtain ⟨_, -, returned⟩ := except_bind_eq_ok.mp returned
  obtain ⟨opened, here, returned⟩ := except_bind_eq_ok.mp returned
  obtain ⟨_, accepted, returned⟩ := except_bind_eq_ok.mp returned
  cases returned
  have same := refuse_eq_ok.mp accepted
  exact ⟨opened, here, rfl, Channel.hex_injective (by simpa using same)⟩

theorem get?_manifestDict (attachment : Attachment) (chunkIds : List String) (key : String) :
    (manifestDict attachment chunkIds).get? key =
      if key = "chunks" then some (.arr ((chunkIds.zip attachment.chunks).map fun entry =>
        .mkObj [("id", .str entry.1), ("nonce", .str (b64e entry.2.1))]))
      else if key = "sha256" then some (.str attachment.sha256)
      else if key = "size" then some (.int attachment.size)
      else if key = "key" then some (.str (b64e attachment.key))
      else none := by
  simp only [manifestDict, Json.get?_mkObj, List.reverse_cons, List.reverse_nil,
    List.nil_append, List.cons_append, Dict.lookup_cons_eq_ite, List.lookup_nil]

/-- A reader of chunk entries finds what the writer put there. -/
theorem mapM_entries {α : Type} (read : Json → Except Raised α)
    (value : String × Bytes × Bytes → α) (entries : List (String × Bytes × Bytes))
    (reads : ∀ entry : String × Bytes × Bytes,
      read (.mkObj [("id", .str entry.1), ("nonce", .str (b64e entry.2.1))]) =
        .ok (value entry)) :
    (entries.map fun entry => Json.mkObj
      [("id", .str entry.1), ("nonce", .str (b64e entry.2.1))]).mapM read =
        .ok (entries.map value) := by
  apply mapM_of_forall₂
  rw [List.forall₂_map_left_iff, List.forall₂_map_right_iff]
  exact List.forall₂_same.mpr fun entry _ => reads entry

theorem decodeManifest_manifestDict {attachment : Attachment} {chunkIds : List String}
    (count : chunkIds.length = attachment.chunks.length)
    (keyLength : attachment.key.length = keySize) (fits : attachment.size ≤ maxFileSize) :
    decodeManifest (manifestDict attachment chunkIds) =
      .ok ⟨attachment.key, chunkIds, attachment.chunks.map Prod.fst, attachment.sha256⟩ := by
  have key : (manifestDict attachment chunkIds).item "key" = .ok (.str (b64e attachment.key)) :=
    Json.item_eq_ok.mpr (by simp [get?_manifestDict])
  have size : (manifestDict attachment chunkIds).item "size" = .ok (.int attachment.size) :=
    Json.item_eq_ok.mpr (by simp [get?_manifestDict])
  have sha256 : (manifestDict attachment chunkIds).item "sha256" =
      .ok (.str attachment.sha256) :=
    Json.item_eq_ok.mpr (by simp [get?_manifestDict])
  have chunks := Json.item_eq_ok.mpr (get?_manifestDict attachment chunkIds "chunks")
  have ids := mapM_entries chunkIdOf Prod.fst
    (chunkIds.zip attachment.chunks) fun entry =>
      except_bind_eq_ok.mpr ⟨.str entry.1, Json.item_eq_ok.mpr (by
        simp [Json.get?_mkObj, Dict.lookup_cons_eq_ite]), rfl⟩
  have nonces := mapM_entries chunkNonceOf (fun entry => entry.2.1)
    (chunkIds.zip attachment.chunks) fun entry =>
      except_bind_eq_ok.mpr ⟨.str (b64e entry.2.1), Json.item_eq_ok.mpr (by
        simp [Json.get?_mkObj]), toBytes_b64e _⟩
  rw [List.map_fst_zip (Nat.le_of_eq count)] at ids
  have second : (fun entry : String × Bytes × Bytes => entry.2.1) = Prod.fst ∘ Prod.snd := rfl
  rw [second, ← List.map_map, List.map_snd_zip (Nat.le_of_eq count.symm)] at nonces
  have read : readManifest (manifestDict attachment chunkIds) =
      .ok (⟨attachment.key, chunkIds, attachment.chunks.map Prod.fst, attachment.sha256⟩,
        attachment.size) := by
    refine except_bind_eq_ok.mpr ⟨_, key, ?_⟩
    refine except_bind_eq_ok.mpr ⟨_, toBytes_b64e _, ?_⟩
    refine except_bind_eq_ok.mpr ⟨_, size, ?_⟩
    refine except_bind_eq_ok.mpr ⟨_, Json.toInt_of_toInt? rfl, ?_⟩
    refine except_bind_eq_ok.mpr ⟨_, sha256, ?_⟩
    refine except_bind_eq_ok.mpr ⟨_, chunks, ?_⟩
    refine except_bind_eq_ok.mpr ⟨_, rfl, ?_⟩
    refine except_bind_eq_ok.mpr ⟨_, ids, ?_⟩
    refine except_bind_eq_ok.mpr ⟨_, chunks, ?_⟩
    refine except_bind_eq_ok.mpr ⟨_, rfl, ?_⟩
    exact except_bind_eq_ok.mpr ⟨_, nonces, rfl⟩
  have small : ¬ (maxFileSize : Int) < attachment.size := by
    rw [not_lt]
    exact_mod_cast fits
  refine except_bind_eq_ok.mpr ⟨_, Except.rewrap_eq_ok.mpr read, ?_⟩
  refine except_bind_eq_ok.mpr ⟨(), refuse_eq_ok.mpr (by simp [keyLength]), ?_⟩
  exact except_bind_eq_ok.mpr ⟨(), refuse_eq_ok.mpr (decide_eq_false small), rfl⟩

/-- What encryption makes of a file. -/
structure RoundTrip (suite : Suite) (data : Bytes) (attachment : Attachment) : Prop where
  /-- The manifest is decoded, and the chunks in its order are the file. -/
  returns : ∀ chunkIds : List String, chunkIds.length = attachment.chunks.length →
    ∃ manifest decoded, checkedManifest attachment chunkIds = .ok manifest ∧
      decodeManifest manifest = .ok decoded ∧ decoded.chunkIds = chunkIds ∧
      decryptAttachment suite decoded.key decoded.nonces (attachment.chunks.map Prod.snd)
        decoded.sha256 = .ok data
  /-- Every chunk but the last carries a full piece. -/
  full : ∀ index chunk, attachment.chunks[index]? = some chunk →
    ∃ piece, decryptPiece suite attachment.key chunk = .ok piece ∧
      piece.length ≤ chunkSize ∧
      (index + 1 < attachment.chunks.length → piece.length = chunkSize)
  /-- Chunks that do not give the file are refused, when what they give does not happen
  to have its hash. -/
  refuses : ∀ nonces ciphertexts : List Bytes,
    (∀ opened, (nonces.zip ciphertexts).mapM (decryptPiece suite attachment.key) = .ok opened →
      opened.flatten ≠ data ∧
        (suite.sha256 opened.flatten = suite.sha256 data → opened.flatten = data)) →
    ∃ raised, decryptAttachment suite attachment.key nonces ciphertexts attachment.sha256 =
      .error raised

theorem attachments_round_trip {suite : Suite} (cipher : Cipher suite) {data : Bytes}
    (fits : data.length ≤ maxFileSize) (environment : Environment) (world : World) :
    ∃ attachment final,
      (encryptAttachment suite environment data).run world = (.ok attachment, final) ∧
        RoundTrip suite data attachment := by
  obtain ⟨attachment, final, ran, keyLength, size, sha256, made⟩ :=
    encryptAttachment_returns cipher fits environment world
  refine ⟨attachment, final, ran, ?_, ?_, ?_⟩
  · intro chunkIds count
    refine ⟨_, _, except_bind_eq_ok.mpr ⟨(), refuse_eq_ok.mpr (by simp [count]), rfl⟩,
      decodeManifest_manifestDict count keyLength (size ▸ fits), rfl, ?_⟩
    rw [sha256]
    exact decryptAttachment_made cipher made
  · intro index chunk found
    have bound := (List.getElem?_eq_some_iff.mp found).1
    have counts := made.length_eq
    obtain ⟨piece, pieceFound⟩ : ∃ piece, (pieces data)[index]? = some piece :=
      ⟨_, List.getElem?_eq_getElem (counts ▸ bound)⟩
    have sealed : SealedFrom suite attachment.key chunk piece := by
      have aligned := made.get bound (counts ▸ bound)
      rw [List.get_eq_getElem, List.get_eq_getElem] at aligned
      rwa [(List.getElem?_eq_some_iff.mp found).2,
        (List.getElem?_eq_some_iff.mp pieceFound).2] at aligned
    exact ⟨piece, sealed.opens cipher, length_piece_le (List.mem_of_getElem? pieceFound),
      fun before => length_piece pieceFound (counts ▸ before)⟩
  · intro nonces ciphertexts other
    rw [sha256]
    cases returned : decryptAttachment suite attachment.key nonces ciphertexts
        (Channel.hex (suite.sha256 data)) with
    | error raised => exact ⟨raised, rfl⟩
    | ok found =>
        obtain ⟨opened, here, rfl, same⟩ := decryptAttachment_returned returned
        obtain ⟨different, collisionFree⟩ := other opened here
        exact absurd (collisionFree same) different

theorem cipher_symbolic : Cipher Symbolic.suite where
  encrypts := fun _ _ => ⟨_, rfl⟩
  decrypts := fun _ encrypted => Symbolic.aeadDecrypt_aeadEncrypt encrypted

/-- A file of exactly one full piece. -/
theorem attachments_round_trip_full :
    ∃ attachment final,
      (encryptAttachment Symbolic.suite Environment.idle (List.replicate chunkSize 0)).run
          { store := {} } = (.ok attachment, final) ∧
        RoundTrip Symbolic.suite (List.replicate chunkSize 0) attachment := by
  have fits : (List.replicate chunkSize (0 : UInt8)).length ≤ maxFileSize := by
    rw [List.length_replicate]
    decide
  exact attachments_round_trip cipher_symbolic fits Environment.idle { store := {} }

end Attachments

end NoKnowledge.Core
