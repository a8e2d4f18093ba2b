import NoKnowledge.Core.History
import NoKnowledge.Core.RecordIntegrity
import NoKnowledge.Core.SignedRecords

/-!
# Encrypted export files

The layout is the magic, the version, the header length in four octets, the header,
a nonce and a ciphertext.  The header is in the clear, so that a reader knows the
parameters of the key derivation and the counts before unlocking; what it says is not
authenticated.  The ciphertext holds the compressed bundle.
-/

namespace NoKnowledge.Core.ExportFile

open History

def historyMagic : Bytes := utf8 "NKX1"

def pbkdf2Iterations : Int := 600000

def localKeySize : Nat := 32

/-- The key derivation and the compression of the libraries. -/
structure Library where
  pbkdf2 : (salt : Bytes) → (iterations : Int) → (length : Nat) → (password : Bytes) →
    Except Raised Bytes
  compress : (plaintext : Bytes) → (level : Nat) → Bytes
  decompress : Bytes → Option Bytes

variable (library : Library)

def deriveKeyFromPassphrase (passphrase : String) (salt : Bytes) (iterations : Int) :
    Except Raised Bytes :=
  library.pbkdf2 salt iterations localKeySize (utf8 passphrase)

variable (suite : Suite) (environment : Environment) (account : Account)

/-- A bundle with what is said about its making. -/
structure DatedBundle where
  created : Int
  fromDevice : String
  since : Int
  until_ : Int
  bundle : Bundle

def DatedBundle.toDict (dated : DatedBundle) : Json :=
  .mkObj [
    ("v", .int historyVersion),
    ("created", .int dated.created),
    ("from_device", .str dated.fromDevice),
    ("range", .mkObj [("since", .int dated.since), ("until", .int dated.until_)]),
    ("contacts", .arr dated.bundle.contacts),
    ("messages", .arr dated.bundle.messages),
    ("chunks", .arr dated.bundle.chunks),
    ("skipped", .arr dated.bundle.skipped)]

/-- A bundle as a reader of its text has it: every object with its fields in order. -/
def DatedBundle.sorted (dated : DatedBundle) : DatedBundle where
  created := dated.created
  fromDevice := dated.fromDevice
  since := dated.since
  until_ := dated.until_
  bundle := {
    contacts := dated.bundle.contacts.map Json.normalize
    messages := dated.bundle.messages.map Json.normalize
    chunks := dated.bundle.chunks.map Json.normalize
    skipped := dated.bundle.skipped.map Json.normalize }

/-- What a window holds, with or without the chunks. -/
def collect (store : Store) (identityId : String) (since until_ budget : Int)
    (includeAttachments : Bool) : Except Raised Bundle :=
  if includeAttachments then buildBundle store identityId since until_ budget
  else .ok {
    contacts := (store.listContacts identityId).map contactItem
    messages := windowItems store identityId since until_
    chunks := []
    skipped := [] }

/-- Collect the history of a window. -/
def datedBundle (since until_ : Option Int) (budget : Int) (includeAttachments : Bool) :
    ClientProg DatedBundle := do
  let until_ ← match until_ with
    | some until_ => pure until_
    | none => nowMs environment
  let since := since.getD 0
  let store ← askStore id
  let bundle ← Prog.lift (collect store (account.identity.identityId suite) since until_
    budget includeAttachments)
  let created ← nowMs environment
  return {
    created, since, until_, bundle
    fromDevice := if account.deviceId = "" then "legacy" else account.deviceId }

/-- What is left of collecting a bundle once both ends of its window are known. -/
def boundedBundle (since until_ budget : Int) (includeAttachments : Bool) :
    ClientProg DatedBundle := do
  let store ← askStore id
  let bundle ← Prog.lift (collect store (account.identity.identityId suite) since until_
    budget includeAttachments)
  let created ← nowMs environment
  return {
    created, since, until_, bundle
    fromDevice := if account.deviceId = "" then "legacy" else account.deviceId }

/-- How many items a bundle has. -/
def counts (bundle : Bundle) : Json :=
  .mkObj [
    ("contacts", .int bundle.contacts.length),
    ("messages", .int bundle.messages.length),
    ("chunks", .int bundle.chunks.length),
    ("skipped", .int bundle.skipped.length)]

def exportHeader (dated : DatedBundle) (salt : Bytes) : Json :=
  .mkObj [
    ("v", .int historyVersion),
    ("created", .int dated.created),
    ("kdf", .mkObj [("salt", .str (b64e salt)), ("iterations", .int pbkdf2Iterations)]),
    ("counts", counts dated.bundle)]

/-- The bytes of a file with a header. -/
def layout (header : Json) (nonce ciphertext : Bytes) : Except Raised Bytes := do
  let headerBytes := canonicalJson header
  let headerLength ← fourBytes headerBytes.length
  return historyMagic ++ [UInt8.ofNat historyVersion.toNat] ++ headerLength ++ headerBytes ++
    nonce ++ ciphertext

/-- Seal the compressed bundle. -/
def sealBundle (dated : DatedBundle) (key nonce : Bytes) : Except Raised Bytes :=
  match suite.aeadEncrypt key nonce
      (library.compress (canonicalJson dated.toDict) 9) historyMagic with
  | none => .error { class_ := .aead }
  | some ciphertext => .ok ciphertext

def exportHistory (passphrase : String) (since until_ : Option Int) (budget : Int)
    (includeAttachments : Bool) : ClientProg Bytes := do
  if passphrase = "" then
    throw { class_ := .history, text := "a passphrase is required to export history" }
  else
    let dated ← datedBundle suite environment account since until_ budget includeAttachments
    let salt ← urandom environment 16
    let key ← Prog.lift (deriveKeyFromPassphrase library passphrase salt pbkdf2Iterations)
    let nonce ← urandom environment 12
    let ciphertext ← Prog.lift (sealBundle library suite dated key nonce)
    Prog.lift (layout (exportHeader dated salt) nonce ciphertext)

def isHistoryFile (data : Bytes) : Bool := data.take 4 = historyMagic

def truncated : Raised := { class_ := .history, text := "history file is truncated" }

/-- The header length of a file. -/
def headerLength (data : Bytes) : Nat := fromBigEndian ((data.drop 5).take 4)

/-- The cleartext header of an export file. -/
def readExportHeader (data : Bytes) : Except Raised Json := do
  refuse (!isHistoryFile data)
    { class_ := .history, text := "not a noknowledge history file" }
  match data[4]?, loadJson ((data.drop 9).take (headerLength data)) with
  | some version, some header =>
      let unsupported : Raised :=
        { class_ := .history, text := "unsupported history file version" }
      if version ≠ UInt8.ofNat historyVersion.toNat then throw unsupported
      else
        refuse (!(← header.attempt "v").equalsInt historyVersion) unsupported
        return header
  | _, _ => throw truncated

/-- What a header says about the key derivation. -/
def readKdf (header : Json) : Except Raised (Bytes × Int) :=
  Except.rewrap ErrorClass.isMalformed
    (fun _ => { class_ := .history, text := "malformed history file header" }) do
      let kdf ← header.item "kdf"
      let salt ← (Json.str (← kdf.item "salt").toText).toBytes
      let iterations ← (← kdf.item "iterations").toInt
      return (salt, iterations)

/-- The bundle of a decrypted file. -/
def readBundle (plaintext : Bytes) : Except Raised Json :=
  match library.decompress plaintext with
  | none => .error { class_ := .history, text := "history file is damaged" }
  | some data =>
      match decodeUtf8 data with
      | none => .error { class_ := .value }
      | some _ =>
          match loadJson data with
          | none => .error { class_ := .history, text := "history bundle is not valid JSON" }
          | some bundle => .ok bundle

/-- Decrypt an export file. -/
def openFile (data : Bytes) (passphrase : String) : Except Raised Json := do
  let header ← readExportHeader data
  refuse (passphrase = "")
    { class_ := .history, text := "this history file needs its passphrase" }
  let (salt, iterations) ← readKdf header
  let body := data.drop (9 + headerLength data)
  refuse (body.length ≤ 12) truncated
  let key ← deriveKeyFromPassphrase library passphrase salt iterations
  match suite.aeadDecrypt key (body.take 12) (body.drop 12) historyMagic with
  | none => throw { class_ := .history, text := "wrong passphrase, or the file is damaged" }
  | some plaintext => readBundle library plaintext

/-- Import an export file. -/
def importHistory (data : Bytes) (passphrase : String) : ClientProg Counts := do
  History.importHistory suite environment account
    (← Prog.lift (openFile library suite data passphrase))

variable {library suite environment account}

variable (library suite) in
/-- What an export relies on: decompression and decryption undo compression and
encryption, and a ciphertext has its tag. -/
structure Restores : Prop where
  decompress : ∀ plaintext level, library.decompress (library.compress plaintext level) =
    some plaintext
  decrypt : suite.AeadCorrect
  tagged : ∀ {key nonce plaintext ad ciphertext},
    suite.aeadEncrypt key nonce plaintext ad = some ciphertext → ciphertext ≠ []

theorem canonical_exportHeader (dated : DatedBundle) (salt : Bytes) :
    (exportHeader dated salt).Canonical := by
  apply Json.canonical_mkObj
  intro field member
  simp only [List.mem_cons, List.not_mem_nil, or_false] at member
  rcases member with rfl | rfl | rfl | rfl
  · simp [Json.Canonical]
  · simp [Json.Canonical]
  · exact Json.canonical_mkObj (by simp [Json.Canonical])
  · exact Json.canonical_mkObj (by simp [Json.Canonical])

theorem historyMagic_eq : historyMagic = [78, 75, 88, 49] := by decide

/-- What the parts of a file are. -/
structure Parts (data : Bytes) (header : Json) (body : Bytes) : Prop where
  magic : isHistoryFile data = true
  version : data[4]? = some 1
  header : loadJson ((data.drop 9).take (headerLength data)) = some header
  body : data.drop (9 + headerLength data) = body

theorem parts_of_layout {header : Json} {nonce ciphertext data : Bytes}
    (canonical : header.Canonical) (laid : layout header nonce ciphertext = .ok data) :
    Parts data header (nonce ++ ciphertext) := by
  obtain ⟨octets, encoded, built⟩ := except_bind_eq_ok.mp laid
  obtain ⟨length, value⟩ := Channel.fourBytes_eq_ok encoded
  have loaded := loadJson_canonicalJson canonical
  have size : fromBigEndian octets = (canonicalJson header).length := by
    exact_mod_cast value
  obtain ⟨first, second, third, fourth, rfl⟩ := Channel.fourOctets length
  cases built
  constructor
  · simp [isHistoryFile, historyMagic_eq]
  · simp [historyMagic_eq, historyVersion]
  · simp [headerLength, historyMagic_eq, size, loaded]
  · rw [Nat.add_comm]
    simp [headerLength, historyMagic_eq, size]

theorem exportHeader_get? (dated : DatedBundle) (salt : Bytes) :
    (exportHeader dated salt).get? "v" = some (.int historyVersion) ∧
      (exportHeader dated salt).get? "kdf" = some (.mkObj [
        ("salt", .str (b64e salt)), ("iterations", .int pbkdf2Iterations)]) ∧
      (exportHeader dated salt).get? "counts" = some (counts dated.bundle) := by
  refine ⟨?_, ?_, ?_⟩ <;>
    simp [exportHeader, Json.get?_mkObj, Dict.lookup_cons_eq_ite]

/-- The header of a file is the one it was written with. -/
theorem readExportHeader_of_parts {dated : DatedBundle} {salt data body : Bytes}
    (parts : Parts data (exportHeader dated salt) body) :
    readExportHeader data = .ok (exportHeader dated salt) := by
  have version : (exportHeader dated salt).attempt "v" = .ok (.int historyVersion) := by
    have read := (exportHeader_get? dated salt).1
    show Except.ok (((exportHeader dated salt).get? "v").getD .null) = _
    rw [read]
    rfl
  have same : ¬ (1 : UInt8) ≠ UInt8.ofNat historyVersion.toNat := by decide
  unfold readExportHeader
  rw [parts.magic, parts.version, parts.header]
  dsimp only
  rw [if_neg same, version]
  rfl

theorem readKdf_exportHeader (dated : DatedBundle) (salt : Bytes) :
    readKdf (exportHeader dated salt) = .ok (salt, pbkdf2Iterations) := by
  have kdf := Json.item_eq_ok.mpr (exportHeader_get? dated salt).2.1
  have saltRead : (Json.mkObj [("salt", .str (b64e salt)),
      ("iterations", .int pbkdf2Iterations)]).item "salt" = .ok (.str (b64e salt)) :=
    Json.item_eq_ok.mpr (by simp [Json.get?_mkObj, Dict.lookup_cons_eq_ite])
  have iterations : (Json.mkObj [("salt", .str (b64e salt)),
      ("iterations", .int pbkdf2Iterations)]).item "iterations" = .ok (.int pbkdf2Iterations) :=
    Json.item_eq_ok.mpr (by simp [Json.get?_mkObj])
  have text : (Json.str (b64e salt)).toText = b64e salt := rfl
  apply Except.rewrap_eq_ok.mpr
  rw [show (exportHeader dated salt).item "kdf" = _ from kdf, except_ok_bind, saltRead,
    except_ok_bind, text, toBytes_b64e, except_ok_bind, iterations]
  rfl

theorem normalize_toDict (dated : DatedBundle) :
    dated.toDict.normalize = dated.sorted.toDict := by
  have range : (Json.mkObj [("since", .int dated.since),
      ("until", .int dated.until_)]).normalize =
        .mkObj [("since", .int dated.since), ("until", .int dated.until_)] :=
    Json.normalize_canonical _ (Json.canonical_mkObj (by simp [Json.Canonical]))
  rw [DatedBundle.toDict, Json.normalize_mkObj]
  simp only [List.map_cons, List.map_nil, range, Json.normalize, Json.normalizeItems_eq_map]
  rfl

/-- A file opens under its passphrase as the bundle it was written with. -/
theorem openFile_of_layout (restores : Restores library suite) {dated : DatedBundle}
    {passphrase : String} {salt key nonce ciphertext data : Bytes} (given : passphrase ≠ "")
    (size : nonce.length = 12)
    (derived : deriveKeyFromPassphrase library passphrase salt pbkdf2Iterations = .ok key)
    (sealed : sealBundle library suite dated key nonce = .ok ciphertext)
    (laid : layout (exportHeader dated salt) nonce ciphertext = .ok data) :
    openFile library suite data passphrase = .ok dated.sorted.toDict := by
  have parts := parts_of_layout (canonical_exportHeader dated salt) laid
  have encrypted : suite.aeadEncrypt key nonce
      (library.compress (canonicalJson dated.toDict) 9) historyMagic = some ciphertext := by
    unfold sealBundle at sealed
    split at sealed
    · cases sealed
    · rename_i found same
      cases sealed
      exact same
  have long : ¬ (nonce ++ ciphertext).length ≤ 12 := by
    have positive := List.length_pos_iff.mpr (restores.tagged encrypted)
    rw [List.length_append, size]
    omega
  have decrypted : suite.aeadDecrypt key ((nonce ++ ciphertext).take 12)
      ((nonce ++ ciphertext).drop 12) historyMagic =
        some (library.compress (canonicalJson dated.toDict) 9) := by
    rw [← size, List.take_left, List.drop_left]
    exact restores.decrypt _ _ _ _ _ size encrypted
  have text : decodeUtf8 (canonicalJson dated.toDict) = some _ := decodeUtf8_utf8 _
  have bundle : readBundle library (library.compress (canonicalJson dated.toDict) 9) =
      .ok dated.sorted.toDict := by
    unfold readBundle
    rw [restores.decompress]
    dsimp only
    rw [text, Json.loadJson_canonicalJson_eq, normalize_toDict]
  have passes : refuse (decide (passphrase = ""))
      { class_ := .history, text := "this history file needs its passphrase" } = .ok () := by
    rw [decide_eq_false given]
    rfl
  have fills : refuse (decide ((nonce ++ ciphertext).length ≤ 12)) truncated = .ok () := by
    rw [decide_eq_false long]
    rfl
  unfold openFile
  rw [readExportHeader_of_parts parts, except_ok_bind, passes, except_ok_bind,
    readKdf_exportHeader, except_ok_bind]
  dsimp only
  rw [parts.body, fills, except_ok_bind, derived, except_ok_bind, decrypted]
  exact bundle

theorem toDict_getD (dated : DatedBundle) :
    dated.toDict.getD "v" = .int historyVersion ∧
      dated.toDict.getD "contacts" = .arr dated.bundle.contacts ∧
      dated.toDict.getD "messages" = .arr dated.bundle.messages ∧
      dated.toDict.getD "chunks" = .arr dated.bundle.chunks := by
  refine ⟨?_, ?_, ?_, ?_⟩ <;>
    simp [DatedBundle.toDict, Json.getD, Json.get?_mkObj, Dict.lookup_cons_eq_ite]

/-- The bundle of an export passes the checks of an import. -/
theorem decodeBundle_toDict (dated : DatedBundle) :
    decodeBundle dated.toDict = .ok dated.toDict := by
  obtain ⟨version, contacts, messages, chunks⟩ := toDict_getD dated
  have object : dated.toDict.isObj = true := rfl
  have supported : (Json.int historyVersion).equalsInt historyVersion = true := by decide
  unfold decodeBundle
  rw [object, version, supported]
  have complete : bundleFields.find? (fun field => !isArr (dated.toDict.getD field)) =
      none := by
    simp [bundleFields, contacts, messages, chunks, isArr]
  rw [complete]
  rfl

/-- The lists of a bundle are read from its object. -/
theorem itemsOf_toDict (dated : DatedBundle) :
    itemsOf dated.toDict "contacts" = .ok dated.bundle.contacts ∧
      itemsOf dated.toDict "messages" = .ok dated.bundle.messages ∧
      itemsOf dated.toDict "chunks" = .ok dated.bundle.chunks := by
  obtain ⟨-, contacts, messages, chunks⟩ := toDict_getD dated
  have list : ∀ field items, dated.toDict.getD field = .arr items →
      itemsOf dated.toDict field = .ok items := by
    intro field items found
    have attempted : dated.toDict.attempt field = .ok (.arr items) := by
      rw [← found]
      rfl
    rw [itemsOf, attempted]
    cases items <;> rfl
  exact ⟨list _ _ contacts, list _ _ messages, list _ _ chunks⟩

/-- Key derivation and compression that lose nothing. -/
def plainLibrary : Library where
  pbkdf2 := fun salt _ _ password => .ok (salt ++ password)
  compress := fun plaintext _ => plaintext
  decompress := some

theorem restores_plainLibrary : Restores plainLibrary Symbolic.suite where
  decompress := fun _ _ => rfl
  decrypt := Symbolic.suite_aeadCorrect
  tagged := by
    intro key nonce plaintext ad ciphertext encrypted
    cases encrypted
    exact List.cons_ne_nil _ _

end NoKnowledge.Core.ExportFile
