import NoKnowledge.Core.FailedImports
import NoKnowledge.Core.RecordDelivery

/-!
# Exports come back

An export file opens under its passphrase as the bundle that was collected, its
header tells the true counts before it is opened, and a passphrase that derives
another key opens nothing.  To import a file is to merge the bundle.
-/

namespace NoKnowledge.Core.ExportFile

open Prog History

variable {library : Library} {suite : Suite} {environment : Environment} {account : Account}

variable (library suite environment account) in
/-- A file as an export of a window wrote it. -/
structure Exported (passphrase : String) (since until_ : Option Int) (budget : Int)
    (includeAttachments : Bool) (store : Store) (data : Bytes) (dated : DatedBundle)
    (salt key nonce ciphertext : Bytes) : Prop where
  given : passphrase ≠ ""
  since : dated.since = since.getD 0
  window : ∀ bound, until_ = some bound → dated.until_ = bound
  collected : collect store (account.identity.identityId suite) dated.since dated.until_
    budget includeAttachments = .ok dated.bundle
  size : nonce.length = 12
  derived : deriveKeyFromPassphrase library passphrase salt pbkdf2Iterations = .ok key
  sealed : sealBundle library suite dated key nonce = .ok ciphertext
  laid : layout (exportHeader dated salt) nonce ciphertext = .ok data

theorem boundedBundle_returns {since until_ budget : Int} {includeAttachments : Bool}
    {world final : World} {dated : DatedBundle}
    (returned : (boundedBundle suite environment account since until_ budget
      includeAttachments).run world = (.ok dated, final)) :
    dated.since = since ∧ dated.until_ = until_ ∧
      collect world.store (account.identity.identityId suite) since until_ budget
        includeAttachments = .ok dated.bundle := by
  obtain ⟨store, first, asked, returned⟩ := bind_returns returned
  cases asked
  obtain ⟨bundle, second, lifted, returned⟩ := bind_returns returned
  obtain ⟨collected, _⟩ := lift_returns lifted
  obtain ⟨created, third, timed, returned⟩ := bind_returns returned
  cases returned
  exact ⟨rfl, rfl, collected⟩

theorem datedBundle_returns {since until_ : Option Int} {budget : Int}
    {includeAttachments : Bool} {world final : World} {dated : DatedBundle}
    (returned : (datedBundle suite environment account since until_ budget
      includeAttachments).run world = (.ok dated, final)) :
    dated.since = since.getD 0 ∧ (∀ bound, until_ = some bound → dated.until_ = bound) ∧
      collect world.store (account.identity.identityId suite) dated.since dated.until_
        budget includeAttachments = .ok dated.bundle := by
  cases until_ with
  | some bound =>
      have bounded : (boundedBundle suite environment account (since.getD 0) bound budget
        includeAttachments).run world = (.ok dated, final) := returned
      obtain ⟨sinceSame, boundSame, collected⟩ := boundedBundle_returns bounded
      rw [sinceSame, boundSame]
      exact ⟨rfl, fun _ same => Option.some.inj same, collected⟩
  | none =>
      have bounded : (boundedBundle suite environment account (since.getD 0)
        (environment.clock world.tick / 1000) budget includeAttachments).run
          { world with tick := world.tick + 1 } = (.ok dated, final) := returned
      obtain ⟨sinceSame, boundSame, collected⟩ := boundedBundle_returns bounded
      rw [sinceSame, boundSame]
      exact ⟨rfl, fun _ same => (by cases same), collected⟩

theorem exportHistory_returns {passphrase : String} {since until_ : Option Int}
    {budget : Int} {includeAttachments : Bool} {world final : World} {data : Bytes}
    (returned : (exportHistory library suite environment account passphrase since until_
      budget includeAttachments).run world = (.ok data, final)) :
    ∃ dated salt key nonce ciphertext,
      Exported library suite account passphrase since until_ budget includeAttachments
        world.store data dated salt key nonce ciphertext := by
  unfold exportHistory at returned
  split at returned
  · cases returned
  · rename_i given
    obtain ⟨dated, first, gathered, afterDated⟩ := bind_returns returned
    obtain ⟨sinceSame, window, collected⟩ := datedBundle_returns gathered
    obtain ⟨salt, second, _, afterSalt⟩ := bind_returns afterDated
    obtain ⟨key, third, derivation, afterKey⟩ := bind_returns afterSalt
    obtain ⟨derived, _⟩ := lift_returns derivation
    obtain ⟨nonce, fourth, drawn, afterNonce⟩ := bind_returns afterKey
    obtain ⟨ciphertext, fifth, sealing, afterSealing⟩ := bind_returns afterNonce
    obtain ⟨sealed, _⟩ := lift_returns sealing
    obtain ⟨laid, _⟩ := lift_returns afterSealing
    exact ⟨dated, salt, key, _, ciphertext, given, sinceSame, window, sinceSame ▸ collected,
      length_urandom drawn, derived, sealed, laid⟩

variable {passphrase : String} {since until_ : Option Int} {budget : Int}
  {includeAttachments : Bool} {store : Store} {data : Bytes} {dated : DatedBundle}
  {salt key nonce ciphertext : Bytes}

/-- A passphrase that derives another key opens nothing. -/
theorem openFile_of_other_key (restores : Restores library suite)
    (binding : suite.AeadBinding)
    (exported : Exported library suite account passphrase since until_ budget
      includeAttachments store data dated salt key nonce ciphertext) {wrong : String}
    (other : deriveKeyFromPassphrase library wrong salt pbkdf2Iterations ≠
      deriveKeyFromPassphrase library passphrase salt pbkdf2Iterations) :
    ∃ raised, openFile library suite data wrong = .error raised := by
  have parts := parts_of_layout (canonical_exportHeader dated salt) exported.laid
  have encrypted : suite.aeadEncrypt key nonce
      (library.compress (canonicalJson dated.toDict) 9) historyMagic = some ciphertext := by
    have sealed := exported.sealed
    unfold sealBundle at sealed
    split at sealed
    · cases sealed
    · rename_i found same
      cases sealed
      exact same
  cases opened : openFile library suite data wrong with
  | error raised => exact ⟨raised, rfl⟩
  | ok bundle =>
      -- An opened file was decrypted under the derived key, so that key is the one it
      -- was sealed under.
      unfold openFile at opened
      rw [readExportHeader_of_parts parts, except_ok_bind] at opened
      obtain ⟨_, -, afterCheck⟩ := except_bind_eq_ok.mp opened
      rw [readKdf_exportHeader, except_ok_bind] at afterCheck
      dsimp only at afterCheck
      rw [parts.body] at afterCheck
      obtain ⟨_, -, afterSize⟩ := except_bind_eq_ok.mp afterCheck
      obtain ⟨derived, derivation, decryption⟩ := except_bind_eq_ok.mp afterSize
      rw [← exported.size, List.take_left, List.drop_left] at decryption
      split at decryption
      · cases decryption
      · rename_i plaintext decrypted
        have same := (binding decrypted (restores.decrypt _ _ _ _ _ exported.size encrypted)).1
        rw [derivation, same, ← exported.derived] at other
        exact absurd rfl other

variable (library suite) in
/-- What there is to be had from an export file. -/
structure ComesBack (data : Bytes) (passphrase : String) (dated : DatedBundle)
    (salt : Bytes) : Prop where
  header : ∃ header, readExportHeader data = .ok header ∧
    header.get? "counts" = some (counts dated.bundle)
  merges : ∀ (environment : Environment) (account : Account) (importer : World),
    (importHistory library suite environment account data passphrase).run importer =
      (mergeBundle suite environment account dated.sorted.toDict).run importer
  refuses : ∀ wrong, deriveKeyFromPassphrase library wrong salt pbkdf2Iterations ≠
      deriveKeyFromPassphrase library passphrase salt pbkdf2Iterations →
    ∀ (environment : Environment) (account : Account) (importer : World),
      ∃ raised, (importHistory library suite environment account data wrong).run importer =
        (.error raised, importer)

/-- An export file says the true counts of the bundle that was collected for its
window; importing it under its passphrase merges that bundle with the fields of its
objects in order, whoever imports it; and under a passphrase that derives another key
an import raises and changes nothing. -/
theorem export_comes_back (restores : Restores library suite) (binding : suite.AeadBinding)
    {world final : World}
    (returned : (exportHistory library suite environment account passphrase since until_
      budget includeAttachments).run world = (.ok data, final)) :
    ∃ (dated : DatedBundle) (salt : Bytes), dated.since = since.getD 0 ∧
      (∀ bound, until_ = some bound → dated.until_ = bound) ∧
      collect world.store (account.identity.identityId suite) dated.since dated.until_
        budget includeAttachments = .ok dated.bundle ∧
      ComesBack library suite data passphrase dated salt := by
  obtain ⟨dated, salt, key, nonce, ciphertext, exported⟩ := exportHistory_returns returned
  have parts := parts_of_layout (canonical_exportHeader dated salt) exported.laid
  have opened := openFile_of_layout restores exported.given exported.size exported.derived
    exported.sealed exported.laid
  refine ⟨dated, salt, exported.since, exported.window, exported.collected, ?_, ?_, ?_⟩
  · exact ⟨exportHeader dated salt, readExportHeader_of_parts parts,
      (exportHeader_get? dated salt).2.2⟩
  · intro environment account importer
    rw [FailedImports.run_importHistory, FailedImports.decoded, opened, except_ok_bind,
      decodeBundle_toDict]
  · intro wrong other environment account importer
    obtain ⟨raised, refused⟩ := openFile_of_other_key restores binding exported other
    refine ⟨raised, ?_⟩
    rw [FailedImports.run_importHistory, FailedImports.decoded, refused]
    rfl

namespace ExportSpecimen

def contact : ContactRow where
  identityId := Client.identityId Symbolic.suite .specimen
  id := "peer"
  nickname := some "Peer"
  isign := [1]
  idh := [2]
  bundleId := none
  inbox := .obj [("mailbox_id", .str "m")]
  relays := []
  session := none
  verified := true
  createdAt := 1

/-- A picture, with the fields of its body in the order they came in. -/
def message : Message where
  id := "message"
  identityId := Client.identityId Symbolic.suite .specimen
  contactId := "peer"
  direction := "received"
  type := "file"
  body := .obj [("caption", .str "here"),
    ("attachment", .obj [("name", .str "a"), ("chunks", .arr [.obj [("id", .str "chunk")]])])]
  remoteId := some "x"
  ts := 5
  state := some "received"

def world : World where
  store := {
    contacts := ⟨[contact], List.nodup_singleton _⟩
    messages := ⟨[message], List.nodup_singleton _⟩
    localBlobs := ⟨[⟨"chunk", [7, 8], 0⟩], List.nodup_singleton _⟩ }

/-- How many contacts, messages and chunks a bundle has. -/
def sizes (bundle : Bundle) : Nat × Nat × Nat :=
  (bundle.contacts.length, bundle.messages.length, bundle.chunks.length)

end ExportSpecimen

open ExportSpecimen in
/-- A picture of a contact, with the chunk that is held of it. -/
theorem export_comes_back_picture :
    ∃ data dated salt, ComesBack plainLibrary Symbolic.suite data "correct horse" dated salt ∧
      sizes dated.bundle = (1, 1, 1) := by
  have exports : ((exportHistory plainLibrary Symbolic.suite .idle .specimen "correct horse"
      (some 1) (some 9) 100 true).run world).1.toBool = true := by
    decide +kernel
  have gathers : (collect world.store (Account.specimen.identity.identityId Symbolic.suite)
      1 9 100 true).map sizes = .ok (1, 1, 1) := by
    decide +kernel
  cases ran : (exportHistory plainLibrary Symbolic.suite .idle .specimen "correct horse"
      (some 1) (some 9) 100 true).run world with
  | mk result final =>
      rw [ran] at exports
      cases result with
      | error raised => cases exports
      | ok data =>
          obtain ⟨dated, salt, since, window, collected, back⟩ :=
            export_comes_back restores_plainLibrary Symbolic.suite_aeadBinding ran
          refine ⟨data, dated, salt, back, ?_⟩
          have windowed : collect world.store
              (Account.specimen.identity.identityId Symbolic.suite) 1 9 100 true =
                .ok dated.bundle := by
            rw [since, window 9 rfl] at collected
            exact collected
          rw [windowed] at gathers
          exact Except.ok.inj gathers

end NoKnowledge.Core.ExportFile
