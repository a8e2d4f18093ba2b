import NoKnowledge.Core.Collection
import NoKnowledge.Core.ContactSeparation
import NoKnowledge.Core.ExportFile
import NoKnowledge.Core.FailedApprovals

/-!
# Bodies a contact can send

A text or a file is stored with the body it came with, whatever that is.
Collection walks into the bodies of the window and raises at one that has
another shape, so a contact can end every later export and back-fill.  Where the
bodies can be walked through, an export fails at its passphrase, its key, its
sealing or its layout only, and an approval where it is announced or where a
record is written.
-/

namespace NoKnowledge.Core.HostileBodies

open Prog History

variable {suite : Suite} {environment : Environment} {account : Account}

/-- Collection can walk through every message. -/
def AllWalkable (messages : Table Message.id) : Prop :=
  ∀ row ∈ messages, Walkable row.body

/-- A body is walkable when its attachment is missing. -/
theorem walkable_plain {body : Json} (object : ObjectOrEmpty body)
    (missing : body.getD "attachment" = .null) : Walkable body where
  itself := object
  attachment := by
    rw [missing]
    exact fun impossible => absurd impossible Bool.false_ne_true
  chunks := by
    rw [missing]
    exact fun impossible => absurd impossible Bool.false_ne_true

theorem walkable_text (text : String) : Walkable (.mkObj [("text", .str text)]) :=
  walkable_plain (fun _ => rfl) (by
    simp [Json.getD, Json.get?_mkObj, Dict.lookup_cons_eq_ite])

theorem walkable_file {body : Json} (file : FileBody body) : Walkable body := by
  obtain ⟨attachment, chunkIds, caption, name, mime, rfl⟩ := file
  have manifest : (Json.mkObj [("caption", .str caption), ("attachment",
      ((Client.manifestDict attachment chunkIds).setField "name" (.str name)).setField
        "mime" (.str mime))]).getD "attachment" =
      ((Client.manifestDict attachment chunkIds).setField "name" (.str name)).setField
        "mime" (.str mime) := by
    simp [Json.getD, Json.get?_mkObj]
  have chunks : (((Client.manifestDict attachment chunkIds).setField "name"
      (.str name)).setField "mime" (.str mime)).getD "chunks" =
      .arr ((chunkIds.zip attachment.chunks).map fun entry =>
        .mkObj [("id", .str entry.1), ("nonce", .str (b64e entry.2.1))]) := by
    unfold Client.manifestDict Json.mkObj
    show ((Json.obj _).setField "mime" _ |>.get? "chunks").getD _ = _
    rw [Json.get?_setField]
    show ((if "chunks" = "mime" then _ else ((Json.obj _).setField "name" _).get?
      "chunks") : Option Json).getD _ = _
    rw [Json.get?_setField]
    show (((Json.mkObj [_, _, _, _]).get? "chunks") : Option Json).getD _ = _
    rw [Json.get?_mkObj]
    rfl
  constructor
  · exact fun _ => rfl
  · rw [manifest]
    exact fun _ => rfl
  · rw [manifest, chunks]
    refine fun _ => ⟨_, rfl, fun entry member => ?_⟩
    obtain ⟨_, -, rfl⟩ := List.mem_map.mp member
    rfl

theorem walkable_insertMessage {messages : Table Message.id} {new : Message}
    (walkable : AllWalkable messages) (body : Walkable new.body) :
    AllWalkable (Store.insertMessage messages new) := by
  intro row member
  rcases Table.mem_upsert_iff.mp member with rfl | ⟨old, -⟩
  · cases messages.get? new.id with
    | none => exact body
    | some old => exact body
  · exact walkable row old

theorem walkable_setMessageState {messages : Table Message.id}
    (walkable : AllWalkable messages) (id : String) (state : Option String) :
    AllWalkable (Store.setMessageState messages id state) := by
  intro row member
  obtain ⟨old, oldMember, rfl⟩ := Table.mem_update.mp member
  have body : (((Store.withState state).at id).apply old).body = old.body := by
    simp only [Table.Change.at]
    split <;> rfl
  rw [body]
  exact walkable old oldMember

/-- Keeping the messages walkable. -/
def keepingWalkable : Frame World where
  rel := fun first second =>
    AllWalkable first.store.messages → AllWalkable second.store.messages
  refl := fun _ walkable => walkable
  trans := fun left right walkable => right (left walkable)

theorem receptive_keepingWalkable : Receptive keepingWalkable :=
  receptive_aside.mono (fun passed walkable => by rwa [passed.messages])
    (AllowsRecord.mirrors fun _ _ _ walkable => walkable)

theorem messageRow_body {input : MessageInput} {row : Message}
    (converted : Store.messageRow input = .ok row) : row.body = input.body := by
  simp only [Store.messageRow, except_bind_eq_ok] at converted
  obtain ⟨_, _, _, _, _, _, _, _, _, _, _, _, _, _, built⟩ := converted
  cases built
  rfl

theorem keepsWalkable_addMessage {input : MessageInput} (body : Walkable input.body) :
    Keeps keepingWalkable (onStore (Store.addMessage input)) := by
  intro world
  apply rel_addMessage
  intro row converted walkable
  exact walkable_insertMessage walkable (messageRow_body converted ▸ body)

theorem walkable_orElse {body : Json} (walkable : Walkable body) :
    Walkable (body.orElse (.obj [])) := by
  unfold Json.orElse
  split
  · exact walkable
  · exact walkable_plain (fun _ => rfl) rfl

/-- An envelope whose text or file can be walked through. -/
def Shaped (envelope : Json) : Prop :=
  Separation.isMessage envelope = true → Walkable (envelope.getD "body")

theorem keepsWalkable_processEnvelope (contact : ContactRow) {envelope : Json}
    (shaped : Shaped envelope) :
    Keeps keepingWalkable
      (Client.processEnvelope suite environment account contact envelope) := by
  intro world walkable
  have left := @Separation.processEnvelope_leaves suite environment account contact
    envelope world
  rw [left.1]
  cases asked : Separation.requestOf suite environment account contact.id envelope world with
  | nothing => exact walkable
  | store row =>
      apply walkable_insertMessage walkable
      obtain ⟨-, converted⟩ := Separation.requestOf_store asked
      obtain ⟨ts, -, stored⟩ := except_bind_eq_ok.mp converted
      rw [messageRow_body stored]
      apply walkable_orElse
      exact shaped (Separation.isMessage_of_store asked)
  | acknowledge receipt =>
      unfold Separation.Request.messages Separation.Receipt.messages
      dsimp only
      split
      · exact walkable
      · exact walkable_setMessageState walkable _ _

/-- What fills the history of a client: envelopes of contacts and own sends. -/
inductive Step where
  | processEnvelope (contact : ContactRow) (envelope : Json)
  | sendText (contactId text : String)
  | sendFile (contactId name mime caption : String) (data : Bytes)

variable (suite environment account)

def Step.program : Step → ClientProg Unit
  | processEnvelope contact envelope =>
      Client.processEnvelope suite environment account contact envelope
  | sendText contactId text =>
      discard (Client.sendText suite environment account contactId text)
  | sendFile contactId name mime caption data =>
      discard (Client.sendFile suite environment account contactId name mime caption data)

def Step.Shaped : Step → Prop
  | processEnvelope _ envelope => HostileBodies.Shaped envelope
  | _ => True

inductive Reachable : World → Prop
  | empty {world : World} (none : world.store.messages = Table.empty) : Reachable world
  | step {world : World} (step : Step) (reached : Reachable world) (shaped : step.Shaped) :
      Reachable ((step.program suite environment account).after world)

variable {suite environment account}

theorem Step.keepsWalkable {step : Step} (shaped : step.Shaped) :
    Keeps keepingWalkable (step.program suite environment account) := by
  cases step with
  | processEnvelope contact envelope => exact keepsWalkable_processEnvelope contact shaped
  | sendText contactId text =>
      apply keeps_discard
      apply receptive_keepingWalkable.sendText
      intro input same
      exact keepsWalkable_addMessage (same ▸ walkable_text text)
  | sendFile contactId name mime caption data =>
      apply keeps_discard
      apply receptive_keepingWalkable.sendFile
      exact fun input file => keepsWalkable_addMessage (walkable_file file)

theorem Reachable.walkable {world : World}
    (reached : Reachable suite environment account world) :
    AllWalkable world.store.messages := by
  induction reached with
  | empty none =>
      intro row member
      rw [none] at member
      cases member
  | step step _ shaped walkable => exact Step.keepsWalkable shaped _ walkable

theorem AllWalkable.collectable {store : Store} (walkable : AllWalkable store.messages)
    (identityId : String) (since until_ budget : Int) :
    ∃ bundle, buildBundle store identityId since until_ budget = .ok bundle :=
  buildBundle_returns_iff.mpr fun message member =>
    walkable message (mem_windowMessages.mp member).1

/-- What is walkable before a part of a program is walkable after it. -/
theorem AllWalkable.kept {α : Type} {program : ClientProg α} {world final : World}
    {result : Except Raised α} (walkable : AllWalkable world.store.messages)
    (keeps : Keeps keepingWalkable program) (ran : program.run world = (result, final)) :
    AllWalkable final.store.messages := by
  have after := keeps world walkable
  rwa [after_eq ran] at after

variable {library : ExportFile.Library}

theorem AllWalkable.collect_returns {store : Store} (walkable : AllWalkable store.messages)
    (identityId : String) (since until_ budget : Int) (includeAttachments : Bool) :
    ∃ bundle, ExportFile.collect store identityId since until_ budget includeAttachments =
      .ok bundle := by
  unfold ExportFile.collect
  split
  · exact walkable.collectable identityId since until_ budget
  · exact ⟨_, rfl⟩

/-- A window of walkable messages is collected. -/
theorem AllWalkable.datedBundle_returns {world : World}
    (walkable : AllWalkable world.store.messages) (since until_ : Option Int) (budget : Int)
    (includeAttachments : Bool) :
    ∃ dated final, (ExportFile.datedBundle suite environment account since until_ budget
      includeAttachments).run world = (.ok dated, final) := by
  have bounded : ∀ until_ middle, AllWalkable middle.store.messages → ∃ dated final,
      (ExportFile.boundedBundle suite environment account (since.getD 0) until_ budget
        includeAttachments).run middle = (.ok dated, final) := by
    intro until_ middle walkable
    obtain ⟨bundle, collected⟩ := walkable.collect_returns
      (account.identity.identityId suite) (since.getD 0) until_ budget includeAttachments
    have asked : (askStore id).run middle = (.ok middle.store, middle) := rfl
    unfold ExportFile.boundedBundle
    rw [run_bind_ok asked, run_bind_ok (run_lift_eq collected middle),
      run_bind_ok (run_nowMs middle)]
    exact ⟨_, _, rfl⟩
  cases until_ with
  | some until_ => exact bounded until_ world walkable
  | none =>
      exact bounded (environment.clock world.tick / 1000)
        { world with tick := world.tick + 1 } walkable

end NoKnowledge.Core.HostileBodies
