import NoKnowledge.Core.Reception
import NoKnowledge.Crypto.SymbolicSuite

/-!
# Contact ids are fingerprints

A contact is filed under the fingerprint of its keys.  Cards are checked for
this when they are read.  A contact item of a history bundle, of a back-fill or
of a mirror is not: it is filed under whatever id it brings, so the binding
holds along the runs whose contact items are genuine.
-/

namespace NoKnowledge.Core.Binding

open Prog

variable (suite : Suite) (environment : Environment) (account : Account)

/-- The keys of a contact hash to the id it is filed under. -/
def Bound (row : ContactRow) : Prop := row.id = computeIdentityId suite row.isign row.idh

/-- Every contact is bound, and some ids are known. -/
structure Holds (known : String → Prop) (world : World) : Prop where
  bound : ∀ row ∈ world.store.contacts, Bound suite row
  known : ∀ id, known id →
    world.store.contacts.HasKey (account.identity.identityId suite, id)

/-- The frame that keeps contacts bound. -/
def kept (known : String → Prop) : Frame World where
  rel := fun first second =>
    Holds suite account known first → Holds suite account known second
  refl := fun _ holds => holds
  trans := fun first second holds => second (first holds)

variable {suite environment account} {known : String → Prop}

theorem holds_of_contacts {first second : World}
    (same : second.store.contacts = first.store.contacts) :
    (kept suite account known).rel first second := by
  intro holds
  exact ⟨same ▸ holds.bound, same ▸ holds.known⟩

theorem permissive : Permissive (kept suite account known) where
  quiet := {
    tick := fun _ _ => holds_of_contacts rfl
    put := fun _ _ => holds_of_contacts rfl
    siblingKeys := fun _ _ => holds_of_contacts rfl
    deviceList := fun _ _ _ => holds_of_contacts rfl
    deviceKeys := fun _ _ => holds_of_contacts rfl }
  mirror := AllowsRecord.mirrors fun _ _ _ => holds_of_contacts rfl
  sessions := by
    intro world contactId session holds
    refine ⟨?_, fun id isKnown => (holds.known id isKnown).update _⟩
    intro row member
    obtain ⟨old, oldMember, rfl⟩ := Table.mem_update.mp member
    have oldBound := holds.bound old oldMember
    simp only [Table.Change.at]
    split
    · exact oldBound
    · exact oldBound
  messages := fun _ _ => holds_of_contacts rfl
  outbox := fun _ _ => holds_of_contacts rfl
  localBlobs := fun _ _ => holds_of_contacts rfl
  prekeys := fun _ _ _ _ => holds_of_contacts rfl
  index := fun _ _ => holds_of_contacts rfl
  state := fun _ _ _ _ _ => holds_of_contacts rfl

/-- Filing a bound row keeps contacts bound. -/
theorem holds_withContact {world : World} {row : ContactRow} (bound : Bound suite row) :
    (kept suite account known).rel world (world.withContact row) := by
  intro holds
  refine ⟨?_, fun id isKnown => (holds.known id isKnown).upsert _ _⟩
  intro other member
  rcases Table.mem_upsert.mp member with ⟨-, old | rfl⟩ | ⟨-, old, oldMember, rfl⟩
  · exact holds.bound other old
  · exact bound
  · simp only [Table.Change.at]
    split
    · rename_i sameKey
      have sameId : old.id = row.id := congrArg Prod.snd sameKey
      show old.id = computeIdentityId suite row.isign row.idh
      rw [sameId]
      exact bound
    · exact holds.bound old oldMember

theorem card_bound {data : Json} {card : ContactCard}
    (read : ContactCard.fromDict suite data = .ok card) :
    card.identityId = computeIdentityId suite card.isign card.idh := by
  unfold ContactCard.fromDict at read
  simp only [except_bind_eq_ok, refuse_eq_ok] at read
  obtain ⟨_, _, _, _, found, _, _, _, _, checked, _, _, _, _, returned⟩ := read
  cases returned
  have same : computeIdentityId suite card.isign card.idh = card.identityId := by
    simpa using checked
  exact same.symm

theorem keeps_addContact (data : Json) (nickname : Option String) :
    Keeps (kept suite account known)
      (Client.addContact suite environment account data nickname) := by
  intro world
  apply keeps_bind_run (keeps_lift _ world)
  intro card middle returned
  obtain ⟨read, rfl⟩ := lift_returns returned
  have bound := card_bound (Except.rewrap_eq_ok.mp read)
  split
  · exact keeps_throw _ middle
  · exact keeps_storeCard permissive.quiet (fun _ _ _ _ => holds_withContact bound)
      nickname middle

theorem provenCard_bound {session : Session} {envelope : Json} {card : ContactCard}
    (proven : Client.provenCard suite session envelope = .ok (some card)) :
    card.identityId = computeIdentityId suite card.isign card.idh := by
  simp only [Client.provenCard] at proven
  split at proven
  · cases proven
  · split at proven
    · split at proven
      · cases proven
      · split at proven
        · split at proven <;> cases proven
        · rename_i read
          split at proven
          · cases proven
          · simp only [except_bind_eq_ok] at proven
            obtain ⟨text, _, isign, _, checked⟩ := proven
            split at checked
            · cases checked
            · cases checked
              exact card_bound read
    · cases proven

theorem keeps_handleBlob (blob : Bytes) :
    Keeps (kept suite account known) (Client.handleBlob suite environment account blob) :=
  permissive.handleBlob (fun _ _ _ proven => keeps_storeCard permissive.quiet
    (fun _ _ _ _ => holds_withContact (provenCard_bound proven)) none) blob

/-- The id a contact item is filed under. -/
def itemId (item : Json) : String := ((item.getD "id").orElse (.str "")).toText

variable (suite account) in
/-- The row of a contact item, if there is one, is bound. -/
def GenuineItem (item : Json) : Prop :=
  ∀ now row, History.contactRow (account.identity.identityId suite) item (itemId item)
    now = .ok row → Bound suite row

variable (suite account) in
/-- Each contact item that is filed under an id not known by then is genuine. -/
def Genuine (known : String → Prop) : List Json → Prop
  | [] => True
  | item :: items =>
      (itemId item = "" ∨ known (itemId item) ∨ GenuineItem suite account item) ∧
        Genuine (fun id => known id ∨ id = itemId item ∧ id ≠ "") items

/-- One contact item, known or genuine. -/
theorem keeps_contactItem {item : Json}
    (genuine : itemId item = "" ∨ known (itemId item) ∨ GenuineItem suite account item) :
    Keeps (kept suite account known)
      (History.mergeContact suite environment account item) := by
  apply keeps_mergeContact permissive.quiet
  intro world now row given unknown read holds
  rcases genuine with blank | isKnown | genuine
  · exact absurd blank given
  · exact absurd unknown (Table.hasKey_iff.mp (holds.known _ isKnown))
  · exact holds_withContact (genuine now row read) holds

theorem contactRow_key {identityId contactId : String} {item : Json} {now : Int}
    {row : ContactRow}
    (read : History.contactRow identityId item contactId now = .ok row) :
    row.key = (identityId, contactId) := by
  simp only [History.contactRow, except_bind_eq_ok] at read
  obtain ⟨_, _, _, _, _, _, built⟩ := read
  cases built
  rfl

/-- A contact that was merged is known, whether it was new or not. -/
theorem mergeContact_known {item : Json} {world final : World} {added : Bool}
    (returned : (History.mergeContact suite environment account item).run world =
      (.ok added, final)) :
    itemId item = "" ∨
      final.store.contacts.HasKey (account.identity.identityId suite, itemId item) := by
  obtain ⟨id, middle, attempted, rest⟩ := bind_returns returned
  obtain ⟨read, rfl⟩ := lift_returns attempted
  rw [← Json.attempt_eq_ok read] at rest
  dsimp only at rest
  split at rest
  · exact Or.inl ‹_›
  · right
    rw [run_bind_ok (run_askStore _ _)] at rest
    split at rest
    · rename_i found
      cases rest
      exact Table.hasKey_iff.mpr (Option.ne_none_iff_exists'.mpr ⟨_, found⟩)
    · obtain ⟨now, later, _, afterTime⟩ := bind_returns rest
      obtain ⟨row, same, converted, afterRow⟩ := bind_returns afterTime
      obtain ⟨filed, rfl⟩ := lift_returns converted
      obtain ⟨_, filedWorld, upserted, finished⟩ := bind_returns afterRow
      cases finished
      have filedUnder : row.key = (account.identity.identityId suite, itemId item) :=
        contactRow_key filed
      rw [upsertContact_returns upserted, ← filedUnder]
      exact Table.hasKey_upsert_self _ _ _

/-- Contact items, one after the other. -/
theorem keeps_contactItems {items : List Json} (genuine : Genuine suite account known items)
    (counts : History.Counts) :
    Keeps (kept suite account known)
      (History.mergeContacts suite environment account items counts) := by
  induction items generalizing known counts with
  | nil => exact keeps_pure counts
  | cons item items induction =>
      intro world
      unfold History.mergeContacts
      rw [List.foldlM_cons]
      apply keeps_bind_run
      · refine keeps_bind (keeps_contactItem genuine.1) (fun added => ?_) world
        split <;> exact keeps_pure _
      · intro next middle returned holds
        obtain ⟨added, merged, mergedRun, finished⟩ := bind_returns returned
        have sameWorld : middle = merged := by
          cases added <;> cases finished <;> rfl
        subst sameWorld
        have larger : Holds suite account (fun id => known id ∨ id = itemId item ∧ id ≠ "")
            middle := by
          refine ⟨holds.bound, ?_⟩
          rintro id (isKnown | ⟨rfl, given⟩)
          · exact holds.known id isKnown
          · exact (mergeContact_known mergedRun).resolve_left given
        have after := induction genuine.2 next middle larger
        exact ⟨after.bound, fun id isKnown => after.known id (Or.inl isKnown)⟩

/-- A contact item reads its keys back. -/
theorem contactRow_contactItem {identityId contactId : String} {contact row : ContactRow}
    {now : Int} (read : History.contactRow identityId (History.contactItem contact)
      contactId now = .ok row) :
    row.id = contactId ∧ row.isign = contact.isign ∧ row.idh = contact.idh := by
  have isign : (History.contactItem contact).item "isign" =
      .ok (.str (b64e contact.isign)) := by
    rw [Json.item_eq_ok]
    simp [History.contactItem, Json.get?_mkObj, List.lookup_cons]
  have idh : (History.contactItem contact).item "idh" = .ok (.str (b64e contact.idh)) := by
    rw [Json.item_eq_ok]
    simp [History.contactItem, Json.get?_mkObj, List.lookup_cons]
  simp only [History.contactRow, isign, idh, except_ok_bind, except_bind_eq_ok,
    Except.rewrap_eq_ok, Json.toText_str, Json.toBytes, b64d_b64e] at read
  obtain ⟨fields, ⟨_, _, _, _, collected⟩, _, _, _, _, built⟩ := read
  cases collected
  cases built
  exact ⟨rfl, rfl, rfl⟩

/-- What a device exports of a bound contact is genuine. -/
theorem genuineItem_contactItem {contact : ContactRow} (bound : Bound suite contact) :
    GenuineItem suite account (History.contactItem contact) := by
  intro now row read
  obtain ⟨sameId, sameIsign, sameIdh⟩ := contactRow_contactItem read
  have exported : itemId (History.contactItem contact) = contact.id := by
    have read : (History.contactItem contact).getD "id" = .str contact.id := by
      simp [History.contactItem, Json.getD, Json.get?_mkObj, List.lookup_cons]
    by_cases blank : contact.id = "" <;> simp [itemId, read, Json.orElse, blank]
  show row.id = _
  rw [sameId, exported, sameIsign, sameIdh]
  exact bound

/-- What can bring contacts in. -/
inductive Step where
  | addContact (data : Json) (nickname : Option String)
  | handleBlob (blob : Bytes)
  | importHistory (bundle : Json)
  | handleRecord (blob : Bytes)

variable (suite environment account)

def Step.program : Step → ClientProg Unit
  | addContact data nickname => do
      let _ ← Client.addContact suite environment account data nickname
  | handleBlob blob => Client.handleBlob suite environment account blob
  | importHistory bundle => do
      let _ ← History.importHistory suite environment account bundle
  | handleRecord blob => Sync.handleRecord suite environment account blob

/-- The ids of the contacts a client has. -/
def knownIn (world : World) (id : String) : Prop :=
  world.store.contacts.HasKey (account.identity.identityId suite, id)

/-- The contact items of a step that are not known before are genuine. -/
def Step.Genuine (world : World) : Step → Prop
  | addContact _ _ => True
  | handleBlob _ => True
  | importHistory bundle => ∀ items, History.itemsOf bundle "contacts" = .ok items →
      Binding.Genuine suite account (knownIn suite account world) items
  | handleRecord blob => ∀ sagreePrivate sdev deviceId kind header plaintext payload,
      Channel.openRecord suite blob sagreePrivate sdev deviceId =
        .ok (kind, header, plaintext) →
      Sync.loads plaintext = .ok payload →
        Binding.Genuine suite account (knownIn suite account world)
          (recordContacts kind payload)

/-- The states of the runs whose contact items are genuine. -/
inductive Reachable : World → Prop
  | empty (world : World) (noContacts : world.store.contacts = Table.empty) :
      Reachable world
  | step {world : World} (step : Step) (reached : Reachable world)
      (genuine : step.Genuine suite account world) :
      Reachable ((step.program suite environment account).after world)

variable {suite environment account}

theorem Step.keeps {step : Step} {world : World}
    (genuine : step.Genuine suite account world) :
    Keeps (kept suite account (knownIn suite account world))
      (step.program suite environment account) := by
  cases step with
  | addContact data nickname =>
      exact keeps_bind (keeps_addContact data nickname) fun _ => keeps_pure _
  | handleBlob blob => exact keeps_handleBlob blob
  | importHistory bundle =>
      refine keeps_bind (fun current => ?_) fun _ => keeps_pure _
      apply keeps_bind_run (keeps_lift _ current)
      intro decoded middle returned
      obtain ⟨read, rfl⟩ := lift_returns returned
      rw [decodeBundle_eq read]
      exact permissive.mergeBundle (fun items itemsRead =>
        keeps_contactItems (genuine items itemsRead) {}) middle
  | handleRecord blob =>
      apply permissive.handleRecord (fun _ _ => holds_of_contacts rfl)
      · exact fun _ _ _ _ => permissive.quiet.markApproved
          (fun _ _ => holds_of_contacts rfl) _ _ _ _
      · exact fun _ _ _ kind header plaintext payload opened loaded =>
          keeps_contactItems (genuine _ _ _ kind header plaintext payload opened loaded) {}

/-- Along every run whose contact items are genuine, every contact is filed
under the fingerprint of its keys. -/
theorem contacts_are_fingerprints {world : World}
    (reached : Reachable suite environment account world) :
    ∀ row ∈ world.store.contacts, row.id = computeIdentityId suite row.isign row.idh := by
  induction reached with
  | empty world noContacts =>
      intro row member
      rw [noContacts] at member
      cases member
  | @step world step reached genuine induction =>
      have holds : Holds suite account (knownIn suite account world) world :=
        ⟨induction, fun _ isKnown => isKnown⟩
      exact (Step.keeps genuine world holds).bound

/-- The contact with the keys 7 and 8, filed under some id. -/
def filedAs (id : String) : ContactRow where
  identityId := "me"
  id := id
  nickname := none
  isign := [7]
  idh := [8]
  bundleId := none
  inbox := .obj []
  relays := []
  session := none
  verified := false
  createdAt := 1

/-- The bundle that brings one contact. -/
def contactBundle (contact : ContactRow) : Json :=
  .mkObj [("v", .int 1), ("contacts", .arr [History.contactItem contact]),
    ("messages", .arr []), ("chunks", .arr [])]

theorem itemsOf_contactBundle (contact : ContactRow) :
    History.itemsOf (contactBundle contact) "contacts" =
      .ok [History.contactItem contact] := by
  have read : (contactBundle contact).getD "contacts" =
      .arr [History.contactItem contact] := by
    simp [contactBundle, Json.getD, Json.get?_mkObj, List.lookup_cons]
  show (((contactBundle contact).getD "contacts").orElse (.arr [])).elements = _
  rw [read]
  rfl

/-- The store after a genuine contact was imported. -/
def genuineImport : World :=
  (Step.program Symbolic.suite .idle .specimen (.importHistory (contactBundle (filedAs
    (computeIdentityId Symbolic.suite [7] [8]))))).after { store := {} }

/-- A genuine contact is imported under its fingerprint. -/
theorem contacts_are_fingerprints_imported :
    ∃ row ∈ genuineImport.store.contacts.rows,
      row.id = computeIdentityId Symbolic.suite row.isign row.idh := by
  have start : Reachable Symbolic.suite .idle .specimen { store := {} } :=
    Reachable.empty _ rfl
  have imported : genuineImport.store.contacts.rows.length = 1 := by
    decide +kernel
  obtain ⟨row, only⟩ := List.length_eq_one_iff.mp imported
  have member : row ∈ genuineImport.store.contacts.rows := by
    rw [only]
    exact List.mem_singleton_self row
  refine ⟨row, member, ?_⟩
  apply contacts_are_fingerprints (start.step _ ?_) row member
  intro items read
  rw [itemsOf_contactBundle] at read
  cases read
  exact ⟨Or.inr (Or.inr (genuineItem_contactItem rfl)), trivial⟩

/-- A contact is imported under any id, whatever its keys are. -/
theorem contact_imported_under_foreign_id :
    ¬ ∀ row ∈ ((Step.importHistory (contactBundle (filedAs "mallory"))).program
        Symbolic.suite .idle .specimen |>.after { store := {} }).store.contacts.rows,
      row.id = computeIdentityId Symbolic.suite row.isign row.idh := by
  decide +kernel

end NoKnowledge.Core.Binding
