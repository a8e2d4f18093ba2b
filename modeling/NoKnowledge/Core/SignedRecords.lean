import NoKnowledge.Core.Card
import NoKnowledge.Core.Devices
import NoKnowledge.Crypto.SymbolicSuite
import NoKnowledge.Crypto.X3dh
import NoKnowledge.Foundation.JsonOrder

/-!
# Records an account signs

A contact card, a device list and a device key record are read back from what
they were written to.  A reader verifies the signature over the fields it has
read, written again, and not over the received text; what it accepts is
nevertheless what the key holder has signed.
-/

namespace NoKnowledge

open Json

variable {suite : Suite} {identity : Identity}

theorem get?_setField_mkObj (bindings : List (String × Json)) (key other : String)
    (value : Json) :
    ((mkObj bindings).setField key value).get? other =
      if other = key then some value else (mkObj bindings).get? other := by
  rw [mkObj, get?_setField]

theorem toBytes_b64e (data : Bytes) : (Json.str (b64e data)).toBytes = .ok data :=
  toBytes_str_eq_ok.mpr (b64d_b64e data)

theorem attempt_of_get? {value found : Json} {key : String}
    (stored : value.get? key = some found) : value.attempt key = .ok found := by
  cases value with
  | obj fields => exact congrArg (fun found => Except.ok (found.getD null)) stored
  | _ => cases stored

theorem orElse_arr {items : List Json} (nonempty : items ≠ []) (other : Json) :
    (Json.arr items).orElse other = .arr items := by
  cases items with
  | nil => exact absurd rfl nonempty
  | cons item items => rfl

theorem MailboxCapability.fromCardView_cardView {capability : MailboxCapability}
    (writeOnly : capability.readToken = none) :
    fromCardView capability.cardView = .ok capability := by
  have id : capability.cardView.item "id" = .ok (.str capability.mailboxId) :=
    item_eq_ok.mpr (by simp [cardView, get?_mkObj, Dict.lookup_cons_eq_ite])
  have token : capability.cardView.item "w" = .ok (.str capability.writeToken) :=
    item_eq_ok.mpr (by simp [cardView, get?_mkObj])
  unfold fromCardView
  rw [id, token]
  cases capability
  cases writeOnly
  rfl

theorem MailboxCapability.fromCardView_writeOnly {view : Json}
    {capability : MailboxCapability} (read : fromCardView view = .ok capability) :
    capability.readToken = none := by
  obtain ⟨_, -, read⟩ := except_bind_eq_ok.mp read
  obtain ⟨_, -, read⟩ := except_bind_eq_ok.mp read
  cases read
  rfl

/-! ## Contact cards -/

namespace ContactCard

variable (card : ContactCard)

/-- A name that says nothing is left out. -/
def shownName : Json := card.name.orElse .null

theorem truthy_shownName : card.shownName.truthy = card.name.truthy := by
  unfold shownName orElse
  split
  · rfl
  · rename_i empty
    simp only [Bool.not_eq_true] at empty
    rw [empty]
    rfl

theorem get?_payload (key : String) :
    card.payload.get? key =
      if key = "name" then (if card.name.truthy then some card.name else none)
      else if key = "relays" then some (.arr card.relays)
      else if key = "inbox" then some card.inbox.cardView
      else if key = "bundle" then some (.str card.bundleId)
      else if key = "idh" then some (.str (b64e card.idh))
      else if key = "isign" then some (.str (b64e card.isign))
      else if key = "id" then some (.str card.identityId)
      else if key = "v" then some (.int 1)
      else none := by
  have fields : card.payload = mkObj _ := rfl
  rw [fields, get?_mkObj]
  cases card.name.truthy with
  | true =>
      simp only [List.cons_append, List.nil_append, List.reverse_cons, List.reverse_nil,
        Dict.lookup_cons_eq_ite, List.lookup_nil, if_true]
  | false =>
      simp only [List.append_nil, List.reverse_cons, List.reverse_nil, List.nil_append,
        List.cons_append, Dict.lookup_cons_eq_ite, List.lookup_nil, Bool.false_eq_true,
        if_false]
      by_cases isName : key = "name"
      · rw [if_pos isName, isName]
        rfl
      · rw [if_neg isName]

theorem get?_signedDict (key : String) :
    card.signedDict.get? key =
      if key = "sig" then some (.str (b64e card.signature)) else card.payload.get? key :=
  get?_setField_mkObj _ _ _ _

theorem item_signedDict {key : String} {value : Json}
    (found : card.signedDict.get? key = some value) :
    card.signedDict.item key = .ok value :=
  item_eq_ok.mpr found

variable {card}

theorem readFields_signedDict (relays : card.relays ≠ [])
    (writeOnly : card.inbox.readToken = none) :
    readFields card.signedDict = .ok { card with name := card.shownName } := by
  have isign : card.signedDict.item "isign" = .ok (.str (b64e card.isign)) :=
    item_signedDict card (by simp [get?_signedDict, get?_payload])
  have idh : card.signedDict.item "idh" = .ok (.str (b64e card.idh)) :=
    item_signedDict card (by simp [get?_signedDict, get?_payload])
  have id : card.signedDict.item "id" = .ok (.str card.identityId) :=
    item_signedDict card (by simp [get?_signedDict, get?_payload])
  have bundle : card.signedDict.item "bundle" = .ok (.str card.bundleId) :=
    item_signedDict card (by simp [get?_signedDict, get?_payload])
  have inbox : card.signedDict.item "inbox" = .ok card.inbox.cardView :=
    item_signedDict card (by simp [get?_signedDict, get?_payload])
  have sig : card.signedDict.item "sig" = .ok (.str (b64e card.signature)) :=
    item_signedDict card (by simp [get?_signedDict])
  have relayItems : (card.signedDict.getD "relays").orElse (.arr []) = .arr card.relays := by
    have stored : card.signedDict.getD "relays" = .arr card.relays := by
      simp [getD, get?_signedDict, get?_payload]
    rw [stored, orElse_arr relays]
  have name : card.signedDict.getD "name" = card.shownName := by
    have stored : card.signedDict.get? "name" =
        if card.name.truthy then some card.name else none := by
      simp [get?_signedDict, get?_payload]
    rw [getD, stored, shownName, orElse]
    split <;> rfl
  have capability := MailboxCapability.fromCardView_cardView writeOnly
  unfold readFields
  rw [isign, idh, id, bundle, inbox, sig, relayItems, name]
  simp only [except_ok_bind, toBytes_b64e, capability]
  rfl

theorem payload_shownName : { card with name := card.shownName }.payload = card.payload := by
  unfold payload
  rw [truthy_shownName]
  cases named : card.name.truthy with
  | true => simp [shownName, orElse, named]
  | false => rfl

theorem signedBytes_shownName :
    { card with name := card.shownName }.signedBytes = card.signedBytes := by
  rw [signedBytes, payload_shownName, ← signedBytes]

/-- A card is read back when its capability is well formed and its signature
verifies. -/
theorem fromDict_signedDict (relays : card.relays ≠ [])
    (writeOnly : card.inbox.readToken = none)
    (account : computeIdentityId suite card.isign card.idh = card.identityId)
    (wellFormed : card.inbox.validate = .ok ())
    (verified : suite.verify card.isign card.signature card.signedBytes = true) :
    fromDict suite card.signedDict = .ok { card with name := card.shownName } := by
  have version : card.signedDict.attempt "v" = .ok (.int 1) := by
    have stored : card.signedDict.get? "v" = some (.int 1) := by
      simp [get?_signedDict, get?_payload]
    rw [attempt_of_get? stored]
  refine except_bind_eq_ok.mpr ⟨_, version, ?_⟩
  refine except_bind_eq_ok.mpr ⟨(), rfl, ?_⟩
  refine except_bind_eq_ok.mpr
    ⟨_, Except.rewrap_eq_ok.mpr (readFields_signedDict relays writeOnly), ?_⟩
  refine except_bind_eq_ok.mpr ⟨(), refuse_eq_ok.mpr (by simpa using relays), ?_⟩
  refine except_bind_eq_ok.mpr ⟨(), refuse_eq_ok.mpr (by simpa using account), ?_⟩
  refine except_bind_eq_ok.mpr ⟨(), wellFormed, ?_⟩
  refine except_bind_eq_ok.mpr ⟨(), refuse_eq_ok.mpr ?_, rfl⟩
  rw [signedBytes_shownName, verified]
  rfl

theorem canonical_cardView (capability : MailboxCapability) :
    capability.cardView.Canonical := by
  apply canonical_mkObj
  simp [Canonical]

theorem get?_normalize_payload (key : String) :
    card.payload.normalize.get? key = (card.payload.get? key).map Json.normalize :=
  get?_normalize_mkObj _ key

/-- Payloads that differ in the order of fields only have the same fields, up to an
empty name. -/
structure SameFields (left right : ContactCard) : Prop where
  identityId : left.identityId = right.identityId
  isign : left.isign = right.isign
  idh : left.idh = right.idh
  bundleId : left.bundleId = right.bundleId
  mailboxId : left.inbox.mailboxId = right.inbox.mailboxId
  writeToken : left.inbox.writeToken = right.inbox.writeToken
  relays : left.relays.map Json.normalize = right.relays.map Json.normalize
  name : left.shownName.normalize = right.shownName.normalize

theorem sameFields_of_payload {left right : ContactCard}
    (same : left.payload.normalize = right.payload.normalize) : SameFields left right := by
  have field := fun key => congrArg (fun payload => payload.get? key) same
  simp only [get?_normalize_payload, get?_payload] at field
  have inbox : left.inbox.cardView.normalize = right.inbox.cardView.normalize := by
    simpa using field "inbox"
  rw [normalize_canonical _ (canonical_cardView _),
    normalize_canonical _ (canonical_cardView _)] at inbox
  have inboxField := fun key => congrArg (fun view => view.get? key) inbox
  exact {
    identityId := by simpa [Json.normalize] using field "id"
    isign := b64e_injective (by simpa [Json.normalize] using field "isign")
    idh := b64e_injective (by simpa [Json.normalize] using field "idh")
    bundleId := by simpa [Json.normalize] using field "bundle"
    mailboxId := by
      simpa [MailboxCapability.cardView, get?_mkObj, Dict.lookup_cons_eq_ite]
        using inboxField "id"
    writeToken := by simpa [MailboxCapability.cardView, get?_mkObj] using inboxField "w"
    relays := by simpa [Json.normalize, normalizeItems_eq_map] using field "relays"
    name := by
      have named := field "name"
      unfold shownName orElse
      cases leftNamed : left.name.truthy <;> cases rightNamed : right.name.truthy <;>
        simp_all [Json.normalize] }

theorem canonical_payload (relays : (Json.arr card.relays).Canonical)
    (name : card.name.Canonical) : card.payload.Canonical := by
  apply canonical_mkObj
  have inbox := canonical_cardView card.inbox
  simp only [Canonical] at relays ⊢
  cases card.name.truthy <;> simp_all [Canonical]

/-- What an accepted card has passed. -/
structure Verified (suite : Suite) (card : ContactCard) : Prop where
  verified : suite.verify card.isign card.signature card.signedBytes = true
  writeOnly : card.inbox.readToken = none

theorem readFields_writeOnly {data : Json} (read : readFields data = .ok card) :
    card.inbox.readToken = none := by
  obtain ⟨_, -, read⟩ := except_bind_eq_ok.mp read
  obtain ⟨_, -, read⟩ := except_bind_eq_ok.mp read
  obtain ⟨_, -, read⟩ := except_bind_eq_ok.mp read
  obtain ⟨_, -, read⟩ := except_bind_eq_ok.mp read
  obtain ⟨_, -, read⟩ := except_bind_eq_ok.mp read
  obtain ⟨_, -, read⟩ := except_bind_eq_ok.mp read
  obtain ⟨_, -, read⟩ := except_bind_eq_ok.mp read
  obtain ⟨inbox, view, read⟩ := except_bind_eq_ok.mp read
  obtain ⟨_, -, read⟩ := except_bind_eq_ok.mp read
  obtain ⟨_, -, read⟩ := except_bind_eq_ok.mp read
  obtain ⟨_, -, read⟩ := except_bind_eq_ok.mp read
  cases read
  exact MailboxCapability.fromCardView_writeOnly view

theorem verified_of_fromDict {data : Json} (accepted : fromDict suite data = .ok card) :
    Verified suite card := by
  obtain ⟨version, -, accepted⟩ := except_bind_eq_ok.mp accepted
  obtain ⟨_, -, accepted⟩ := except_bind_eq_ok.mp accepted
  obtain ⟨read, wrapped, accepted⟩ := except_bind_eq_ok.mp accepted
  obtain ⟨_, -, accepted⟩ := except_bind_eq_ok.mp accepted
  obtain ⟨_, -, accepted⟩ := except_bind_eq_ok.mp accepted
  obtain ⟨_, -, accepted⟩ := except_bind_eq_ok.mp accepted
  obtain ⟨_, refused, accepted⟩ := except_bind_eq_ok.mp accepted
  cases accepted
  exact {
    verified := by simpa using refuse_eq_ok.mp refused
    writeOnly := readFields_writeOnly (Except.rewrap_eq_ok.mp wrapped) }

/-- A card text is decoded to an object that a card is read from. -/
theorem fromString_eq_ok {library : CardLibrary} {text : String}
    (accepted : fromString suite library text = .ok card) :
    ∃ data, fromDict suite data = .ok card := by
  obtain ⟨data, -, accepted⟩ := except_bind_eq_ok.mp accepted
  exact ⟨data, accepted⟩

theorem strip_of_solid {text : List Char} (solid : ∀ letter ∈ text, isBlank letter = false) :
    strip text = text := by
  have kept : ∀ letters : List Char, (∀ letter ∈ letters, isBlank letter = false) →
      letters.dropWhile isBlank = letters := by
    intro letters solid
    cases letters with
    | nil => rfl
    | cons letter letters =>
        rw [List.dropWhile_cons, solid letter List.mem_cons_self]
        rfl
  rw [strip, kept text solid, kept text.reverse fun letter member =>
    solid letter (List.mem_reverse.mp member), List.reverse_reverse]

/-- A card text is decoded to the object it was made from. -/
theorem cardDecode_cardEncode {library : CardLibrary} (restores : library.Restores)
    (payload : Json) :
    cardDecode library (cardEncode library payload) = .ok payload.normalize := by
  have letters : (cardEncode library payload).toList = cardPrefix.toList ++
      (b64e (library.compress (canonicalJson payload) 9)).toList := String.toList_append
  have solid : ∀ letter ∈ (cardEncode library payload).toList, isBlank letter = false := by
    intro letter member
    rw [letters, List.mem_append] at member
    rcases member with first | rest
    · have none : cardPrefix.toList.all (fun letter => !isBlank letter) = true := by decide
      simpa using List.all_eq_true.mp none letter first
    · have none : Base64.alphabet.all (fun letter => !isBlank letter) = true := by decide
      rw [b64e, String.toList_ofList] at rest
      simpa using List.all_eq_true.mp none letter (mem_alphabet_of_mem_encode rest)
  have starts : cardPrefix.toList.isPrefixOf
      ((cardEncode library payload).toList.map lowerLetter) = true := by
    rw [letters, List.map_append, List.isPrefixOf_iff_prefix]
    exact List.prefix_append _ _
  have body : (cardEncode library payload).toList.drop cardPrefix.length =
      (b64e (library.compress (canonicalJson payload) 9)).toList := by
    rw [letters]
    exact List.drop_left
  unfold cardDecode
  dsimp only
  rw [strip_of_solid solid, starts, body, String.ofList_toList, toBytes_b64e]
  simp only [Bool.not_true, except_ok_bind]
  rw [restores.decompress]
  exact restores.loads _ _ (loadJson_canonicalJson_eq payload)

/-- A card whose capability is malformed is written but not read back. -/
theorem fromDict_signedDict_invalid {raised : Raised} (relays : card.relays ≠ [])
    (writeOnly : card.inbox.readToken = none)
    (account : computeIdentityId suite card.isign card.idh = card.identityId)
    (malformed : card.inbox.validate = .error raised) :
    fromDict suite card.signedDict = .error raised := by
  have stored : card.signedDict.get? "v" = some (.int 1) := by
    simp [get?_signedDict, get?_payload]
  have nonempty : card.relays.isEmpty = false := by simpa using relays
  have same : decide (computeIdentityId suite card.isign card.idh ≠ card.identityId) =
      false := by simpa using account
  unfold fromDict
  rw [attempt_of_get? stored, readFields_signedDict relays writeOnly]
  simp only [Except.rewrap, except_ok_bind, nonempty, same, malformed]
  rfl

end ContactCard

/-! ## Device lists -/

namespace DeviceEntry

variable (entry : DeviceEntry)

theorem get?_toDict (key : String) :
    entry.toDict.get? key =
      if key = "name" then (if entry.name ≠ "" then some (.str entry.name) else none)
      else if key = "bundle" then some (.str entry.bundleId)
      else if key = "relays" then some (.arr entry.relays)
      else if key = "inbox" then some entry.inbox
      else if key = "device" then some (.str entry.deviceId)
      else none := by
  have fields : entry.toDict = mkObj _ := rfl
  rw [fields, get?_mkObj]
  by_cases named : entry.name ≠ ""
  · simp only [if_pos named, List.cons_append, List.nil_append, List.reverse_cons,
      List.reverse_nil, Dict.lookup_cons_eq_ite, List.lookup_nil]
  · simp only [if_neg named, List.append_nil, List.reverse_cons, List.reverse_nil,
      List.nil_append, List.cons_append, Dict.lookup_cons_eq_ite, List.lookup_nil]
    by_cases isName : key = "name"
    · rw [if_pos isName, isName]
      rfl
    · rw [if_neg isName]

/-- An entry of the types it declares: its mailbox is an object, its relays are
texts. -/
structure WellFormed (entry : DeviceEntry) : Prop where
  inbox : entry.inbox.isObj = true
  relays : ∃ urls : List String, entry.relays = urls.map Json.str

/-- The entry with the fields of its mailbox sorted, as it is read from a text. -/
def sorted (entry : DeviceEntry) : DeviceEntry :=
  { entry with inbox := entry.inbox.normalize, relays := entry.relays.map Json.normalize }

theorem normalize_toDict : entry.toDict.normalize = entry.sorted.toDict := by
  unfold toDict
  rw [normalize_mkObj]
  by_cases named : entry.name ≠ "" <;>
    simp [sorted, named, Json.normalize, normalizeItems_eq_map]

variable {entry}

theorem toDict_injective {left right : DeviceEntry} (same : left.toDict = right.toDict) :
    left = right := by
  have field := fun key => congrArg (fun dict => dict.get? key) same
  simp only [get?_toDict] at field
  have device : left.deviceId = right.deviceId := by simpa using field "device"
  have inbox : left.inbox = right.inbox := by simpa using field "inbox"
  have relays : left.relays = right.relays := by simpa using field "relays"
  have bundle : left.bundleId = right.bundleId := by simpa using field "bundle"
  have name : left.name = right.name := by
    have named := field "name"
    by_cases leftEmpty : left.name = "" <;> by_cases rightEmpty : right.name = "" <;>
      simp_all
  cases left
  cases right
  simp_all

/-- An entry whose mailbox is a dictionary and whose relays are texts is read back. -/
theorem fromDict_toDict_of_dict (inboxDict : entry.inbox.toDict = .ok entry.inbox)
    (relayTexts : ∃ urls : List String, entry.relays = urls.map Json.str) :
    fromDict entry.toDict = .ok entry := by
  obtain ⟨urls, relays⟩ := relayTexts
  have deviceItem : entry.toDict.item "device" = .ok (.str entry.deviceId) :=
    item_eq_ok.mpr (by simp [get?_toDict])
  have inboxItem : entry.toDict.item "inbox" = .ok entry.inbox :=
    item_eq_ok.mpr (by simp [get?_toDict])
  have relaysItem : entry.toDict.item "relays" = .ok (.arr entry.relays) :=
    item_eq_ok.mpr (by simp [get?_toDict])
  have bundleItem : entry.toDict.item "bundle" = .ok (.str entry.bundleId) :=
    item_eq_ok.mpr (by simp [get?_toDict])
  have name : ((entry.toDict.getD "name").orElse (.str "")).toText = entry.name := by
    have stored : entry.toDict.get? "name" =
        if entry.name ≠ "" then some (.str entry.name) else none := by
      simp [get?_toDict]
    rw [getD, stored]
    by_cases named : entry.name = "" <;> simp [named, orElse]
  have texts : (entry.relays.map fun relay => Json.str relay.toText) = entry.relays := by
    simp [relays]
  refine Except.rewrap_eq_ok.mpr ?_
  refine except_bind_eq_ok.mpr ⟨_, deviceItem, ?_⟩
  refine except_bind_eq_ok.mpr ⟨_, inboxItem, ?_⟩
  refine except_bind_eq_ok.mpr ⟨_, inboxDict, ?_⟩
  refine except_bind_eq_ok.mpr ⟨_, relaysItem, ?_⟩
  refine except_bind_eq_ok.mpr ⟨_, rfl, ?_⟩
  refine except_bind_eq_ok.mpr ⟨_, bundleItem, ?_⟩
  rw [name, texts]
  rfl

theorem toDict_of_isObj {value : Json} (object : value.isObj = true) :
    value.toDict = .ok value := by
  cases value with
  | obj fields => rfl
  | _ => cases object

theorem fromDict_toDict (wellFormed : entry.WellFormed) :
    fromDict entry.toDict = .ok entry :=
  fromDict_toDict_of_dict (toDict_of_isObj wellFormed.inbox) wellFormed.relays

theorem WellFormed.sorted (wellFormed : entry.WellFormed) : entry.sorted.WellFormed where
  inbox := by
    show entry.inbox.normalize.isObj = true
    rw [isObj_normalize, wellFormed.inbox]
  relays := by
    obtain ⟨urls, relays⟩ := wellFormed.relays
    refine ⟨urls, ?_⟩
    show entry.relays.map Json.normalize = _
    rw [relays, List.map_map]
    rfl

end DeviceEntry

namespace DeviceList

variable (suite) (listing : DeviceList)

theorem get?_payload (key : String) :
    (listing.payload suite).get? key =
      if key = "devices" then some (.arr (listing.devices.map DeviceEntry.toDict))
      else if key = "updated" then some (.int listing.updated)
      else if key = "bundle_id" then some (.str (listing.address suite))
      else if key = "idh" then some (.str (b64e listing.idh))
      else if key = "isign" then some (.str (b64e listing.isign))
      else if key = "account" then some (.str listing.account)
      else if key = "v" then some (.int deviceListVersion)
      else none := by
  unfold payload
  simp only [get?_mkObj, List.reverse_cons, List.reverse_nil, List.nil_append,
    List.cons_append, Dict.lookup_cons_eq_ite, List.lookup_nil]

/-- The object a list is written as. -/
def signedDict : Json :=
  (listing.payload suite).setField "sig" (.str (b64e listing.signature))

theorem get?_signedDict (key : String) :
    (listing.signedDict suite).get? key =
      if key = "sig" then some (.str (b64e listing.signature))
      else (listing.payload suite).get? key :=
  get?_setField_mkObj _ _ _ _

variable {suite listing}

theorem readFields_signedDict
    (wellFormed : ∀ entry ∈ listing.devices, entry.WellFormed) :
    readFields (listing.signedDict suite) = .ok listing := by
  have isign : (listing.signedDict suite).item "isign" = .ok (.str (b64e listing.isign)) :=
    item_eq_ok.mpr (by simp [get?_signedDict, get?_payload])
  have idh : (listing.signedDict suite).item "idh" = .ok (.str (b64e listing.idh)) :=
    item_eq_ok.mpr (by simp [get?_signedDict, get?_payload])
  have account : (listing.signedDict suite).item "account" = .ok (.str listing.account) :=
    item_eq_ok.mpr (by simp [get?_signedDict, get?_payload])
  have devices : (listing.signedDict suite).item "devices" =
      .ok (.arr (listing.devices.map DeviceEntry.toDict)) :=
    item_eq_ok.mpr (by simp [get?_signedDict, get?_payload])
  have updated : (listing.signedDict suite).item "updated" = .ok (.int listing.updated) :=
    item_eq_ok.mpr (by simp [get?_signedDict, get?_payload])
  have sig : (listing.signedDict suite).item "sig" =
      .ok (.str (b64e listing.signature)) :=
    item_eq_ok.mpr (by simp [get?_signedDict])
  have entries : (listing.devices.map DeviceEntry.toDict).mapM DeviceEntry.fromDict =
      .ok listing.devices :=
    mapM_map_eq_ok fun entry member => DeviceEntry.fromDict_toDict (wellFormed entry member)
  refine except_bind_eq_ok.mpr ⟨_, isign, ?_⟩
  refine except_bind_eq_ok.mpr ⟨_, toBytes_b64e _, ?_⟩
  refine except_bind_eq_ok.mpr ⟨_, idh, ?_⟩
  refine except_bind_eq_ok.mpr ⟨_, toBytes_b64e _, ?_⟩
  refine except_bind_eq_ok.mpr ⟨_, account, ?_⟩
  refine except_bind_eq_ok.mpr ⟨_, devices, ?_⟩
  refine except_bind_eq_ok.mpr ⟨_, rfl, ?_⟩
  refine except_bind_eq_ok.mpr ⟨_, entries, ?_⟩
  refine except_bind_eq_ok.mpr ⟨_, updated, ?_⟩
  refine except_bind_eq_ok.mpr ⟨_, toInt_of_toInt? rfl, ?_⟩
  refine except_bind_eq_ok.mpr ⟨_, sig, ?_⟩
  exact except_bind_eq_ok.mpr ⟨_, toBytes_b64e _, rfl⟩

theorem fromDict_signedDict (devices : listing.devices ≠ [])
    (wellFormed : ∀ entry ∈ listing.devices, entry.WellFormed)
    (account : computeIdentityId suite listing.isign listing.idh = listing.account)
    (verified : suite.verify listing.isign listing.signature
      (listing.signedBytes suite) = true) :
    fromDict suite (listing.signedDict suite) = .ok listing := by
  refine except_bind_eq_ok.mpr ⟨(), rfl, ?_⟩
  refine except_bind_eq_ok.mpr ⟨(), refuse_eq_ok.mpr ?_, ?_⟩
  · have version : (listing.signedDict suite).getD "v" = .int deviceListVersion := by
      simp [getD, get?_signedDict, get?_payload]
    rw [version]
    rfl
  refine except_bind_eq_ok.mpr
    ⟨_, Except.rewrap_eq_ok.mpr (readFields_signedDict wellFormed), ?_⟩
  refine except_bind_eq_ok.mpr ⟨(), refuse_eq_ok.mpr (by simpa using account), ?_⟩
  refine except_bind_eq_ok.mpr ⟨(), refuse_eq_ok.mpr (by simpa using devices), ?_⟩
  refine except_bind_eq_ok.mpr ⟨(), refuse_eq_ok.mpr ?_, rfl⟩
  rw [verified]
  rfl

theorem fromBytes_of_loadJson {raw : Bytes} {value : Json}
    (loaded : loadJson raw = some value) : fromBytes suite raw = fromDict suite value := by
  simp only [loadJson, Option.bind_eq_bind, Option.bind_eq_some_iff] at loaded
  obtain ⟨text, decoded, parsed⟩ := loaded
  simp only [fromBytes, decoded, parsed]

/-- A list is read from the JSON its text holds. -/
theorem fromBytes_eq_ok {raw : Bytes} (accepted : fromBytes suite raw = .ok listing) :
    ∃ data, fromDict suite data = .ok listing := by
  unfold fromBytes at accepted
  split at accepted
  · cases accepted
  · split at accepted
    · cases accepted
    · rename_i value parsed
      exact ⟨value, accepted⟩

/-- The list with the fields of its mailboxes sorted. -/
def sorted (listing : DeviceList) : DeviceList :=
  { listing with devices := listing.devices.map DeviceEntry.sorted }

theorem normalize_payload : (listing.payload suite).normalize = listing.sorted.payload suite := by
  have devices : (listing.devices.map DeviceEntry.toDict).map Json.normalize =
      listing.sorted.devices.map DeviceEntry.toDict := by
    show _ = (listing.devices.map DeviceEntry.sorted).map DeviceEntry.toDict
    rw [List.map_map, List.map_map]
    exact List.map_congr_left fun entry _ => entry.normalize_toDict
  unfold payload
  rw [normalize_mkObj, ← devices]
  simp only [List.map_cons, List.map_nil, Json.normalize, normalizeItems_eq_map]
  rfl

theorem normalize_signedDict :
    (listing.signedDict suite).normalize = listing.sorted.signedDict suite := by
  have built : ∃ bindings, listing.payload suite = mkObj bindings := ⟨_, rfl⟩
  unfold signedDict
  rw [normalize_setField built, normalize_payload]
  rfl

theorem signedBytes_sorted : listing.sorted.signedBytes suite = listing.signedBytes suite := by
  unfold signedBytes
  rw [← normalize_payload, canonicalJson_normalize]

/-- A list is read back as it was written, the fields of its mailboxes sorted. -/
theorem fromBytes_toBytes (devices : listing.devices ≠ [])
    (wellFormed : ∀ entry ∈ listing.devices, entry.WellFormed)
    (account : computeIdentityId suite listing.isign listing.idh = listing.account)
    (verified : suite.verify listing.isign listing.signature
      (listing.signedBytes suite) = true) :
    fromBytes suite (listing.toBytes suite) = .ok listing.sorted := by
  have loaded : loadJson (listing.toBytes suite) = some (listing.sorted.signedDict suite) := by
    rw [← normalize_signedDict]
    exact loadJson_canonicalJson_eq _
  rw [fromBytes_of_loadJson loaded]
  apply fromDict_signedDict
  · exact fun none => devices (List.map_eq_nil_iff.mp none)
  · intro entry member
    obtain ⟨given, givenMember, rfl⟩ := List.mem_map.mp member
    exact (wellFormed given givenMember).sorted
  · exact account
  · rw [signedBytes_sorted]
    exact verified

/-- Equal payloads are payloads of the same list. -/
theorem eq_of_payload {left right : DeviceList}
    (same : left.payload suite = right.payload suite)
    (signature : left.signature = right.signature) : left = right := by
  have field := fun key => congrArg (fun payload => payload.get? key) same
  simp only [get?_payload] at field
  have account : left.account = right.account := by simpa using field "account"
  have updated : left.updated = right.updated := by simpa using field "updated"
  have isign : left.isign = right.isign := b64e_injective (by simpa using field "isign")
  have idh : left.idh = right.idh := b64e_injective (by simpa using field "idh")
  have devices : left.devices = right.devices := by
    have written : left.devices.map DeviceEntry.toDict =
        right.devices.map DeviceEntry.toDict := by simpa using field "devices"
    exact List.map_injective_iff.mpr (fun _ _ => DeviceEntry.toDict_injective) written
  cases left
  cases right
  simp_all

theorem verified_of_fromDict {data : Json} (accepted : fromDict suite data = .ok listing) :
    suite.verify listing.isign listing.signature (listing.signedBytes suite) = true := by
  obtain ⟨_, -, accepted⟩ := except_bind_eq_ok.mp accepted
  obtain ⟨_, -, accepted⟩ := except_bind_eq_ok.mp accepted
  obtain ⟨read, -, accepted⟩ := except_bind_eq_ok.mp accepted
  obtain ⟨_, -, accepted⟩ := except_bind_eq_ok.mp accepted
  obtain ⟨_, -, accepted⟩ := except_bind_eq_ok.mp accepted
  obtain ⟨_, refused, accepted⟩ := except_bind_eq_ok.mp accepted
  cases accepted
  simpa using refuse_eq_ok.mp refused

end DeviceList

/-! ## Device keys -/

namespace DeviceKeys

variable (suite) (record : DeviceKeys)

theorem get?_payload (key : String) :
    (record.payload suite).get? key =
      if key = "bundle_id" then some (.str (record.address suite))
      else if key = "sagree" then some (.str (b64e record.sagree))
      else if key = "sdev" then some (.str (b64e record.sdev))
      else if key = "device" then some (.str record.deviceId)
      else if key = "idh" then some (.str (b64e record.idh))
      else if key = "isign" then some (.str (b64e record.isign))
      else if key = "account" then some (.str record.account)
      else if key = "v" then some (.int deviceListVersion)
      else none := by
  unfold payload
  simp only [get?_mkObj, List.reverse_cons, List.reverse_nil, List.nil_append,
    List.cons_append, Dict.lookup_cons_eq_ite, List.lookup_nil]

theorem get?_toDict (key : String) :
    (record.toDict suite).get? key =
      if key = "sig" then some (.str (b64e record.signature))
      else (record.payload suite).get? key :=
  get?_setField_mkObj _ _ _ _

variable {suite record}

theorem readFields_toDict : readFields (record.toDict suite) = .ok record := by
  have isign : (record.toDict suite).item "isign" = .ok (.str (b64e record.isign)) :=
    item_eq_ok.mpr (by simp [get?_toDict, get?_payload])
  have idh : (record.toDict suite).item "idh" = .ok (.str (b64e record.idh)) :=
    item_eq_ok.mpr (by simp [get?_toDict, get?_payload])
  have account : (record.toDict suite).item "account" = .ok (.str record.account) :=
    item_eq_ok.mpr (by simp [get?_toDict, get?_payload])
  have device : (record.toDict suite).item "device" = .ok (.str record.deviceId) :=
    item_eq_ok.mpr (by simp [get?_toDict, get?_payload])
  have sdev : (record.toDict suite).item "sdev" = .ok (.str (b64e record.sdev)) :=
    item_eq_ok.mpr (by simp [get?_toDict, get?_payload])
  have sagree : (record.toDict suite).item "sagree" = .ok (.str (b64e record.sagree)) :=
    item_eq_ok.mpr (by simp [get?_toDict, get?_payload])
  have sig : (record.toDict suite).item "sig" = .ok (.str (b64e record.signature)) :=
    item_eq_ok.mpr (by simp [get?_toDict])
  refine except_bind_eq_ok.mpr ⟨_, isign, ?_⟩
  refine except_bind_eq_ok.mpr ⟨_, toBytes_b64e _, ?_⟩
  refine except_bind_eq_ok.mpr ⟨_, idh, ?_⟩
  refine except_bind_eq_ok.mpr ⟨_, toBytes_b64e _, ?_⟩
  refine except_bind_eq_ok.mpr ⟨_, account, ?_⟩
  refine except_bind_eq_ok.mpr ⟨_, device, ?_⟩
  refine except_bind_eq_ok.mpr ⟨_, sdev, ?_⟩
  refine except_bind_eq_ok.mpr ⟨_, toBytes_b64e _, ?_⟩
  refine except_bind_eq_ok.mpr ⟨_, sagree, ?_⟩
  refine except_bind_eq_ok.mpr ⟨_, toBytes_b64e _, ?_⟩
  refine except_bind_eq_ok.mpr ⟨_, sig, ?_⟩
  exact except_bind_eq_ok.mpr ⟨_, toBytes_b64e _, rfl⟩

theorem fromDict_toDict (sdev : record.sdev.length = keySize)
    (sagree : record.sagree.length = keySize)
    (account : computeIdentityId suite record.isign record.idh = record.account)
    (verified : suite.verify record.isign record.signature
      (record.signedBytes suite) = true) :
    fromDict suite (record.toDict suite) = .ok record := by
  refine except_bind_eq_ok.mpr ⟨(), refuse_eq_ok.mpr ?_, ?_⟩
  · have version : (record.toDict suite).getD "v" = .int deviceListVersion := by
      simp [getD, get?_toDict, get?_payload]
    rw [version]
    rfl
  refine except_bind_eq_ok.mpr ⟨_, Except.rewrap_eq_ok.mpr readFields_toDict, ?_⟩
  refine except_bind_eq_ok.mpr ⟨(), refuse_eq_ok.mpr (by simp [sdev, sagree]), ?_⟩
  refine except_bind_eq_ok.mpr ⟨(), refuse_eq_ok.mpr (by simpa using account), ?_⟩
  refine except_bind_eq_ok.mpr ⟨(), refuse_eq_ok.mpr ?_, rfl⟩
  rw [verified]
  rfl

theorem fromBytes_of_loadJson {raw : Bytes} {value : Json}
    (loaded : loadJson raw = some value) : fromBytes suite raw = fromDict suite value := by
  simp only [loadJson, Option.bind_eq_bind, Option.bind_eq_some_iff] at loaded
  obtain ⟨text, decoded, parsed⟩ := loaded
  simp only [fromBytes, decoded, parsed]

theorem fromBytes_eq_ok {raw : Bytes} (accepted : fromBytes suite raw = .ok record) :
    ∃ data, fromDict suite data = .ok record := by
  unfold fromBytes at accepted
  split at accepted
  · cases accepted
  · split at accepted
    · cases accepted
    · rename_i value parsed
      exact ⟨value, accepted⟩

variable (suite record) in
theorem canonical_payload : (record.payload suite).Canonical := by
  apply canonical_mkObj
  simp [Canonical]

theorem fromBytes_toBytes (sdev : record.sdev.length = keySize)
    (sagree : record.sagree.length = keySize)
    (account : computeIdentityId suite record.isign record.idh = record.account)
    (verified : suite.verify record.isign record.signature
      (record.signedBytes suite) = true) :
    fromBytes suite (record.toBytes suite) = .ok record := by
  have canonical : (record.toDict suite).Canonical :=
    canonical_setField (canonical_payload suite record)
      (show (Json.str _).Canonical from trivial) "sig"
  rw [← fromDict_toDict sdev sagree account verified]
  exact fromBytes_of_loadJson (loadJson_canonicalJson canonical)

/-- Equal payloads are payloads of the same record. -/
theorem eq_of_payload {left right : DeviceKeys}
    (same : left.payload suite = right.payload suite)
    (signature : left.signature = right.signature) : left = right := by
  have field := fun key => congrArg (fun payload => payload.get? key) same
  simp only [get?_payload] at field
  have account : left.account = right.account := by simpa using field "account"
  have device : left.deviceId = right.deviceId := by simpa using field "device"
  have isign : left.isign = right.isign := b64e_injective (by simpa using field "isign")
  have idh : left.idh = right.idh := b64e_injective (by simpa using field "idh")
  have sdev : left.sdev = right.sdev := b64e_injective (by simpa using field "sdev")
  have sagree : left.sagree = right.sagree :=
    b64e_injective (by simpa using field "sagree")
  cases left
  cases right
  simp_all

theorem verified_of_fromDict {data : Json} (accepted : fromDict suite data = .ok record) :
    suite.verify record.isign record.signature (record.signedBytes suite) = true := by
  obtain ⟨_, -, accepted⟩ := except_bind_eq_ok.mp accepted
  obtain ⟨read, -, accepted⟩ := except_bind_eq_ok.mp accepted
  obtain ⟨_, -, accepted⟩ := except_bind_eq_ok.mp accepted
  obtain ⟨_, -, accepted⟩ := except_bind_eq_ok.mp accepted
  obtain ⟨_, refused, accepted⟩ := except_bind_eq_ok.mp accepted
  cases accepted
  simpa using refuse_eq_ok.mp refused

end DeviceKeys

/-! ## What a key holder signs -/

/-- The five kinds of statements an identity key signs, with what they are made
from. -/
inductive Statement where
  | card (bundleId : String) (inbox : MailboxCapability) (relays : List String)
      (name : String)
  | prekey (bundleId : Bytes) (spkId : Int) (spk : Bytes)
  | proof (sid : Bytes) (init : Json) (sk : Bytes)
  | devices (entries : List DeviceEntry) (updated : Int)
  | deviceKeys (deviceId : String) (sdev sagree : Bytes)

namespace Statement

variable (suite identity)

/-- The message that is signed. -/
def message : Statement → Except Raised Bytes
  | card bundleId inbox relays name =>
      .ok (ContactCard.create suite identity bundleId inbox relays name).signedBytes
  | prekey bundleId spkId spk => PrekeyBundle.spkMessage bundleId spkId spk
  | proof sid init sk => .ok (X3dh.authMessage sid init (X3dh.skCommitment suite sk))
  | devices entries updated =>
      .ok ((DeviceList.create suite identity entries updated).signedBytes suite)
  | deviceKeys deviceId sdev sagree =>
      .ok ((DeviceKeys.create suite identity deviceId sdev sagree).signedBytes suite)

/-- The capability as it goes into a card. -/
def writeView (inbox : MailboxCapability) : MailboxCapability :=
  { mailboxId := inbox.mailboxId, writeToken := inbox.writeToken }

/-- The kind of a statement, as its message shows it. -/
inductive Domain where
  | card
  | prekey
  | proof
  | devices
  | deviceKeys
deriving DecidableEq

def domain : Statement → Domain
  | card _ _ _ _ => .card
  | prekey _ _ _ => .prekey
  | proof _ _ _ => .proof
  | devices _ _ => .devices
  | deviceKeys _ _ _ => .deviceKeys

/-- The labels differ in their fourth byte, the two device labels in what follows
the shorter one. -/
def domainOf (signed : Bytes) : Option Domain :=
  match (signed.drop 3).head? with
  | some 99 => some .card
  | some 115 => some .prekey
  | some 97 => some .proof
  | some 100 =>
      if (signed.drop 13).head? = some 123 then some .devices else some .deviceKeys
  | _ => none

/-- The label a kind of statement is signed under. -/
def Domain.label : Domain → Bytes
  | card => cardSignInfo
  | prekey => spkSignInfo
  | proof => authSignInfo
  | devices => deviceSignInfo
  | deviceKeys => deviceKeysSignInfo

/-- A label and what follows it show the kind: what follows the label of device
lists is an object, while the longer label goes on differently. -/
theorem domainOf_label (domain : Domain) {rest : Bytes}
    (brace : domain = .devices → rest.head? = some 123) :
    domainOf (domain.label ++ rest) = some domain := by
  cases domain with
  | devices =>
      have dropped : (deviceSignInfo ++ rest).drop 13 = rest := rfl
      show (if ((deviceSignInfo ++ rest).drop 13).head? = some 123 then some Domain.devices
        else some Domain.deviceKeys) = _
      rw [dropped, if_pos (brace rfl)]
  | _ => rfl

variable {suite identity} in
/-- The message of a statement shows its kind. -/
theorem domainOf_message {statement : Statement} {signed : Bytes}
    (written : statement.message suite identity = .ok signed) :
    domainOf signed = some statement.domain := by
  cases statement with
  | card bundleId inbox relays name =>
      cases written
      exact domainOf_label .card (by simp)
  | prekey bundleId spkId spk =>
      obtain ⟨number, -, written⟩ := except_bind_eq_ok.mp written
      cases written
      rw [List.append_assoc, List.append_assoc]
      exact domainOf_label .prekey (by simp)
  | proof sid init sk =>
      cases written
      rw [X3dh.authMessage, List.append_assoc, List.append_assoc]
      exact domainOf_label .proof (by simp)
  | devices entries updated =>
      cases written
      exact domainOf_label .devices fun _ => head?_canonicalJson _
  | deviceKeys deviceId sdev sagree =>
      cases written
      exact domainOf_label .deviceKeys (by simp)

end Statement

/-- Ideal signatures: a signature verifies when the key holder has made it for the
message, and belongs to no other message. -/
structure IdealSignatures (suite : Suite) (identity : Identity)
    (signed : Statement → Prop) : Prop where
  complete : ∀ statement message, signed statement →
    statement.message suite identity = .ok message →
      suite.verify (identity.edPublic suite) (identity.sign suite message) message = true
  sound : ∀ signature message,
    suite.verify (identity.edPublic suite) signature message = true →
      ∃ statement, signed statement ∧ statement.message suite identity = .ok message ∧
        signature = identity.sign suite message
  binding : ∀ message message',
    identity.sign suite message = identity.sign suite message' → message = message'

inductive AccountRecord where
  | card (card : ContactCard)
  | devices (listing : DeviceList)
  | deviceKeys (record : DeviceKeys)

namespace AccountRecord

def signingKey : AccountRecord → Bytes
  | card found => found.isign
  | devices found => found.isign
  | deviceKeys found => found.isign

def signature : AccountRecord → Bytes
  | card found => found.signature
  | devices found => found.signature
  | deviceKeys found => found.signature

variable (suite identity)

def signedBytes : AccountRecord → Bytes
  | card found => found.signedBytes
  | devices found => found.signedBytes suite
  | deviceKeys found => found.signedBytes suite

/-- A reader accepts the record from an object or from its text. -/
inductive Accepted : AccountRecord → Prop
  | card {data : Json} {found : ContactCard}
      (accepted : ContactCard.fromDict suite data = .ok found) : Accepted (.card found)
  | cardText {library : CardLibrary} {text : String} {found : ContactCard}
      (accepted : ContactCard.fromString suite library text = .ok found) :
      Accepted (.card found)
  | devices {data : Json} {found : DeviceList}
      (accepted : DeviceList.fromDict suite data = .ok found) : Accepted (.devices found)
  | devicesText {raw : Bytes} {found : DeviceList}
      (accepted : DeviceList.fromBytes suite raw = .ok found) : Accepted (.devices found)
  | deviceKeys {data : Json} {found : DeviceKeys}
      (accepted : DeviceKeys.fromDict suite data = .ok found) :
      Accepted (.deviceKeys found)
  | deviceKeysText {raw : Bytes} {found : DeviceKeys}
      (accepted : DeviceKeys.fromBytes suite raw = .ok found) :
      Accepted (.deviceKeys found)

/-- The record has the fields of the one a statement was created as; the name of a card
may be missing instead of empty, and a mailbox of a list is an object, whose fields may
come in another order. -/
def MadeFrom : AccountRecord → Statement → Prop
  | card found, .card bundleId inbox relays name =>
      { found with name := .str name } =
          ContactCard.create suite identity bundleId inbox relays name ∧
        found.shownName = (Json.str name).orElse .null
  | devices found, .devices entries updated =>
      found.sorted = (DeviceList.create suite identity entries updated).sorted
  | deviceKeys found, .deviceKeys deviceId sdev sagree =>
      found = DeviceKeys.create suite identity deviceId sdev sagree
  | _, _ => False

def domain : AccountRecord → Statement.Domain
  | card _ => .card
  | devices _ => .devices
  | deviceKeys _ => .deviceKeys

variable {suite identity} {record : AccountRecord}

/-- What every reader checks. -/
structure Verified (suite : Suite) (record : AccountRecord) : Prop where
  verified : suite.verify record.signingKey record.signature
    (record.signedBytes suite) = true
  writeOnly : ∀ found, record = .card found → found.inbox.readToken = none

theorem verified_card {data : Json} {found : ContactCard}
    (accepted : ContactCard.fromDict suite data = .ok found) :
    Verified suite (.card found) where
  verified := (ContactCard.verified_of_fromDict accepted).verified
  writeOnly := by
    rintro other same
    cases same
    exact (ContactCard.verified_of_fromDict accepted).writeOnly

theorem verified_devices {data : Json} {found : DeviceList}
    (accepted : DeviceList.fromDict suite data = .ok found) :
    Verified suite (.devices found) where
  verified := DeviceList.verified_of_fromDict accepted
  writeOnly := by simp

theorem verified_deviceKeys {data : Json} {found : DeviceKeys}
    (accepted : DeviceKeys.fromDict suite data = .ok found) :
    Verified suite (.deviceKeys found) where
  verified := DeviceKeys.verified_of_fromDict accepted
  writeOnly := by simp

theorem Accepted.verified (accepted : record.Accepted suite) : Verified suite record := by
  cases accepted with
  | card accepted => exact verified_card accepted
  | cardText accepted =>
      obtain ⟨data, accepted⟩ := ContactCard.fromString_eq_ok accepted
      exact verified_card accepted
  | devices accepted => exact verified_devices accepted
  | devicesText accepted =>
      obtain ⟨data, accepted⟩ := DeviceList.fromBytes_eq_ok accepted
      exact verified_devices accepted
  | deviceKeys accepted => exact verified_deviceKeys accepted
  | deviceKeysText accepted =>
      obtain ⟨data, accepted⟩ := DeviceKeys.fromBytes_eq_ok accepted
      exact verified_deviceKeys accepted

theorem domainOf_signedBytes :
    Statement.domainOf (record.signedBytes suite) = some record.domain := by
  cases record with
  | card found => exact Statement.domainOf_label .card (by simp)
  | devices found =>
      exact Statement.domainOf_label .devices fun _ => head?_canonicalJson _
  | deviceKeys found => exact Statement.domainOf_label .deviceKeys (by simp)

variable {signed : Statement → Prop}

theorem normalize_eq_str {value : Json} {text : String} :
    value.normalize = .str text ↔ value = .str text := by
  cases value <;> simp [Json.normalize, mkObj]

theorem normalize_eq_null {value : Json} : value.normalize = .null ↔ value = .null := by
  cases value <;> simp [Json.normalize, mkObj]

/-- Texts have no fields to sort. -/
theorem eq_texts_of_normalize {items : List Json} {texts : List String}
    (same : items.map Json.normalize = texts.map Json.str) : items = texts.map Json.str := by
  induction texts generalizing items with
  | nil => exact List.map_eq_nil_iff.mp same
  | cons text texts induction =>
      obtain ⟨item, rest, rfl, isText, others⟩ := List.map_eq_cons_iff.mp same
      rw [List.map_cons, normalize_eq_str.mp isText, induction others]

theorem card_madeFrom {found : ContactCard} {bundleId : String}
    {inbox : MailboxCapability} {relays : List String} {name : String}
    (checked : Verified suite (.card found))
    (written : (ContactCard.create suite identity bundleId inbox relays name).signedBytes =
      found.signedBytes)
    (signature : found.signature = identity.sign suite found.signedBytes) :
    (AccountRecord.card found).MadeFrom suite identity
      (.card bundleId inbox relays name) := by
  let created := ContactCard.create suite identity bundleId inbox relays name
  have same : found.payload.normalize = created.payload.normalize :=
    canonicalJson_eq_iff.mp (List.append_cancel_left written).symm
  have fields := ContactCard.sameFields_of_payload same
  have relayTexts : found.relays = relays.map Json.str := by
    apply eq_texts_of_normalize
    rw [fields.relays]
    show (relays.map Json.str).map Json.normalize = _
    rw [List.map_map]
    rfl
  have shown : found.shownName = (Json.str name).orElse .null := by
    have plain : created.shownName = (Json.str name).orElse .null := rfl
    have normal := fields.name
    rw [plain] at normal
    unfold orElse at normal ⊢
    by_cases named : (Json.str name).truthy = true
    · rw [if_pos named] at normal ⊢
      exact normalize_eq_str.mp normal
    · rw [if_neg named] at normal ⊢
      exact normalize_eq_null.mp normal
  refine ⟨?_, shown⟩
  have createdSignature : created.signature = identity.sign suite found.signedBytes := by
    rw [← written]
    rfl
  have capability : found.inbox = created.inbox := by
    have none := checked.writeOnly found rfl
    have mailboxId := fields.mailboxId
    have writeToken := fields.writeToken
    cases inboxFields : found.inbox with
    | mk id write read =>
        rw [inboxFields] at none mailboxId writeToken
        cases none
        cases mailboxId
        cases writeToken
        rfl
  have named : { found with name := Json.str name } = { created with name := Json.str name } := by
    rw [ContactCard.mk.injEq]
    exact ⟨fields.identityId, fields.isign, fields.idh, fields.bundleId, capability,
      relayTexts, rfl, signature.trans createdSignature.symm⟩
  exact named

/-- A record whose signed bytes are the message of a statement is the one the
statement was created as. -/
theorem Verified.madeFrom (checked : Verified suite record) {statement : Statement}
    (written : statement.message suite identity = .ok (record.signedBytes suite))
    (signature : record.signature = identity.sign suite (record.signedBytes suite)) :
    record.MadeFrom suite identity statement := by
  have domains := Statement.domainOf_message written
  rw [domainOf_signedBytes] at domains
  cases record with
  | card found =>
      cases statement with
      | card bundleId inbox relays name =>
          exact card_madeFrom checked (Except.ok.inj written) signature
      | _ => cases domains
  | devices found =>
      cases statement with
      | devices entries updated =>
          have same := canonicalJson_eq_iff.mp
            (List.append_cancel_left (Except.ok.inj written)).symm
          rw [DeviceList.normalize_payload, DeviceList.normalize_payload] at same
          refine DeviceList.eq_of_payload same (signature.trans ?_)
          rw [← Except.ok.inj written]
          rfl
      | _ => cases domains
  | deviceKeys found =>
      cases statement with
      | deviceKeys deviceId sdev sagree =>
          have text := List.append_cancel_left (Except.ok.inj written)
          have same := canonicalJson_injective (DeviceKeys.canonical_payload suite found)
            (DeviceKeys.canonical_payload suite _) text.symm
          refine DeviceKeys.eq_of_payload same (signature.trans ?_)
          rw [← Except.ok.inj written]
          rfl
      | _ => cases domains

end AccountRecord

/-! ## Round trip and soundness -/

section Meaning

variable {signed : Statement → Prop} (ideal : IdealSignatures suite identity signed)

include ideal

theorem card_round_trip {library : CardLibrary} (restores : library.Restores)
    {bundleId : String} {inbox : MailboxCapability} {relays : List String} {name : String}
    (made : signed (.card bundleId inbox relays name)) (nonempty : relays ≠ [])
    (valid : (Statement.writeView inbox).validate = .ok ()) :
    ContactCard.fromString suite library
        ((ContactCard.create suite identity bundleId inbox relays name).toString library) =
      .ok { ContactCard.create suite identity bundleId inbox relays name with
        name := (Json.str name).orElse .null } := by
  let created := ContactCard.create suite identity bundleId inbox relays name
  have texts : (Json.arr created.relays).Canonical := by
    refine (canonicalItems_iff _).mpr fun item member => ?_
    obtain ⟨url, -, rfl⟩ := List.mem_map.mp member
    exact trivial
  have canonical : created.signedDict.Canonical :=
    canonical_setField (ContactCard.canonical_payload texts
      (show (Json.str name).Canonical from trivial))
      (show (Json.str _).Canonical from trivial) "sig"
  have decoded := ContactCard.cardDecode_cardEncode restores created.signedDict
  rw [normalize_canonical _ canonical] at decoded
  refine except_bind_eq_ok.mpr ⟨_, Except.rewrap_eq_ok.mpr decoded, ?_⟩
  apply ContactCard.fromDict_signedDict
  · intro none
    exact nonempty (List.map_eq_nil_iff.mp none)
  · rfl
  · rfl
  · exact valid
  · exact ideal.complete _ _ made rfl

theorem devices_round_trip {entries : List DeviceEntry} {updated : Int}
    (made : signed (.devices entries updated)) (nonempty : entries ≠ [])
    (wellFormed : ∀ entry ∈ entries, entry.WellFormed) :
    DeviceList.fromBytes suite
        ((DeviceList.create suite identity entries updated).toBytes suite) =
      .ok (DeviceList.create suite identity entries updated).sorted :=
  DeviceList.fromBytes_toBytes nonempty wellFormed rfl (ideal.complete _ _ made rfl)

theorem deviceKeys_round_trip {deviceId : String} {sdev sagree : Bytes}
    (made : signed (.deviceKeys deviceId sdev sagree)) (sdevSize : sdev.length = keySize)
    (sagreeSize : sagree.length = keySize) :
    DeviceKeys.fromBytes suite
        ((DeviceKeys.create suite identity deviceId sdev sagree).toBytes suite) =
      .ok (DeviceKeys.create suite identity deviceId sdev sagree) :=
  DeviceKeys.fromBytes_toBytes sdevSize sagreeSize rfl (ideal.complete _ _ made rfl)

variable {record : AccountRecord}

theorem accepted_was_signed (accepted : record.Accepted suite)
    (key : record.signingKey = identity.edPublic suite) :
    ∃ statement, signed statement ∧ record.MadeFrom suite identity statement := by
  have checked := accepted.verified
  have verified := checked.verified
  rw [key] at verified
  obtain ⟨statement, made, written, signature⟩ := ideal.sound _ _ verified
  exact ⟨statement, made, checked.madeFrom written signature⟩

/-- The signature of an accepted record was made for this record. -/
theorem accepted_carries_own_signature (accepted : record.Accepted suite)
    (key : record.signingKey = identity.edPublic suite) {statement : Statement}
    {message : Bytes}
    (written : statement.message suite identity = .ok message)
    (carried : record.signature = identity.sign suite message) :
    record.MadeFrom suite identity statement := by
  have checked := accepted.verified
  have verified := checked.verified
  rw [key] at verified
  obtain ⟨other, -, otherWritten, signature⟩ := ideal.sound _ _ verified
  have same : message = record.signedBytes suite :=
    ideal.binding _ _ (carried.symm.trans signature)
  rw [same] at written
  exact checked.madeFrom written signature

/-- A verified signature of a statement is over the message of the statement. -/
theorem verified_own_message {statement : Statement} {message verified : Bytes}
    (written : statement.message suite identity = .ok message)
    (accepted : suite.verify (identity.edPublic suite) (identity.sign suite message)
      verified = true) :
    statement.message suite identity = .ok verified := by
  obtain ⟨other, -, otherWritten, signature⟩ := ideal.sound _ _ accepted
  rw [written, ideal.binding _ _ signature]

theorem prekey_carries_own_signature {bundle : PrekeyBundle} {statement : Statement}
    {message : Bytes}
    (accepted : bundle.verifyBundle suite (identity.edPublic suite) = .ok ())
    (written : statement.message suite identity = .ok message)
    (carried : bundle.spkSig = identity.sign suite message) :
    statement.domain = .prekey := by
  obtain ⟨_, owner, accepted⟩ := except_bind_eq_ok.mp accepted
  obtain ⟨_, -, accepted⟩ := except_bind_eq_ok.mp accepted
  obtain ⟨prekeyMessage, prekeyWritten, accepted⟩ := except_bind_eq_ok.mp accepted
  have key : bundle.isign = identity.edPublic suite := by simpa using refuse_eq_ok.mp owner
  have verified : suite.verify bundle.isign bundle.spkSig prekeyMessage = true := by
    simpa using refuse_eq_ok.mp accepted
  rw [key, carried] at verified
  have domains := Statement.domainOf_message (verified_own_message ideal written verified)
  have prekey : Statement.domainOf prekeyMessage = some .prekey :=
    @Statement.domainOf_message suite identity
      (.prekey bundle.bundleId bundle.spkId bundle.spk) _ prekeyWritten
  exact Option.some.inj (domains.symm.trans prekey)

theorem proof_carries_own_signature {auth init signer proof : Json} {sid sk : Bytes}
    {statement : Statement} {message : Bytes}
    (accepted : X3dh.verifyAuth suite auth sid init sk = true)
    (key : auth.item "isign" = .ok signer)
    (own : signer.toBytes = .ok (identity.edPublic suite))
    (field : auth.item "sig" = .ok proof)
    (written : statement.message suite identity = .ok message)
    (carried : proof.toBytes = .ok (identity.sign suite message)) :
    statement.domain = .proof := by
  unfold X3dh.verifyAuth at accepted
  split at accepted
  · rename_i result body
    subst accepted
    obtain ⟨_, -, body⟩ := except_bind_eq_ok.mp body
    split at body
    · cases body
    obtain ⟨_, -, body⟩ := except_bind_eq_ok.mp body
    obtain ⟨_, -, body⟩ := except_bind_eq_ok.mp body
    split at body
    · cases body
    rw [key, except_ok_bind] at body
    obtain ⟨isign, read, body⟩ := except_bind_eq_ok.mp body
    obtain ⟨_, -, body⟩ := except_bind_eq_ok.mp body
    obtain ⟨_, -, body⟩ := except_bind_eq_ok.mp body
    obtain ⟨_, -, body⟩ := except_bind_eq_ok.mp body
    split at body
    · cases body
    rw [field, except_ok_bind] at body
    obtain ⟨signature, proofRead, body⟩ := except_bind_eq_ok.mp body
    have signer : isign = identity.edPublic suite := Except.ok.inj (read.symm.trans own)
    have proofSignature : signature = identity.sign suite message :=
      Except.ok.inj (proofRead.symm.trans carried)
    rw [signer, proofSignature] at body
    have domains := Statement.domainOf_message
      (verified_own_message ideal written (Except.ok.inj body))
    have authentication : Statement.domainOf
        (X3dh.authMessage sid init (X3dh.skCommitment suite sk)) = some .proof :=
      @Statement.domainOf_message suite identity (.proof sid init sk) _ rfl
    exact Option.some.inj (domains.symm.trans authentication)
  · cases accepted

/-- Account-signed records mean what was signed: they are read back as they were
created, what is accepted under the key of an account was created by it, and the
signature it carries was made for nothing else. -/
theorem account_records_mean_what_was_signed {library : CardLibrary}
    (restores : library.Restores) :
    (∀ bundleId inbox relays name, signed (.card bundleId inbox relays name) →
      relays ≠ [] → (Statement.writeView inbox).validate = .ok () →
      ContactCard.fromString suite library
          ((ContactCard.create suite identity bundleId inbox relays name).toString
            library) =
        .ok { ContactCard.create suite identity bundleId inbox relays name with
          name := (Json.str name).orElse .null }) ∧
    (∀ entries updated, signed (.devices entries updated) → entries ≠ [] →
      (∀ entry ∈ entries, entry.WellFormed) →
      DeviceList.fromBytes suite
          ((DeviceList.create suite identity entries updated).toBytes suite) =
        .ok (DeviceList.create suite identity entries updated).sorted) ∧
    (∀ deviceId sdev sagree, signed (.deviceKeys deviceId sdev sagree) →
      sdev.length = keySize → sagree.length = keySize →
      DeviceKeys.fromBytes suite
          ((DeviceKeys.create suite identity deviceId sdev sagree).toBytes suite) =
        .ok (DeviceKeys.create suite identity deviceId sdev sagree)) ∧
    (∀ record : AccountRecord, record.Accepted suite →
      record.signingKey = identity.edPublic suite →
        (∃ statement, signed statement ∧ record.MadeFrom suite identity statement) ∧
        ∀ (statement : Statement) (message : Bytes),
          statement.message suite identity = .ok message →
          record.signature = identity.sign suite message →
            record.MadeFrom suite identity statement) ∧
    ∀ (statement : Statement) (message : Bytes),
      statement.message suite identity = .ok message →
      (∀ bundle : PrekeyBundle,
        bundle.verifyBundle suite (identity.edPublic suite) = .ok () →
          bundle.spkSig = identity.sign suite message → statement.domain = .prekey) ∧
      ∀ (auth init signer proof : Json) (sid sk : Bytes),
        X3dh.verifyAuth suite auth sid init sk = true →
          auth.item "isign" = .ok signer → signer.toBytes = .ok (identity.edPublic suite) →
            auth.item "sig" = .ok proof →
              proof.toBytes = .ok (identity.sign suite message) →
                statement.domain = .proof := by
  refine ⟨?_, ?_, ?_, ?_, ?_⟩
  · exact fun _ _ _ _ made nonempty valid => card_round_trip ideal restores made nonempty valid
  · exact fun _ _ made nonempty wellFormed => devices_round_trip ideal made nonempty wellFormed
  · exact fun _ _ _ made sdevSize sagreeSize =>
      deviceKeys_round_trip ideal made sdevSize sagreeSize
  · intro record accepted key
    exact ⟨accepted_was_signed ideal accepted key, fun statement message written carried =>
      accepted_carries_own_signature ideal accepted key written carried⟩
  · intro statement message written
    refine ⟨?_, ?_⟩
    · intro bundle accepted carried
      exact prekey_carries_own_signature ideal accepted written carried
    · intro auth init signer proof sid sk accepted key own field carried
      exact proof_carries_own_signature ideal accepted key own field written carried

end Meaning

/-- The messages of the statements a holder has signed. -/
def messagesOf (holder : Identity) (statements : List Statement) : List Bytes :=
  statements.filterMap fun statement =>
    (statement.message Symbolic.suite holder).toOption

/-- Only what a holder has signed verifies. -/
def notaryOf (holder : Identity) (statements : List Statement) : Suite :=
  { Symbolic.suite with
    verify := fun public_ signature message =>
      decide (message ∈ messagesOf holder statements) &&
        Symbolic.suite.verify public_ signature message }

theorem message_notaryOf (holder : Identity) (statements : List Statement)
    (statement : Statement) :
    statement.message (notaryOf holder statements) holder =
      statement.message Symbolic.suite holder := by
  cases statement <;> rfl

theorem ideal_notaryOf (holder : Identity) (statements : List Statement) :
    IdealSignatures (notaryOf holder statements) holder
      fun statement => statement ∈ statements where
  complete := by
    intro statement message made written
    have listed : message ∈ messagesOf holder statements := by
      refine List.mem_filterMap.mpr ⟨statement, made, ?_⟩
      rw [← message_notaryOf holder statements, written]
      rfl
    show (decide (message ∈ messagesOf holder statements) && _) = true
    rw [decide_eq_true listed, Bool.true_and]
    exact beq_self_eq_true _
  sound := by
    intro signature message verified
    obtain ⟨listed, same⟩ := Bool.and_eq_true_iff.mp verified
    obtain ⟨statement, made, written⟩ := List.mem_filterMap.mp (of_decide_eq_true listed)
    refine ⟨statement, made, ?_, beq_iff_eq.mp same⟩
    rw [message_notaryOf]
    cases result : statement.message Symbolic.suite holder with
    | error raised => rw [result] at written; cases written
    | ok found => rw [result] at written; cases written; rfl
  binding := by
    intro message message' same
    exact (Symbolic.pair_inj.mp (List.cons.inj same).2).2

namespace SignedSpecimen

def holder : Identity := ⟨[1], [2]⟩

def capability : MailboxCapability where
  mailboxId := "inbox"
  writeToken := b64e (List.replicate 32 0)

def entry : DeviceEntry where
  deviceId := "d"
  inbox := capability.cardView
  relays := [.str "https://relay"]
  bundleId := "bundle"

/-- A card, a list of one device and the keys of this device. -/
def statements : List Statement := [
  .card "bundle" capability ["https://relay"] "holder",
  .devices [entry] 7,
  .deviceKeys "d" (List.replicate 32 1) (List.replicate 32 2)]

/-- Only what the holder has signed verifies. -/
def notary : Suite := notaryOf holder statements

theorem ideal : IdealSignatures notary holder fun statement => statement ∈ statements :=
  ideal_notaryOf holder statements

theorem wellFormed : ∀ found ∈ [entry], found.WellFormed := by
  intro found member
  rw [List.mem_singleton.mp member]
  exact ⟨rfl, ["https://relay"], rfl⟩

/-- A library that does not compress. -/
def library : CardLibrary where
  compress := fun data _ => data
  decompress := some
  loads := fun data => (loadJson data).elim (.error { class_ := .value }) .ok

theorem library_restores : library.Restores where
  decompress := fun _ _ => rfl
  loads := by
    intro data value loaded
    show (loadJson data).elim _ _ = _
    rw [loaded]
    rfl

end SignedSpecimen

open SignedSpecimen in
/-- The card and the device list of one device are read back. -/
theorem account_records_mean_what_was_signed_specimen :
    ContactCard.fromString notary library
        ((ContactCard.create notary holder "bundle" capability ["https://relay"]
          "holder").toString library) =
      .ok (ContactCard.create notary holder "bundle" capability ["https://relay"]
        "holder") ∧
    DeviceList.fromBytes notary ((DeviceList.create notary holder [entry] 7).toBytes notary) =
      .ok (DeviceList.create notary holder [entry] 7).sorted := by
  have meant := account_records_mean_what_was_signed ideal library_restores
  have valid : (Statement.writeView capability).validate = .ok () := by
    show (do
      MailboxCapability.validateToken "write_token" (b64e (List.replicate 32 0))
      pure ()) = _
    rw [MailboxCapability.validateToken, b64d_b64e]
    rfl
  exact ⟨meant.1 "bundle" capability ["https://relay"] "holder" (by simp [statements])
      (List.cons_ne_nil _ _) valid,
    meant.2.1 [entry] 7 (by simp [statements]) (List.cons_ne_nil _ _) wellFormed⟩

/-- A card can be created with a token that its reader refuses. -/
theorem malformed_card_is_not_read_back :
    ContactCard.fromDict Symbolic.suite
        (ContactCard.create Symbolic.suite SignedSpecimen.holder "bundle"
          { mailboxId := "inbox", writeToken := "w" } ["https://relay"] "holder").signedDict =
      .error { class_ := .value, text := "write_token is not valid base64url" } := by
  apply ContactCard.fromDict_signedDict_invalid
  · exact List.cons_ne_nil _ _
  · rfl
  · rfl
  · rfl

end NoKnowledge
