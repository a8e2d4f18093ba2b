import NoKnowledge.Core.History
import NoKnowledge.Foundation.Greedy

/-!
# What a bundle collects

The chunks of a bundle are a greedy selection among the chunk ids its messages
refer to.  Collection walks three levels into every message body: it returns
exactly when the bodies of the window have the shape it expects.
-/

namespace NoKnowledge.Core.History

/-- `value or {}` has fields. -/
def ObjectOrEmpty (value : Json) : Prop := value.truthy = true → value.isObj = true

/-- `value or []` is a list of objects. -/
def ObjectsOrEmpty (value : Json) : Prop :=
  value.truthy = true → ∃ entries, value = .arr entries ∧ ∀ entry ∈ entries, entry.isObj = true

/-- A message body that collection can walk through. -/
structure Walkable (body : Json) : Prop where
  itself : ObjectOrEmpty body
  attachment : ObjectOrEmpty (body.getD "attachment")
  chunks : ObjectsOrEmpty ((body.getD "attachment").getD "chunks")

def listed : Json → List Json
  | .arr entries => entries
  | _ => []

/-- The chunk entries of a body. -/
def entriesOf (body : Json) : List Json :=
  listed ((body.getD "attachment").getD "chunks")

/-- The chunk ids a body refers to, in order. -/
def referencedIds (body : Json) : List String :=
  (entriesOf body).map fun entry => (entry.getD "id").toText

theorem attempt_orElse_eq_ok {value found : Json} {key : String} :
    (value.orElse (.obj [])).attempt key = .ok found ↔
      ObjectOrEmpty value ∧ value.getD key = found := by
  unfold Json.orElse ObjectOrEmpty
  cases truthy : value.truthy with
  | true =>
      cases value with
      | obj fields =>
          rw [if_pos rfl, Json.attempt_obj, Except.ok.injEq]
          simp [Json.isObj]
      | _ => simp [Json.attempt, Json.isObj]
  | false =>
      have empty : value.getD key = .null := by
        cases value with
        | obj fields =>
            have none : fields = [] := by simpa [Json.truthy] using truthy
            rw [none]
            rfl
        | _ => rfl
      simp [Json.attempt, empty]

/-- What iterates over objects and is not empty is a list. -/
theorem eq_arr_of_elements {value : Json} {entries : List Json}
    (iterated : value.elements = .ok entries) (objects : ∀ entry ∈ entries, entry.isObj = true)
    (truthy : value.truthy = true) : value = .arr entries := by
  cases value with
  | arr items =>
      cases iterated
      rfl
  | obj fields =>
      cases iterated
      cases fields with
      | nil => cases truthy
      | cons field fields => exact absurd (objects _ List.mem_cons_self) Bool.false_ne_true
  | str text =>
      cases iterated
      cases spelled : text.toList with
      | nil =>
          rw [String.toList_eq_nil_iff.mp spelled] at truthy
          cases truthy
      | cons first rest =>
          rw [spelled] at objects
          exact absurd (objects _ List.mem_cons_self) Bool.false_ne_true
  | _ => cases iterated

theorem elements_orElse_eq_ok {value : Json} {entries : List Json} :
    (value.orElse (.arr [])).elements = .ok entries ∧
        (∀ entry ∈ entries, entry.isObj = true) ↔
      ObjectsOrEmpty value ∧ listed value = entries := by
  unfold Json.orElse ObjectsOrEmpty
  cases truthy : value.truthy with
  | true =>
      rw [if_pos rfl]
      constructor
      · rintro ⟨iterated, objects⟩
        rw [eq_arr_of_elements iterated objects truthy]
        exact ⟨fun _ => ⟨entries, rfl, objects⟩, rfl⟩
      · rintro ⟨shaped, same⟩
        obtain ⟨items, rfl, objects⟩ := shaped rfl
        cases same
        exact ⟨rfl, objects⟩
  | false =>
      have empty : listed value = [] := by
        cases value with
        | arr items =>
            have none : items = [] := by simpa [Json.truthy] using truthy
            rw [none]
            rfl
        | _ => rfl
      rw [if_neg Bool.false_ne_true, empty]
      constructor
      · intro iterated
        have none : [] = entries := Except.ok.inj iterated.1
        exact ⟨fun impossible => absurd impossible Bool.false_ne_true, none⟩
      · intro shaped
        rw [← shaped.2]
        exact ⟨rfl, fun entry member => absurd member List.not_mem_nil⟩

/-- The chunk references of a body are objects exactly when it is shaped for the
walk. -/
theorem chunkEntries_eq_ok {contactId : String} {message : Message} {entries : List Json} :
    chunkEntries (messageItem contactId message) = .ok entries ∧
        (∀ entry ∈ entries, entry.isObj = true) ↔
      Walkable message.body ∧ entriesOf message.body = entries := by
  have body : (messageItem contactId message).getD "body" = message.body := by
    simp [messageItem, messageFields, Json.getD, Json.get?_mkObj, Dict.lookup_cons_eq_ite]
  unfold chunkEntries
  simp only [body, except_bind_eq_ok, attempt_orElse_eq_ok]
  constructor
  · rintro ⟨⟨attachment, ⟨bodyShaped, rfl⟩, chunks, ⟨attachmentShaped, rfl⟩, iterated⟩,
      objects⟩
    obtain ⟨chunksShaped, same⟩ := elements_orElse_eq_ok.mp ⟨iterated, objects⟩
    exact ⟨⟨bodyShaped, attachmentShaped, chunksShaped⟩, same⟩
  · rintro ⟨shaped, same⟩
    obtain ⟨iterated, objects⟩ := elements_orElse_eq_ok.mpr ⟨shaped.chunks, same⟩
    exact ⟨⟨_, ⟨shaped.itself, rfl⟩, _, ⟨shaped.attachment, rfl⟩, iterated⟩, objects⟩

section Chunks

variable (store : Store) (budget : Int)

def blobSize (chunkId : String) : Option Nat :=
  (store.getLocalBlob chunkId).map List.length

def chunkItem (chunkId : String) : Json :=
  .mkObj [("id", .str chunkId),
    ("ct", .str (b64e ((store.getLocalBlob chunkId).getD [])))]

def skippedItem (chunkId : String) : Json :=
  .mkObj [("id", .str chunkId),
    ("reason", .str (if (store.getLocalBlob chunkId).isNone then "not held here"
      else "over budget"))]

/-- The distinct chunk ids of a list of references. -/
def distinctIds (chunkIds : List String) : List String :=
  (chunkIds.filter (· ≠ "")).eraseDups

def takenIds (chunkIds : List String) : List String :=
  Greedy.select (blobSize store) budget (distinctIds chunkIds)

def leftIds (chunkIds : List String) : List String :=
  Greedy.leave (blobSize store) budget (distinctIds chunkIds)

/-- What collection has gathered after some references. -/
def gathered (chunkIds : List String) : Collected where
  seen := (distinctIds chunkIds).reverse
  used := Greedy.weight (blobSize store) (takenIds store budget chunkIds)
  chunks := (takenIds store budget chunkIds).map (chunkItem store)
  skipped := (leftIds store budget chunkIds).map (skippedItem store)

end Chunks

variable {store : Store} {budget : Int}

theorem distinctIds_known {chunkIds : List String} {chunkId : String}
    (known : chunkId = "" ∨ chunkId ∈ distinctIds chunkIds) :
    distinctIds (chunkIds ++ [chunkId]) = distinctIds chunkIds := by
  unfold distinctIds at known ⊢
  rw [List.filter_append]
  rcases known with rfl | member
  · simp
  · have nonempty : chunkId ≠ "" := by
      have kept := List.mem_eraseDups.mp member
      simpa using (List.mem_filter.mp kept).2
    simp only [List.filter_cons, nonempty, ne_eq, not_false_eq_true, decide_true, if_true,
      List.filter_nil]
    rw [Greedy.eraseDups_append_singleton, if_pos (List.mem_eraseDups.mp member)]

theorem distinctIds_new {chunkIds : List String} {chunkId : String}
    (nonempty : chunkId ≠ "") (new : chunkId ∉ distinctIds chunkIds) :
    distinctIds (chunkIds ++ [chunkId]) = distinctIds chunkIds ++ [chunkId] := by
  unfold distinctIds at new ⊢
  rw [List.filter_append]
  simp only [List.filter_cons, nonempty, ne_eq, not_false_eq_true, decide_true, if_true,
    List.filter_nil]
  rw [Greedy.eraseDups_append_singleton,
    if_neg fun member => new (List.mem_eraseDups.mpr member)]

/-- One reference, collected on top of others. -/
theorem collectChunk_gathered (chunkIds : List String) {entry : Json}
    (object : entry.isObj = true) :
    collectChunk store budget (gathered store budget chunkIds) entry =
      .ok (gathered store budget (chunkIds ++ [(entry.getD "id").toText])) := by
  cases entry with
  | obj fields =>
      unfold collectChunk
      rw [Json.attempt_obj, except_ok_bind]
      generalize ((Json.obj fields).getD "id").toText = chunkId
      have seen : chunkId ∈ (gathered store budget chunkIds).seen ↔
          chunkId ∈ distinctIds chunkIds := by simp [gathered]
      by_cases known : chunkId = "" ∨ chunkId ∈ distinctIds chunkIds
      · rw [if_pos (by simpa [seen] using known)]
        simp only [gathered, takenIds, leftIds, distinctIds_known known]
        rfl
      · obtain ⟨nonempty, new⟩ := not_or.mp known
        rw [if_neg (by simpa [seen] using known)]
        unfold gathered takenIds leftIds
        rw [distinctIds_new nonempty new, Greedy.leave_append_singleton new,
          Greedy.select_append_singleton, Greedy.consider]
        generalize distinctIds chunkIds = order
        cases found : store.getLocalBlob chunkId with
        | none =>
            have missing : ¬ Greedy.Affordable (blobSize store) budget
                (Greedy.select (blobSize store) budget order) chunkId := by
              rintro ⟨bytes, available, -⟩
              simp [blobSize, found] at available
            simp only [skip, if_neg missing, List.map_append, List.map_cons, List.map_nil,
              List.reverse_append, skippedItem, found]
            rfl
        | some ciphertext =>
            have affordable : Greedy.Affordable (blobSize store) budget
                (Greedy.select (blobSize store) budget order) chunkId ↔
                  ¬ budget < (Greedy.weight (blobSize store)
                    (Greedy.select (blobSize store) budget order) : Int) +
                      ciphertext.length := by
              simp [Greedy.Affordable, blobSize, found]
            have added : Greedy.weight (blobSize store)
                (Greedy.select (blobSize store) budget order ++ [chunkId]) =
                  Greedy.weight (blobSize store) (Greedy.select (blobSize store) budget order) +
                    ciphertext.length := by
              simp [Greedy.weight_append_singleton, blobSize, found]
            by_cases exceeds : budget < (Greedy.weight (blobSize store)
                (Greedy.select (blobSize store) budget order) : Int) + ciphertext.length
            · have refused := affordable.not.mpr (not_not.mpr exceeds)
              simp only [if_pos exceeds, if_neg refused, skip, List.map_append, List.map_cons,
                List.map_nil, List.reverse_append, skippedItem, found]
              rfl
            · have accepted := affordable.mpr exceeds
              simp only [if_neg exceeds, if_pos accepted, added, List.map_append, List.map_cons,
                List.map_nil, List.reverse_append, chunkItem, found]
              rfl
  | _ => cases object

theorem collectChunks_gathered (chunkIds : List String) {entries : List Json}
    (objects : ∀ entry ∈ entries, entry.isObj = true) :
    entries.foldlM (collectChunk store budget) (gathered store budget chunkIds) =
      .ok (gathered store budget
        (chunkIds ++ entries.map fun entry => (entry.getD "id").toText)) := by
  induction entries generalizing chunkIds with
  | nil => simp; rfl
  | cons entry entries induction =>
      rw [List.foldlM_cons, collectChunk_gathered chunkIds (objects entry List.mem_cons_self),
        except_ok_bind, induction _ fun other member => objects other (List.mem_cons_of_mem _ member)]
      simp

/-- Only objects are collected. -/
theorem isObj_of_collectChunks {collected final : Collected} {entries : List Json}
    (ran : entries.foldlM (collectChunk store budget) collected = .ok final) :
    ∀ entry ∈ entries, entry.isObj = true := by
  induction entries generalizing collected with
  | nil => exact fun entry member => absurd member List.not_mem_nil
  | cons entry entries induction =>
      rw [List.foldlM_cons] at ran
      obtain ⟨next, stepped, rest⟩ := except_bind_eq_ok.mp ran
      obtain ⟨id, attempted, -⟩ := except_bind_eq_ok.mp stepped
      intro other member
      rcases List.mem_cons.mp member with rfl | member
      · cases other with
        | obj fields => rfl
        | _ => cases attempted
      · exact induction rest other member

theorem collectItem_gathered (chunkIds : List String) {message : Message}
    (walkable : Walkable message.body) :
    collectItem store budget (gathered store budget chunkIds)
        (messageItem message.contactId message) =
      .ok (gathered store budget (chunkIds ++ referencedIds message.body)) := by
  obtain ⟨read, objects⟩ := @chunkEntries_eq_ok message.contactId message _ |>.mpr
    ⟨walkable, rfl⟩
  unfold collectItem
  rw [read, except_ok_bind, collectChunks_gathered chunkIds objects]
  rfl

theorem collectItems_gathered (chunkIds : List String) {messages : List Message}
    (walkable : ∀ message ∈ messages, Walkable message.body) :
    (messages.map fun message => messageItem message.contactId message).foldlM
        (collectItem store budget) (gathered store budget chunkIds) =
      .ok (gathered store budget
        (chunkIds ++ messages.flatMap fun message => referencedIds message.body)) := by
  induction messages generalizing chunkIds with
  | nil => simp; rfl
  | cons message messages induction =>
      rw [List.map_cons, List.foldlM_cons,
        collectItem_gathered chunkIds (walkable message List.mem_cons_self), except_ok_bind,
        induction _ fun other member => walkable other (List.mem_cons_of_mem _ member)]
      simp

theorem walkable_of_collectItem {collected final : Collected} {message : Message}
    (ran : collectItem store budget collected (messageItem message.contactId message) =
      .ok final) : Walkable message.body := by
  obtain ⟨entries, read, collected⟩ := except_bind_eq_ok.mp ran
  exact (chunkEntries_eq_ok.mp ⟨read, isObj_of_collectChunks collected⟩).1

theorem walkable_of_collectItems {collected final : Collected} {messages : List Message}
    (ran : (messages.map fun message => messageItem message.contactId message).foldlM
      (collectItem store budget) collected = .ok final) :
    ∀ message ∈ messages, Walkable message.body := by
  induction messages generalizing collected with
  | nil => exact fun message member => absurd member List.not_mem_nil
  | cons message messages induction =>
      rw [List.map_cons, List.foldlM_cons] at ran
      obtain ⟨next, stepped, rest⟩ := except_bind_eq_ok.mp ran
      intro other member
      rcases List.mem_cons.mp member with rfl | member
      · exact walkable_of_collectItem stepped
      · exact induction rest other member

/-- The messages of a window, in their order. -/
def windowMessages (store : Store) (identityId : String) (since until_ : Int) :
    List Message :=
  (store.listAllMessages identityId).filter fun message =>
    since ≤ message.ts && message.ts ≤ until_

/-- The chunk ids a window refers to, in order. -/
def windowIds (store : Store) (identityId : String) (since until_ : Int) : List String :=
  (windowMessages store identityId since until_).flatMap fun message =>
    referencedIds message.body

/-- The bundle of a window that can be walked through. -/
def windowBundle (store : Store) (identityId : String) (since until_ budget : Int) :
    Bundle :=
  let collected := gathered store budget (windowIds store identityId since until_)
  { contacts := (store.listContacts identityId).map contactItem
    messages := windowItems store identityId since until_
    chunks := collected.chunks
    skipped := collected.skipped }

theorem buildBundle_of_walkable {identityId : String} {since until_ : Int}
    (walkable : ∀ message ∈ windowMessages store identityId since until_,
      Walkable message.body) :
    buildBundle store identityId since until_ budget =
      .ok (windowBundle store identityId since until_ budget) := by
  have collected : (windowItems store identityId since until_).foldlM
      (collectItem store budget) {} =
        .ok (gathered store budget (windowIds store identityId since until_)) :=
    collectItems_gathered [] walkable
  unfold buildBundle
  simp only [collected]
  rfl

/-- A bundle is built exactly when every body of the window can be walked
through. -/
theorem buildBundle_returns_iff {identityId : String} {since until_ : Int} :
    (∃ bundle, buildBundle store identityId since until_ budget = .ok bundle) ↔
      ∀ message ∈ windowMessages store identityId since until_, Walkable message.body := by
  constructor
  · rintro ⟨bundle, built⟩
    obtain ⟨collected, ran, -⟩ := except_bind_eq_ok.mp built
    exact walkable_of_collectItems ran
  · exact fun walkable => ⟨_, buildBundle_of_walkable walkable⟩

instance : Std.Total Store.olderFirst where
  total := by
    intro left right
    rcases lt_trichotomy left.ts right.ts with older | same | younger
    · exact .inl (.inl older)
    · rcases le_total left.id right.id with before | behind
      · exact .inl (.inr ⟨same, before⟩)
      · exact .inr (.inr ⟨same.symm, behind⟩)
    · exact .inr (.inl younger)

instance : IsTrans Message Store.olderFirst where
  trans := by
    rintro first second third (older | ⟨same, before⟩) (later | ⟨equal, behind⟩)
    · exact .inl (older.trans later)
    · exact .inl (equal ▸ older)
    · exact .inl (same ▸ later)
    · exact .inr ⟨same.trans equal, before.trans behind⟩

theorem mem_windowMessages {identityId : String} {since until_ : Int} {row : Message} :
    row ∈ windowMessages store identityId since until_ ↔
      row ∈ store.messages ∧ row.identityId = identityId ∧
        since ≤ row.ts ∧ row.ts ≤ until_ := by
  have listed : row ∈ store.listAllMessages identityId ↔
      row ∈ store.messages ∧ row.identityId = identityId := by
    rw [Store.listAllMessages, List.mem_insertionSort, ← Table.mem_iff, Table.mem_filter]
    simp
  rw [windowMessages, List.mem_filter, listed]
  simp [and_assoc]

theorem ordered_windowMessages (identityId : String) (since until_ : Int) :
    (windowMessages store identityId since until_).Pairwise Store.olderFirst :=
  (List.pairwise_insertionSort _ _).filter _

theorem nodup_windowMessages (identityId : String) (since until_ : Int) :
    (windowMessages store identityId since until_).Nodup := by
  have rows := (store.messages.filter fun row => row.identityId = identityId).distinct
  exact (((List.perm_insertionSort _ _).nodup_iff).mpr (List.Nodup.of_map _ rows)).filter _

/-- The ciphertext bytes a bundle carries. -/
def Bundle.carried (bundle : Bundle) : Nat :=
  (bundle.chunks.map fun chunk =>
    ((b64d (chunk.getD "ct").toText).getD []).length).sum

/-- A bundle that collects the rows of a window, the chunks it takes and those
it leaves. -/
structure Collects (store : Store) (identityId : String) (since until_ budget : Int)
    (bundle : Bundle) (rows : List Message) (taken left : List String) : Prop where
  messages : bundle.messages = rows.map fun row => messageItem row.contactId row
  window : ∀ row, row ∈ rows ↔ row ∈ store.messages ∧ row.identityId = identityId ∧
    since ≤ row.ts ∧ row.ts ≤ until_
  once : rows.Nodup
  ordered : rows.Pairwise Store.olderFirst
  chunks : bundle.chunks = taken.map (chunkItem store)
  skipped : bundle.skipped = left.map (skippedItem store)
  complete : ∀ chunkId, chunkId ∈ taken ++ left ↔
    chunkId ≠ "" ∧ ∃ row ∈ rows, chunkId ∈ referencedIds row.body
  distinct : (taken ++ left).Nodup
  held : ∀ chunkId ∈ taken, (store.getLocalBlob chunkId).isSome
  /-- Only what is not held, or does not fit on top of the chunks taken among the
  references before it, is left out. -/
  reason : ∀ chunkId ∈ left, store.getLocalBlob chunkId = none ∨
    ∃ ciphertext before after, store.getLocalBlob chunkId = some ciphertext ∧
      (rows.flatMap fun row => referencedIds row.body) = before ++ chunkId :: after ∧
      chunkId ∉ before ∧
      budget < (Greedy.weight (blobSize store) (taken.filter fun earlier =>
        earlier ∈ before) : Int) + ciphertext.length
  bounded : bundle.chunks = [] ∨ (bundle.carried : Int) ≤ budget

theorem mem_distinctIds {chunkIds : List String} {chunkId : String} :
    chunkId ∈ distinctIds chunkIds ↔ chunkId ≠ "" ∧ chunkId ∈ chunkIds := by
  rw [distinctIds, List.mem_eraseDups, List.mem_filter, decide_eq_true_eq, and_comm]

/-- The distinct ids up to the first mention of one of them. -/
theorem distinctIds_append_cons {before after : List String} {chunkId : String}
    (nonempty : chunkId ≠ "") (first : chunkId ∉ before) :
    ∃ later, distinctIds (before ++ chunkId :: after) =
      distinctIds before ++ chunkId :: later := by
  unfold distinctIds
  rw [List.filter_append, List.eraseDups_append, List.filter_cons,
    if_pos (by simpa using nonempty), List.removeAll, List.filter_cons,
    if_pos (by simp [first]), List.eraseDups_cons]
  exact ⟨_, rfl⟩

/-- A reference is taken exactly when it is affordable at its first mention. -/
theorem mem_takenIds_iff {before after : List String} {chunkId : String}
    (nonempty : chunkId ≠ "") (first : chunkId ∉ before) :
    chunkId ∈ takenIds store budget (before ++ chunkId :: after) ↔
      Greedy.Affordable (blobSize store) budget
        ((takenIds store budget (before ++ chunkId :: after)).filter fun earlier =>
          earlier ∈ before) chunkId := by
  obtain ⟨later, split⟩ := @distinctIds_append_cons before after chunkId nonempty first
  have once : (distinctIds before ++ chunkId :: later).Nodup :=
    split ▸ Greedy.nodup_eraseDups _
  have earlier : ((takenIds store budget (before ++ chunkId :: after)).filter fun earlier =>
      earlier ∈ before) = Greedy.select (blobSize store) budget (distinctIds before) := by
    rw [← Greedy.filter_select once, takenIds, split]
    apply List.filter_congr
    intro other taken
    have mentioned : other ∈ distinctIds (before ++ chunkId :: after) :=
      split ▸ Greedy.mem_of_mem_select taken
    have nonempty := (mem_distinctIds.mp mentioned).1
    simp [mem_distinctIds, nonempty]
  rw [earlier, takenIds, split, Greedy.mem_select_iff once]

theorem carried_windowBundle (identityId : String) (since until_ : Int) :
    (windowBundle store identityId since until_ budget).carried =
      Greedy.weight (blobSize store)
        (takenIds store budget (windowIds store identityId since until_)) := by
  unfold Bundle.carried windowBundle gathered Greedy.weight
  rw [List.map_map]
  congr 1
  apply List.map_congr_left
  intro chunkId taken
  have carried : (chunkItem store chunkId).getD "ct" =
      .str (b64e ((store.getLocalBlob chunkId).getD [])) := by
    simp [chunkItem, Json.getD, Json.get?_mkObj]
  simp only [Function.comp, carried, Json.toText_str, b64d_b64e, blobSize]
  cases store.getLocalBlob chunkId <;> rfl

theorem bundles_collect_windows {store : Store} {identityId : String}
    (walkable : ∀ row ∈ store.messages, row.identityId = identityId → Walkable row.body)
    (since until_ budget : Int) :
    ∃ bundle rows taken left,
      buildBundle store identityId since until_ budget = .ok bundle ∧
        Collects store identityId since until_ budget bundle rows taken left := by
  have built := @buildBundle_of_walkable store budget identityId since until_
    fun message member =>
      walkable message (mem_windowMessages.mp member).1 (mem_windowMessages.mp member).2.1
  refine ⟨_, windowMessages store identityId since until_,
    takenIds store budget (windowIds store identityId since until_),
    leftIds store budget (windowIds store identityId since until_), built, ?_⟩
  have distinct := Greedy.nodup_eraseDups
    ((windowIds store identityId since until_).filter (· ≠ ""))
  constructor
  case messages => rfl
  case window => exact fun row => mem_windowMessages
  case once => exact nodup_windowMessages identityId since until_
  case ordered => exact ordered_windowMessages identityId since until_
  case chunks => rfl
  case skipped => rfl
  case complete =>
      intro chunkId
      unfold takenIds leftIds
      rw [Greedy.mem_select_or_leave, mem_distinctIds, windowIds, List.mem_flatMap]
  case distinct => exact Greedy.nodup_select_leave distinct
  case held =>
      intro chunkId taken
      obtain ⟨bytes, available⟩ := Greedy.available_of_mem_select taken
      simp only [blobSize, Option.map_eq_some_iff] at available
      obtain ⟨ciphertext, found, -⟩ := available
      rw [found]
      rfl
  case reason =>
      intro chunkId left
      obtain ⟨mentioned, untaken⟩ := List.mem_filter.mp left
      obtain ⟨nonempty, referenced⟩ := mem_distinctIds.mp mentioned
      obtain ⟨before, after, split, first⟩ := List.eq_append_cons_of_mem referenced
      rw [split] at untaken ⊢
      cases found : store.getLocalBlob chunkId with
      | none => exact .inl rfl
      | some ciphertext =>
          have unaffordable := (@mem_takenIds_iff store budget before after chunkId nonempty
            first).not.mp (of_decide_eq_true untaken)
          refine .inr ⟨ciphertext, before, after, rfl, split, first, ?_⟩
          by_contra fits
          exact unaffordable ⟨ciphertext.length, by simp [blobSize, found], not_lt.mp fits⟩
  case bounded =>
      rcases Greedy.weight_select (distinctIds (windowIds store identityId since until_))
        with none | fits
      · left
        show (takenIds store budget _).map (chunkItem store) = []
        rw [takenIds, none]
        rfl
      · right
        rw [carried_windowBundle]
        exact fits

/-- A file whose chunk is held, twice. -/
def collectedStore : Store where
  messages := Store.insertMessage
    (Store.insertMessage Table.empty ⟨"m1", "me", "c", "sent", "file",
      .obj [("attachment", .obj [("chunks", .arr [.obj [("id", .str "k")]])])], none, 1, none⟩)
    ⟨"m2", "me", "c", "sent", "file",
      .obj [("attachment", .obj [("chunks", .arr [.obj [("id", .str "k")]])])], none, 2, none⟩
  localBlobs := Table.empty.upsert ⟨"k", [1, 2, 3], 0⟩ Table.Change.none

theorem bundles_collect_windows_shared :
    ∃ bundle rows taken left,
      buildBundle collectedStore "me" 0 9 100 = .ok bundle ∧
        Collects collectedStore "me" 0 9 100 bundle rows taken left := by
  apply bundles_collect_windows
  intro row member _
  have rows : row.body = .obj [("attachment", .obj [("chunks",
      .arr [.obj [("id", .str "k")]])])] := by
    have listed : ∀ row ∈ collectedStore.messages.rows, row.body = .obj [("attachment",
        .obj [("chunks", .arr [.obj [("id", .str "k")]])])] := by decide
    exact listed row member
  rw [rows]
  refine ⟨fun _ => rfl, fun _ => rfl, fun _ => ⟨_, rfl, by decide⟩⟩

/-- A budget below zero is exceeded by carrying nothing. -/
theorem negative_budget_is_exceeded :
    ∃ bundle, buildBundle {} "me" 0 9 (-1) = .ok bundle ∧
      ¬ ((bundle.carried : Int) ≤ -1) :=
  ⟨_, rfl, by decide⟩

end NoKnowledge.Core.History
