import NoKnowledge.Server.Outcomes

/-!
# One-time prekeys are handed out once

The used flag of a row stands for the history of fetches: a row is marked
exactly when its prekey has been handed out.  Republication finds the row of
a known prekey and leaves its flag alone.
-/

namespace NoKnowledge.Server.Database

/-- A one-time prekey is known by its bundle and its identifier. -/
abbrev PrekeyName := String × Int

def OneTimeRow.name (row : OneTimeRow) : PrekeyName := (row.bundleId, row.opkId)

/-- The one-time prekeys in the answer to a fetch. -/
def handed (request : Request) (answer : Except Failure Response) :
    List PrekeyName :=
  match request, answer with
  | .fetchBundle bundleId, .ok (.bundle payload) =>
      match payload.get? "opks" with
      | some (.arr items) => items.filterMap fun item =>
          match item.get? "opk_id" with
          | some (.int opkId) => some (bundleId, opkId)
          | _ => none
      | _ => []
  | _, _ => []

/-- The prekeys among the entries of a published list: an entry without a key
is none. -/
def offered (bundleId : String) (entries : List (Int × Option String)) :
    List PrekeyName :=
  entries.filterMap fun entry => entry.2.map fun _ => (bundleId, entry.1)

/-- The one-time prekeys a successful publication announces. -/
def announced (request : Request) (answer : Except Failure Response) :
    List PrekeyName :=
  match request, answer with
  | .publishBundle bundleId _ opks _, .ok _ =>
      match opks.mapM readOneTime with
      | .ok entries => offered bundleId entries
      | .error _ => []
  | _, _ => []

/-- The prekeys handed out in the course of a run, one entry a fetch. -/
def handedOut : Database → List Request → List PrekeyName
  | _, [] => []
  | database, request :: requests =>
      handed request (database.answer request) ++
        handedOut (database.serve request) requests

/-- The prekeys published in the course of a run. -/
def announcedIn : Database → List Request → List PrekeyName
  | _, [] => []
  | database, request :: requests =>
      announced request (database.answer request) ++
        announcedIn (database.serve request) requests

/-- The rows of a relay against the history of publications and fetches. -/
structure Accounts (rows : List OneTimeRow) (published given : List PrekeyName) :
    Prop where
  idsBelow : ∀ row ∈ rows, row.id < rows.length
  idsDistinct : (rows.map OneTimeRow.id).Nodup
  namesDistinct : (rows.map OneTimeRow.name).Nodup
  usedIff : ∀ row ∈ rows, row.used = true ↔ OneTimeRow.name row ∈ given
  givenStored : ∀ name ∈ given, name ∈ rows.map OneTimeRow.name
  publishedStored : ∀ name ∈ published, name ∈ rows.map OneTimeRow.name
  givenDistinct : given.Nodup

theorem accounts_initial : Accounts initial.oneTime [] [] := by
  constructor <;> simp [initial]

variable {rows : List OneTimeRow} {published given : List PrekeyName}

theorem Accounts.announce_known (accounts : Accounts rows published given)
    {name : PrekeyName} (stored : name ∈ rows.map OneTimeRow.name) :
    Accounts rows (published ++ [name]) given := by
  refine { accounts with publishedStored := ?_ }
  intro other member
  rcases List.mem_append.mp member with old | new
  · exact accounts.publishedStored other old
  · rw [List.mem_singleton] at new
    exact new ▸ stored

theorem Accounts.announce_new (accounts : Accounts rows published given)
    {bundleId : String} {opkId : Int} (opk : String)
    (absent : (bundleId, opkId) ∉ rows.map OneTimeRow.name) :
    Accounts (rows ++ [{ id := rows.length, bundleId, opkId, opk, used := false }])
      (published ++ [(bundleId, opkId)]) given := by
  constructor
  · intro row member
    rw [List.length_append]
    rcases List.mem_append.mp member with old | new
    · exact (accounts.idsBelow row old).trans (Nat.lt_succ_self _)
    · rw [List.mem_singleton] at new
      rw [new]
      exact Nat.lt_succ_self _
  · rw [List.map_append, List.nodup_append]
    refine ⟨accounts.idsDistinct, by simp, ?_⟩
    intro id member other otherMember same
    obtain ⟨row, rowMember, rfl⟩ := List.mem_map.mp member
    rw [List.map_singleton, List.mem_singleton] at otherMember
    exact (accounts.idsBelow row rowMember).ne (same.trans otherMember)
  · rw [List.map_append, List.nodup_append]
    refine ⟨accounts.namesDistinct, by simp, ?_⟩
    intro name member other otherMember same
    rw [List.map_singleton, List.mem_singleton] at otherMember
    apply absent
    rw [same, otherMember] at member
    exact member
  · intro row member
    rcases List.mem_append.mp member with old | new
    · exact accounts.usedIff row old
    · rw [List.mem_singleton] at new
      subst new
      constructor
      · intro used
        cases used
      · intro wasGiven
        exact (absent (accounts.givenStored _ wasGiven)).elim
  · intro name member
    rw [List.map_append]
    exact List.mem_append_left _ (accounts.givenStored name member)
  · intro name member
    rw [List.map_append]
    rcases List.mem_append.mp member with old | new
    · exact List.mem_append_left _ (accounts.publishedStored name old)
    · rw [List.mem_singleton] at new
      rw [new]
      exact List.mem_append_right _ List.mem_cons_self
  · exact accounts.givenDistinct

theorem any_name_iff (rows : List OneTimeRow) (bundleId : String) (opkId : Int) :
    (rows.any fun row => row.bundleId = bundleId && row.opkId = opkId) = true ↔
      (bundleId, opkId) ∈ rows.map OneTimeRow.name := by
  simp [OneTimeRow.name]

theorem Accounts.publish (accounts : Accounts rows published given)
    (bundleId : String) (entries : List (Int × Option String)) :
    Accounts (entries.foldl (withOneTime bundleId) rows)
      (published ++ offered bundleId entries) given := by
  induction entries generalizing rows published with
  | nil => simpa [offered] using accounts
  | cons entry entries induction =>
      obtain ⟨opkId, opk⟩ := entry
      cases opk with
      | none => exact induction accounts
      | some opk =>
          have split : offered bundleId ((opkId, some opk) :: entries) =
              [(bundleId, opkId)] ++ offered bundleId entries := rfl
          rw [split, ← List.append_assoc, List.foldl_cons]
          apply induction
          simp only [withOneTime]
          split
          · rename_i known
            exact accounts.announce_known ((any_name_iff _ _ _).mp known)
          · rename_i unknown
            apply accounts.announce_new opk
            exact fun stored => unknown ((any_name_iff _ _ _).mpr stored)

/-- The row the next fetch consumes is an unused one of that bundle. -/
theorem nextOneTime_eq_some {database : Database} {bundleId : String}
    {opk : OneTimeRow} (next : database.nextOneTime bundleId = some opk) :
    opk ∈ database.oneTime ∧ opk.bundleId = bundleId ∧ opk.used = false := by
  have member := List.mem_of_find?_eq_some next
  have chosen := List.find?_some next
  simp only [Bool.and_eq_true, decide_eq_true_eq, Bool.not_eq_true'] at chosen
  exact ⟨member, chosen⟩

theorem names_spent (rows : List OneTimeRow) (id : Nat) :
    (spent rows id).map OneTimeRow.name = rows.map OneTimeRow.name := by
  rw [spent, List.map_map]
  apply List.map_congr_left
  intro row _
  simp only [Function.comp_apply]
  split <;> rfl

theorem ids_spent (rows : List OneTimeRow) (id : Nat) :
    (spent rows id).map OneTimeRow.id = rows.map OneTimeRow.id := by
  rw [spent, List.map_map]
  apply List.map_congr_left
  intro row _
  simp only [Function.comp_apply]
  split <;> rfl

theorem Accounts.fetch (accounts : Accounts rows published given)
    {opk : OneTimeRow} (stored : opk ∈ rows) (unused : opk.used = false) :
    Accounts (spent rows opk.id) published (given ++ [OneTimeRow.name opk]) := by
  have fresh : OneTimeRow.name opk ∉ given := by
    intro wasGiven
    have used := (accounts.usedIff opk stored).mpr wasGiven
    rw [unused] at used
    cases used
  constructor
  · intro row member
    obtain ⟨old, oldMember, rfl⟩ := List.mem_map.mp member
    rw [spent, List.length_map]
    split
    · exact accounts.idsBelow old oldMember
    · exact accounts.idsBelow old oldMember
  · rw [ids_spent]
    exact accounts.idsDistinct
  · rw [names_spent]
    exact accounts.namesDistinct
  · intro row member
    obtain ⟨old, oldMember, rfl⟩ := List.mem_map.mp member
    by_cases sameId : old.id = opk.id
    · have same : old = opk :=
        List.inj_on_of_nodup_map accounts.idsDistinct oldMember stored sameId
      rw [if_pos sameId, same]
      exact iff_of_true rfl (List.mem_append_right _ List.mem_cons_self)
    · rw [if_neg sameId, accounts.usedIff old oldMember, List.mem_append,
        List.mem_singleton]
      have different : OneTimeRow.name old ≠ OneTimeRow.name opk := by
        intro sameName
        apply sameId
        rw [List.inj_on_of_nodup_map accounts.namesDistinct oldMember stored sameName]
      exact (or_iff_left different).symm
  · intro name member
    rw [names_spent]
    rcases List.mem_append.mp member with old | new
    · exact accounts.givenStored name old
    · rw [List.mem_singleton] at new
      rw [new]
      exact List.mem_map_of_mem stored
  · intro name member
    rw [names_spent]
    exact accounts.publishedStored name member
  · rw [List.nodup_append]
    refine ⟨accounts.givenDistinct, by simp, ?_⟩
    intro name member other otherMember same
    rw [List.mem_singleton] at otherMember
    apply fresh
    rw [← otherMember, ← same]
    exact member

theorem handed_none (bundleId : String) (payload : List (String × Json)) :
    handed (.fetchBundle bundleId)
      (.ok (.bundle ((Json.obj payload).setField "opks" (.arr [])))) = [] := by
  simp [handed, Json.get?_setField]

theorem handed_one (bundleId : String) (payload : List (String × Json))
    (opk : OneTimeRow) :
    handed (.fetchBundle bundleId)
      (.ok (.bundle ((Json.obj payload).setField "opks"
        (.arr [OneTimeRow.published opk])))) = [(bundleId, opk.opkId)] := by
  have name : (OneTimeRow.published opk).get? "opk_id" = some (.int opk.opkId) := by
    rw [OneTimeRow.published, Json.get?_mkObj]
    rfl
  simp [handed, Json.get?_setField, name]

/-- One request extends the history by what it announces and hands out. -/
theorem Accounts.serve {database : Database}
    (accounts : Accounts database.oneTime published given) (request : Request) :
    Accounts (database.serve request).oneTime
      (published ++ announced request (database.answer request))
      (given ++ handed request (database.answer request)) := by
  have happened := outcome database request
  generalize database.answer request = answer at happened ⊢
  generalize database.serve request = after at happened ⊢
  cases happened with
  | failed request failure =>
      have nothing : announced request (.error failure) = [] := by
        cases request <;> rfl
      have none : handed request (.error failure) = [] := by
        cases request <;> rfl
      rw [nothing, none, List.append_nil, List.append_nil]
      exact accounts
  | @published bundleId payload opks now entries read bundles =>
      have news : announced (.publishBundle bundleId payload opks now) (.ok .done) =
          offered bundleId entries := by
        simp only [announced, read]
      have none : handed (.publishBundle bundleId payload opks now) (.ok .done) = [] :=
        rfl
      rw [news, none, List.append_nil]
      exact accounts.publish bundleId entries
  | fetchedNone exhausted =>
      rw [handed_none, List.append_nil]
      simpa [announced] using accounts
  | @fetchedOne bundleId payload opk next =>
      obtain ⟨stored, owner, unused⟩ := nextOneTime_eq_some next
      rw [handed_one]
      have name : (bundleId, opk.opkId) = OneTimeRow.name opk := by
        rw [← owner]
        rfl
      rw [name]
      simpa [announced] using accounts.fetch stored unused
  | cleaned now mailboxTtl blobTtl stale stray removed =>
      simpa [announced, handed, foldl_without] using accounts
  | _ => simpa [announced, handed, stored, without] using accounts

theorem Accounts.serveAll (requests : List Request) {database : Database}
    (accounts : Accounts database.oneTime published given) :
    Accounts (database.serveAll requests).oneTime
      (published ++ announcedIn database requests)
      (given ++ handedOut database requests) := by
  induction requests generalizing database published given with
  | nil => simpa [announcedIn, handedOut, Database.serveAll] using accounts
  | cons request requests induction =>
      have rest := induction (accounts.serve request)
      simp only [announcedIn, handedOut]
      rw [← List.append_assoc, ← List.append_assoc]
      exact rest

/-- No fetch of a run hands out a prekey another fetch has handed out; a fetch
hands out at most one, and none only when every prekey published so far under
that bundle is gone. -/
theorem prekeys_handed_out_once (requests : List Request) :
    (handedOut initial requests).Nodup ∧
      ∀ bundleId payload,
        (initial.serveAll requests).answer (.fetchBundle bundleId) =
          .ok (.bundle payload) →
        ∃ items, payload.get? "opks" = some (.arr items) ∧ items.length ≤ 1 ∧
          (items = [] → ∀ opkId,
            (bundleId, opkId) ∈ announcedIn initial requests →
            (bundleId, opkId) ∈ handedOut initial requests) := by
  have accounts := accounts_initial.serveAll requests
  rw [List.nil_append, List.nil_append] at accounts
  refine ⟨accounts.givenDistinct, ?_⟩
  intro bundleId payload answered
  have happened := outcome (initial.serveAll requests) (.fetchBundle bundleId)
  rw [answered] at happened
  generalize (initial.serveAll requests).serve (.fetchBundle bundleId) = after
    at happened
  cases happened with
  | fetchedNone exhausted =>
      refine ⟨[], by simp [Json.get?_setField], by simp, ?_⟩
      intro _ opkId published
      obtain ⟨row, stored, name⟩ :=
        List.mem_map.mp (accounts.publishedStored _ published)
      have used : row.used = true := by
        have skipped := List.find?_eq_none.mp exhausted row stored
        have owner : row.bundleId = bundleId := congrArg Prod.fst name
        simpa [owner] using skipped
      rw [← name]
      exact (accounts.usedIff row stored).mp used
  | fetchedOne next =>
      refine ⟨_, by simp [Json.get?_setField]; rfl, by simp, ?_⟩
      intro empty
      cases empty

end NoKnowledge.Server.Database
