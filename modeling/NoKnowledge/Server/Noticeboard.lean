import NoKnowledge.Server.Outcomes
import NoKnowledge.Server.Routes

/-!
# The prekey noticeboard

What is published under an identifier is what the next fetches of this
identifier find.  A route that raises after its checks has changed no table.
-/

namespace NoKnowledge.Server

open Prog

namespace Database

/-- The fields published under an identifier. -/
def payload? (database : Database) (bundleId : String) : Option (List (String × Json)) :=
  (database.bundles.find? fun row => row.bundleId = bundleId).map BundleRow.payload

variable {database after : Database} {bundleId : String}

theorem fetchBundle_found {fields : List (String × Json)}
    (found : database.payload? bundleId = some fields) :
    ∃ opks after, (fetchBundle bundleId).run database =
      (.ok ((Json.obj fields).setField "opks" opks), after) := by
  obtain ⟨row, rowFound, rfl⟩ := Option.map_eq_some_iff.mp found
  unfold fetchBundle
  rw [run_transaction, run_bind, run_get]
  simp only [rowFound]
  cases database.nextOneTime bundleId with
  | none => exact ⟨_, _, rfl⟩
  | some opk => exact ⟨_, _, rfl⟩

theorem payload?_storeBundle (fields : List (String × Json)) (now : Int) (id : String) :
    ((storeBundle bundleId fields now).after database).payload? id =
      if id = bundleId then some fields else database.payload? id := by
  unfold storeBundle payload?
  rw [after, run_modify]
  by_cases known : (database.bundles.any fun row => row.bundleId = bundleId) = true
  · rw [if_pos known]
    dsimp only
    rw [List.find?_map]
    have same : ((fun row : BundleRow => decide (row.bundleId = id)) ∘
        fun row : BundleRow =>
          if row.bundleId = bundleId then { row with payload := fields } else row) =
        fun row => decide (row.bundleId = id) := by
      funext row
      rw [Function.comp]
      split <;> rfl
    rw [same, Option.map_map]
    by_cases here : id = bundleId
    · subst here
      obtain ⟨row, member, owner⟩ := List.any_eq_true.mp known
      have found : (database.bundles.find? fun row => row.bundleId = id).isSome = true :=
        List.find?_isSome.mpr ⟨row, member, owner⟩
      obtain ⟨first, firstFound⟩ := Option.isSome_iff_exists.mp found
      have firstId : first.bundleId = id := by simpa using List.find?_some firstFound
      rw [firstFound, if_pos rfl, Option.map_some, Function.comp, if_pos firstId]
    · rw [if_neg here]
      cases found : database.bundles.find? fun row => row.bundleId = id with
      | none => rfl
      | some row =>
          have rowId : row.bundleId = id := by simpa using List.find?_some found
          rw [Option.map_some, Function.comp, if_neg (rowId ▸ here)]
          rfl
  · rw [if_neg known]
    dsimp only
    rw [List.find?_append]
    have none : database.bundles.find? (fun row => row.bundleId = bundleId) = none := by
      apply List.find?_eq_none.mpr
      intro row member owner
      exact known (List.any_eq_true.mpr ⟨row, member, owner⟩)
    by_cases here : id = bundleId
    · subst here
      rw [none, if_pos rfl]
      simp
    · rw [if_neg here]
      simp [Ne.symm here]

theorem bundles_storeOneTime (entry : Json) :
    Keeps (keeping Database.bundles) (storeOneTime bundleId entry) := by
  apply keeps_bind
  · intro database
    exact congrArg Database.bundles (readOnly_bind _ database)
  · rintro ⟨opkId, opk⟩ database
    cases opk with
    | none => rfl
    | some opk =>
        show (if _ then database else _).bundles = database.bundles
        split <;> rfl

/-- What is published is found under its identifier. -/
theorem publishBundle_payload {fields : List (String × Json)} {opks : List Json} {now : Int}
    {result : Unit}
    (returned : (publishBundle bundleId fields opks now).run database = (.ok result, after))
    (id : String) :
    after.payload? id = if id = bundleId then some fields else database.payload? id := by
  obtain ⟨_, _, first, body⟩ := Prog.bind_returns (transaction_returns returned)
  obtain ⟨-, rfl⟩ := bind_returns first
  obtain ⟨_, middle, stored, loop⟩ := Prog.bind_returns body
  have kept : after.bundles = middle.bundles :=
    (keeps_forM fun entry _ => bundles_storeOneTime entry).view loop
  rw [payload?, kept, ← payload?, ← payload?_storeBundle fields _ id, Prog.after, stored]

end Database

section Publishing

variable {moment : Moment} {request : HttpRequest} {relay after : Relay}

theorem keeps_allowed {select : Relay → SlidingWindowLimiter}
    {store : Relay → SlidingWindowLimiter → Relay}
    (apart : ∀ relay limiter, (store relay limiter).database = relay.database)
    (key : String) (now : Int) (detail : String) :
    Keeps (keeping Relay.database) (allowed select store key now detail) := by
  intro relay
  unfold allowed refuseWith
  show ((if _ then _ else _ : RouteProg Unit).after _).database = relay.database
  split
  · exact apart relay _
  · exact apart relay _

theorem keeps_refuseWith (condition : Bool) (status : Nat) (detail : String) :
    Keeps (keeping Relay.database) (refuseWith condition status detail) :=
  keeps_ite (fun _ => keeps_throw _) fun _ => keeps_pure _

theorem keeps_allowedBundle (key : String) (now : Int) (detail : String) :
    Keeps (keeping Relay.database)
      (allowed Relay.bundle (fun relay bundle => { relay with bundle }) key now detail) :=
  @keeps_allowed Relay.bundle (fun relay bundle => { relay with bundle })
    (fun _ _ => rfl) key now detail

/-- A raising run changes no table. -/
def Refusing {α : Type} (route : RouteProg α) : Prop :=
  ∀ relay raised after, route.run relay = (.error raised, after) →
    after.database = relay.database

theorem refusing_bind {α β : Type} {first : RouteProg β} {next : β → RouteProg α}
    (firstKeeps : Keeps (keeping Relay.database) first)
    (nextRefuses : ∀ value, Refusing (next value)) : Refusing (first >>= next) := by
  intro relay raised after failed
  rw [run_bind] at failed
  split at failed
  · rename_i value middle firstRun
    exact (nextRefuses value middle raised after failed).trans (firstKeeps.view firstRun)
  · rename_i firstRaised middle firstRun
    cases failed
    exact firstKeeps.view firstRun

theorem refusing_onDatabase {α : Type} {operation : Transaction α}
    (atomic : Database.Atomic operation) : Refusing (onDatabase operation) := by
  intro relay raised after failed
  change onDatabase operation relay = _ at failed
  unfold onDatabase at failed
  split at failed
  · cases failed
  · rename_i failure database ran
    cases failed
    exact atomic _ _ _ ran

end Publishing

section Answers

variable {suite : Suite} {settings : Settings} {moment : Moment} {request : HttpRequest}
  {relay : Relay} {bundleId : String}

theorem run_onDatabase_ok {α : Type} {body : Transaction α} {value : α} {database : Database}
    (ran : body.run relay.database = (.ok value, database)) :
    (onDatabase body).run relay = (.ok value, { relay with database }) := by
  show onDatabase body relay = _
  unfold onDatabase
  rw [ran]

theorem run_onDatabase_error {α : Type} {body : Transaction α} {failure : Failure}
    {database : Database}
    (ran : body.run relay.database = (.error failure, database)) :
    (onDatabase body).run relay = (.error (.failure failure), { relay with database }) := by
  show onDatabase body relay = _
  unfold onDatabase
  rw [ran]

end Answers

end NoKnowledge.Server
