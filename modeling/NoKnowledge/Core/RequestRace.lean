import NoKnowledge.Core.FailedApprovals
import NoKnowledge.Foundation.Thread

/-!
# Decisions on history requests beside each other

The interface thread denies requests while the worker approves others and files new
ones.  Each of these calls reads the table of requests, changes the entry of one device
in its copy and writes the whole copy back; an approval does so after its transfer.  The
table follows the decisions as long as no copy is written back that lists other devices
than the table does by then.
-/

namespace NoKnowledge.Core.RequestRace

open Prog Sync

/-- What a call completes for a device: a request, or a denial or an approval. -/
inductive Event where
  | requested (deviceId : String)
  | settled (deviceId : String)
deriving DecidableEq

def Event.deviceId : Event → String
  | requested deviceId => deviceId
  | settled deviceId => deviceId

/-- The latest request of a device is newer than any denial or completed approval. -/
def Awaiting (events : List Event) (deviceId : String) : Prop :=
  ∃ before after, events = before ++ .requested deviceId :: after ∧
    .settled deviceId ∉ after

theorem awaiting_append_singleton (events : List Event) (event : Event)
    (deviceId : String) :
    Awaiting (events ++ [event]) deviceId ↔
      event = .requested deviceId ∨ (event ≠ .settled deviceId ∧ Awaiting events deviceId) := by
  constructor
  · rintro ⟨before, after, split, unsettled⟩
    rcases List.eq_nil_or_concat after with rfl | ⟨middle, last, rfl⟩
    · left
      exact (List.cons.inj (List.append_inj' split rfl).2).1
    · right
      rw [List.concat_eq_append] at split unsettled
      rw [← List.cons_append, ← List.append_assoc] at split
      obtain ⟨same, rest⟩ := List.append_inj' split rfl
      obtain rfl := (List.cons.inj rest).1
      rw [List.mem_append, not_or, List.mem_singleton] at unsettled
      exact ⟨Ne.symm unsettled.2, before, middle, same, unsettled.1⟩
  · rintro (rfl | ⟨other, before, after, rfl, unsettled⟩)
    · exact ⟨events, [], rfl, List.not_mem_nil⟩
    · refine ⟨before, after ++ [event], by rw [List.append_assoc, List.cons_append], ?_⟩
      rw [List.mem_append, not_or, List.mem_singleton]
      exact ⟨unsettled, Ne.symm other⟩

def requestsOf (world : World) : Json := stateOrEmpty world.store requestsState

def lists (pending : Json) (deviceId : String) : Prop := (pending.get? deviceId).isSome = true

/-- Programs that leave the table alone. -/
def aside : Frame World := keeping requestsOf

theorem requestsOf_withState (world : World) {pending : Json} (object : pending.isObj = true) :
    requestsOf (world.withState requestsState pending) = pending := by
  cases pending with
  | obj fields => cases fields <;> simp [requestsOf, stateOrEmpty, World.withState,
      Store.getState, Json.orElse, Json.truthy]
  | _ => exact absurd object (by simp [Json.isObj])

theorem lists_setField {pending : Json} (object : pending.isObj = true)
    (deviceId other : String) (entry : Json) :
    lists (pending.setField deviceId entry) other ↔ other = deviceId ∨ lists pending other := by
  cases pending with
  | obj fields =>
      rw [lists, Json.get?_setField]
      by_cases same : other = deviceId
      · simp [same]
      · rw [if_neg same]
        exact (or_iff_right same).symm
  | _ => exact absurd object (by simp [Json.isObj])

theorem lists_eraseField (pending : Json) (deviceId other : String) :
    lists (pending.eraseField deviceId) other ↔ other ≠ deviceId ∧ lists pending other := by
  rw [lists, Json.get?_eraseField]
  by_cases same : other = deviceId
  · simp [same]
  · rw [if_neg same]
    exact (and_iff_right same).symm

theorem quiet_aside : Quiet aside where
  tick := fun _ _ => rfl
  put := fun _ _ => rfl
  siblingKeys := fun _ _ => rfl
  deviceList := fun _ _ _ => rfl
  deviceKeys := fun world value => stateOrEmpty_withState (by decide) world value

theorem aside_approvals : AllowsState aside approvalsState :=
  fun world value => stateOrEmpty_withState (by decide) world value

/-- One atomic access to the table, or what lies between two of them.  The event is what
a write completes and is not stored. -/
inductive RequestAccess : Type → Type 1 where
  | getRequests : RequestAccess Json
  | setRequests (pending : Json) (event : Event) : RequestAccess Unit
  | elsewhere {β : Type} (program : ClientProg β) (leaves : Keeps aside program) :
      RequestAccess β

abbrev RequestThread (α : Type) : Type 1 := Thread RequestAccess Raised α

namespace RequestAccess

def perform : {β : Type} → RequestAccess β → ClientProg β
  | _, getRequests => askStore fun store => stateOrEmpty store requestsState
  | _, setRequests pending _ => onStore (Store.setState requestsState pending)
  | _, elsewhere program _ => program

/-- The table as a thread has last read it. -/
def remembered : {β : Type} → RequestAccess β → Except Raised β → Json → Json
  | _, getRequests, .ok pending, _ => pending
  | _, _, _, copy => copy

/-- What an access completes. -/
def completes : {β : Type} → RequestAccess β → List Event
  | _, setRequests _ event => [event]
  | _, _ => []

end RequestAccess

open RequestAccess

namespace Threads

variable (suite : Suite) (environment : Environment) (account : Account)

def piece {α : Type} (program : ClientProg α) (leaves : Keeps aside program) :
    RequestThread α :=
  Thread.once (.elsewhere program leaves)

def incomingRequest (deviceId transfer : String) (since : Json) : RequestThread Unit := do
  let pending ← Thread.once .getRequests
  let since ← Thread.lift (integerOr since 0)
  let now ← piece (nowMs environment) quiet_aside.nowMs
  let entry := Json.mkObj [
    ("transfer", .str transfer), ("since", .int since), ("ts", .int now)]
  Thread.once (.setRequests (pending.setField deviceId entry) (.requested deviceId))

def denyDevice (deviceId : String) : RequestThread Unit := do
  let pending ← Thread.once .getRequests
  Thread.once (.setRequests (pending.eraseField deviceId) (.settled deviceId))

theorem aside_sendHistory (device : DeviceEntry) (since until_ budget : Int)
    (transfer : String) :
    Keeps aside (sendHistory suite environment account device since until_ budget
      transfer) := fun _ =>
  Permissive.rel_sendHistory quiet_aside (fun _ _ _ _ _ => rfl)
    (fun _ _ _ _ _ _ _ _ _ => rfl) (fun _ _ _ _ _ => rfl)

/-- The transfer lies between the two accesses to the table. -/
def approveDevice (deviceId : String) (since budget : Option Int) :
    RequestThread (Nat × Nat) := do
  match ← piece (locateDevice suite environment account deviceId)
      (quiet_aside.locateDevice deviceId) with
  | none => throw (unavailable ("unknown device: " ++ deviceId))
  | some device =>
      let pending ← Thread.once .getRequests
      let since ← Thread.lift (grantedSince pending deviceId since)
      let budget := budget.getD History.defaultBudgetBytes
      let transfer ← piece (newTransferId environment) quiet_aside.newTransferId
      let until_ ← piece (nowMs environment) quiet_aside.nowMs
      piece (writeRecord suite environment account device Channel.approval
        (canonicalJson (.mkObj [
          ("device", .str deviceId), ("since", .int since), ("until", .int until_),
          ("budget", .int budget)]))
        transfer 0 (rangeFields since until_))
        (quiet_aside.writeRecord fun _ _ _ => rfl)
      piece (markApproved environment deviceId transfer (.int since) (.int until_))
        (quiet_aside.markApproved aside_approvals _ _ _ _)
      let counts ← piece (sendHistory suite environment account device since until_ budget
        transfer) (aside_sendHistory suite environment account _ _ _ _ _)
      Thread.once (.setRequests (pending.eraseField deviceId) (.settled deviceId))
      return counts

variable {suite environment account}

theorem alone_incomingRequest (deviceId transfer : String) (since : Json) :
    (incomingRequest environment deviceId transfer since).run perform =
      Sync.incomingRequest environment deviceId transfer since := by
  simp only [incomingRequest, piece, Thread.run_bind, Thread.run_once, Thread.run_lift,
    perform]
  rfl

theorem alone_denyDevice (deviceId : String) :
    (denyDevice deviceId).run perform = Sync.denyDevice deviceId := by
  simp only [denyDevice, Thread.run_bind, Thread.run_once, perform]
  rfl

theorem alone_approveDevice (deviceId : String) (since budget : Option Int) :
    (approveDevice suite environment account deviceId since budget).run perform =
      Sync.approveDevice suite environment account deviceId since budget := by
  unfold approveDevice Sync.approveDevice
  rw [Thread.run_bind, piece, Thread.run_once]
  congr 1
  funext located
  cases located with
  | none => rfl
  | some device =>
      simp only [piece, Thread.run_bind, Thread.run_once, Thread.run_lift, Thread.run_pure,
        perform]

end Threads

/-- What is written is the copy that was read, with the entry of one device changed. -/
def required (copy : Json) : {β : Type} → RequestAccess β → Prop
  | _, .setRequests pending (.requested deviceId) =>
      ∃ entry, pending = copy.setField deviceId entry
  | _, .setRequests pending (.settled deviceId) => pending = copy.eraseField deviceId
  | _, _ => True

def contract : Thread.Contract RequestAccess Raised Json where
  requires := fun copy _ access => required copy access
  ensures := fun copy _ access reply later => later = remembered access reply copy

/-- The thread writes back what it has read. -/
abbrev Edits {α : Type} (thread : RequestThread α) (copy : Json) : Prop :=
  thread.Meets contract (fun _ _ => True) copy

variable {suite : Suite} {environment : Environment} {account : Account} {copy : Json}

theorem edits_lift_bind {α β : Type} {outcome : Except Raised β}
    {next : β → RequestThread α} (nextEdits : ∀ value, Edits (next value) copy) :
    Edits (Thread.lift outcome >>= next) copy := by
  cases outcome with
  | ok value => exact nextEdits value
  | error raised => exact trivial

theorem edits_piece_bind {α β : Type} {program : ClientProg β} {leaves : Keeps aside program}
    {next : β → RequestThread α} (nextEdits : ∀ value, Edits (next value) copy) :
    Edits (Threads.piece program leaves >>= next) copy := by
  refine Thread.meets_once_bind trivial ?_
  rintro reply later rfl
  cases reply with
  | ok value => exact nextEdits value
  | error raised => exact trivial

theorem edits_getRequests_bind {α : Type} {next : Json → RequestThread α}
    (nextEdits : ∀ pending, Edits (next pending) pending) :
    Edits (Thread.once .getRequests >>= next) copy := by
  refine Thread.meets_once_bind trivial ?_
  rintro reply later rfl
  cases reply with
  | ok pending => exact nextEdits pending
  | error raised => exact trivial

theorem edits_setRequests {pending : Json} {event : Event}
    (edited : required copy (.setRequests pending event)) :
    Edits (Thread.once (.setRequests pending event)) copy :=
  ⟨edited, fun _ _ _ => trivial⟩

theorem edits_incomingRequest (deviceId transfer : String) (since : Json) :
    Edits (Threads.incomingRequest environment deviceId transfer since) copy := by
  apply edits_getRequests_bind
  intro pending
  apply edits_lift_bind
  intro since
  apply edits_piece_bind
  intro now
  exact edits_setRequests ⟨_, rfl⟩

theorem edits_denyDevice (deviceId : String) : Edits (Threads.denyDevice deviceId) copy := by
  apply edits_getRequests_bind
  intro pending
  exact edits_setRequests rfl

theorem edits_approveDevice (deviceId : String) (since budget : Option Int) :
    Edits (Threads.approveDevice suite environment account deviceId since budget) copy := by
  apply edits_piece_bind
  intro located
  cases located with
  | none => exact trivial
  | some device =>
      apply edits_getRequests_bind
      intro pending
      apply edits_lift_bind
      intro since
      apply edits_piece_bind
      intro transfer
      apply edits_piece_bind
      intro until_
      apply edits_piece_bind
      intro _
      apply edits_piece_bind
      intro _
      apply edits_piece_bind
      intro counts
      refine Thread.meets_once_bind rfl ?_
      intro reply later _
      cases reply <;> exact trivial

/-- What the worker is asked to do. -/
inductive Work where
  | approveDevice (deviceId : String) (since budget : Option Int)
  | incomingRequest (deviceId transfer : String) (since : Json)

variable (suite environment account) in
def Work.thread : Work → RequestThread Unit
  | approveDevice deviceId since budget => do
      let _ ← Threads.approveDevice suite environment account deviceId since budget
  | incomingRequest deviceId transfer since =>
      Threads.incomingRequest environment deviceId transfer since

theorem Work.edits (work : Work) : Edits (work.thread suite environment account) copy := by
  cases work with
  | approveDevice deviceId since budget =>
      apply Thread.meets_bind
      apply Thread.Meets.weaken (edits_approveDevice deviceId since budget)
      intro result later _
      cases result <;> exact trivial
  | incomingRequest deviceId transfer since => exact edits_incomingRequest _ _ _

inductive Role where
  | worker
  | interface
deriving DecidableEq

/-- A thread, and the table as it has last read it. -/
structure Running where
  thread : RequestThread Unit
  copy : Json

/-- The shared world, the two threads and what their calls have completed. -/
structure System where
  world : World
  running : Role → Running
  events : List Event

/-- One access of one thread, or a new call in a thread that has none. -/
inductive Move where
  | access (role : Role)
  | work (work : Work)
  | deny (deviceId : String)

def System.replace (system : System) (role : Role) (running : Running) : Role → Running :=
  fun other => if other = role then running else system.running other

def System.access (system : System) (role : Role) : System :=
  match (system.running role).thread with
  | .done _ => system
  | .step access next =>
      let outcome := access.perform.run system.world
      { world := outcome.2
        running := system.replace role {
          thread := next outcome.1
          copy := remembered access outcome.1 (system.running role).copy }
        events := system.events ++ completes access }

def System.call (system : System) (role : Role) (thread : RequestThread Unit) : System :=
  match (system.running role).thread with
  | .done _ =>
      { system with
        running := system.replace role { thread, copy := (system.running role).copy } }
  | .step _ _ => system

variable (suite environment account)

def step (system : System) : Move → System
  | .access role => system.access role
  | .work work => system.call .worker (work.thread suite environment account)
  | .deny deviceId => system.call .interface (Threads.denyDevice deviceId)

def run (start : System) (moves : List Move) : System :=
  moves.foldl (step suite environment account) start

variable {suite environment account}

theorem step_access (system : System) (role : Role) :
    step suite environment account system (.access role) = system.access role := by
  rw [step]

theorem run_cons (start : System) (move : Move) (moves : List Move) :
    run suite environment account start (move :: moves) =
      run suite environment account (step suite environment account start move) moves := by
  rw [run, run, List.foldl_cons]

theorem run_append_singleton (start : System) (moves : List Move) (move : Move) :
    run suite environment account start (moves ++ [move]) =
      step suite environment account (run suite environment account start moves) move :=
  List.foldl_append ..

/-- The table lists exactly the devices whose latest request is not settled. -/
def Faithful (system : System) : Prop :=
  ∀ deviceId, lists (requestsOf system.world) deviceId ↔ Awaiting system.events deviceId

/-- A write that comes next puts back a copy that lists the same other devices as the
table does now. -/
def Current (system : System) : Move → Prop
  | .access role =>
      match (system.running role).thread with
      | .done _ => True
      | .step access _ => ∀ event ∈ completes access, ∀ deviceId ≠ event.deviceId,
          (lists (system.running role).copy deviceId ↔
            lists (requestsOf system.world) deviceId)
  | _ => True

/-- The table follows the decisions so far, and no call is running. -/
structure Initial (system : System) : Prop where
  object : (requestsOf system.world).isObj = true
  faithful : Faithful system
  idle : ∀ role, ∃ result, system.running role = { thread := .done result, copy := .obj [] }

structure Invariant (system : System) : Prop where
  object : (requestsOf system.world).isObj = true
  edits : ∀ role, Edits (system.running role).thread (system.running role).copy
  copied : ∀ role, (system.running role).copy.isObj = true

theorem Invariant.initial {system : System} (initial : Initial system) :
    Invariant system where
  object := initial.object
  edits := by
    intro role
    obtain ⟨result, idle⟩ := initial.idle role
    rw [idle]
    exact trivial
  copied := by
    intro role
    obtain ⟨result, idle⟩ := initial.idle role
    rw [idle]
    rfl

theorem isObj_setField {pending : Json} (object : pending.isObj = true) (deviceId : String)
    (entry : Json) : (pending.setField deviceId entry).isObj = true := by
  cases pending with
  | obj fields => rfl
  | _ => exact absurd object (by simp [Json.isObj])

theorem isObj_eraseField {pending : Json} (object : pending.isObj = true)
    (deviceId : String) : (pending.eraseField deviceId).isObj = true := by
  cases pending with
  | obj fields => rfl
  | _ => exact absurd object (by simp [Json.isObj])

/-- What a write puts back. -/
theorem required.written {pending : Json} {event : Event}
    (edited : required copy (.setRequests pending event)) (object : copy.isObj = true) :
    pending.isObj = true ∧ ∀ deviceId, lists pending deviceId ↔
      event = .requested deviceId ∨ (event ≠ .settled deviceId ∧ lists copy deviceId) := by
  cases event with
  | requested target =>
      obtain ⟨entry, rfl⟩ := edited
      refine ⟨isObj_setField object target entry, fun deviceId => ?_⟩
      rw [lists_setField object]
      simp [eq_comm]
  | settled target =>
      obtain rfl : pending = copy.eraseField target := edited
      refine ⟨isObj_eraseField object target, fun deviceId => ?_⟩
      rw [lists_eraseField]
      simp [eq_comm]

/-- The table after an access, and what a thread remembers of it. -/
theorem access_keeps {β : Type} {access : RequestAccess β} {world : World}
    (edited : required copy access) (object : (requestsOf world).isObj = true)
    (copied : copy.isObj = true) :
    (requestsOf (access.perform.after world)).isObj = true ∧
      (remembered access (access.perform.run world).1 copy).isObj = true := by
  cases access with
  | getRequests => exact ⟨object, object⟩
  | setRequests pending event =>
      have written := edited.written copied
      refine ⟨?_, copied⟩
      show (requestsOf (world.withState requestsState pending)).isObj = true
      rw [requestsOf_withState world written.1]
      exact written.1
  | elsewhere program leaves =>
      have same : requestsOf (program.after world) = requestsOf world := leaves world
      exact ⟨by rw [RequestAccess.perform, same, object], copied⟩

/-- The table follows the decisions across an access exactly when the access writes back
a copy that is current. -/
theorem access_faithful {β : Type} {access : RequestAccess β} {world : World}
    {events : List Event} (edited : required copy access) (copied : copy.isObj = true)
    (faithful : ∀ deviceId, lists (requestsOf world) deviceId ↔ Awaiting events deviceId) :
    (∀ deviceId, lists (requestsOf (access.perform.after world)) deviceId ↔
        Awaiting (events ++ completes access) deviceId) ↔
      ∀ event ∈ completes access, ∀ deviceId ≠ event.deviceId,
        (lists copy deviceId ↔ lists (requestsOf world) deviceId) := by
  cases access with
  | getRequests =>
      have nothing : completes RequestAccess.getRequests = [] := rfl
      rw [nothing, List.append_nil]
      exact iff_of_true faithful (by simp)
  | elsewhere program leaves =>
      have same : requestsOf (program.after world) = requestsOf world := leaves world
      have nothing : completes (RequestAccess.elsewhere program leaves) = [] := rfl
      rw [nothing, List.append_nil, RequestAccess.perform, same]
      exact iff_of_true faithful (by simp)
  | setRequests pending event =>
      obtain ⟨object, written⟩ := edited.written copied
      have stored : requestsOf ((RequestAccess.setRequests pending event).perform.after
          world) = pending := requestsOf_withState world object
      simp only [RequestAccess.completes, List.mem_singleton, forall_eq]
      rw [stored]
      apply forall_congr'
      intro deviceId
      rw [written, awaiting_append_singleton, ← faithful]
      cases event with
      | requested target =>
          by_cases own : deviceId = target
          · simp [own, Event.deviceId]
          · simp [own, Ne.symm own, Event.deviceId]
      | settled target =>
          by_cases own : deviceId = target
          · simp [own, Event.deviceId]
          · simp [own, Ne.symm own, Event.deviceId]

theorem Invariant.call {system : System} (invariant : Invariant system) (role : Role)
    {thread : RequestThread Unit} (edits : ∀ copy, Edits thread copy) :
    Invariant (system.call role thread) := by
  unfold System.call
  split
  · refine ⟨invariant.object, fun other => ?_, fun other => ?_⟩
    · show Edits (System.replace _ _ _ other).thread (System.replace _ _ _ other).copy
      unfold System.replace
      split
      · exact edits _
      · exact invariant.edits other
    · show (System.replace _ _ _ other).copy.isObj = true
      unfold System.replace
      split
      · exact invariant.copied role
      · exact invariant.copied other
  · exact invariant

theorem Invariant.access {system : System} (invariant : Invariant system) (role : Role) :
    Invariant (system.access role) := by
  have edits := invariant.edits role
  unfold System.access
  split
  · exact invariant
  · rename_i β access next running
    rw [running] at edits
    have keeps := access_keeps edits.1 invariant.object (invariant.copied role)
    refine ⟨keeps.1, fun other => ?_, fun other => ?_⟩
    · show Edits (System.replace _ _ _ other).thread (System.replace _ _ _ other).copy
      unfold System.replace
      split
      · exact edits.2 _ _ rfl
      · exact invariant.edits other
    · show (System.replace _ _ _ other).copy.isObj = true
      unfold System.replace
      split
      · exact keeps.2
      · exact invariant.copied other

theorem Invariant.step {system : System} (invariant : Invariant system) (move : Move) :
    Invariant (step suite environment account system move) := by
  cases move with
  | access role => exact invariant.access role
  | work work =>
      exact @Invariant.call system invariant .worker (work.thread suite environment account)
        fun _ => work.edits
  | deny deviceId =>
      exact @Invariant.call system invariant .interface (Threads.denyDevice deviceId)
        fun _ => edits_denyDevice deviceId

theorem Invariant.run {start : System} (initial : Initial start) (moves : List Move) :
    Invariant (run suite environment account start moves) := by
  induction moves using List.reverseRecOn with
  | nil => exact Invariant.initial initial
  | append_singleton moves move induction =>
      rw [run_append_singleton]
      exact induction.step move

theorem faithful_call {system : System} (role : Role) (thread : RequestThread Unit) :
    Faithful (system.call role thread) ↔ Faithful system := by
  unfold System.call
  cases (system.running role).thread <;> exact Iff.rfl

/-- One move. -/
theorem faithful_step {system : System} (invariant : Invariant system)
    (faithful : Faithful system) (move : Move) :
    Faithful (step suite environment account system move) ↔ Current system move := by
  cases move with
  | access role =>
      have edits := invariant.edits role
      show Faithful (system.access role) ↔ _
      unfold System.access Current
      dsimp only
      cases running : (system.running role).thread with
      | done result => exact iff_of_true faithful trivial
      | step access next =>
          rw [running] at edits
          exact access_faithful edits.1 (invariant.copied role) faithful
  | work work => exact iff_of_true ((faithful_call _ _).mpr faithful) trivial
  | deny deviceId => exact iff_of_true ((faithful_call _ _).mpr faithful) trivial

/-- The table follows the decisions throughout a run exactly when every write of the run
puts back a copy that lists the same other devices as the table does at that moment. -/
theorem decisions_kept_iff {start : System} (initial : Initial start) (moves : List Move) :
    (∀ before, before <+: moves → Faithful (run suite environment account start before)) ↔
      ∀ before move, before ++ [move] <+: moves →
        Current (run suite environment account start before) move := by
  constructor
  · intro faithful before move prefixed
    apply (@faithful_step suite environment account _ (Invariant.run initial before)
      (faithful before ((List.prefix_append _ _).trans prefixed)) move).mp
    rw [← run_append_singleton]
    exact faithful _ prefixed
  · intro current before
    induction before using List.reverseRecOn with
    | nil => exact fun _ => initial.faithful
    | append_singleton before move induction =>
        intro prefixed
        rw [run_append_singleton]
        exact (faithful_step (Invariant.run initial before)
          (induction ((List.prefix_append _ _).trans prefixed)) move).mpr
            (current before move prefixed)

/-- Where a system is, up to the copies of its threads. -/
structure At (system : System) (world : World) (worker interface : RequestThread Unit)
    (events : List Event) : Prop where
  world : system.world = world
  worker : (system.running .worker).thread = worker
  interface : (system.running .interface).thread = interface
  events : system.events = events

section At

variable {system : System} {world later : World} {worker interface : RequestThread Unit}
  {events : List Event} {β : Type} {access : RequestAccess β}
  {next : Except Raised β → RequestThread Unit} {reply : Except Raised β}
  {result : Except Raised Unit}

theorem System.access_of_step {role : Role}
    (running : (system.running role).thread = .step access next) :
    system.access role =
      { world := access.perform.after system.world
        running := system.replace role {
          thread := next (access.perform.run system.world).1
          copy := remembered access (access.perform.run system.world).1
            (system.running role).copy }
        events := system.events ++ completes access } := by
  unfold System.access
  rw [running]
  rfl

theorem System.call_of_done {role : Role}
    (running : (system.running role).thread = .done result) (thread : RequestThread Unit) :
    system.call role thread =
      { system with
        running := system.replace role { thread, copy := (system.running role).copy } } := by
  unfold System.call
  rw [running]

theorem At.accessWorker (at_ : At system world (.step access next) interface events)
    (ran : access.perform.run world = (reply, later)) :
    At (system.access .worker) later (next reply) interface
      (events ++ completes access) := by
  rw [System.access_of_step at_.worker, at_.world, at_.events, after_eq ran, ran]
  exact ⟨rfl, rfl, at_.interface, rfl⟩

theorem At.accessInterface (at_ : At system world worker (.step access next) events)
    (ran : access.perform.run world = (reply, later)) :
    At (system.access .interface) later worker (next reply)
      (events ++ completes access) := by
  rw [System.access_of_step at_.interface, at_.world, at_.events, after_eq ran, ran]
  exact ⟨rfl, at_.worker, rfl, rfl⟩

theorem At.work (at_ : At system world (.done result) interface events) (work : Work) :
    At (step suite environment account system (.work work)) world
      (work.thread suite environment account) interface events := by
  show At (system.call .worker _) _ _ _ _
  rw [System.call_of_done at_.worker]
  exact ⟨at_.world, rfl, at_.interface, at_.events⟩

theorem At.deny (at_ : At system world worker (.done result) events) (deviceId : String) :
    At (step suite environment account system (.deny deviceId)) world worker
      (Threads.denyDevice deviceId) events := by
  show At (system.call .interface _) _ _ _ _
  rw [System.call_of_done at_.interface]
  exact ⟨at_.world, at_.worker, rfl, at_.events⟩

end At

section Runs

open TransferCompletion

attribute [local irreducible] blobOf

def request : Json := .obj [("since", .int 0), ("transfer", .str "t"), ("ts", .int 5)]

def table : Json := .obj [("q", request), ("r", request)]

/-- A device that two siblings have asked for history. -/
def asked : World := (deviceBeside "r").withState requestsState table

def start : System where
  world := asked
  running := fun _ => { thread := .done (.ok ()), copy := .obj [] }
  events := [.requested "q", .requested "r"]

theorem start_faithful : Faithful start := by
  intro deviceId
  show lists table deviceId ↔
    Awaiting ([] ++ [.requested "q"] ++ [.requested "r"]) deviceId
  rw [awaiting_append_singleton, awaiting_append_singleton]
  have nothing : ¬ Awaiting [] deviceId := by
    rintro ⟨before, after, split, -⟩
    simp at split
  by_cases first : deviceId = "q" <;> by_cases second : deviceId = "r" <;>
    simp [lists, table, Json.get?, Dict.lookup_cons_eq_ite, first, second, nothing, eq_comm]

theorem start_initial : Initial start where
  object := rfl
  faithful := start_faithful
  idle := fun _ => ⟨_, rfl⟩

def askedAt (tick : Nat) : World := { asked with tick }

def allowed : World := (askedAt 3).withRecord ⟨"r", friendApproval⟩ (sentTo friendApproval)

def marked : World :=
  { allowed.withState approvalsState (.mkObj [("r", .mkObj [
      ("transfer", .str friendTransfer), ("since", .int 0), ("until", .int 1000000),
      ("ts", .int 1000000)])]) with tick := 10 }

def finished : World :=
  ((marked.withRecord ⟨"r", friendOffer⟩ (sentTo friendOffer)).withRecord
    ⟨"r", friendItem⟩ (sentTo friendItem)).withRecord ⟨"r", friendComplete⟩
      (sentTo friendComplete)

theorem decisions_kept_iff_asked :
    Initial start ∧
      ((∀ before, before <+: [.deny "q", .access .interface, .access .interface] →
          Faithful (run plain .idle (accountOf "s") start before)) ↔
        ∀ before move,
          before ++ [move] <+: [.deny "q", .access .interface, .access .interface] →
            Current (run plain .idle (accountOf "s") start before) move) :=
  ⟨start_initial, decisions_kept_iff start_initial _⟩

/-- One request is approved, and the other is denied while its history is sent. -/
def moves : List Move :=
  .work (.approveDevice "r" (some 0) none) :: List.replicate 7 (.access .worker) ++
    [.deny "q", .access .interface, .access .interface, .access .worker]

/-- The denied request is back in the table. -/
theorem denied_request_returns :
    Initial start ∧
      (run plain .idle (accountOf "s") start moves).events =
        [.requested "q", .requested "r", .settled "q", .settled "r"] ∧
      lists (requestsOf (run plain .idle (accountOf "s") start moves).world) "q" ∧
      ¬ Faithful (run plain .idle (accountOf "s") start moves) := by
  have acquainted : Acquainted .idle asked (deviceNamed "r") (keysOf "r") [2] :=
    acquainted_of rfl rfl rfl rfl (by decide)
  have located : (locateDevice plain .idle (accountOf "s") "r").run asked =
      (.ok (some (deviceNamed "r")), askedAt 1) := acquainted.run_locateDevice
  have drawn : (newTransferId .idle).run (askedAt 1) = (.ok friendTransfer, askedAt 2) := by
    have text : b64e (drawnAt Environment.idle 16 1) = friendTransfer := by
      decide
    rw [← text]
    rfl
  have clocked : (nowMs .idle).run (askedAt 2) = (.ok 1000000, askedAt 3) := by
    rfl
  have written : (writeRecord plain .idle (accountOf "s") (deviceNamed "r")
      approvalShaped.kind approvalShaped.plaintext approvalShaped.transferId
      approvalShaped.seq approvalShaped.extra).run (askedAt 3) = (.ok (), allowed) :=
    @run_friendWrite (askedAt 3) 3 approvalShaped (own_keys (by decide)) rfl rfl
      sealed_approval
  have marks : (markApproved .idle "r" friendTransfer (.int 0) (.int 1000000)).run allowed =
      (.ok (), marked) := by
    rfl
  have sends : (sendHistory plain .idle (accountOf "s") (deviceNamed "r") 0 1000000
      History.defaultBudgetBytes friendTransfer).run marked = (.ok (1, 0), finished) :=
    run_friendSend_of (by decide) rfl rfl TransferCompletion.marked_items
  have idle : At start asked (.done (.ok ())) (.done (.ok ())) start.events :=
    ⟨rfl, rfl, rfl, rfl⟩
  have approving := @At.work plain .idle (accountOf "s") _ _ _ _ _ idle
    (.approveDevice "r" (some 0) none)
  have read : ∀ world, requestsOf world = requestsOf asked →
      (RequestAccess.getRequests.perform).run world = (.ok table, world) := by
    intro world same
    show (Except.ok (requestsOf world), world) = _
    rw [same]
    rfl
  have sent := ((((((approving.accessWorker located).accessWorker
    (read (askedAt 1) rfl)).accessWorker drawn).accessWorker clocked).accessWorker
      written).accessWorker marks).accessWorker sends
  have denying := @At.deny plain .idle (accountOf "s") _ _ _ _ _ sent "q"
  have unread : requestsOf finished = requestsOf asked := by
    rfl
  have denied := (denying.accessInterface (read finished unread)).accessInterface rfl
  have approved := denied.accessWorker rfl
  have reached : At (run plain .idle (accountOf "s") start moves)
      ((finished.withState requestsState (table.eraseField "q")).withState requestsState
        (table.eraseField "r")) (.done (.ok ())) (.done (.ok ()))
        [.requested "q", .requested "r", .settled "q", .settled "r"] := by
    simp only [moves, List.replicate, List.cons_append, List.nil_append, run_cons, step_access]
    rw [run, List.foldl_nil]
    exact approved
  have listed : lists (requestsOf (run plain .idle (accountOf "s") start moves).world) "q" := by
    rw [reached.world, requestsOf_withState _ (isObj_eraseField rfl "r")]
    exact (lists_eraseField table "r" "q").mpr ⟨by decide, rfl⟩
  refine ⟨start_initial, reached.events, listed, fun faithful => ?_⟩
  have awaits := (faithful "q").mp listed
  rw [reached.events] at awaits
  exact absurd ((awaiting_append_singleton [_, _, _] _ _).mp awaits) (by
    have settled : ¬ Awaiting [.requested "q", .requested "r", .settled "q"] "q" := fun waits =>
      absurd ((awaiting_append_singleton [_, _] _ _).mp waits) (by simp)
    simp [settled])

end Runs

end NoKnowledge.Core.RequestRace
