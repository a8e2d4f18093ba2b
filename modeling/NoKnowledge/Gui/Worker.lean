import Mathlib.Algebra.Order.Ring.Rat
import NoKnowledge.Foundation.Effect
import NoKnowledge.Foundation.Transitions

/-!
# The background worker

One thread polls the relays and runs the commands other threads submit.  The
three things it shares with them are a queue and two flags; between any two of
its steps other threads may put a command, raise the stop flag or set the wake
flag, each as a step of its own.

A command and its callback either return or raise an exception, which the
worker reports.  What the client answers is part of an event: it is whatever
the relays and the store make of it.
-/

namespace NoKnowledge.Gui

structure Settings where
  pollSeconds : Int
  autoDiscover : Bool
  discoveryInterval : Int
  pollsSeconds : 1 ≤ pollSeconds
  discoversMinutes : 60 ≤ discoveryInterval

def Settings.create (pollSeconds : Int) (autoDiscover : Bool) (discoveryInterval : Int) :
    Settings where
  pollSeconds := max 1 pollSeconds
  autoDiscover
  discoveryInterval := max 60 discoveryInterval
  pollsSeconds := le_max_left _ _
  discoversMinutes := le_max_left _ _

structure Task (Function Callback : Type) where
  name : String
  function : Function
  callback : Option Callback

/-- What the worker tells the interface; a result of `none` is Python's `None`. -/
inductive Signal (Message Result : Type) where
  | messagesReceived (messages : List Message)
  | statusChanged (status : String)
  | errorOccurred (text : String)
  | taskFinished (name : String) (result : Option Result)
  | relaysChanged (urls : List String)

/-- The two calls that drain the queue in one round. -/
inductive Sweep where
  | first
  | second
deriving DecidableEq

inductive Phase (Function Callback : Type) where
  | starting
  /-- Before the condition of the loop. -/
  | top
  | draining (sweep : Sweep)
  | working (sweep : Sweep) (task : Task Function Callback)
  | checking
  | polling
  | waiting
  /-- After the wait, before the wake flag is cleared. -/
  | woken
  | finished

structure Worker (Function Callback Message Result : Type) where
  tasks : List (Task Function Callback) := []
  stop : Bool := false
  wake : Bool := false
  /-- Calls of `submit` between their two lines. -/
  submitting : Nat := 0
  /-- Calls of `stop` between their two lines. -/
  stopping : Nat := 0
  phase : Phase Function Callback := .starting
  nextDiscovery : ℚ := 0
  signals : List (Signal Message Result) := []

/-- What one poll gets from the client and the clock. -/
structure Answers (Message : Type) where
  synced : Except String (List Message)
  flushed : Except String Nat
  /-- The clock when the worker decides on discovery, and in `_discover`. -/
  now : ℚ
  later : ℚ
  known : Except String (List String)
  refreshed : Except String (List String)

namespace Worker

variable {Function Callback Message Result : Type}

/-- A program of the worker's own thread. -/
abbrev Body (Function Callback Message Result α : Type) :=
  Prog (Worker Function Callback Message Result) String α

def emit (signal : Signal Message Result) : Body Function Callback Message Result Unit :=
  modify fun worker => { worker with signals := worker.signals ++ [signal] }

def discover (settings : Settings) (answers : Answers Message) :
    Body Function Callback Message Result Unit := do
  modify fun worker =>
    { worker with nextDiscovery := answers.later + settings.discoveryInterval }
  let lists ← tryCatch
    (do
      let before ← Prog.lift answers.known
      let after ← Prog.lift answers.refreshed
      return some (before, after))
    fun raised => do
      emit (.errorOccurred s!"relay discovery: {raised}")
      return none
  match lists with
  | none => return ()
  | some (before, after) =>
      if after ≠ before then emit (.relaysChanged after)

def receive (newMessages : List Message) : Body Function Callback Message Result Unit :=
  if newMessages.isEmpty then return () else emit (.messagesReceived newMessages)

def discoverWhenDue (settings : Settings) (answers : Answers Message) :
    Body Function Callback Message Result Unit := do
  let worker ← get
  if settings.autoDiscover ∧ worker.nextDiscovery ≤ answers.now then
    discover settings answers

/-- The body of the loop's `try`. -/
def poll (settings : Settings) (answers : Answers Message) :
    Body Function Callback Message Result Unit :=
  tryCatch
    (do
      receive (← Prog.lift answers.synced)
      let _ ← Prog.lift answers.flushed
      discoverWhenDue settings answers
      emit (.statusChanged "online"))
    fun raised => do
      emit (.errorOccurred raised)
      emit (.statusChanged "offline")

/-- One command, its callback and the signal that it is over. -/
def runTask (task : Task Function Callback) (returned : Except String (Option Result))
    (called : Except String Unit) : Body Function Callback Message Result Unit := do
  let result ← tryCatch (Prog.lift returned) fun raised => do
    emit (.errorOccurred raised)
    return none
  if task.callback.isSome then
    tryCatch (Prog.lift called) fun raised => emit (.errorOccurred raised)
  emit (.taskFinished task.name result)

end Worker

/-- Where a sweep goes when the queue is empty. -/
def Sweep.ended {Function Callback : Type} : Sweep → Phase Function Callback
  | first => .checking
  | second => .waiting

inductive Event (Function Callback Message Result : Type) where
  /-- The two lines of `submit`, on any thread. -/
  | put (task : Task Function Callback)
  | putDone
  /-- The two lines of `stop`, on any thread. -/
  | stop
  | stopDone
  /-- The worker's own steps. -/
  | connect
  | loop
  | take
  | work (task : Task Function Callback) (returned : Except String (Option Result))
      (called : Except String Unit)
  | check
  | poll (answers : Answers Message)
  | wait (timeout : Bool)
  | clear

/-- The steps of the worker itself. -/
def Event.own {Function Callback Message Result : Type} :
    Event Function Callback Message Result → Bool
  | put _ | putDone | stop | stopDone => false
  | _ => true

def Event.isPut {Function Callback Message Result : Type} :
    Event Function Callback Message Result → Bool
  | put _ => true
  | _ => false

def Event.isPoll {Function Callback Message Result : Type} :
    Event Function Callback Message Result → Bool
  | poll _ => true
  | _ => false

/-- Past the look at the stop flag of a round, and not yet at the next. -/
def Phase.deaf {Function Callback : Type} : Phase Function Callback → Bool
  | polling | draining .second | working .second _ | waiting => true
  | _ => false

/-- The steps from a phase to the end once the worker is told to stop, commands
apart. -/
def Phase.remaining {Function Callback : Type} : Phase Function Callback → Nat
  | finished => 0
  | top | checking => 1
  | starting | woken | draining .first => 2
  | waiting | working .first _ => 3
  | draining .second => 4
  | polling | working .second _ => 5

/-- The polls a worker that is told to stop still makes. -/
def Phase.polls {Function Callback : Type} : Phase Function Callback → Nat
  | polling => 1
  | _ => 0

namespace Worker

variable {Function Callback Message Result : Type} (settings : Settings)

inductive Step (worker : Worker Function Callback Message Result) :
    Event Function Callback Message Result →
      Worker Function Callback Message Result → Prop where
  | put (task : Task Function Callback) :
      Step worker (.put task)
        { worker with
          tasks := worker.tasks ++ [task], submitting := worker.submitting + 1 }
  | putDone {others : Nat} (begun : worker.submitting = others + 1) :
      Step worker .putDone { worker with submitting := others, wake := true }
  | stop : Step worker .stop { worker with stop := true, stopping := worker.stopping + 1 }
  | stopDone {others : Nat} (begun : worker.stopping = others + 1) :
      Step worker .stopDone { worker with stopping := others, wake := true }
  | connect (phase : worker.phase = .starting) :
      Step worker .connect
        { (emit (.statusChanged "connecting")).after worker with phase := .top }
  | loop (phase : worker.phase = .top) :
      Step worker .loop
        { worker with phase := if worker.stop then .finished else .draining .first }
  | take {sweep : Sweep} {task : Task Function Callback}
      {rest : List (Task Function Callback)} (phase : worker.phase = .draining sweep)
      (queue : worker.tasks = task :: rest) :
      Step worker .take { worker with tasks := rest, phase := .working sweep task }
  | empty {sweep : Sweep} (phase : worker.phase = .draining sweep)
      (queue : worker.tasks = []) :
      Step worker .take { worker with phase := sweep.ended }
  | work {sweep : Sweep} {task : Task Function Callback}
      (returned : Except String (Option Result)) (called : Except String Unit)
      (phase : worker.phase = .working sweep task) :
      Step worker (.work task returned called)
        { (runTask task returned called).after worker with phase := .draining sweep }
  | check (phase : worker.phase = .checking) :
      Step worker .check
        { worker with phase := if worker.stop then .finished else .polling }
  | poll (answers : Answers Message) (phase : worker.phase = .polling) :
      Step worker (.poll answers)
        { (poll settings answers).after worker with phase := .draining .second }
  | wait {timeout : Bool} (phase : worker.phase = .waiting)
      (ended : worker.wake = true ∨ timeout = true) :
      Step worker (.wait timeout) { worker with phase := .woken }
  | clear (phase : worker.phase = .woken) :
      Step worker .clear { worker with wake := false, phase := .top }

/-- The commands whose end has been signalled, with their results. -/
def finished (signals : List (Signal Message Result)) : List (String × Option Result) :=
  signals.filterMap fun signal =>
    match signal with
    | .taskFinished name result => some (name, result)
    | _ => none

/-- Nothing but signals about other things and the time of the next discovery
changes. -/
structure Quiet (first second : Worker Function Callback Message Result) : Prop where
  tasks : second.tasks = first.tasks
  stop : second.stop = first.stop
  wake : second.wake = first.wake
  submitting : second.submitting = first.submitting
  stopping : second.stopping = first.stopping
  phase : second.phase = first.phase
  finished : finished second.signals = finished first.signals

def quiet : Prog.Frame (Worker Function Callback Message Result) where
  rel := Quiet
  refl := fun _ => ⟨rfl, rfl, rfl, rfl, rfl, rfl, rfl⟩
  trans := fun first second =>
    ⟨second.tasks.trans first.tasks, second.stop.trans first.stop,
      second.wake.trans first.wake, second.submitting.trans first.submitting,
      second.stopping.trans first.stopping, second.phase.trans first.phase,
      second.finished.trans first.finished⟩

theorem finished_append (first second : List (Signal Message Result)) :
    finished (first ++ second) = finished first ++ finished second :=
  List.filterMap_append

theorem keeps_emit {signal : Signal Message Result} (other : finished [signal] = []) :
    Prog.Keeps quiet (emit signal : Body Function Callback Message Result Unit) := by
  intro worker
  refine ⟨rfl, rfl, rfl, rfl, rfl, rfl, ?_⟩
  change finished (worker.signals ++ [signal]) = _
  rw [finished_append, other, List.append_nil]

variable {settings}

theorem keeps_discover (settings : Settings) (answers : Answers Message) :
    Prog.Keeps quiet
      (discover settings answers : Body Function Callback Message Result Unit) := by
  unfold discover
  refine Prog.keeps_bind (Prog.keeps_modify fun _ => ⟨rfl, rfl, rfl, rfl, rfl, rfl, rfl⟩)
    fun _ => Prog.keeps_bind ?_ fun lists => ?_
  · refine Prog.keeps_tryCatch ?_ fun raised =>
      Prog.keeps_bind (keeps_emit rfl) fun _ => Prog.keeps_pure _
    exact Prog.keeps_bind (Prog.keeps_lift _) fun before =>
      Prog.keeps_bind (Prog.keeps_lift _) fun after => Prog.keeps_pure _
  · rcases lists with _ | ⟨before, after⟩
    · exact Prog.keeps_pure _
    · exact Prog.keeps_ite (fun _ => keeps_emit rfl) fun _ => Prog.keeps_pure _

theorem keeps_poll (settings : Settings) (answers : Answers Message) :
    Prog.Keeps quiet
      (poll settings answers : Body Function Callback Message Result Unit) := by
  unfold poll
  refine Prog.keeps_tryCatch ?_ fun raised => ?_
  · refine Prog.keeps_bind (Prog.keeps_lift _) fun newMessages =>
      Prog.keeps_bind ?_ fun _ =>
        Prog.keeps_bind (Prog.keeps_lift _) fun _ =>
          Prog.keeps_bind ?_ fun _ => keeps_emit rfl
    · exact Prog.keeps_ite (fun _ => Prog.keeps_pure _) fun _ => keeps_emit rfl
    · exact Prog.keeps_bind Prog.keeps_get fun worker =>
        Prog.keeps_ite (fun _ => keeps_discover settings answers) fun _ => Prog.keeps_pure _
  · exact Prog.keeps_bind (keeps_emit rfl) fun _ => keeps_emit rfl

/-- The result signalled for a command: that of its function, or `None` when it
raised. -/
def resultOf (returned : Except String (Option Result)) : Option Result :=
  match returned with
  | .ok result => result
  | .error _ => none

/-- A command ends with one signal of its end, whatever it and its callback do. -/
theorem runTask_after (task : Task Function Callback)
    (returned : Except String (Option Result)) (called : Except String Unit)
    (worker : Worker Function Callback Message Result) :
    ∃ reports, finished reports = [] ∧
      (runTask task returned called).after worker =
        { worker with
          signals := worker.signals ++
            (reports ++ [.taskFinished task.name (resultOf returned)]) } := by
  obtain ⟨name, function, callback⟩ := task
  cases returned with
  | ok result =>
      cases callback with
      | none => exact ⟨[], rfl, rfl⟩
      | some callback =>
          cases called with
          | ok _ => exact ⟨[], rfl, rfl⟩
          | error raised =>
              refine ⟨[.errorOccurred raised], rfl, ?_⟩
              rw [← List.append_assoc]
              rfl
  | error raised =>
      cases callback with
      | none =>
          refine ⟨[.errorOccurred raised], rfl, ?_⟩
          rw [← List.append_assoc]
          rfl
      | some callback =>
          cases called with
          | ok _ =>
              refine ⟨[.errorOccurred raised], rfl, ?_⟩
              rw [← List.append_assoc]
              rfl
          | error again =>
              refine ⟨[.errorOccurred raised, .errorOccurred again], rfl, ?_⟩
              simp only [List.cons_append, List.nil_append]
              rw [List.append_cons, List.append_cons]
              rfl

def initial : Worker Function Callback Message Result := {}

/-- The command whose function is running. -/
def inFlight (worker : Worker Function Callback Message Result) :
    List (Task Function Callback) :=
  match worker.phase with
  | .working _ task => [task]
  | _ => []

def submitted (events : List (Event Function Callback Message Result)) :
    List (Task Function Callback) :=
  events.filterMap fun event =>
    match event with
    | .put task => some task
    | _ => none

/-- The commands that have been run, with their results. -/
def executed (events : List (Event Function Callback Message Result)) :
    List (Task Function Callback × Option Result) :=
  events.filterMap fun event =>
    match event with
    | .work task returned _ => some (task, resultOf returned)
    | _ => none

/-- What the queue holds is what was submitted and has not been run. -/
structure Ordered (events : List (Event Function Callback Message Result))
    (worker : Worker Function Callback Message Result) : Prop where
  tasks : submitted events =
    (executed events).map Prod.fst ++ (worker.inFlight ++ worker.tasks)
  signals : finished worker.signals =
    (executed events).map fun entry => (entry.1.name, entry.2)

/-- An event that neither submits nor runs a command. -/
theorem Ordered.same {events : List (Event Function Callback Message Result)}
    {event : Event Function Callback Message Result}
    {worker next : Worker Function Callback Message Result}
    (ordered : Ordered events worker) (beside : submitted [event] = [] ∧ executed [event] = [])
    (tasks : next.inFlight ++ next.tasks = worker.inFlight ++ worker.tasks)
    (signals : finished next.signals = finished worker.signals) :
    Ordered (events ++ [event]) next where
  tasks := by
    rw [submitted, executed, List.filterMap_append, List.filterMap_append]
    change submitted events ++ submitted [event] =
      (executed events ++ executed [event]).map Prod.fst ++ _
    rw [beside.1, beside.2, List.append_nil, List.append_nil, tasks]
    exact ordered.tasks
  signals := by
    rw [signals, executed, List.filterMap_append]
    change _ = (executed events ++ executed [event]).map _
    rw [beside.2, List.append_nil]
    exact ordered.signals

theorem Ordered.step {events : List (Event Function Callback Message Result)}
    {event : Event Function Callback Message Result}
    {worker next : Worker Function Callback Message Result}
    (ordered : Ordered events worker) (step : Step settings worker event next) :
    Ordered (events ++ [event]) next := by
  cases step with
  | put task =>
      constructor
      · rw [submitted, executed, List.filterMap_append, List.filterMap_append]
        change submitted events ++ [task] = (executed events ++ []).map Prod.fst ++
          (worker.inFlight ++ (worker.tasks ++ [task]))
        rw [List.append_nil, ordered.tasks, List.append_assoc, List.append_assoc]
      · rw [executed, List.filterMap_append]
        change finished worker.signals = (executed events ++ []).map _
        rw [List.append_nil]
        exact ordered.signals
  | putDone => exact ordered.same ⟨rfl, rfl⟩ rfl rfl
  | stop => exact ordered.same ⟨rfl, rfl⟩ rfl rfl
  | stopDone => exact ordered.same ⟨rfl, rfl⟩ rfl rfl
  | connect phase =>
      refine ordered.same ⟨rfl, rfl⟩ ?_ (keeps_emit rfl worker).finished
      rw [inFlight, inFlight, phase]
      rfl
  | loop phase =>
      refine ordered.same ⟨rfl, rfl⟩ ?_ rfl
      rw [inFlight, inFlight, phase]
      cases worker.stop <;> rfl
  | take phase queue =>
      refine ordered.same ⟨rfl, rfl⟩ ?_ rfl
      rw [inFlight, inFlight, phase, queue]
      rfl
  | empty phase queue =>
      rename_i sweep
      refine ordered.same ⟨rfl, rfl⟩ ?_ rfl
      rw [inFlight, inFlight, phase]
      cases sweep <;> rfl
  | work returned called phase =>
      rename_i sweep task
      obtain ⟨reports, silent, ran⟩ := runTask_after task returned called worker
      rw [ran]
      constructor
      · rw [submitted, executed, List.filterMap_append, List.filterMap_append]
        change submitted events ++ [] =
          (executed events ++ [(task, resultOf returned)]).map Prod.fst ++ ([] ++ worker.tasks)
        rw [List.append_nil, ordered.tasks, inFlight, phase, List.map_append,
          List.append_assoc]
        rfl
      · rw [executed, List.filterMap_append]
        change finished (worker.signals ++ (reports ++ [_])) =
          (executed events ++ [(task, resultOf returned)]).map _
        rw [finished_append, finished_append, silent, ordered.signals, List.map_append]
        rfl
  | check phase =>
      refine ordered.same ⟨rfl, rfl⟩ ?_ rfl
      rw [inFlight, inFlight, phase]
      cases worker.stop <;> rfl
  | poll answers phase =>
      have quiet := keeps_poll settings answers worker
      refine ordered.same ⟨rfl, rfl⟩ ?_ quiet.finished
      rw [inFlight, inFlight, phase]
      exact congrArg ([] ++ ·) quiet.tasks
  | wait phase ended =>
      refine ordered.same ⟨rfl, rfl⟩ ?_ rfl
      rw [inFlight, inFlight, phase]
  | clear phase =>
      refine ordered.same ⟨rfl, rfl⟩ ?_ rfl
      rw [inFlight, inFlight, phase]

/-- However the submits and stops of other threads fall between the worker's
steps, and whatever its polls and commands raise: the commands it has run, the
one it is running and the queue are what was submitted, in that order, and the
end of each command it has run was signalled once. -/
theorem tasks_run_once_in_order {events : List (Event Function Callback Message Result)}
    {worker : Worker Function Callback Message Result}
    (run : Run (Step settings) initial events worker) :
    submitted events = (executed events).map Prod.fst ++ (worker.inFlight ++ worker.tasks) ∧
      finished worker.signals =
        (executed events).map fun entry => (entry.1.name, entry.2) := by
  have ordered : Ordered events worker :=
    run.history ⟨rfl, rfl⟩ fun events worker event next ordered step => ordered.step step
  exact ⟨ordered.tasks, ordered.signals⟩

theorem tasks_run_once_in_order_send :
    ∃ worker : Worker Unit Unit Unit Nat,
      worker.inFlight ++ worker.tasks = [] ∧
      finished worker.signals = [("send_text", some 7)] := by
  have run : ∃ worker : Worker Unit Unit Unit Nat,
      Run (Step (Settings.create 2 false 900)) initial
        [.put ⟨"send_text", (), none⟩, .putDone, .connect, .loop, .take,
          .work ⟨"send_text", (), none⟩ (.ok (some 7)) (.ok ())] worker :=
    ⟨_, .step (.put _) (.step (.putDone rfl) (.step (.connect rfl) (.step (.loop rfl)
      (.step (.take rfl rfl) (.step (.work _ _ rfl) (.done _))))))⟩
  obtain ⟨worker, run⟩ := run
  obtain ⟨tasks, signals⟩ := tasks_run_once_in_order run
  exact ⟨worker, (List.cons.inj tasks).2.symm, signals⟩

/-- Whatever the worker could miss has set the wake flag or is about to. -/
structure Awake (worker : Worker Function Callback Message Result) : Prop where
  work : worker.phase = .waiting → worker.tasks ≠ [] →
    worker.wake = true ∨ 0 < worker.submitting
  stop : worker.phase.deaf = true → worker.stop = true →
    worker.wake = true ∨ 0 < worker.stopping

theorem Awake.of_hearing {worker : Worker Function Callback Message Result}
    (hearing : worker.phase.deaf = false) : Awake worker where
  work := by
    intro phase
    rw [phase] at hearing
    cases hearing
  stop := by
    intro deaf
    rw [hearing] at deaf
    cases deaf

theorem Awake.step {worker next : Worker Function Callback Message Result}
    {event : Event Function Callback Message Result}
    (awake : Awake worker) (step : Step settings worker event next) : Awake next := by
  cases step with
  | put task =>
      exact ⟨fun _ _ => .inr (Nat.succ_pos _), awake.stop⟩
  | putDone begun => exact ⟨fun _ _ => .inl rfl, fun _ _ => .inl rfl⟩
  | stop => exact ⟨awake.work, fun _ _ => .inr (Nat.succ_pos _)⟩
  | stopDone begun => exact ⟨fun _ _ => .inl rfl, fun _ _ => .inl rfl⟩
  | connect phase => exact .of_hearing rfl
  | loop phase =>
      apply Awake.of_hearing
      change Phase.deaf (if worker.stop = true then .finished else .draining .first) = false
      split <;> rfl
  | take phase queue =>
      rename_i sweep task rest
      constructor
      · intro waiting
        cases waiting
      · intro deaf stop
        apply awake.stop _ stop
        rw [phase]
        cases sweep
        · cases deaf
        · rfl
  | empty phase queue =>
      rename_i sweep
      cases sweep with
      | first => exact .of_hearing rfl
      | second =>
          refine ⟨fun _ nonempty => absurd queue nonempty, fun _ stop => ?_⟩
          exact awake.stop (by rw [phase]; rfl) stop
  | work returned called phase =>
      rename_i sweep task
      obtain ⟨reports, silent, ran⟩ := runTask_after task returned called worker
      rw [ran]
      cases sweep with
      | first => exact .of_hearing rfl
      | second =>
          refine ⟨fun waiting => (by cases waiting), fun _ stop => ?_⟩
          exact awake.stop (by rw [phase]; rfl) stop
  | check phase =>
      cases stop : worker.stop with
      | true => exact .of_hearing rfl
      | false =>
          refine ⟨fun waiting => (by cases waiting), fun _ stopped => ?_⟩
          cases stopped
  | poll answers phase =>
      have quiet := keeps_poll settings answers worker
      refine ⟨fun waiting => (by cases waiting), fun _ stop => ?_⟩
      change ((poll settings answers).after worker).wake = true ∨
        0 < ((poll settings answers).after worker).stopping
      rw [quiet.wake, quiet.stopping]
      exact awake.stop (by rw [phase]; rfl) (quiet.stop.symm.trans stop)
  | wait phase ended => exact .of_hearing rfl
  | clear phase => exact .of_hearing rfl

/-- No wake-up is lost: in every run, a worker that waits with the wake flag
down and no `submit` or `stop` under way has an empty queue and has not been
told to stop. -/
theorem nothing_missed_while_waiting
    {events : List (Event Function Callback Message Result)}
    {worker : Worker Function Callback Message Result}
    (run : Run (Step settings) initial events worker) (phase : worker.phase = .waiting)
    (asleep : worker.wake = false) (submits : worker.submitting = 0)
    (stops : worker.stopping = 0) : worker.tasks = [] ∧ worker.stop = false := by
  have awake : Awake worker :=
    run.invariant (fun _ _ _ awake step => awake.step step) (.of_hearing rfl)
  constructor
  · by_contra nonempty
    rcases awake.work phase nonempty with set | under
    · rw [asleep] at set
      cases set
    · exact absurd submits (Nat.ne_of_gt under)
  · by_contra stopped
    rcases awake.stop (by rw [phase]; rfl) (Bool.eq_true_of_not_eq_false stopped) with
      set | under
    · rw [asleep] at set
      cases set
    · exact absurd stops (Nat.ne_of_gt under)

/-- A round without commands, a command that is submitted while the worker waits, and the
round that it wakes the worker for. -/
def wakingRound : List (Event Unit Unit Unit Nat) :=
  [.connect, .loop, .take, .check, .poll ⟨.ok [], .ok 0, 0, 0, .ok [], .ok []⟩, .take,
    .put ⟨"send_text", (), none⟩, .putDone, .wait false, .clear, .loop, .take,
    .work ⟨"send_text", (), none⟩ (.ok (some 7)) (.ok ()), .take, .check,
    .poll ⟨.error "offline", .ok 0, 0, 0, .ok [], .ok []⟩, .take]

theorem nothing_missed_while_waiting_woken :
    ∃ worker : Worker Unit Unit Unit Nat,
      Run (Step (Settings.create 2 false 900)) initial wakingRound worker ∧
      worker.phase = .waiting ∧ worker.tasks = [] ∧ worker.stop = false := by
  have happened : ∃ worker : Worker Unit Unit Unit Nat,
      Run (Step (Settings.create 2 false 900)) initial wakingRound worker ∧
      worker.phase = .waiting ∧ worker.wake = false ∧ worker.submitting = 0 ∧
      worker.stopping = 0 :=
    ⟨_, .step (.connect rfl) (.step (.loop rfl) (.step (.empty rfl rfl) (.step (.check rfl)
      (.step (.poll _ rfl) (.step (.empty rfl rfl) (.step (.put _) (.step (.putDone rfl)
      (.step (.wait rfl (.inl rfl)) (.step (.clear rfl) (.step (.loop rfl)
      (.step (.take rfl rfl) (.step (.work _ _ rfl) (.step (.empty rfl rfl)
      (.step (.check rfl) (.step (.poll _ rfl) (.step (.empty rfl rfl)
      (.done _))))))))))))))))), rfl, rfl, rfl, rfl⟩
  obtain ⟨worker, run, phase, asleep, submits, stops⟩ := happened
  exact ⟨worker, run, phase, nothing_missed_while_waiting run phase asleep submits stops⟩

/-- The most steps the worker can still take when it is told to stop. -/
def effort (worker : Worker Function Callback Message Result) : Nat :=
  2 * worker.tasks.length + worker.phase.remaining

theorem stop_kept {worker next : Worker Function Callback Message Result}
    {event : Event Function Callback Message Result} (stopped : worker.stop = true)
    (step : Step settings worker event next) : next.stop = true := by
  cases step with
  | work returned called phase =>
      rename_i task
      obtain ⟨reports, -, ran⟩ := runTask_after task returned called worker
      rw [ran]
      exact stopped
  | poll answers phase =>
      exact (keeps_poll settings answers worker).stop.trans stopped
  | stop => rfl
  | put | putDone | stopDone | connect | loop | take | empty | check | wait | clear =>
      exact stopped

/-- Each step of a worker that is told to stop brings it closer to the end; a
submitted command puts it off by two. -/
theorem effort_lowered {worker next : Worker Function Callback Message Result}
    {event : Event Function Callback Message Result} (stopped : worker.stop = true)
    (step : Step settings worker event next) :
    next.effort + (if event.own then 1 else 0) ≤
      worker.effort + if event.isPut then 2 else 0 := by
  cases step with
  | put task =>
      change 2 * (worker.tasks ++ [task]).length + worker.phase.remaining + 0 ≤ _
      rw [List.length_append]
      change 2 * (worker.tasks.length + 1) + worker.phase.remaining + 0 ≤
        2 * worker.tasks.length + worker.phase.remaining + 2
      omega
  | putDone => exact le_refl _
  | stop => exact le_refl _
  | stopDone => exact le_refl _
  | connect phase =>
      rw [effort, effort, phase]
      exact le_refl _
  | loop phase =>
      rw [effort, effort, phase, stopped]
      exact le_refl _
  | take phase queue =>
      rename_i sweep task rest
      rw [effort, effort, phase, queue]
      cases sweep <;> simp [Phase.remaining, Event.own, Event.isPut] <;> omega
  | empty phase queue =>
      rename_i sweep
      rw [effort, effort, phase]
      cases sweep <;> simp [Phase.remaining, Sweep.ended, Event.own, Event.isPut]
  | work returned called phase =>
      rename_i sweep task
      obtain ⟨reports, -, ran⟩ := runTask_after task returned called worker
      rw [ran, effort, effort, phase]
      cases sweep <;> exact le_refl _
  | check phase =>
      rw [effort, effort, phase, stopped]
      exact le_refl _
  | poll answers phase =>
      have quiet := keeps_poll settings answers worker
      change 2 * ((poll settings answers).after worker).tasks.length + 4 + 1 ≤ _
      rw [quiet.tasks, effort, phase]
      exact le_refl _
  | wait phase ended =>
      rw [effort, effort, phase]
      exact le_refl _
  | clear phase =>
      rw [effort, effort, phase]
      exact le_refl _

/-- A poll is left only to a worker that is in one. -/
theorem polls_lowered {worker next : Worker Function Callback Message Result}
    {event : Event Function Callback Message Result} (stopped : worker.stop = true)
    (step : Step settings worker event next) :
    next.phase.polls + (if event.isPoll then 1 else 0) ≤ worker.phase.polls := by
  cases step with
  | put | putDone | stop | stopDone => exact le_refl _
  | loop phase | check phase =>
      rw [phase, stopped]
      exact le_refl _
  | connect phase | take phase queue | work returned called phase | wait phase ended
  | clear phase | poll answers phase =>
      rw [phase]
      exact le_refl _
  | empty phase queue =>
      rename_i sweep
      rw [phase]
      cases sweep <;> exact le_refl _

/-- A worker that has not finished can always take a step of its own. -/
theorem can_step {worker : Worker Function Callback Message Result}
    (running : worker.phase ≠ .finished) :
    ∃ event next, event.own = true ∧ Step settings worker event next := by
  cases phase : worker.phase with
  | starting => exact ⟨_, _, rfl, .connect phase⟩
  | top => exact ⟨_, _, rfl, .loop phase⟩
  | draining sweep =>
      cases queue : worker.tasks with
      | nil => exact ⟨_, _, rfl, .empty phase queue⟩
      | cons task rest => exact ⟨_, _, rfl, .take phase queue⟩
  | working sweep task => exact ⟨_, _, rfl, .work (.ok none) (.ok ()) phase⟩
  | checking => exact ⟨_, _, rfl, .check phase⟩
  | polling =>
      exact ⟨_, _, rfl, .poll ⟨.ok [], .ok 0, 0, 0, .ok [], .ok []⟩ phase⟩
  | waiting => exact ⟨.wait true, _, rfl, .wait phase (.inr rfl)⟩
  | woken => exact ⟨_, _, rfl, .clear phase⟩
  | finished => exact absurd phase running

theorem stopped_of_finished {events : List (Event Function Callback Message Result)}
    {worker : Worker Function Callback Message Result}
    (run : Run (Step settings) initial events worker) (ended : worker.phase = .finished) :
    worker.stop = true := by
  revert ended
  apply run.invariant _ (fun start => by cases start)
  intro worker event next before step ended
  cases step with
  | loop phase | check phase =>
      cases stop : worker.stop with
      | true => rfl
      | false =>
          rw [stop] at ended
          cases ended
  | put | putDone | stopDone => exact before ended
  | stop => rfl
  | connect phase | take phase queue | work returned called phase | wait phase ended
  | clear phase | poll answers phase => cases ended
  | empty phase queue =>
      rename_i sweep
      cases sweep <;> cases ended

/-- The worker ends only when it is told to, whatever its polls and commands
raise, and it then does end: it starts no further poll, and with every step of
its own it comes closer to its end, two steps for each command in the queue and
at most five for the rest of its round. -/
theorem worker_stops {events more : List (Event Function Callback Message Result)}
    {worker last : Worker Function Callback Message Result}
    (run : Run (Step settings) initial events worker)
    (rest : Run (Step settings) worker more last) :
    (last.phase = .finished → last.stop = true) ∧
    (last.phase ≠ .finished →
      ∃ event next, event.own = true ∧ Step settings last event next) ∧
    (worker.stop = true →
      more.countP Event.own ≤ 2 * (worker.tasks.length + more.countP Event.isPut) + 5 ∧
      more.countP Event.isPoll ≤ worker.phase.polls) := by
  refine ⟨stopped_of_finished (run.append rest), can_step, fun stopped => ⟨?_, ?_⟩⟩
  · have bound := rest.counted (fun worker => worker.stop = true) Event.own Event.isPut
      effort 2 (fun _ _ _ => stop_kept) (fun _ _ _ => effort_lowered) stopped
    have small : worker.phase.remaining ≤ 5 := by
      cases worker.phase with
      | draining sweep => cases sweep <;> simp [Phase.remaining]
      | working sweep => cases sweep <;> simp [Phase.remaining]
      | _ => simp [Phase.remaining]
    simp only [effort] at bound
    omega
  · have bound := rest.counted (fun worker => worker.stop = true) Event.isPoll
      (fun _ => false) (fun worker => worker.phase.polls) 0 (fun _ _ _ => stop_kept)
      (fun _ _ _ => polls_lowered) stopped
    rw [Nat.zero_mul] at bound
    omega

/-- The rest of a round with two commands in the queue, to which a third one is submitted. -/
def lastRound : List (Event Unit Unit Unit Nat) :=
  [.take, .work ⟨"send_text", (), none⟩ (.error "offline") (.ok ()), .stopDone,
    .put ⟨"delete", (), none⟩, .putDone, .take, .work ⟨"open", (), none⟩ (.ok none) (.ok ()),
    .take, .work ⟨"delete", (), none⟩ (.ok none) (.ok ()), .take, .check]

theorem worker_stops_queued :
    ∃ worker last : Worker Unit Unit Unit Nat,
      worker.stop = true ∧ worker.tasks = [⟨"send_text", (), none⟩, ⟨"open", (), none⟩] ∧
      Run (Step (Settings.create 2 false 900)) worker lastRound last ∧
      last.phase = .finished ∧ last.stop = true ∧
      lastRound.countP Event.own ≤
        2 * (worker.tasks.length + lastRound.countP Event.isPut) + 5 := by
  have before : ∃ worker : Worker Unit Unit Unit Nat,
      Run (Step (Settings.create 2 false 900)) initial
        [.connect, .put ⟨"send_text", (), none⟩, .putDone, .put ⟨"open", (), none⟩, .putDone,
          .loop, .stop] worker ∧
      worker.stop = true ∧ worker.tasks = [⟨"send_text", (), none⟩, ⟨"open", (), none⟩] ∧
      worker.phase = .draining .first ∧ worker.stopping = 1 :=
    ⟨_, .step (.connect rfl) (.step (.put _) (.step (.putDone rfl) (.step (.put _)
      (.step (.putDone rfl) (.step (.loop rfl) (.step .stop (.done _))))))), rfl, rfl, rfl, rfl⟩
  obtain ⟨worker, run, stopped, tasks, phase, stopping⟩ := before
  have after : ∃ last, Run (Step (Settings.create 2 false 900)) worker lastRound last ∧
      last.phase = .finished := by
    obtain ⟨queue, stop, wake, submitting, _, _, nextDiscovery, signals⟩ := worker
    cases stopped
    cases tasks
    cases phase
    cases stopping
    exact ⟨_, .step (.take rfl rfl) (.step (.work _ _ rfl) (.step (.stopDone rfl)
      (.step (.put _) (.step (.putDone rfl) (.step (.take rfl rfl) (.step (.work _ _ rfl)
      (.step (.take rfl rfl) (.step (.work _ _ rfl) (.step (.empty rfl rfl)
      (.step (.check rfl) (.done _))))))))))), rfl⟩
  obtain ⟨last, rest, ended⟩ := after
  obtain ⟨told, -, bounded⟩ := worker_stops run rest
  obtain ⟨steps, -⟩ := bounded stopped
  exact ⟨worker, last, stopped, tasks, rest, ended, told ended, steps⟩

end Worker

end NoKnowledge.Gui
