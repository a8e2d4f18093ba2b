import Mathlib.Tactic.TypeStar

/-!
# Stateful programs that may raise

A program reads and changes a state and ends with a value or an exception.
An exception keeps the changes made before it, as in an imperative language:
nothing is rolled back unless a handler does it.

`Keeps frame program` says that every run relates the initial to the final state
by a reflexive and transitive relation, whichever way the run ends.
`Returns program post state` says that the run from one state returns, with a
value and a state that fulfil a postcondition.
-/

namespace NoKnowledge

def Prog (σ ε α : Type) : Type := σ → Except ε α × σ

namespace Prog

variable {σ ε α β : Type}

def run (program : Prog σ ε α) (state : σ) : Except ε α × σ := program state

/-- The state a run ends in, returned or raised. -/
def after (program : Prog σ ε α) (state : σ) : σ := (program.run state).2

protected def pure (value : α) : Prog σ ε α := fun state => (.ok value, state)

protected def bind (first : Prog σ ε α) (next : α → Prog σ ε β) :
    Prog σ ε β := fun state =>
  match first state with
  | (.ok value, state) => next value state
  | (.error raised, state) => (.error raised, state)

def raise (raised : ε) : Prog σ ε α := fun state => (.error raised, state)

/-- Run a handler on whatever was raised, in the state it was raised in. -/
def handle (body : Prog σ ε α) (handler : ε → Prog σ ε α) : Prog σ ε α :=
  fun state =>
    match body state with
    | (.ok value, state) => (.ok value, state)
    | (.error raised, state) => handler raised state

instance : Monad (Prog σ ε) where
  pure := Prog.pure
  bind := Prog.bind

instance : MonadStateOf σ (Prog σ ε) where
  get := fun state => (.ok state, state)
  set := fun state _ => (.ok (), state)
  modifyGet := fun change state => (.ok (change state).1, (change state).2)

instance : MonadExceptOf ε (Prog σ ε) where
  throw := raise
  tryCatch := handle

theorem id_map_eq (program : Prog σ ε α) : id <$> program = program := by
  funext state
  show Prog.bind program (fun value => Prog.pure value) state = program state
  unfold Prog.bind
  split <;> simp_all [Prog.pure]

theorem bind_assoc_eq {γ : Type} (program : Prog σ ε α) (first : α → Prog σ ε β)
    (second : β → Prog σ ε γ) :
    program >>= first >>= second = program >>= fun value => first value >>= second := by
  funext state
  show Prog.bind (Prog.bind program first) second state =
    Prog.bind program (fun value => Prog.bind (first value) second) state
  unfold Prog.bind
  cases program state with
  | mk result middle => cases result <;> rfl

theorem lawful : LawfulMonad (Prog σ ε) :=
  LawfulMonad.mk' (Prog σ ε) id_map_eq (fun _ _ => rfl) bind_assoc_eq

/-- Lift a pure computation that may raise. -/
def lift : Except ε α → Prog σ ε α
  | .ok value => Prog.pure value
  | .error raised => raise raised

@[simp] theorem run_pure (value : α) (state : σ) :
    (pure value : Prog σ ε α).run state = (.ok value, state) := rfl

theorem run_bind (first : Prog σ ε α) (next : α → Prog σ ε β) (state : σ) :
    (first >>= next).run state =
      match first.run state with
      | (.ok value, state) => (next value).run state
      | (.error raised, state) => (.error raised, state) := rfl

@[simp] theorem run_get (state : σ) :
    (get : Prog σ ε σ).run state = (.ok state, state) := rfl

@[simp] theorem run_set (new state : σ) :
    (set new : Prog σ ε PUnit).run state = (.ok (), new) := rfl

@[simp] theorem run_modify (change : σ → σ) (state : σ) :
    (modify change : Prog σ ε PUnit).run state = (.ok (), change state) := rfl

@[simp] theorem run_throw (raised : ε) (state : σ) :
    (throw raised : Prog σ ε α).run state = (.error raised, state) := rfl

theorem run_tryCatch (body : Prog σ ε α) (handler : ε → Prog σ ε α)
    (state : σ) :
    (tryCatch body handler).run state =
      match body.run state with
      | (.ok value, state) => (.ok value, state)
      | (.error raised, state) => (handler raised).run state := rfl

@[simp] theorem run_lift_ok (value : α) (state : σ) :
    (lift (.ok value) : Prog σ ε α).run state = (.ok value, state) := rfl

@[simp] theorem run_lift_error (raised : ε) (state : σ) :
    (lift (.error raised) : Prog σ ε α).run state =
      (.error raised, state) := rfl

theorem run_bind_ok {first : Prog σ ε α} {next : α → Prog σ ε β}
    {state middle : σ} {value : α}
    (firstRun : first.run state = (.ok value, middle)) :
    (first >>= next).run state = (next value).run middle := by
  rw [run_bind, firstRun]

theorem run_bind_error {first : Prog σ ε α} {next : α → Prog σ ε β}
    {state middle : σ} {raised : ε}
    (firstRun : first.run state = (.error raised, middle)) :
    (first >>= next).run state = (.error raised, middle) := by
  rw [run_bind, firstRun]

theorem after_bind_ok {first : Prog σ ε α} {next : α → Prog σ ε β}
    {state middle : σ} {value : α}
    (firstRun : first.run state = (.ok value, middle)) :
    (first >>= next).after state = (next value).after middle := by
  rw [after, run_bind_ok firstRun, after]

theorem after_bind_error {first : Prog σ ε α} {next : α → Prog σ ε β}
    {state middle : σ} {raised : ε}
    (firstRun : first.run state = (.error raised, middle)) :
    (first >>= next).after state = middle := by
  rw [after, run_bind_error firstRun]

/-- A last part that leaves the state alone. -/
theorem after_bind_idle {first : Prog σ ε α} {next : α → Prog σ ε β}
    (idle : ∀ value state, (next value).after state = state) (state : σ) :
    (first >>= next).after state = first.after state := by
  rcases ran : first.run state with ⟨result, middle⟩
  cases result with
  | ok value => rw [after_bind_ok ran, idle, after, ran]
  | error raised => rw [after_bind_error ran, after, ran]

theorem after_eq {program : Prog σ ε α} {state final : σ} {result : Except ε α}
    (ran : program.run state = (result, final)) : program.after state = final := by
  rw [after, ran]

theorem after_congr {program other : Prog σ ε α} {state changed : σ}
    (same : program.run state = other.run changed) : program.after state = other.after changed := by
  rw [after, after, same]

/-- A returning run of a composition goes through a returning run of its
first part. -/
theorem bind_returns {first : Prog σ ε α} {next : α → Prog σ ε β}
    {state final : σ} {result : β}
    (returned : (first >>= next).run state = (.ok result, final)) :
    ∃ value middle, first.run state = (.ok value, middle) ∧
      (next value).run middle = (.ok result, final) := by
  rw [run_bind] at returned
  split at returned
  · rename_i value middle firstRun
    exact ⟨value, middle, firstRun, returned⟩
  · cases returned

theorem lift_returns {outcome : Except ε α} {state final : σ} {value : α}
    (returned : (lift outcome : Prog σ ε α).run state = (.ok value, final)) :
    outcome = .ok value ∧ final = state := by
  cases outcome with
  | error raised => cases returned
  | ok found =>
      cases returned
      exact ⟨rfl, rfl⟩

/-- A run of two parts fails in the first or in the second. -/
theorem bind_raises {first : Prog σ ε α} {next : α → Prog σ ε β} {state final : σ}
    {raised : ε} (failed : (first >>= next).run state = (.error raised, final)) :
    first.run state = (.error raised, final) ∨
      ∃ value middle, first.run state = (.ok value, middle) ∧
        (next value).run middle = (.error raised, final) := by
  rw [run_bind] at failed
  cases ran : first.run state with
  | mk result middle =>
      rw [ran] at failed
      cases result with
      | error other =>
          cases failed
          exact .inl rfl
      | ok value => exact .inr ⟨value, middle, rfl, failed⟩

/-- A loop fails at an item, after the items before it were done. -/
theorem foldlM_raises {step : β → α → Prog σ ε β} {items : List α} {start : β}
    {state final : σ} {raised : ε}
    (failed : (items.foldlM step start).run state = (.error raised, final)) :
    ∃ before item after accumulated middle, items = before ++ item :: after ∧
      (before.foldlM step start).run state = (.ok accumulated, middle) ∧
      (step accumulated item).run middle = (.error raised, final) := by
  induction items generalizing start state with
  | nil => cases failed
  | cons item items induction =>
      rw [List.foldlM_cons] at failed
      rcases bind_raises failed with here | ⟨next, middle, stepped, later⟩
      · exact ⟨[], item, items, start, state, rfl, rfl, here⟩
      · obtain ⟨before, other, after, accumulated, reached, split, ran, there⟩ :=
          induction later
        refine ⟨item :: before, other, after, accumulated, reached, ?_, ?_, there⟩
        · rw [split, List.cons_append]
        · rw [List.foldlM_cons, run_bind_ok stepped, ran]

/-- What every returning step of a loop keeps holds of what the loop returns. -/
theorem foldlM_returned {step : β → α → Prog σ ε β} {holds : β → Prop}
    (kept : ∀ accumulated item state next later, holds accumulated →
      (step accumulated item).run state = (.ok next, later) → holds next)
    {items : List α} {start result : β} {state final : σ} (initially : holds start)
    (returned : (items.foldlM step start).run state = (.ok result, final)) :
    holds result := by
  induction items generalizing start state with
  | nil =>
      cases returned
      exact initially
  | cons item items induction =>
      rw [List.foldlM_cons] at returned
      obtain ⟨next, middle, stepped, rest⟩ := bind_returns returned
      exact induction (kept start item state next middle initially stepped) rest

variable {allowed : ε → σ → Prop}

/-- A reflexive and transitive relation between states: what a run may do. -/
structure Frame (σ : Type) where
  rel : σ → σ → Prop
  refl : ∀ state, rel state state
  trans : ∀ {first second third}, rel first second → rel second third →
    rel first third

/-- What a frame says of the states that come after an origin. -/
def Frame.since (frame : Frame σ) (origin : σ) : Frame σ where
  rel := fun first second => frame.rel origin first → frame.rel origin second
  refl := fun _ => id
  trans := fun first second passed => second (first passed)

theorem Frame.within_since (frame : Frame σ) (origin : σ) {first second : σ}
    (within : frame.rel first second) : (frame.since origin).rel first second :=
  fun passed => frame.trans passed within

/-- Whatever way a run ends, it stays within the frame. -/
def Keeps (frame : Frame σ) (program : Prog σ ε α) : Prop :=
  ∀ state, frame.rel state (program.after state)

variable {frame : Frame σ}

theorem keeps_pure (value : α) : Keeps frame (pure value : Prog σ ε α) :=
  fun state => frame.refl state

theorem keeps_throw (raised : ε) : Keeps frame (throw raised : Prog σ ε α) :=
  fun state => frame.refl state

theorem keeps_get : Keeps frame (get : Prog σ ε σ) :=
  fun state => frame.refl state

theorem keeps_lift (outcome : Except ε α) :
    Keeps frame (lift outcome : Prog σ ε α) := by
  intro state
  cases outcome <;> exact frame.refl state

theorem keeps_modify {change : σ → σ}
    (related : ∀ state, frame.rel state (change state)) :
    Keeps frame (modify change : Prog σ ε PUnit) :=
  related

/-- The continuation only has to respect the frame on the value and in the
state the first part returns with. -/
theorem keeps_bind_run {first : Prog σ ε α} {next : α → Prog σ ε β} {state : σ}
    (firstKeeps : frame.rel state (first.after state))
    (nextKeeps : ∀ value middle, first.run state = (.ok value, middle) →
      frame.rel middle ((next value).after middle)) :
    frame.rel state ((first >>= next).after state) := by
  unfold after at firstKeeps nextKeeps ⊢
  rw [run_bind]
  split
  · rename_i value middle firstRun
    rw [firstRun] at firstKeeps
    exact frame.trans firstKeeps (nextKeeps value middle firstRun)
  · rename_i raised middle firstRun
    rw [firstRun] at firstKeeps
    exact firstKeeps

/-- A goal that holds wherever the first part stops holds of the whole when the
continuation reaches it. -/
theorem reaches_bind {goal : σ → Prop} {first : Prog σ ε α} {next : α → Prog σ ε β}
    {origin state : σ} (passed : frame.rel origin state) (firstKeeps : Keeps frame first)
    (stopped : ∀ final, frame.rel origin final → goal final)
    (continued : ∀ value middle, first.run state = (.ok value, middle) →
      frame.rel origin middle → goal ((next value).after middle)) :
    goal ((first >>= next).after state) := by
  have firstRel := frame.trans passed (firstKeeps state)
  unfold after at firstRel continued ⊢
  rw [run_bind]
  split
  · rename_i value middle firstRun
    rw [firstRun] at firstRel
    exact continued value middle firstRun firstRel
  · rename_i raised middle firstRun
    rw [firstRun] at firstRel
    exact stopped middle firstRel

theorem keeps_bind {first : Prog σ ε α} {next : α → Prog σ ε β}
    (firstKeeps : Keeps frame first)
    (nextKeeps : ∀ value, Keeps frame (next value)) :
    Keeps frame (first >>= next) := fun state =>
  keeps_bind_run (firstKeeps state) fun value middle _ =>
    nextKeeps value middle

/-- A run that fails stays within the frame when its first part does, and its
continuation does as long as that fails. -/
theorem fails_bind {first : Prog σ ε α} {next : α → Prog σ ε β} {state final : σ}
    {raised : ε} (failed : (first >>= next).run state = (.error raised, final))
    (firstKeeps : Keeps frame first)
    (nextFails : ∀ value middle, first.run state = (.ok value, middle) →
      (next value).run middle = (.error raised, final) → frame.rel middle final) :
    frame.rel state final := by
  have firstRel := firstKeeps state
  unfold after at firstRel
  rw [run_bind] at failed
  split at failed
  · rename_i value middle firstRun
    rw [firstRun] at firstRel
    exact frame.trans firstRel (nextFails value middle firstRun failed)
  · rename_i raised middle firstRun
    rw [firstRun] at firstRel
    cases failed
    exact firstRel

theorem keeps_get_bind {next : σ → Prog σ ε α}
    (nextKeeps : ∀ state, frame.rel state ((next state).after state)) :
    Keeps frame (get >>= next) :=
  nextKeeps

theorem rel_set_bind {new state : σ} {next : PUnit → Prog σ ε α}
    (related : frame.rel state new) (nextKeeps : Keeps frame (next ())) :
    frame.rel state ((set new >>= next).after state) :=
  frame.trans related (nextKeeps new)

theorem keeps_tryCatch {body : Prog σ ε α} {handler : ε → Prog σ ε α}
    (bodyKeeps : Keeps frame body)
    (handlerKeeps : ∀ raised, Keeps frame (handler raised)) :
    Keeps frame (tryCatch body handler) := by
  intro state
  have bodyRel := bodyKeeps state
  unfold after at bodyRel ⊢
  rw [run_tryCatch]
  split
  · rename_i value middle bodyRun
    rw [bodyRun] at bodyRel
    exact bodyRel
  · rename_i raised middle bodyRun
    rw [bodyRun] at bodyRel
    exact frame.trans bodyRel (handlerKeeps raised middle)

theorem keeps_ite {condition : Prop} [Decidable condition]
    {yes no : Prog σ ε α} (yesKeeps : condition → Keeps frame yes)
    (noKeeps : ¬ condition → Keeps frame no) :
    Keeps frame (if condition then yes else no) := by
  split
  · exact yesKeeps ‹_›
  · exact noKeeps ‹_›

theorem keeps_foldlM {step : β → α → Prog σ ε β} {items : List α}
    (stepKeeps : ∀ accumulated, ∀ item ∈ items,
      Keeps frame (step accumulated item)) (start : β) :
    Keeps frame (items.foldlM step start) := by
  induction items generalizing start with
  | nil => exact keeps_pure start
  | cons item items induction =>
      rw [List.foldlM_cons]
      refine keeps_bind (stepKeeps start item (by simp)) fun next =>
        induction (fun accumulated item member =>
          stepKeeps accumulated item (by simp [member])) next

theorem keeps_forM {body : α → Prog σ ε PUnit} {items : List α}
    (bodyKeeps : ∀ item ∈ items, Keeps frame (body item)) :
    Keeps frame (items.forM body) := by
  induction items with
  | nil => exact keeps_pure PUnit.unit
  | cons item items induction =>
      exact keeps_bind (bodyKeeps item (by simp)) fun _ =>
        induction fun item member => bodyKeeps item (by simp [member])

theorem keeps_mapM {body : α → Prog σ ε β} {items : List α}
    (bodyKeeps : ∀ item ∈ items, Keeps frame (body item)) :
    Keeps frame (items.mapM body) := by
  have := lawful (σ := σ) (ε := ε)
  induction items with
  | nil =>
      rw [List.mapM_nil]
      exact keeps_pure []
  | cons item items induction =>
      rw [List.mapM_cons]
      exact keeps_bind (bodyKeeps item (by simp)) fun value =>
        keeps_bind (induction fun item member => bodyKeeps item (by simp [member]))
          fun values => keeps_pure (value :: values)

/-- The states that agree on a view. -/
def keeping {γ : Type} (view : σ → γ) : Frame σ where
  rel := fun first second => view second = view first
  refl := fun _ => rfl
  trans := fun firstSame secondSame => secondSame.trans firstSame

theorem Keeps.view {γ : Type} {view : σ → γ} {program : Prog σ ε α}
    (keeps : Keeps (keeping view) program) {state final : σ}
    {result : Except ε α} (ran : program.run state = (result, final)) :
    view final = view state := by
  have same := keeps state
  unfold after at same
  rw [ran] at same
  exact same

/-- A relation that a frame can be put before and after: what one step of
interest does, amid things that do not matter. -/
structure Action (frame : Frame σ) where
  rel : σ → σ → Prop
  idle : ∀ state, rel state state
  before : ∀ {first second third}, frame.rel first second → rel second third →
    rel first third
  after : ∀ {first second third}, rel first second → frame.rel second third →
    rel first third

/-- A frame is an action of itself. -/
def Frame.action (frame : Frame σ) : Action frame :=
  ⟨frame.rel, frame.refl, frame.trans, frame.trans⟩

def Acts (action : Action frame) (program : Prog σ ε α) : Prop :=
  ∀ state, action.rel state (program.after state)

variable {action : Action frame}

theorem Keeps.acts {program : Prog σ ε α} (keeps : Keeps frame program) :
    Acts action program := fun state =>
  action.before (keeps state) (action.idle _)

/-- The action may come after something that does not matter. -/
theorem acts_bind_run {first : Prog σ ε α} {next : α → Prog σ ε β} {state : σ}
    (firstKeeps : frame.rel state (first.after state))
    (nextActs : ∀ value middle, first.run state = (.ok value, middle) →
      action.rel middle ((next value).after middle)) :
    action.rel state ((first >>= next).after state) := by
  unfold Prog.after at firstKeeps nextActs ⊢
  rw [run_bind]
  split
  · rename_i value middle firstRun
    rw [firstRun] at firstKeeps
    exact action.before firstKeeps (nextActs value middle firstRun)
  · rename_i raised middle firstRun
    rw [firstRun] at firstKeeps
    exact action.before firstKeeps (action.idle middle)

theorem acts_bind {first : Prog σ ε α} {next : α → Prog σ ε β}
    (firstKeeps : Keeps frame first) (nextActs : ∀ value, Acts action (next value)) :
    Acts action (first >>= next) := fun state =>
  acts_bind_run (firstKeeps state) fun value middle _ => nextActs value middle

/-- Something that does not matter may come after the action. -/
theorem rel_bind {first : Prog σ ε α} {next : α → Prog σ ε β} {state : σ}
    (firstRel : action.rel state (first.after state))
    (nextKeeps : ∀ value, Keeps frame (next value)) :
    action.rel state ((first >>= next).after state) := by
  unfold Prog.after at firstRel ⊢
  rw [run_bind]
  split
  · rename_i value middle firstRun
    rw [firstRun] at firstRel
    exact action.after firstRel (nextKeeps value middle)
  · rename_i raised middle firstRun
    rw [firstRun] at firstRel
    exact firstRel

theorem Acts.bind {first : Prog σ ε α} {next : α → Prog σ ε β}
    (firstActs : Acts action first) (nextKeeps : ∀ value, Keeps frame (next value)) :
    Acts action (first >>= next) := fun state => rel_bind (firstActs state) nextKeeps

theorem acts_ite {condition : Prop} [Decidable condition]
    {yes no : Prog σ ε α} (yesActs : condition → Acts action yes)
    (noActs : ¬ condition → Acts action no) :
    Acts action (if condition then yes else no) := by
  split
  · exact yesActs ‹_›
  · exact noActs ‹_›

def Returns (program : Prog σ ε α) (post : α → σ → Prop) (state : σ) : Prop :=
  ∃ value final, program.run state = (.ok value, final) ∧ post value final

theorem Returns.weaken {program : Prog σ ε α} {post weaker : α → σ → Prop} {state : σ}
    (returns : Returns program post state)
    (implies : ∀ value final, post value final → weaker value final) :
    Returns program weaker state := by
  obtain ⟨value, final, ran, holds⟩ := returns
  exact ⟨value, final, ran, implies value final holds⟩

end Prog

end NoKnowledge
