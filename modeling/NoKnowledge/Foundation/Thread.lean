import NoKnowledge.Foundation.Effect

/-!
# Programs in atomic steps

A thread is a program cut at its accesses to a state that others share: it asks
for one access, takes the reply and goes on.  Between two accesses anything may
happen to the shared state.  Run on its own, a thread is an ordinary program.

A contract says what a thread may ask for and what it may rely on in a reply,
relative to a history that is not part of the state.  A thread that meets a
contract meets it under every interference the contract allows.
-/

namespace NoKnowledge

inductive Thread (Access : Type → Type 1) (ε α : Type) : Type 1 where
  | done (result : Except ε α)
  | step {β : Type} (access : Access β) (next : Except ε β → Thread Access ε α)

namespace Thread

variable {Access : Type → Type 1} {σ ε α β γ History : Type}

protected def bind : Thread Access ε α → (α → Thread Access ε β) → Thread Access ε β
  | done (.ok value), rest => rest value
  | done (.error raised), _ => done (.error raised)
  | step access next, rest => step access fun reply => (next reply).bind rest

/-- Run a handler on whatever was raised. -/
def handle : Thread Access ε α → (ε → Thread Access ε α) → Thread Access ε α
  | done (.ok value), _ => done (.ok value)
  | done (.error raised), handler => handler raised
  | step access next, handler => step access fun reply => (next reply).handle handler

instance : Monad (Thread Access ε) where
  pure := fun value => done (.ok value)
  bind := Thread.bind

instance : MonadExceptOf ε (Thread Access ε) where
  throw := fun raised => done (.error raised)
  tryCatch := handle

/-- The thread of one access. -/
def once (access : Access α) : Thread Access ε α := step access done

def lift (outcome : Except ε α) : Thread Access ε α := done outcome

/-- All steps one after the other, with nothing in between. -/
def run (perform : {β : Type} → Access β → Prog σ ε β) :
    Thread Access ε α → Prog σ ε α
  | done result => Prog.lift result
  | step access next => fun state =>
      (next ((perform access).run state).1).run perform ((perform access).run state).2

variable {perform : {β : Type} → Access β → Prog σ ε β}

theorem run_pure (value : α) :
    (pure value : Thread Access ε α).run perform = pure value := rfl

theorem run_throw (raised : ε) :
    (throw raised : Thread Access ε α).run perform = throw raised := rfl

theorem run_lift (outcome : Except ε α) :
    (lift outcome : Thread Access ε α).run perform = Prog.lift outcome := rfl

theorem run_once (access : Access α) :
    (once access : Thread Access ε α).run perform = perform access := by
  funext state
  rcases ran : (perform access).run state with ⟨result, middle⟩
  show (done ((perform access).run state).1 : Thread Access ε α).run perform
    ((perform access).run state).2 = (perform access).run state
  rw [ran]
  cases result <;> rfl

theorem run_bind (first : Thread Access ε α) (next : α → Thread Access ε β) :
    (first >>= next).run perform =
      first.run perform >>= fun value => (next value).run perform := by
  induction first with
  | done result => cases result <;> rfl
  | step access rest induction =>
      funext state
      exact congrFun (induction ((perform access).run state).1) _

theorem run_tryCatch (body : Thread Access ε α) (handler : ε → Thread Access ε α) :
    (tryCatch body handler).run perform =
      tryCatch (body.run perform) fun raised => (handler raised).run perform := by
  induction body with
  | done result => cases result <;> rfl
  | step access rest induction =>
      funext state
      exact congrFun (induction ((perform access).run state).1) _

theorem run_ite {condition : Prop} [Decidable condition]
    (yes no : Thread Access ε α) :
    (if condition then yes else no).run perform =
      if condition then yes.run perform else no.run perform := by
  split <;> rfl

/-- What may be asked for, and what may be relied on in the reply. -/
structure Contract (Access : Type → Type 1) (ε History : Type) where
  requires : History → {β : Type} → Access β → Prop
  ensures : History → {β : Type} → Access β → Except ε β → History → Prop

variable (contract : Contract Access ε History)

/-- Every access of the thread meets the contract, whatever the replies are. -/
def Meets (post : Except ε α → History → Prop) :
    Thread Access ε α → History → Prop
  | done result, history => post result history
  | step access next, history =>
      contract.requires history access ∧
        ∀ reply later, contract.ensures history access reply later →
          (next reply).Meets post later

variable {contract} {post : Except ε α → History → Prop}

theorem Meets.weaken {weaker : Except ε α → History → Prop} {thread : Thread Access ε α}
    {history : History} (meets : thread.Meets contract post history)
    (implies : ∀ result later, post result later → weaker result later) :
    thread.Meets contract weaker history := by
  induction thread generalizing history with
  | done result => exact implies result history meets
  | step access next induction =>
      exact ⟨meets.1, fun reply later ensured => induction reply (meets.2 reply later ensured)⟩

/-- What is left to show of a reply: go on with its value, or stop with what it
raised. -/
def Continues (contract : Contract Access ε History) (post : Except ε α → History → Prop)
    (next : β → Thread Access ε α) (reply : Except ε β) (history : History) : Prop :=
  match reply with
  | .ok value => (next value).Meets contract post history
  | .error raised => post (.error raised) history

theorem meets_bind {first : Thread Access ε β} {next : β → Thread Access ε α}
    {history : History}
    (meets : first.Meets contract (Continues contract post next) history) :
    (first >>= next).Meets contract post history := by
  induction first generalizing history with
  | done result => cases result <;> exact meets
  | step access rest induction =>
      exact ⟨meets.1, fun reply later ensured => induction reply (meets.2 reply later ensured)⟩

theorem meets_once_bind {access : Access β} {next : β → Thread Access ε α}
    {history : History} (required : contract.requires history access)
    (continues : ∀ reply later, contract.ensures history access reply later →
      Continues contract post next reply later) :
    (once access >>= next).Meets contract post history :=
  meets_bind ⟨required, continues⟩

theorem meets_tryCatch {body : Thread Access ε α} {handler : ε → Thread Access ε α}
    {history : History}
    (meets : body.Meets contract (fun result later =>
      match result with
      | .ok value => post (.ok value) later
      | .error raised => (handler raised).Meets contract post later) history) :
    (tryCatch body handler).Meets contract post history := by
  induction body generalizing history with
  | done result => cases result <;> exact meets
  | step access rest induction =>
      exact ⟨meets.1, fun reply later ensured => induction reply (meets.2 reply later ensured)⟩

end Thread

end NoKnowledge
