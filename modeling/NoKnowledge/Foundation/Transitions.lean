import Mathlib.Tactic.TypeStar

/-!
# Runs of transition systems

A run is a list of events that leads from one state to another.  Three rules
give what holds along every run: an invariant of the states, an invariant of
the states together with the events so far, and a bound on the number of events
of one kind from a measure that each of them lowers.
-/

namespace NoKnowledge

inductive Run {σ ε : Type*} (step : σ → ε → σ → Prop) : σ → List ε → σ → Prop where
  | done (state : σ) : Run step state [] state
  | step {state next last : σ} {event : ε} {rest : List ε}
      (first : step state event next) (later : Run step next rest last) :
      Run step state (event :: rest) last

namespace Run

variable {σ ε : Type*} {step : σ → ε → σ → Prop} {start state last : σ}
  {events more : List ε}

theorem append (first : Run step start events state) (second : Run step state more last) :
    Run step start (events ++ more) last := by
  induction first with
  | done => exact second
  | step happened later induction => exact .step happened (induction second)

/-- What every step keeps holds after every run. -/
theorem invariant {holds : σ → Prop}
    (keeps : ∀ state event next, holds state → step state event next → holds next)
    (run : Run step start events state) (first : holds start) : holds state := by
  induction run with
  | done => exact first
  | step happened later induction => exact induction (keeps _ _ _ first happened)

/-- An invariant of states and the events that led there. -/
theorem history {holds : List ε → σ → Prop} (first : holds [] start)
    (keeps : ∀ events state event next, holds events state → step state event next →
      holds (events ++ [event]) next)
    (run : Run step start events state) : holds events state := by
  suffices general : ∀ before, holds before start → holds (before ++ events) state by
    exact general [] first
  clear first
  induction run with
  | done =>
      intro before kept
      rw [List.append_nil]
      exact kept
  | step happened later induction =>
      rename_i event rest
      intro before kept
      rw [List.append_cons]
      exact induction (before ++ [event]) (keeps before _ event _ kept happened)

/-- Each event that counts lowers the measure, and the others raise it by what
they bring. -/
theorem counted (holds : σ → Prop) (counts brings : ε → Bool) (measure : σ → Nat)
    (each : Nat)
    (keeps : ∀ state event next, holds state → step state event next → holds next)
    (lowers : ∀ state event next, holds state → step state event next →
      measure next + (if counts event then 1 else 0) ≤
        measure state + if brings event then each else 0)
    (run : Run step start events state) (first : holds start) :
    events.countP counts + measure state ≤
      measure start + each * events.countP brings := by
  induction run with
  | done => simp
  | step happened later induction =>
      have rest := induction (keeps _ _ _ first happened)
      have now := lowers _ _ _ first happened
      rw [List.countP_cons, List.countP_cons, Nat.mul_add]
      split at now <;> split at now <;> simp_all <;> omega

end Run

end NoKnowledge
