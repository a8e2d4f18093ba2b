import Mathlib.Logic.Function.Iterate

/-!
# Chains of one-way steps

A chain starts at some element and is followed by iterating `next`.  When
`next` is injective and no chain starts inside the range of `next`, a position
on a chain determines both the chain and the number of steps taken.
-/

namespace NoKnowledge

namespace KeyChain

variable {α : Type} {next : α → α} {Start : α → Prop}

theorem position_unique (injective : Function.Injective next)
    (outside : ∀ start, Start start → ∀ element, start ≠ next element)
    {first second : α} (firstStart : Start first) (secondStart : Start second)
    {steps steps' : Nat} (equality : next^[steps] first = next^[steps'] second) :
    steps = steps' ∧ first = second := by
  induction steps generalizing steps' with
  | zero =>
      cases steps' with
      | zero => exact ⟨rfl, equality⟩
      | succ steps' =>
          rw [Function.iterate_succ_apply'] at equality
          exact (outside first firstStart _ equality).elim
  | succ steps induction =>
      cases steps' with
      | zero =>
          rw [Function.iterate_succ_apply'] at equality
          exact (outside second secondStart _ equality.symm).elim
      | succ steps' =>
          rw [Function.iterate_succ_apply', Function.iterate_succ_apply'] at equality
          obtain ⟨same, chain⟩ := induction (injective equality)
          exact ⟨congrArg Nat.succ same, chain⟩

end KeyChain

/-- Elements reached from an origin in a given number of steps, each step
taking an input of its own. -/
inductive Descends {α β : Type} (step : α → β → α) (origin : α) :
    Nat → α → Prop where
  | origin : Descends step origin 0 origin
  | step {depth : Nat} {element : α} (input : β) :
      Descends step origin depth element →
      Descends step origin (depth + 1) (step element input)

namespace Descends

variable {α β : Type} {step : α → β → α} {origin : α}

/-- The depth of an element is unique when steps are injective in the element
and never lead back to the origin. -/
theorem depth_unique
    (injective : ∀ {first second input input'},
      step first input = step second input' → first = second)
    (outside : ∀ element input, origin ≠ step element input)
    {depth depth' : Nat} {element : α}
    (descends : Descends step origin depth element)
    (descends' : Descends step origin depth' element) : depth = depth' := by
  induction descends generalizing depth' with
  | origin =>
      generalize shape : origin = element at descends'
      cases descends' with
      | origin => rfl
      | step input below => exact (outside _ _ shape).elim
  | @step depth element input below induction =>
      generalize shape : step element input = reached at descends'
      cases descends' with
      | origin => exact (outside _ _ shape.symm).elim
      | step input' below' =>
          have same := injective shape
          subst same
          rw [induction below']

end Descends

end NoKnowledge
