import Mathlib.Logic.Basic

/-!
# Exceptions that are not declared

A computation may declare what it raises.  `Escapes` says that it ends with
something else; the rules below find the part of a computation from which that
comes, and a handler adds what it catches to what its body may raise.
-/

namespace NoKnowledge

variable {ε α β : Type} {declared : ε → Prop} {raised : ε}

/-- A computation raises something that is not declared. -/
def Escapes (declared : ε → Prop) (body : Except ε α) : Prop :=
  ∃ raised, body = .error raised ∧ ¬ declared raised

/-- A computation returns a value as promised or raises something declared. -/
def Fulfils (declared : ε → Prop) (promised : α → Prop) : Except ε α → Prop
  | .ok value => promised value
  | .error raised => declared raised

/-- `if not condition: raise ...` -/
def demand (condition : Bool) (raised : ε) : Except ε Unit :=
  if condition then .ok () else .error raised

/-- `try: body`, with another exception in place of those that are caught. -/
def rescue (caught : ε → Bool) (as_ : ε → ε) (body : Except ε α) : Except ε α :=
  match body with
  | .ok value => .ok value
  | .error raised => .error (if caught raised then as_ raised else raised)

theorem fulfils_iff {promised : α → Prop} {body : Except ε α}
    (kept : ∀ value, body = .ok value → promised value) :
    Fulfils declared promised body ↔ ¬ Escapes declared body := by
  cases body with
  | ok value => exact iff_of_true (kept value rfl) (fun ⟨_, same, _⟩ => nomatch same)
  | error raised =>
      constructor
      · intro named ⟨other, same, undeclared⟩
        exact undeclared (Except.error.inj same ▸ named)
      · intro contained
        exact Classical.byContradiction fun undeclared =>
          contained ⟨raised, rfl, undeclared⟩

theorem not_escapes_ok (value : α) : ¬ Escapes declared (.ok value) :=
  fun ⟨_, same, _⟩ => nomatch same

theorem escapes_error : Escapes declared (.error raised : Except ε α) ↔ ¬ declared raised := by
  constructor
  · intro ⟨other, same, undeclared⟩
    exact Except.error.inj same ▸ undeclared
  · intro undeclared
    exact ⟨raised, rfl, undeclared⟩

theorem not_escapes_error (named : declared raised) :
    ¬ Escapes declared (.error raised : Except ε α) :=
  fun escapes => escapes_error.mp escapes named

theorem demand_eq_ok {condition : Bool} {result : Unit} :
    demand condition raised = .ok result ↔ condition = true := by
  cases condition with
  | true => exact iff_of_true rfl rfl
  | false => exact iff_of_false nofun nofun

/-- What raises nothing that is declared escapes unless it returns. -/
theorem escapes_iff_of_never {body : Except ε α}
    (never : ¬ Escapes (fun raised => ¬ declared raised) body) :
    Escapes declared body ↔ ¬ ∃ value, body = .ok value := by
  cases body with
  | ok value => exact iff_of_false (not_escapes_ok value) (not_not_intro ⟨value, rfl⟩)
  | error raised =>
      rw [escapes_error, not_not] at never
      exact iff_of_true (escapes_error.mpr never) (fun ⟨_, same⟩ => nomatch same)

/-- An exception comes from the first part, or from the rest after a value of it. -/
theorem escapes_bind {first : Except ε α} {next : α → Except ε β} :
    Escapes declared (first >>= next) ↔
      Escapes declared first ∨ ∃ value, first = .ok value ∧ Escapes declared (next value) := by
  cases first with
  | ok value =>
      rw [or_iff_right (not_escapes_ok value)]
      constructor
      · intro later
        exact ⟨value, rfl, later⟩
      · intro ⟨other, same, later⟩
        exact Except.ok.inj same ▸ later
  | error raised =>
      rw [or_iff_left fun ⟨_, same, _⟩ => nomatch same]
      exact escapes_error.trans escapes_error.symm

theorem escapes_bind_of_quiet {first : Except ε α} {next : α → Except ε β}
    (quiet : ¬ Escapes declared first) :
    Escapes declared (first >>= next) ↔
      ∃ value, first = .ok value ∧ Escapes declared (next value) := by
  rw [escapes_bind, or_iff_right quiet]

theorem escapes_demand_bind {condition : Bool} {next : Unit → Except ε β}
    (named : declared raised) :
    Escapes declared (demand condition raised >>= next) ↔
      condition = true ∧ Escapes declared (next ()) := by
  cases condition with
  | true => exact Iff.symm (and_iff_right rfl)
  | false => exact iff_of_false (not_escapes_error named) nofun

/-- What a handler catches may be raised under it. -/
theorem escapes_rescue {caught : ε → Bool} {as_ : ε → ε} {body : Except ε α}
    (named : ∀ raised, declared (as_ raised)) :
    Escapes declared (rescue caught as_ body) ↔
      Escapes (fun raised => declared raised ∨ caught raised = true) body := by
  cases body with
  | ok value => exact iff_of_false (not_escapes_ok value) (not_escapes_ok value)
  | error raised =>
      rw [rescue, escapes_error, escapes_error]
      by_cases handled : caught raised = true
      · rw [if_pos handled]
        exact iff_of_false (not_not_intro (named raised)) (not_not_intro (.inr handled))
      · rw [if_neg handled, or_iff_left handled]

theorem rescue_eq_ok {caught : ε → Bool} {as_ : ε → ε} {body : Except ε α} {value : α} :
    rescue caught as_ body = .ok value ↔ body = .ok value := by
  cases body with
  | ok other => exact Iff.rfl
  | error raised => exact iff_of_false nofun nofun

theorem Escapes.mono {wider : ε → Prop} {body : Except ε α}
    (weaker : ∀ raised, declared raised → wider raised) (escapes : Escapes wider body) :
    Escapes declared body := by
  obtain ⟨raised, same, undeclared⟩ := escapes
  exact ⟨raised, same, fun named => undeclared (weaker raised named)⟩

end NoKnowledge
