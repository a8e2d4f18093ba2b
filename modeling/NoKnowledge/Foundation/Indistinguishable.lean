import NoKnowledge.Foundation.Effect

/-!
# Runs from states that look alike

Two programs are related when runs of them from states that look alike end in
states that look alike, and either both raise the same or both return values
that match.  A program that is related to itself, with equal values, cannot
tell states apart that look alike.  `SameResult` is about two programs that end
with the same result from one state, whatever they do to it.
-/

namespace NoKnowledge

namespace Prog

variable {σ ε α β γ δ : Type}

/-- Results that match: the same exception, or values in a relation. -/
inductive Matches (values : α → β → Prop) : Except ε α → Except ε β → Prop where
  | ok {left : α} {right : β} (related : values left right) :
      Matches values (.ok left) (.ok right)
  | error (raised : ε) : Matches values (.error raised) (.error raised)

def Related (alike : σ → σ → Prop) (values : α → β → Prop) (left : Prog σ ε α)
    (right : Prog σ ε β) : Prop :=
  ∀ state state', alike state state' →
    Matches values (left.run state).1 (right.run state').1 ∧
      alike (left.after state) (right.after state')

/-- The program does not tell states apart. -/
abbrev Blind (alike : σ → σ → Prop) (program : Prog σ ε α) : Prop :=
  Related alike Eq program program

variable {alike : σ → σ → Prop} {values : α → β → Prop}

theorem related_pure {left : α} {right : β} (related : values left right) :
    Related alike values (pure left : Prog σ ε α) (pure right) :=
  fun _ _ same => ⟨.ok related, same⟩

theorem blind_pure (value : α) : Blind alike (pure value : Prog σ ε α) :=
  related_pure rfl

theorem related_throw (raised : ε) :
    Related alike values (throw raised : Prog σ ε α) (throw raised) :=
  fun _ _ same => ⟨.error raised, same⟩

theorem blind_lift (outcome : Except ε α) : Blind alike (lift outcome : Prog σ ε α) := by
  cases outcome with
  | ok value => exact blind_pure value
  | error raised => exact related_throw raised

/-- What looks the same in states that look alike can be asked. -/
theorem related_ask {left : σ → α} {right : σ → β}
    (related : ∀ state state', alike state state' → values (left state) (right state')) :
    Related alike values (do return left (← get) : Prog σ ε α) (do return right (← get)) :=
  fun state state' same => ⟨.ok (related state state' same), same⟩

theorem related_get : Related alike alike (get : Prog σ ε σ) get :=
  fun _ _ same => ⟨.ok same, same⟩

theorem related_set {state state' : σ} (same : alike state state') :
    Related alike Eq (set state : Prog σ ε PUnit) (set state') :=
  fun _ _ _ => ⟨.ok rfl, same⟩

theorem blind_modify {change : σ → σ}
    (respects : ∀ state state', alike state state' →
      alike (change state) (change state')) :
    Blind alike (modify change : Prog σ ε PUnit) :=
  fun state state' same => ⟨.ok rfl, respects state state' same⟩

theorem related_bind {results : γ → δ → Prop} {left : Prog σ ε α} {right : Prog σ ε β}
    {next : α → Prog σ ε γ} {next' : β → Prog σ ε δ}
    (first : Related alike values left right)
    (second : ∀ value value', values value value' →
      Related alike results (next value) (next' value')) :
    Related alike results (left >>= next) (right >>= next') := by
  intro state state' same
  obtain ⟨matched, sameAfter⟩ := first state state' same
  unfold after at sameAfter ⊢
  rw [run_bind, run_bind]
  rcases leftRun : left.run state with ⟨leftResult, leftFinal⟩
  rcases rightRun : right.run state' with ⟨rightResult, rightFinal⟩
  rw [leftRun, rightRun] at matched sameAfter
  cases matched with
  | ok related => exact second _ _ related leftFinal rightFinal sameAfter
  | error raised => exact ⟨.error raised, sameAfter⟩

theorem blind_bind {first : Prog σ ε α} {next : α → Prog σ ε γ}
    (firstBlind : Blind alike first) (nextBlind : ∀ value, Blind alike (next value)) :
    Blind alike (first >>= next) := by
  apply related_bind firstBlind
  rintro value _ rfl
  exact nextBlind value

theorem related_tryCatch {left : Prog σ ε α} {right : Prog σ ε β}
    {handler : ε → Prog σ ε α} {handler' : ε → Prog σ ε β}
    (body : Related alike values left right)
    (handlers : ∀ raised, Related alike values (handler raised) (handler' raised)) :
    Related alike values (tryCatch left handler) (tryCatch right handler') := by
  intro state state' same
  obtain ⟨matched, sameAfter⟩ := body state state' same
  unfold after at sameAfter ⊢
  rw [run_tryCatch, run_tryCatch]
  rcases leftRun : left.run state with ⟨leftResult, leftFinal⟩
  rcases rightRun : right.run state' with ⟨rightResult, rightFinal⟩
  rw [leftRun, rightRun] at matched sameAfter
  cases matched with
  | ok related => exact ⟨.ok related, sameAfter⟩
  | error raised => exact handlers raised leftFinal rightFinal sameAfter

theorem related_ite {condition : Prop} [Decidable condition] {yes no : Prog σ ε α}
    {yes' no' : Prog σ ε β} (yesRelated : condition → Related alike values yes yes')
    (noRelated : ¬ condition → Related alike values no no') :
    Related alike values (if condition then yes else no) (if condition then yes' else no') := by
  split
  · exact yesRelated ‹_›
  · exact noRelated ‹_›

theorem blind_ite {condition : Prop} [Decidable condition] {yes no : Prog σ ε α}
    (yesBlind : condition → Blind alike yes) (noBlind : ¬ condition → Blind alike no) :
    Blind alike (if condition then yes else no) :=
  related_ite yesBlind noBlind

theorem blind_forM {body : α → Prog σ ε PUnit} {items : List α}
    (bodyBlind : ∀ item ∈ items, Blind alike (body item)) :
    Blind alike (items.forM body) := by
  induction items with
  | nil => exact blind_pure _
  | cons item items induction =>
      exact blind_bind (bodyBlind item List.mem_cons_self) fun _ =>
        induction fun other member => bodyBlind other (List.mem_cons_of_mem _ member)

/-- The values and the states of two runs that cannot be told apart. -/
theorem Blind.same {program : Prog σ ε α} (blind : Blind alike program)
    {state state' : σ} (same : alike state state') :
    (program.run state).1 = (program.run state').1 ∧
      alike (program.after state) (program.after state') := by
  obtain ⟨matched, sameAfter⟩ := blind state state' same
  refine ⟨?_, sameAfter⟩
  cases leftResult : (program.run state).1 <;>
    cases rightResult : (program.run state').1 <;>
    rw [leftResult, rightResult] at matched <;> cases matched
  · rfl
  · exact congrArg Except.ok ‹_›

/-- From one state the programs end with the same result. -/
def SameResult (left right : Prog σ ε α) : Prop :=
  ∀ state, (left.run state).1 = (right.run state).1

theorem SameResult.after (first : Prog σ ε α) {left right : α → Prog σ ε β}
    (same : ∀ value, SameResult (left value) (right value)) :
    SameResult (first >>= left) (first >>= right) := by
  intro state
  rw [run_bind, run_bind]
  rcases first.run state with ⟨result, middle⟩
  cases result with
  | ok value => exact same value middle
  | error raised => rfl

/-- What comes after does not look at the state. -/
theorem SameResult.bind {left right : Prog σ ε α} {next : α → Prog σ ε β}
    (same : SameResult left right)
    (stateless : ∀ value state state',
      ((next value).run state).1 = ((next value).run state').1) :
    SameResult (left >>= next) (right >>= next) := by
  intro state
  have equal := same state
  rw [run_bind, run_bind]
  rcases leftRun : left.run state with ⟨result, middle⟩
  rcases rightRun : right.run state with ⟨result', middle'⟩
  rw [leftRun, rightRun] at equal
  cases equal
  cases result with
  | ok value => exact stateless value middle middle'
  | error raised => rfl

theorem SameResult.tryCatch {left right : Prog σ ε α} {as_ : ε → ε}
    (same : SameResult left right) :
    SameResult (tryCatch left fun raised => throw (as_ raised))
      (tryCatch right fun raised => throw (as_ raised)) := by
  intro state
  have equal := same state
  rw [run_tryCatch, run_tryCatch]
  rcases leftRun : left.run state with ⟨result, middle⟩
  rcases rightRun : right.run state with ⟨result', middle'⟩
  rw [leftRun, rightRun] at equal
  cases equal
  cases result <;> rfl

end Prog

end NoKnowledge
