import Mathlib.Algebra.Order.Ring.Rat
import NoKnowledge.Foundation.SlidingWindow
import NoKnowledge.Server.Routes

/-!
# The rate limiter over a run of calls

The limiter prunes the queue of a key when the key is asked for, and records only what
it allows.  Over calls in the order of time it decides exactly as a count of the allowed
calls in the closed window does.
-/

namespace NoKnowledge.Server.RateLimit

open SlidingWindow

section Definitions

variable {τ : Type} [LinearOrder τ] [Sub τ]

/-- The limiter with times of any kind. -/
structure Limiter (τ : Type) where
  limit : Nat
  window : τ
  events : Dict String (List τ) := Dict.empty

def Limiter.eventsOf (limiter : Limiter τ) (key : String) : List τ :=
  (limiter.events.get? key).getD []

def Limiter.allow (limiter : Limiter τ) (key : String) (now : τ) : Bool × Limiter τ :=
  if limiter.limit = 0 then (true, limiter)
  else
    let events := prune (now - limiter.window) (limiter.eventsOf key)
    if limiter.limit ≤ events.length then
      (false, { limiter with events := limiter.events.insert key events })
    else
      (true, { limiter with events := limiter.events.insert key (events ++ [now]) })

structure Call (τ : Type) where
  key : String
  now : τ

/-- A call and what the limiter said to it. -/
structure Answer (τ : Type) extends Call τ where
  allowed : Bool

def step (state : Limiter τ × List (Answer τ)) (call : Call τ) :
    Limiter τ × List (Answer τ) :=
  let (allowed, limiter) := state.1.allow call.key call.now
  (limiter, state.2 ++ [{ call with allowed }])

def run (limiter : Limiter τ) (calls : List (Call τ)) : Limiter τ × List (Answer τ) :=
  calls.foldl step (limiter, [])

/-- The answers of a new limiter. -/
def answers (limit : Nat) (window : τ) (calls : List (Call τ)) : List (Answer τ) :=
  (run { limit, window } calls).2

/-- The times at which calls of a key were allowed. -/
def allowedTimes (key : String) (answered : List (Answer τ)) : List τ :=
  (answered.filter fun answer => answer.key = key && answer.allowed).map fun answer =>
    answer.now

end Definitions

/-- The relay's limiter is this one with microseconds. -/
theorem allow_microseconds (limiter : SlidingWindowLimiter) (key : String) (now : Int) :
    limiter.allow key now =
      let answer := (⟨limiter.limit, limiter.window, limiter.events⟩ : Limiter Int).allow key now
      (answer.1, ⟨answer.2.limit, answer.2.window, answer.2.events⟩) := by
  unfold SlidingWindowLimiter.allow Limiter.allow Limiter.eventsOf prune
  dsimp only
  split
  · rfl
  · split <;> rfl

section Steps

variable {τ : Type} [LinearOrder τ] [Sub τ] {limiter : Limiter τ} {limit : Nat} {window : τ}
  {calls : List (Call τ)}

theorem allow_limit (key : String) (now : τ) :
    (limiter.allow key now).2.limit = limiter.limit ∧
      (limiter.allow key now).2.window = limiter.window := by
  unfold Limiter.allow
  split
  · exact ⟨rfl, rfl⟩
  · dsimp only
    split <;> exact ⟨rfl, rfl⟩

theorem allow_answer (positive : 1 ≤ limiter.limit) (key : String) (now : τ) :
    (limiter.allow key now).1 = true ↔
      (prune (now - limiter.window) (limiter.eventsOf key)).length < limiter.limit := by
  have limited : ¬ limiter.limit = 0 := Nat.pos_iff_ne_zero.mp positive
  unfold Limiter.allow
  rw [if_neg limited]
  dsimp only
  split
  · rename_i full
    simp [Nat.not_lt.mpr full]
  · rename_i room
    simp [Nat.lt_of_not_le room]

/-- The queues after a call: that of its key, and the others as they were. -/
theorem eventsOf_allow (positive : 1 ≤ limiter.limit) (key other : String) (now : τ) :
    (limiter.allow key now).2.eventsOf other =
      if other = key then
        prune (now - limiter.window) (limiter.eventsOf key) ++
          if (limiter.allow key now).1 then [now] else []
      else limiter.eventsOf other := by
  have limited : ¬ limiter.limit = 0 := Nat.pos_iff_ne_zero.mp positive
  unfold Limiter.allow
  rw [if_neg limited]
  dsimp only
  by_cases same : other = key
  · subst same
    split <;> simp [Limiter.eventsOf]
  · split <;> simp [Limiter.eventsOf, same, Dict.get?_insert_of_ne]

theorem run_append_singleton (call : Call τ) :
    run limiter (calls ++ [call]) = step (run limiter calls) call := by
  rw [run, List.foldl_append]
  rfl

omit [LinearOrder τ] [Sub τ] in
theorem allowedTimes_append_singleton (key : String) (answered : List (Answer τ))
    (answer : Answer τ) :
    allowedTimes key (answered ++ [answer]) =
      allowedTimes key answered ++
        if answer.key = key ∧ answer.allowed = true then [answer.now] else [] := by
  unfold allowedTimes
  rw [List.filter_append, List.map_append, List.filter_singleton]
  congr 1
  by_cases counts : answer.key = key ∧ answer.allowed = true
  · simp [counts]
  · rw [if_neg counts]
    cases same : decide (answer.key = key) <;> cases allowed : answer.allowed <;>
      simp_all

/-- The queues hold the allowed times, up to those no later window reaches. -/
structure Invariant (limit : Nat) (window : τ) (calls : List (Call τ))
    (state : Limiter τ × List (Answer τ)) : Prop where
  limited : state.1.limit = limit
  windowed : state.1.window = window
  tracks : ∀ now, (∀ call ∈ calls, call.now ≤ now) → ∀ key,
    Tracks (now - window) now (state.1.eventsOf key) (allowedTimes key state.2)

theorem Invariant.initial : Invariant limit window [] ({ limit, window }, []) where
  limited := rfl
  windowed := rfl
  tracks := fun now _ _ => Tracks.initial _ now

/-- The answer to a call after calls in order. -/
theorem Invariant.answer {state : Limiter τ × List (Answer τ)} {call : Call τ}
    (invariant : Invariant limit window calls state) (positive : 1 ≤ limit)
    (ordered : ∀ earlier ∈ calls, earlier.now ≤ call.now) :
    (state.1.allow call.key call.now).1 = true ↔
      (within (call.now - window) call.now (allowedTimes call.key state.2)).length <
        limit := by
  have tracks := invariant.tracks call.now ordered call.key
  rw [allow_answer (invariant.limited.symm ▸ positive), invariant.windowed, tracks.pruned,
    invariant.limited]

/-- Calls in the order of time. -/
def Ordered {τ : Type} [LE τ] (calls : List (Call τ)) : Prop :=
  calls.Pairwise fun first second => first.now ≤ second.now

omit [Sub τ] in
theorem ordered_append_singleton {call : Call τ} (ordered : Ordered (calls ++ [call])) :
    Ordered calls ∧ ∀ earlier ∈ calls, earlier.now ≤ call.now := by
  obtain ⟨before, -, between⟩ := List.pairwise_append.mp ordered
  exact ⟨before, fun earlier member => between earlier member call (by simp)⟩

theorem answers_append_singleton (call : Call τ) :
    answers limit window (calls ++ [call]) = answers limit window calls ++
      [{ call with allowed := ((run { limit, window } calls).1.allow call.key call.now).1 }] := by
  rw [answers, run_append_singleton]
  rfl

/-- One answer to each call. -/
theorem toCall_answers : (answers limit window calls).map Answer.toCall = calls := by
  induction calls using List.reverseRecOn with
  | nil => rfl
  | append_singleton calls call induction =>
      rw [answers_append_singleton, List.map_append, induction]
      rfl

/-- The calls of one key, out of all. -/
def callsOf {τ : Type} (key : String) (calls : List (Call τ)) : List (Call τ) :=
  calls.filter fun call => call.key = key

/-- The answers to the calls of one key, out of all. -/
def answersOf {τ : Type} (key : String) (answered : List (Answer τ)) : List (Answer τ) :=
  answered.filter fun answer => answer.key = key

theorem limit_run : (run limiter calls).1.limit = limiter.limit ∧
    (run limiter calls).1.window = limiter.window := by
  induction calls using List.reverseRecOn with
  | nil => exact ⟨rfl, rfl⟩
  | append_singleton calls call induction =>
      rw [run_append_singleton]
      exact ⟨(allow_limit _ _).1.trans induction.1, (allow_limit _ _).2.trans induction.2⟩

/-- What is said to a key depends on the queue of that key. -/
theorem allow_congr {other : Limiter τ} {key : String} (limited : limiter.limit = other.limit)
    (windowed : limiter.window = other.window)
    (queued : limiter.eventsOf key = other.eventsOf key) (now : τ) :
    (limiter.allow key now).1 = (other.allow key now).1 := by
  unfold Limiter.allow
  rw [limited, windowed, queued]
  split
  · rfl
  · dsimp only
    split <;> rfl

/-- The queue of a key and the answers to its calls are those of a limiter that no other
key calls. -/
theorem run_callsOf (positive : 1 ≤ limit) (key : String) :
    (run { limit, window } calls).1.eventsOf key =
        (run { limit, window } (callsOf key calls)).1.eventsOf key ∧
      answersOf key (answers limit window calls) =
        answers limit window (callsOf key calls) := by
  induction calls using List.reverseRecOn with
  | nil => exact ⟨rfl, rfl⟩
  | append_singleton calls call induction =>
      have all : (run { limit, window } calls).1.limit = limit ∧
          (run { limit, window } calls).1.window = window :=
        limit_run
      have own : (run { limit, window } (callsOf key calls)).1.limit = limit ∧
          (run { limit, window } (callsOf key calls)).1.window = window :=
        limit_run
      have alone : callsOf key (calls ++ [call]) =
          callsOf key calls ++ if call.key = key then [call] else [] := by
        unfold callsOf
        rw [List.filter_append]
        by_cases same : call.key = key <;> simp [same]
      rw [answers_append_singleton, alone, run_append_singleton, answersOf,
        List.filter_append]
      by_cases same : call.key = key
      · have said := allow_congr (all.1.trans own.1.symm) (all.2.trans own.2.symm)
          induction.1 call.now
        subst same
        rw [if_pos rfl, run_append_singleton, answers_append_singleton, ← said]
        constructor
        · show (Limiter.allow _ _ _).2.eventsOf _ = (Limiter.allow _ _ _).2.eventsOf _
          rw [eventsOf_allow (all.1.symm ▸ positive), eventsOf_allow (own.1.symm ▸ positive),
            if_pos rfl, if_pos rfl, all.2, own.2, induction.1, said]
        · rw [← induction.2, answersOf]
          simp
      · rw [if_neg same, List.append_nil]
        constructor
        · show (Limiter.allow _ _ _).2.eventsOf _ = _
          rw [eventsOf_allow (all.1.symm ▸ positive), if_neg (Ne.symm same)]
          exact induction.1
        · rw [← induction.2, answersOf]
          simp [same]

end Steps

section Order

variable {τ : Type} [LinearOrder τ] [AddCommGroup τ] [IsOrderedAddMonoid τ]
  {limit : Nat} {window : τ} {calls : List (Call τ)}

theorem Invariant.step {state : Limiter τ × List (Answer τ)} {call : Call τ}
    (invariant : Invariant limit window calls state) (positive : 1 ≤ limit)
    (ordered : ∀ earlier ∈ calls, earlier.now ≤ call.now) :
    Invariant limit window (calls ++ [call]) (RateLimit.step state call) where
  limited := (allow_limit _ _).1.trans invariant.limited
  windowed := (allow_limit _ _).2.trans invariant.windowed
  tracks := by
    intro now reached key
    have passed : call.now ≤ now := reached call (by simp)
    have earlier : ∀ other ∈ calls, other.now ≤ now :=
      fun other member => reached other (List.mem_append_left _ member)
    show Tracks _ _ ((state.1.allow call.key call.now).2.eventsOf key)
      (allowedTimes key
        (state.2 ++ [{ call with allowed := (state.1.allow call.key call.now).1 }]))
    rw [eventsOf_allow (invariant.limited.symm ▸ positive), allowedTimes_append_singleton]
    by_cases same : key = call.key
    · subst same
      have tracks := (invariant.tracks call.now ordered call.key).prune
      rw [if_pos rfl, invariant.windowed]
      by_cases allowed : (state.1.allow call.key call.now).1 = true
      · rw [if_pos allowed, if_pos ⟨rfl, allowed⟩]
        exact tracks.admit.later (sub_le_sub_right passed window) passed
      · rw [if_neg allowed, if_neg fun counts => allowed counts.2, List.append_nil,
          List.append_nil]
        exact tracks.later (sub_le_sub_right passed window) passed
    · rw [if_neg same, if_neg fun counts => same counts.1.symm, List.append_nil]
      exact invariant.tracks now earlier key

theorem invariant_run (positive : 1 ≤ limit) (ordered : Ordered calls) :
    Invariant limit window calls (run { limit, window } calls) := by
  induction calls using List.reverseRecOn with
  | nil => exact Invariant.initial
  | append_singleton calls call induction =>
      obtain ⟨before, earlier⟩ := ordered_append_singleton ordered
      rw [run_append_singleton]
      exact (induction before).step positive earlier

/-- A call is allowed when the window that ends with it has room. -/
theorem allowed_iff (positive : 1 ≤ limit) (ordered : Ordered calls)
    {before after : List (Answer τ)} {answer : Answer τ}
    (split : answers limit window calls = before ++ answer :: after) :
    answer.allowed = true ↔
      (within (answer.now - window) answer.now (allowedTimes answer.key before)).length <
        limit := by
  induction calls using List.reverseRecOn generalizing after with
  | nil => exact absurd split.symm (by simp [answers, run])
  | append_singleton calls call induction =>
      obtain ⟨early, earlier⟩ := ordered_append_singleton ordered
      rw [answers_append_singleton] at split
      rcases List.eq_nil_or_concat after with rfl | ⟨middle, last, rfl⟩
      · obtain ⟨rfl, same⟩ := List.append_inj' split rfl
        obtain rfl := (List.cons.inj same).1
        exact (invariant_run positive early).answer positive earlier
      · rw [List.concat_eq_append, ← List.cons_append, ← List.append_assoc] at split
        exact induction early (List.append_inj' split rfl).1

/-- No closed interval as long as the window holds more than the limit. -/
theorem length_within_le (positive : 1 ≤ limit) (ordered : Ordered calls) (key : String)
    (first : τ) :
    (within first (first + window) (allowedTimes key (answers limit window calls))).length ≤
      limit := by
  induction calls using List.reverseRecOn with
  | nil => exact Nat.zero_le _
  | append_singleton calls call induction =>
      obtain ⟨early, earlier⟩ := ordered_append_singleton ordered
      have invariant : Invariant limit window calls (run { limit, window } calls) :=
        invariant_run positive early
      rw [answers_append_singleton, allowedTimes_append_singleton]
      split
      · rename_i counts
        obtain ⟨rfl, allowed⟩ := counts
        have room := (invariant.answer positive earlier).mp allowed
        have past := (invariant.tracks call.now earlier call.key).past
        rw [within_append, List.length_append]
        by_cases inside : first ≤ call.now ∧ call.now ≤ first + window
        · have fewer : (within first (first + window)
              (allowedTimes call.key (answers limit window calls))).length < limit := by
            refine lt_of_le_of_lt ?_ room
            apply length_within_mono
            intro time member time_inside
            exact ⟨(sub_le_iff_le_add.mpr inside.2).trans time_inside.1, past time member⟩
          exact (Nat.add_le_add_left (List.length_filter_le _ _) _).trans fewer
        · have outside : within first (first + window) [call.now] = [] := by
            simpa [within] using inside
          rw [outside, List.length_nil, Nat.add_zero]
          exact induction early
      · rw [List.append_nil]
        exact induction early

end Order

/-- The limiter is a sliding window: a call is allowed exactly when fewer than the limit
were allowed in the closed window before it, no closed interval of that length holds more
than the limit, and a key is answered as if no other were there. -/
theorem exact_sliding_window (limit : Nat) (window : ℚ) (calls : List (Call ℚ))
    (positive : 1 ≤ limit) (ordered : Ordered calls) :
    (answers limit window calls).map Answer.toCall = calls ∧
      (∀ before answer after, answers limit window calls = before ++ answer :: after →
        (answer.allowed = true ↔
          (within (answer.now - window) answer.now (allowedTimes answer.key before)).length <
            limit)) ∧
      (∀ key first, (within first (first + window)
        (allowedTimes key (answers limit window calls))).length ≤ limit) ∧
      ∀ key, answersOf key (answers limit window calls) =
        answers limit window (callsOf key calls) :=
  ⟨toCall_answers, fun _ _ _ split => allowed_iff positive ordered split,
    fun key first => length_within_le positive ordered key first,
    fun key => (run_callsOf positive key).2⟩

/-- Two calls exactly a window apart both count for the second. -/
theorem exact_sliding_window_boundary :
    (answers 1 (1 / 2 : ℚ) [⟨"a", 0⟩, ⟨"b", 0⟩, ⟨"a", 1 / 2⟩]).map (fun answer =>
        answer.allowed) = [true, true, false] ∧
      (within (0 : ℚ) (0 + 1 / 2) (allowedTimes "a"
        (answers 1 (1 / 2 : ℚ) [⟨"a", 0⟩, ⟨"b", 0⟩, ⟨"a", 1 / 2⟩]))).length ≤ 1 :=
  ⟨by decide +kernel,
    (exact_sliding_window 1 (1 / 2) [⟨"a", 0⟩, ⟨"b", 0⟩, ⟨"a", 1 / 2⟩] (le_refl 1)
      (by unfold Ordered; decide +kernel)).2.2.1 "a" 0⟩

end NoKnowledge.Server.RateLimit
