import Mathlib.Algebra.Order.Group.Defs
import Mathlib.Data.List.TakeWhile

/-!
# Sliding windows

A queue of admitted times that is pruned from the front, against the count of
admitted times in the window.  Times come in order; the queue then is the end of the
admitted times that starts where the window starts.
-/

namespace NoKnowledge.SlidingWindow

variable {τ : Type} [LinearOrder τ]

/-- The times of a closed interval. -/
def within (first last : τ) (times : List τ) : List τ :=
  times.filter fun time => first ≤ time ∧ time ≤ last

/-- Drop what is older than the window from the front. -/
def prune (start : τ) (queue : List τ) : List τ :=
  queue.dropWhile fun time => time < start

theorem within_append (first last : τ) (left right : List τ) :
    within first last (left ++ right) = within first last left ++ within first last right :=
  List.filter_append ..

/-- An interval that reaches all that another reaches counts no fewer. -/
theorem length_within_mono {first last first' last' : τ} {times : List τ}
    (reaches : ∀ time ∈ times, first ≤ time ∧ time ≤ last → first' ≤ time ∧ time ≤ last') :
    (within first last times).length ≤ (within first' last' times).length := by
  unfold within
  rw [← List.countP_eq_length_filter, ← List.countP_eq_length_filter]
  apply List.countP_mono_left
  intro time member inside
  simpa using reaches time member (by simpa using inside)

/-- Pruning a sorted queue leaves what is not older. -/
theorem prune_eq_filter {start : τ} {queue : List τ} (sorted : queue.Pairwise (· ≤ ·)) :
    prune start queue = queue.filter fun time => start ≤ time := by
  unfold prune
  induction queue with
  | nil => rfl
  | cons time queue induction =>
      rw [List.pairwise_cons] at sorted
      by_cases older : time < start
      · rw [List.dropWhile_cons_of_pos (by simpa using older), induction sorted.2,
          List.filter_cons_of_neg (by simpa using older)]
      · rw [List.dropWhile_cons_of_neg (by simpa using older)]
        have all : ∀ other ∈ time :: queue, decide (start ≤ other) = true := by
          intro other member
          rw [decide_eq_true_eq]
          rcases List.mem_cons.mp member with rfl | later
          · exact not_lt.mp older
          · exact (not_lt.mp older).trans (sorted.1 other later)
        rw [List.filter_eq_self.mpr all]

/-- A queue that tracks the admitted times: what it lacks is older than the window of
the last look at it. -/
structure Tracks (start now : τ) (queue admitted : List τ) : Prop where
  sorted : admitted.Pairwise (· ≤ ·)
  past : ∀ time ∈ admitted, time ≤ now
  missing : ∃ dropped, admitted = dropped ++ queue ∧ ∀ time ∈ dropped, time < start

theorem Tracks.initial (start now : τ) : Tracks start now [] [] where
  sorted := List.Pairwise.nil
  past := by simp
  missing := ⟨[], rfl, by simp⟩

variable {start now start' now' : τ} {queue admitted : List τ}

/-- Time passes. -/
theorem Tracks.later (tracks : Tracks start now queue admitted) (started : start ≤ start')
    (passed : now ≤ now') : Tracks start' now' queue admitted where
  sorted := tracks.sorted
  past := fun time member => (tracks.past time member).trans passed
  missing := by
    obtain ⟨dropped, same, older⟩ := tracks.missing
    exact ⟨dropped, same, fun time member => (older time member).trans_le started⟩

/-- The pruned queue holds the admitted times of the window. -/
theorem Tracks.pruned (tracks : Tracks start now queue admitted) :
    prune start queue = within start now admitted := by
  obtain ⟨dropped, same, older⟩ := tracks.missing
  have sorted := tracks.sorted
  have past := tracks.past
  subst same
  have nothing : within start now dropped = [] := by
    apply List.filter_eq_nil_iff.mpr
    intro time member inside
    exact absurd (of_decide_eq_true inside).1 (not_le.mpr (older time member))
  rw [within_append, nothing, List.nil_append,
    prune_eq_filter (List.pairwise_append.mp sorted).2.1]
  apply List.filter_congr
  intro time member
  have reached := past time (List.mem_append_right _ member)
  simp [reached]

theorem Tracks.prune (tracks : Tracks start now queue admitted) :
    Tracks start now (prune start queue) admitted where
  sorted := tracks.sorted
  past := tracks.past
  missing := by
    obtain ⟨dropped, same, older⟩ := tracks.missing
    refine ⟨dropped ++ queue.takeWhile (fun time => time < start), ?_, ?_⟩
    · rw [List.append_assoc, SlidingWindow.prune, List.takeWhile_append_dropWhile, same]
    · intro time member
      rcases List.mem_append.mp member with first | last
      · exact older time first
      · simpa using List.mem_takeWhile_imp last

theorem Tracks.admit (tracks : Tracks start now queue admitted) :
    Tracks start now (queue ++ [now]) (admitted ++ [now]) where
  sorted := by
    refine List.pairwise_append.mpr ⟨tracks.sorted, List.pairwise_singleton _ _, ?_⟩
    intro time member other last
    rw [List.mem_singleton.mp last]
    exact tracks.past time member
  past := by
    intro time member
    rcases List.mem_append.mp member with earlier | last
    · exact tracks.past time earlier
    · rw [List.mem_singleton.mp last]
  missing := by
    obtain ⟨dropped, same, older⟩ := tracks.missing
    exact ⟨dropped, by rw [same, List.append_assoc], older⟩

end NoKnowledge.SlidingWindow
