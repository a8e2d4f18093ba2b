import Mathlib.Data.List.Basic

/-!
# Numbered logs

An append-only log whose items are numbered from one, of which a prefix has
been acknowledged and is no longer held.  A page is a slice of the log without
a gap, so a reader that continues after the last number it saw collects the
log itself, item by item.
-/

namespace NoKnowledge

structure NumberedLog (α : Type) where
  /-- Every item ever appended, oldest first. -/
  history : List α
  /-- How many of them have been acknowledged. -/
  acknowledged : Nat
  within : acknowledged ≤ history.length

namespace NumberedLog

variable {α : Type}

def empty : NumberedLog α := ⟨[], 0, Nat.le_refl 0⟩

/-- The number the next item gets. -/
def next (log : NumberedLog α) : Nat := log.history.length + 1

def push (log : NumberedLog α) (item : α) : NumberedLog α where
  history := log.history ++ [item]
  acknowledged := log.acknowledged
  within := by
    rw [List.length_append]
    exact Nat.le_add_right_of_le log.within

/-- Acknowledge every item numbered up to `upto`. -/
def ack (log : NumberedLog α) (upto : Int) : NumberedLog α where
  history := log.history
  acknowledged := max log.acknowledged (min upto.toNat log.history.length)
  within := Nat.max_le.mpr ⟨log.within, Nat.min_le_right _ _⟩

/-- The items still held, with their numbers. -/
def held (log : NumberedLog α) : List (α × Nat) :=
  (log.history.zipIdx 1).drop log.acknowledged

/-- The items held whose numbers are above a bound. -/
def newer (log : NumberedLog α) (after : Int) : List (α × Nat) :=
  log.held.filter fun item => after < item.2

theorem drop_zipIdx (items : List α) (count start : Nat) :
    (items.zipIdx start).drop count = (items.drop count).zipIdx (start + count) := by
  induction items generalizing count start with
  | nil => simp
  | cons item items induction =>
      cases count with
      | zero => rfl
      | succ count =>
          rw [List.zipIdx_cons, List.drop_succ_cons, List.drop_succ_cons, induction,
            Nat.add_right_comm, Nat.add_assoc]

theorem take_zipIdx (items : List α) (count start : Nat) :
    (items.zipIdx start).take count = (items.take count).zipIdx start := by
  induction items generalizing count start with
  | nil => simp
  | cons item items induction =>
      cases count with
      | zero => rfl
      | succ count =>
          rw [List.zipIdx_cons, List.take_succ_cons, List.take_succ_cons, induction,
            List.zipIdx_cons]

/-- Asking for numbers above a bound drops a prefix. -/
theorem filter_zipIdx (items : List α) (start : Nat) (after : Int) :
    (items.zipIdx start).filter (fun item => after < item.2) =
      (items.zipIdx start).drop (after + 1 - start).toNat := by
  induction items generalizing start with
  | nil => simp
  | cons item items induction =>
      rw [List.zipIdx_cons]
      by_cases later : after < start
      · rw [List.filter_cons_of_pos (by simpa using later), induction]
        have all : (after + 1 - (start : Int)).toNat = 0 := by omega
        have rest : (after + 1 - ((start + 1 : Nat) : Int)).toNat = 0 := by omega
        rw [all, rest, List.drop_zero, List.drop_zero]
      · rw [List.filter_cons_of_neg (by simpa using later), induction]
        have one : (after + 1 - (start : Int)).toNat =
            (after + 1 - ((start + 1 : Nat) : Int)).toNat + 1 := by omega
        rw [one, List.drop_succ_cons]

theorem zipIdx_sorted (items : List α) (start : Nat) :
    (items.zipIdx start).Pairwise fun left right => left.2 < right.2 := by
  induction items generalizing start with
  | nil => exact List.Pairwise.nil
  | cons item items induction =>
      refine List.pairwise_cons.mpr ⟨?_, induction (start + 1)⟩
      intro other member
      exact List.le_snd_of_mem_zipIdx member

theorem held_eq (log : NumberedLog α) :
    log.held = (log.history.drop log.acknowledged).zipIdx (1 + log.acknowledged) :=
  drop_zipIdx _ _ _

@[simp] theorem held_empty : (empty : NumberedLog α).held = [] := rfl

theorem held_push (log : NumberedLog α) (item : α) :
    (log.push item).held = log.held ++ [(item, log.next)] := by
  have numbered : log.acknowledged ≤ (log.history.zipIdx 1).length := by
    rw [List.length_zipIdx]
    exact log.within
  unfold held push next
  rw [List.zipIdx_append, List.drop_append_of_le_length numbered]
  simp [Nat.add_comm]

/-- The items a page shows stand without a gap from the larger of the two
bounds on. -/
theorem newer_eq (log : NumberedLog α) (after : Int) :
    log.newer after =
      (log.history.drop (max log.acknowledged after.toNat)).zipIdx
        (1 + max log.acknowledged after.toNat) := by
  unfold newer
  rw [held_eq, filter_zipIdx, drop_zipIdx, List.drop_drop]
  have sum : log.acknowledged + (after + 1 - (1 + log.acknowledged : Nat)).toNat =
      max log.acknowledged after.toNat := by omega
  rw [Nat.add_assoc, sum]

theorem held_ack (log : NumberedLog α) (upto : Int) :
    (log.ack upto).held = log.newer upto := by
  rw [newer_eq, held_eq]
  by_cases inside : upto.toNat ≤ log.history.length
  · have same : (log.ack upto).acknowledged = max log.acknowledged upto.toNat := by
      simp only [ack, Nat.min_eq_left inside]
    rw [same]
    rfl
  · have all : (log.ack upto).acknowledged = log.history.length := by
      have within := log.within
      simp only [ack]
      omega
    have many : log.history.length ≤ max log.acknowledged upto.toNat := by omega
    rw [all, List.drop_eq_nil_of_le many]
    change (log.history.drop log.history.length).zipIdx _ = _
    rw [List.drop_length]
    rfl

theorem held_sorted (log : NumberedLog α) :
    log.held.Pairwise fun left right => left.2 < right.2 := by
  rw [held_eq]
  exact zipIdx_sorted _ _

theorem below_next {log : NumberedLog α} {item : α × Nat} (member : item ∈ log.held) :
    item.2 < log.next := by
  rw [held] at member
  have bound := List.snd_lt_of_mem_zipIdx (List.mem_of_mem_drop member)
  rw [next]
  exact bound

/-- Where a reader stands: the last number it saw, and the items it collected. -/
structure Reader (α : Type) where
  cursor : Nat
  collected : List α

namespace Reader

def start : Reader α := ⟨0, []⟩

/-- Take in one page. -/
def take (reader : Reader α) (page : List (α × Nat)) : Reader α where
  cursor := (page.getLast?.map Prod.snd).getD reader.cursor
  collected := reader.collected ++ page.map Prod.fst

/-- The reader has collected the log up to its cursor, and nothing beyond it
has been acknowledged. -/
structure Follows (reader : Reader α) (log : NumberedLog α) : Prop where
  acknowledged : log.acknowledged ≤ reader.cursor
  cursor : reader.cursor ≤ log.history.length
  collected : reader.collected = log.history.take reader.cursor

variable {reader : Reader α} {log : NumberedLog α}

theorem Follows.push (follows : reader.Follows log) (item : α) :
    reader.Follows (log.push item) where
  acknowledged := follows.acknowledged
  cursor := by
    have inside := follows.cursor
    simp only [NumberedLog.push, List.length_append]
    omega
  collected := by
    rw [follows.collected, NumberedLog.push, List.take_append_of_le_length follows.cursor]

theorem Follows.ack (follows : reader.Follows log) {upto : Int}
    (seen : upto ≤ reader.cursor) : reader.Follows (log.ack upto) where
  acknowledged := by
    have earlier := follows.acknowledged
    simp only [NumberedLog.ack]
    omega
  cursor := follows.cursor
  collected := follows.collected

/-- A page that continues at the cursor keeps the reader on the log. -/
theorem Follows.take (follows : reader.Follows log) (count : Nat) :
    (reader.take ((log.newer reader.cursor).take count)).Follows log ∧
      (reader.take ((log.newer reader.cursor).take count)).cursor =
        min (reader.cursor + count) log.history.length := by
  have inside := follows.cursor
  have earlier := follows.acknowledged
  have bound : max log.acknowledged (reader.cursor : Int).toNat = reader.cursor := by omega
  have page : (log.newer reader.cursor).take count =
      ((log.history.drop reader.cursor).take count).zipIdx (1 + reader.cursor) := by
    rw [newer_eq, bound, take_zipIdx]
  have cursor : (reader.take ((log.newer reader.cursor).take count)).cursor =
      min (reader.cursor + count) log.history.length := by
    rw [page]
    simp only [Reader.take, List.getLast?_zipIdx, Option.map_map, List.length_take,
      List.length_drop]
    cases last : ((log.history.drop reader.cursor).take count).getLast? with
    | none =>
        have none : ((log.history.drop reader.cursor).take count).length = 0 := by
          rw [List.getLast?_eq_none_iff.mp last]
          rfl
        rw [List.length_take, List.length_drop] at none
        simp only [Option.map_none, Option.getD_none]
        omega
    | some item =>
        have some : ((log.history.drop reader.cursor).take count).length ≠ 0 := by
          intro zero
          rw [List.length_eq_zero_iff.mp zero] at last
          cases last
        rw [List.length_take, List.length_drop] at some
        simp only [Option.map_some, Function.comp_apply, Option.getD_some]
        omega
  refine ⟨⟨?_, ?_, ?_⟩, cursor⟩
  · rw [cursor]
    omega
  · rw [cursor]
    exact Nat.min_le_right _ _
  · rw [cursor, page]
    simp only [Reader.take, List.zipIdx_map_fst]
    rw [follows.collected, ← List.take_add]
    by_cases few : reader.cursor + count ≤ log.history.length
    · rw [Nat.min_eq_left few]
    · have all : log.history.length ≤ reader.cursor + count := by omega
      rw [Nat.min_eq_right all, List.take_of_length_le all, List.take_length]

end Reader

end NumberedLog

end NoKnowledge
