import Mathlib.Algebra.Order.Group.Int
import Mathlib.Data.List.Induction
import NoKnowledge.Foundation.Bytes
import NoKnowledge.Foundation.Dict

/-!
# A set of relays as one mailbox

How the answers of several relays become one list of blobs, and which
sequence number each relay is told to forget.
-/

namespace NoKnowledge.Wire

structure FetchedMessage where
  relay : String
  seq : Int
  blob : Bytes
deriving DecidableEq, Repr

/-- What one relay returned: sequence numbers with their blobs. -/
abbrev Rows := List (Int × Bytes)

/-- The answers in the order of the relay set; a relay that failed to answer
contributes nothing. -/
def collect (urls : List String) (answers : Dict String Rows) : List FetchedMessage :=
  urls.flatMap fun url =>
    ((answers.get? url).getD []).map fun row =>
      { relay := url, seq := row.1, blob := row.2 }

/-- The acknowledgement each relay of the set is sent. -/
def acknowledgements (urls : List String) (cursors : Dict String Int) :
    List (String × Int) :=
  urls.filterMap fun url => (cursors.get? url).map fun upto => (url, upto)

/-- The highest sequence number seen so far, relay by relay. -/
def tally (maxSeq : Dict String Int) (item : FetchedMessage) : Dict String Int :=
  maxSeq.insert item.relay (max ((maxSeq.get? item.relay).getD 0) item.seq)

theorem mem_collect {urls : List String} {answers : Dict String Rows}
    {item : FetchedMessage} :
    item ∈ collect urls answers ↔
      item.relay ∈ urls ∧ ∃ rows, answers.get? item.relay = some rows ∧
        (item.seq, item.blob) ∈ rows := by
  constructor
  · intro member
    obtain ⟨url, known, found⟩ := List.mem_flatMap.mp member
    obtain ⟨row, rowMember, rfl⟩ := List.mem_map.mp found
    refine ⟨known, ?_⟩
    cases answered : answers.get? url with
    | none => simp [answered] at rowMember
    | some rows => exact ⟨rows, rfl, by simpa [answered] using rowMember⟩
  · rintro ⟨known, rows, answered, rowMember⟩
    refine List.mem_flatMap.mpr ⟨item.relay, known, ?_⟩
    refine List.mem_map.mpr ⟨(item.seq, item.blob), ?_, rfl⟩
    simpa [answered] using rowMember

theorem mem_acknowledgements {urls : List String} {cursors : Dict String Int}
    {url : String} {upto : Int} :
    (url, upto) ∈ acknowledgements urls cursors ↔
      url ∈ urls ∧ cursors.get? url = some upto := by
  simp [acknowledgements]

/-- A tallied number is a number that was seen, unless it is not positive. -/
theorem tally_attained (items : List FetchedMessage) {relay : String} {upto : Int}
    (tallied : (items.foldl tally Dict.empty).get? relay = some upto)
    (positive : 0 < upto) :
    ∃ item ∈ items, item.relay = relay ∧ item.seq = upto := by
  induction items using List.reverseRecOn generalizing upto with
  | nil => cases tallied
  | append_singleton items item induction =>
      rw [List.foldl_append, List.foldl_cons, List.foldl_nil, tally,
        Dict.get?_insert] at tallied
      by_cases same : relay = item.relay
      · rw [if_pos same] at tallied
        subst same
        rcases max_choice (((items.foldl tally Dict.empty).get? item.relay).getD 0)
          item.seq with older | newer
        · cases before : (items.foldl tally Dict.empty).get? item.relay with
          | none =>
              rw [older, before] at tallied
              cases tallied
              exact absurd positive (lt_irrefl 0)
          | some value =>
              rw [older, before] at tallied
              cases tallied
              obtain ⟨found, member, facts⟩ := induction before positive
              exact ⟨found, List.mem_append_left _ member, facts⟩
        · rw [newer] at tallied
          cases tallied
          exact ⟨item, by simp, rfl, rfl⟩
      · rw [if_neg same] at tallied
        obtain ⟨found, member, facts⟩ := induction tallied positive
        exact ⟨found, List.mem_append_left _ member, facts⟩

/-- What was seen is at most the tallied number. -/
theorem tally_bounds (items : List FetchedMessage) {item : FetchedMessage}
    (member : item ∈ items) :
    ∃ upto, (items.foldl tally Dict.empty).get? item.relay = some upto ∧
      item.seq ≤ upto := by
  induction items using List.reverseRecOn with
  | nil => cases member
  | append_singleton items last induction =>
      rw [List.foldl_append, List.foldl_cons, List.foldl_nil, tally, Dict.get?_insert]
      rcases List.mem_append.mp member with old | new
      · obtain ⟨upto, tallied, bounded⟩ := induction old
        by_cases same : item.relay = last.relay
        · rw [if_pos same, ← same, tallied]
          exact ⟨_, rfl, bounded.trans (le_max_left _ _)⟩
        · rw [if_neg same]
          exact ⟨upto, tallied, bounded⟩
      · rw [List.mem_singleton] at new
        rw [new, if_pos rfl]
        exact ⟨_, rfl, le_max_right _ _⟩

end NoKnowledge.Wire
