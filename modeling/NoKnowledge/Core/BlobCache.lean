import NoKnowledge.Core.Store
import NoKnowledge.Foundation.Eviction

/-!
# The attachment cache

Sealed chunks are cached until the cache is over its cap, and then the oldest
go first.  The loop that prunes keeps a running total and asks for the oldest
chunk again and again; over any run of calls at increasing times it gives up
the shortest prefix of the chunks in order of age.
-/

namespace NoKnowledge.BlobCache

open Eviction

/-- The chunks the cache holds. -/
abbrev Blobs := Table LocalBlob.chunkId

/-- The `size` column of a chunk. -/
def size (row : LocalBlob) : Nat := row.ciphertext.length

/-- The loop of a prune: what it counts, and what it leaves. -/
def evict (cap : Int) : Nat → Int → Nat → Blobs → Nat × Blobs
  | 0, _, dropped, blobs => (dropped, blobs)
  | fuel + 1, total, dropped, blobs =>
      if total ≤ cap then (dropped, blobs)
      else
        match Store.oldestBlob blobs with
        | none => (dropped, blobs)
        | some row =>
            evict cap fuel (total - size row) (dropped + 1)
              (blobs.filter fun other => other.chunkId ≠ row.chunkId)

/-- Every turn deletes a chunk, so there are no more turns than chunks. -/
def pruneLocalBlobs (cap : Int) (blobs : Blobs) : Nat × Blobs :=
  evict cap blobs.rows.length (Store.blobBytes blobs) 0 blobs

/-- `INSERT ... ON CONFLICT DO NOTHING`. -/
def insertLocalBlob (chunkId : String) (ciphertext : Bytes) (now : Int) (blobs : Blobs) :
    Blobs :=
  blobs.upsert ⟨chunkId, ciphertext, now⟩ Table.Change.none

def putLocalBlob (chunkId : String) (ciphertext : Bytes) (now : Int) (blobs : Blobs) :
    Blobs :=
  (pruneLocalBlobs Store.localBlobCapBytes (insertLocalBlob chunkId ciphertext now blobs)).2

section Store

variable {blobs : Blobs} {row : LocalBlob}

theorem blobBytes_eq_total (blobs : Blobs) :
    Store.blobBytes blobs = total size blobs.rows := rfl

theorem rows_filter (keep : LocalBlob → Bool) :
    (blobs.filter keep).rows = blobs.rows.filter keep := rfl

/-- The running total is the total of what is left. -/
theorem blobBytes_filter (member : row ∈ blobs) :
    (Store.blobBytes blobs : Int) - size row =
      Store.blobBytes (blobs.filter fun other => other.chunkId ≠ row.chunkId) := by
  have erased : blobs.rows.filter (fun other => other.chunkId ≠ row.chunkId) =
      blobs.rows.erase row := by
    rw [(List.Nodup.of_map _ blobs.distinct).erase_eq_filter]
    apply List.filter_congr
    intro other otherMember
    have same : other.chunkId = row.chunkId ↔ other = row :=
      ⟨Table.unique otherMember member, fun same => same ▸ rfl⟩
    rw [Bool.eq_iff_iff]
    simp [same]
  have permuted := (List.perm_cons_erase member).map size
  rw [blobBytes_eq_total, blobBytes_eq_total, rows_filter, erased, total, permuted.sum_nat,
    List.map_cons, List.sum_cons, total]
  omega

/-- The store asks for the total at every turn, which is the running total. -/
theorem pruneBlobs_eq (cap fuel dropped : Nat) (blobs : Blobs) :
    Store.pruneBlobs cap fuel blobs =
      (evict cap fuel (Store.blobBytes blobs) dropped blobs).2 := by
  induction fuel generalizing dropped blobs with
  | zero => rfl
  | succ fuel induction =>
      by_cases fits : Store.blobBytes blobs ≤ cap
      · rw [Store.pruneBlobs, evict, if_pos fits, if_pos (Int.ofNat_le.mpr fits)]
      · rw [Store.pruneBlobs, evict, if_neg fits, if_neg (fun le => fits (Int.ofNat_le.mp le))]
        cases oldest : Store.oldestBlob blobs with
        | none => rfl
        | some row =>
            have member : row ∈ blobs :=
              (List.mem_insertionSort _).mp (List.mem_of_head? oldest)
            dsimp only
            rw [blobBytes_filter member]
            exact induction (dropped + 1) _

theorem localBlobs_pruneLocalBlobs (cap : Nat) (store : Store) :
    ((Store.pruneLocalBlobs cap).after store).localBlobs =
      (pruneLocalBlobs cap store.localBlobs).2 :=
  pruneBlobs_eq cap _ 0 store.localBlobs

theorem localBlobs_putLocalBlob (chunkId : String) (ciphertext : Bytes) (now : Int)
    (store : Store) :
    ((Store.putLocalBlob chunkId ciphertext now).after store).localBlobs =
      putLocalBlob chunkId ciphertext now store.localBlobs :=
  localBlobs_pruneLocalBlobs Store.localBlobCapBytes
    { store with localBlobs := insertLocalBlob chunkId ciphertext now store.localBlobs }

/-- A cache within the cap is left alone. -/
theorem pruneLocalBlobs_of_le {cap : Int} (room : (Store.blobBytes blobs : Int) ≤ cap) :
    pruneLocalBlobs cap blobs = (0, blobs) := by
  unfold pruneLocalBlobs
  cases blobs.rows.length with
  | zero => rfl
  | succ fuel => exact if_pos room

end Store

/-- The chunks of a cache, the oldest first. -/
def oldestFirst (blobs : Blobs) : List LocalBlob :=
  blobs.rows.insertionSort fun left right => left.createdAt ≤ right.createdAt

/-- The rows stand in the order of their times, no two of which are equal. -/
def Ordered (blobs : Blobs) : Prop :=
  blobs.rows.Pairwise fun left right => left.createdAt < right.createdAt

variable {blobs : Blobs} {row : LocalBlob} {rest : List LocalBlob}

theorem Ordered.filter (ordered : Ordered blobs) (keep : LocalBlob → Bool) :
    Ordered (blobs.filter keep) :=
  List.Pairwise.filter keep ordered

theorem Ordered.oldestFirst (ordered : Ordered blobs) : oldestFirst blobs = blobs.rows :=
  List.Pairwise.insertionSort_eq (ordered.imp fun before => le_of_lt before)

theorem Ordered.oldestBlob (ordered : Ordered blobs) :
    Store.oldestBlob blobs = blobs.rows.head? := by
  rw [← ordered.oldestFirst]
  rfl

/-- Without its first chunk a cache is the rest of its rows. -/
theorem filter_first (first : blobs.rows = row :: rest) :
    (blobs.filter fun other => other.chunkId ≠ row.chunkId).rows = rest := by
  have distinct := blobs.distinct
  rw [first, List.map_cons, List.nodup_cons] at distinct
  have others : ∀ other ∈ rest, other.chunkId ≠ row.chunkId := by
    intro other member same
    exact distinct.1 (List.mem_map.mpr ⟨other, member, same⟩)
  have shorter : (row :: rest).filter (fun other => decide (other.chunkId ≠ row.chunkId)) =
      rest.filter fun other => decide (other.chunkId ≠ row.chunkId) :=
    List.filter_cons_of_neg (by simp)
  rw [rows_filter, first, shorter]
  exact List.filter_eq_self.mpr fun other member => by simpa using others other member

/-- The loop gives up as many of the first chunks as have to go. -/
theorem evict_spec (cap : Int) {chunks : List LocalBlob} {fuel : Nat} (dropped : Nat)
    (ordered : Ordered blobs) (rows : blobs.rows = chunks) (enough : chunks.length ≤ fuel) :
    (evict cap fuel (total size chunks) dropped blobs).1 =
        dropped + surplus size cap chunks ∧
      (evict cap fuel (total size chunks) dropped blobs).2.rows =
        chunks.drop (surplus size cap chunks) := by
  induction chunks generalizing blobs fuel dropped with
  | nil =>
      cases fuel with
      | zero => exact ⟨rfl, rows⟩
      | succ fuel =>
          have none : Store.oldestBlob blobs = none := by
            rw [ordered.oldestBlob, rows, List.head?_nil]
          rw [evict, none]
          split
          · exact ⟨rfl, rows⟩
          · exact ⟨rfl, rows⟩
  | cons row rest induction =>
      cases fuel with
      | zero => exact absurd enough (by simp)
      | succ fuel =>
          by_cases fits : (total size (row :: rest) : Int) ≤ cap
          · rw [evict, if_pos fits, surplus_of_le fits]
            exact ⟨rfl, rows⟩
          · have oldest : Store.oldestBlob blobs = some row := by
              rw [ordered.oldestBlob, rows, List.head?_cons]
            have running : (total size (row :: rest) : Int) - size row = total size rest := by
              rw [total_cons, Nat.cast_add]
              omega
            obtain ⟨counted, left⟩ := @induction _ fuel (dropped + 1) (ordered.filter _)
              (filter_first rows) (Nat.le_of_succ_le_succ enough)
            rw [evict, if_neg fits, oldest, surplus_of_lt (Int.not_le.mp fits)]
            dsimp only
            rw [running, counted, left, List.drop_succ_cons]
            exact ⟨by omega, rfl⟩

theorem pruneLocalBlobs_spec (ordered : Ordered blobs) (cap : Int) :
    (pruneLocalBlobs cap blobs).1 = surplus size cap blobs.rows ∧
      (pruneLocalBlobs cap blobs).2.rows = blobs.rows.drop (surplus size cap blobs.rows) := by
  have spec := evict_spec cap 0 ordered rfl le_rfl
  rwa [Nat.zero_add] at spec

theorem evict_sublist (cap : Int) (fuel : Nat) (running : Int) (dropped : Nat)
    (blobs : Blobs) : (evict cap fuel running dropped blobs).2.rows.Sublist blobs.rows := by
  induction fuel generalizing running dropped blobs with
  | zero => exact List.Sublist.refl _
  | succ fuel induction =>
      rw [evict]
      split
      · exact List.Sublist.refl _
      · split
        · exact List.Sublist.refl _
        · exact (induction _ _ _).trans List.filter_sublist

/-- A prune that removes exactly the shortest oldest-first prefix. -/
structure PrunesShortest (cap : Int) (found left : Blobs) (dropped : Nat) : Prop where
  shortest : Shortest size cap (oldestFirst found) dropped
  rest : oldestFirst left = (oldestFirst found).drop dropped

theorem Ordered.pruneLocalBlobs (ordered : Ordered blobs) (cap : Int) :
    Ordered (pruneLocalBlobs cap blobs).2 := by
  rw [Ordered, (pruneLocalBlobs_spec ordered cap).2]
  exact List.Pairwise.drop ordered

theorem Ordered.prunesShortest {cap : Int} (ordered : Ordered blobs) (possible : 0 ≤ cap) :
    PrunesShortest cap blobs (BlobCache.pruneLocalBlobs cap blobs).2
      (BlobCache.pruneLocalBlobs cap blobs).1 := by
  obtain ⟨counted, left⟩ := pruneLocalBlobs_spec ordered cap
  constructor
  · rw [ordered.oldestFirst, counted]
    exact shortest_surplus possible blobs.rows
  · rw [ordered.oldestFirst, (ordered.pruneLocalBlobs cap).oldestFirst, left, counted]

/-- A cap that no cache meets empties it. -/
theorem Ordered.empties {cap : Int} (ordered : Ordered blobs) (negative : cap < 0) :
    (BlobCache.pruneLocalBlobs cap blobs).2.rows = [] ∧
      (BlobCache.pruneLocalBlobs cap blobs).1 = blobs.rows.length := by
  obtain ⟨counted, left⟩ := pruneLocalBlobs_spec ordered cap
  have all : surplus size cap blobs.rows = blobs.rows.length :=
    surplus_of_neg negative blobs.rows
  rw [left, counted, all]
  exact ⟨List.drop_length, rfl⟩

theorem Ordered.blobBytes_le {cap : Int} (ordered : Ordered blobs) (possible : 0 ≤ cap) :
    (Store.blobBytes (BlobCache.pruneLocalBlobs cap blobs).2 : Int) ≤ cap := by
  rw [blobBytes_eq_total, (pruneLocalBlobs_spec ordered cap).2]
  exact (shortest_surplus possible blobs.rows).fits

/-- A call on the cache; a put is made at some time. -/
inductive Call where
  | put (chunkId : String) (ciphertext : Bytes) (now : Int)
  | prune (cap : Int)

namespace Call

def perform : Call → Blobs → Blobs
  | put chunkId ciphertext now, blobs => putLocalBlob chunkId ciphertext now blobs
  | prune cap, blobs => (pruneLocalBlobs cap blobs).2

/-- The cache as the prune of a call finds it. -/
def found : Call → Blobs → Blobs
  | put chunkId ciphertext now, blobs => insertLocalBlob chunkId ciphertext now blobs
  | prune _, blobs => blobs

/-- The cap of the prune of a call. -/
def cap : Call → Int
  | put _ _ _ => Store.localBlobCapBytes
  | prune cap => cap

/-- The time of a put. -/
def time? : Call → Option Int
  | put _ _ now => some now
  | prune _ => none

theorem perform_eq (call : Call) (blobs : Blobs) :
    call.perform blobs = (pruneLocalBlobs call.cap (call.found blobs)).2 := by
  cases call with
  | put chunkId ciphertext now => rfl
  | prune cap => rfl

end Call

/-- The cache after some calls, which start from an empty one. -/
def run (calls : List Call) : Blobs :=
  calls.foldl (fun blobs call => call.perform blobs) Table.empty

/-- Every put is made after the ones before it. -/
def Timed (calls : List Call) : Prop :=
  (calls.filterMap Call.time?).Pairwise fun earlier later => earlier < later

variable {calls before after : List Call} {call : Call}

theorem run_append_singleton (calls : List Call) (call : Call) :
    run (calls ++ [call]) = call.perform (run calls) := by
  rw [run, List.foldl_append, List.foldl_cons, List.foldl_nil, ← run]

theorem Timed.earlier (timed : Timed (before ++ after)) : Timed before := by
  rw [Timed, List.filterMap_append] at timed
  exact (List.pairwise_append.mp timed).1

/-- What a prune finds was there, or is put by the call. -/
theorem mem_found (member : row ∈ call.found blobs) :
    row ∈ blobs ∨ call = .put row.chunkId row.ciphertext row.createdAt ∧
      blobs.get? row.chunkId = none := by
  cases call with
  | prune cap => exact .inl member
  | put chunkId ciphertext now =>
      rcases Table.mem_upsert.mp member with ⟨absent, old | rfl⟩ | ⟨present, old, held, rfl⟩
      · exact .inl old
      · exact .inr ⟨rfl, absent⟩
      · left
        rw [Table.Change.at, Table.Change.none]
        dsimp only [id]
        rw [ite_self]
        exact held

theorem mem_found_of_mem_perform (member : row ∈ call.perform blobs) :
    row ∈ call.found blobs := by
  rw [Call.perform_eq] at member
  exact (evict_sublist _ _ _ _ _).subset member

/-- A chunk was put when it was not there, and has been there ever since. -/
theorem held_since_put (held : row ∈ run calls) :
    ∃ before after, calls =
        before ++ .put row.chunkId row.ciphertext row.createdAt :: after ∧
      (run before).get? row.chunkId = none ∧
      ∀ between, between <+: after → (run (before ++
        .put row.chunkId row.ciphertext row.createdAt :: between)).get? row.chunkId =
          some row := by
  induction calls using List.reverseRecOn with
  | nil => exact absurd held List.not_mem_nil
  | append_singleton calls call induction =>
      have present : (run (calls ++ [call])).get? row.chunkId = some row :=
        Table.get?_eq_some.mpr ⟨held, rfl⟩
      rw [run_append_singleton] at held
      rcases mem_found (mem_found_of_mem_perform held) with old | ⟨rfl, absent⟩
      · obtain ⟨before, after, rfl, absent, since⟩ := induction old
        refine ⟨before, after ++ [call], by simp, absent, ?_⟩
        intro between isPrefix
        rcases List.prefix_concat_iff.mp isPrefix with rfl | earlier
        · simpa using present
        · exact since between earlier
      · refine ⟨calls, [], rfl, absent, ?_⟩
        intro between isPrefix
        rw [List.prefix_nil.mp isPrefix]
        exact present

/-- The time of a chunk is the time of a put. -/
theorem time_of_mem_run (held : row ∈ run calls) :
    row.createdAt ∈ calls.filterMap Call.time? := by
  obtain ⟨before, after, rfl, -, -⟩ := held_since_put held
  simp [Call.time?]

/-- Rows are put after all the rows that are there, so they stand in order. -/
theorem ordered_found (timed : Timed (calls ++ [call])) (ordered : Ordered (run calls)) :
    Ordered (call.found (run calls)) := by
  cases call with
  | prune cap => exact ordered
  | put chunkId ciphertext now =>
      rw [Call.found, insertLocalBlob]
      cases present : (run calls).get? chunkId with
      | some old =>
          rw [Table.upsert_of_some present]
          have unchanged : ((run calls).update
              ((Table.Change.none : Table.Change LocalBlob.chunkId).at chunkId)).rows =
                (run calls).rows := by
            simp [Table.update, Table.Change.at, Table.Change.none]
          rw [Ordered, unchanged]
          exact ordered
      | none =>
          rw [Ordered, Table.upsert_of_none present, List.pairwise_append]
          refine ⟨ordered, List.pairwise_singleton _ _, ?_⟩
          intro old held new newMember
          rw [List.mem_singleton.mp newMember]
          rw [Timed, List.filterMap_append] at timed
          apply (List.pairwise_append.mp timed).2.2 old.createdAt (time_of_mem_run held)
          exact List.mem_singleton_self now

theorem ordered_run (timed : Timed calls) : Ordered (run calls) := by
  induction calls using List.reverseRecOn with
  | nil => exact List.Pairwise.nil
  | append_singleton calls call induction =>
      rw [run_append_singleton, Call.perform_eq]
      exact (ordered_found timed (induction timed.earlier)).pruneLocalBlobs call.cap

/-- What the prune of a call finds is in order. -/
theorem Timed.ordered_at (timed : Timed calls) (split : calls = before ++ call :: after) :
    Ordered (call.found (run before)) := by
  rw [split, List.append_cons] at timed
  exact ordered_found timed.earlier (ordered_run timed.earlier.earlier)

/-- The attachment cache stays within its cap, gives up its oldest chunks first
and no more of them than it has to, and answers with what was put first. -/
theorem bounded_oldest_first (timed : Timed calls) :
    (∀ before chunkId ciphertext now after,
      calls = before ++ .put chunkId ciphertext now :: after →
        Store.blobBytes (run (before ++ [.put chunkId ciphertext now])) ≤
          Store.localBlobCapBytes) ∧
    (∀ before call after, calls = before ++ call :: after →
      Ordered (call.found (run before)) ∧
      (0 ≤ call.cap →
        PrunesShortest call.cap (call.found (run before)) (run (before ++ [call]))
          (pruneLocalBlobs call.cap (call.found (run before))).1) ∧
      (call.cap < 0 → (run (before ++ [call])).rows = [] ∧
        (pruneLocalBlobs call.cap (call.found (run before))).1 =
          (call.found (run before)).rows.length)) ∧
    (∀ row ∈ run calls, ∃ before after,
      calls = before ++ .put row.chunkId row.ciphertext row.createdAt :: after ∧
      (run before).get? row.chunkId = none ∧
      ∀ between, between <+: after → (run (before ++
        .put row.chunkId row.ciphertext row.createdAt :: between)).get? row.chunkId =
          some row) := by
  refine ⟨?_, ?_, fun row held => held_since_put held⟩
  · intro before chunkId ciphertext now after split
    have ordered := timed.ordered_at split
    rw [run_append_singleton, Call.perform_eq]
    exact Int.ofNat_le.mp (ordered.blobBytes_le (Int.natCast_nonneg _))
  · intro before call after split
    have ordered := timed.ordered_at split
    rw [run_append_singleton, Call.perform_eq]
    exact ⟨ordered, ordered.prunesShortest, ordered.empties⟩

/-- Three chunks of two bytes each, one of them put twice. -/
def specimen : List Call :=
  [.put "chunk-0" [1, 1] 10, .put "chunk-1" [2, 2] 20, .put "chunk-0" [3, 3] 30,
    .put "chunk-2" [4, 4] 40]

theorem bounded_oldest_first_specimen :
    Timed (specimen ++ [.prune 3]) ∧
      PrunesShortest 3 (run specimen) (run (specimen ++ [.prune 3])) 2 ∧
      (run (specimen ++ [.prune 3])).rows = [⟨"chunk-2", [4, 4], 40⟩] := by
  have timed : Timed (specimen ++ [.prune 3]) := by
    rw [Timed]
    decide
  have pruned := (bounded_oldest_first timed).2.1 specimen (.prune 3) [] rfl
  have counted : (pruneLocalBlobs 3 (run specimen)).1 = 2 := by decide
  refine ⟨timed, ?_, by decide⟩
  rw [← counted]
  exact pruned.2.1 (by decide)

/-- Under a negative cap the chunk goes, but no prefix brings the total under it. -/
theorem negative_cap_is_not_met :
    ¬ (∃ dropped, PrunesShortest (-1) (run [.put "chunk-0" [1, 1] 10])
        (run [.put "chunk-0" [1, 1] 10, .prune (-1)]) dropped) ∧
      (run [.put "chunk-0" [1, 1] 10, .prune (-1)]).rows = [] := by
  refine ⟨?_, by decide⟩
  intro ⟨dropped, pruned⟩
  exact not_shortest_of_neg (by decide) _ dropped pruned.shortest

end NoKnowledge.BlobCache
