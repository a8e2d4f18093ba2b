import Mathlib.Data.List.Induction

/-!
# Hash chains

A chain hashes a start and then one input after the other, each linked to the
digest before it.  Where no two of the messages that were hashed collide, a
digest determines its start and its inputs.
-/

namespace NoKnowledge

namespace HashChain

variable {σ β μ δ : Type} (hash : μ → δ) (start : σ → μ) (link : δ → β → μ)

/-- The digest of a start and the inputs after it. -/
def digest (origin : σ) (inputs : List β) : δ :=
  inputs.foldl (fun reached input => hash (link reached input)) (hash (start origin))

def linked : δ → List β → List μ
  | _, [] => []
  | reached, input :: rest =>
      link reached input :: linked (hash (link reached input)) rest

/-- Every message that is hashed on the way to a digest. -/
def messages (origin : σ) (inputs : List β) : List μ :=
  start origin :: linked hash link (hash (start origin)) inputs

variable {hash start link}

theorem digest_append_singleton (origin : σ) (inputs : List β) (input : β) :
    digest hash start link origin (inputs ++ [input]) =
      hash (link (digest hash start link origin inputs) input) := by
  rw [digest, List.foldl_append]
  rfl

theorem linked_append_singleton (reached : δ) (inputs : List β) (input : β) :
    linked hash link reached (inputs ++ [input]) = linked hash link reached inputs ++
      [link (inputs.foldl (fun reached input => hash (link reached input)) reached)
        input] := by
  induction inputs generalizing reached with
  | nil => rfl
  | cons first rest induction =>
      rw [List.cons_append, linked, induction]
      rfl

theorem messages_append_singleton (origin : σ) (inputs : List β) (input : β) :
    messages hash start link origin (inputs ++ [input]) =
      messages hash start link origin inputs ++
        [link (digest hash start link origin inputs) input] := by
  rw [messages, linked_append_singleton]
  rfl

/-- Digests are hashes. -/
theorem digest_mem_range (origin : σ) (inputs : List β) :
    ∃ message ∈ messages hash start link origin inputs,
      digest hash start link origin inputs = hash message := by
  induction inputs using List.reverseRecOn with
  | nil => exact ⟨start origin, List.mem_cons_self, rfl⟩
  | append_singleton inputs input _ =>
      rw [messages_append_singleton, digest_append_singleton]
      exact ⟨_, List.mem_append_right _ (List.mem_singleton_self _), rfl⟩

/-- What links and starts have to be for a chain to be read back: a link
determines the digest and the input it joins, and no start is a link. -/
structure Separated (hash : μ → δ) (start : σ → μ) (link : δ → β → μ)
    (Origin : σ → Prop) (Input : β → Prop) : Prop where
  start_injective : ∀ {first second}, start first = start second → first = second
  link_injective : ∀ {first second input input'}, Input input → Input input' →
    link (hash first) input = link (hash second) input' →
      hash first = hash second ∧ input = input'
  apart : ∀ {origin message input}, Origin origin → Input input →
    start origin ≠ link (hash message) input

variable {Origin : σ → Prop} {Input : β → Prop}

/-- A digest determines the chain it ends, unless two messages collide. -/
theorem digest_injective (separated : Separated hash start link Origin Input)
    {origin origin' : σ} (starts : Origin origin) (starts' : Origin origin')
    {inputs inputs' : List β} (valid : ∀ input ∈ inputs, Input input)
    (valid' : ∀ input ∈ inputs', Input input)
    (collisionFree : ∀ message ∈ messages hash start link origin inputs,
      ∀ message' ∈ messages hash start link origin' inputs',
        hash message = hash message' → message = message')
    (same : digest hash start link origin inputs = digest hash start link origin' inputs') :
    origin = origin' ∧ inputs = inputs' := by
  induction inputs using List.reverseRecOn generalizing inputs' with
  | nil =>
      cases inputs' using List.reverseRecOn with
      | nil =>
          have sameStart := collisionFree _ List.mem_cons_self _ List.mem_cons_self same
          exact ⟨separated.start_injective sameStart, rfl⟩
      | append_singleton inputs' input' =>
          rw [digest_append_singleton] at same
          rw [messages_append_singleton] at collisionFree
          have linked := collisionFree _ List.mem_cons_self _
            (List.mem_append_right _ (List.mem_singleton_self _)) same
          obtain ⟨message, -, reached⟩ :=
            @digest_mem_range _ _ _ _ hash start link origin' inputs'
          rw [reached] at linked
          exact (separated.apart starts (valid' _ (by simp)) linked).elim
  | append_singleton inputs input induction =>
      cases inputs' using List.reverseRecOn with
      | nil =>
          rw [digest_append_singleton] at same
          rw [messages_append_singleton] at collisionFree
          have linked := collisionFree _
            (List.mem_append_right _ (List.mem_singleton_self _)) _ List.mem_cons_self same
          obtain ⟨message, -, reached⟩ :=
            @digest_mem_range _ _ _ _ hash start link origin inputs
          rw [reached] at linked
          exact (separated.apart starts' (valid _ (by simp)) linked.symm).elim
      | append_singleton inputs' input' =>
          rw [digest_append_singleton, digest_append_singleton] at same
          rw [messages_append_singleton, messages_append_singleton] at collisionFree
          have linked := collisionFree _
            (List.mem_append_right _ (List.mem_singleton_self _)) _
            (List.mem_append_right _ (List.mem_singleton_self _)) same
          obtain ⟨message, -, reached⟩ :=
            @digest_mem_range _ _ _ _ hash start link origin inputs
          obtain ⟨message', -, reached'⟩ :=
            @digest_mem_range _ _ _ _ hash start link origin' inputs'
          rw [reached, reached'] at linked
          obtain ⟨sameDigest, rfl⟩ := separated.link_injective (valid _ (by simp))
            (valid' _ (by simp)) linked
          rw [← reached, ← reached'] at sameDigest
          obtain ⟨rfl, rfl⟩ := induction
            (fun input member => valid input (List.mem_append_left _ member))
            (fun input member => valid' input (List.mem_append_left _ member))
            (fun message member message' member' => collisionFree message
              (List.mem_append_left _ member) message' (List.mem_append_left _ member'))
            sameDigest
          exact ⟨rfl, rfl⟩

end HashChain

end NoKnowledge
