import Mathlib.Data.List.Induction
import NoKnowledge.Errors

/-!
# Gathering up to a number

Items are looked at one after another.  Each may add something to what was
found before it, and nothing is looked at any more once enough was found.
`gather` stops with the first item that raises; `found` is what is found when
none does.
-/

namespace NoKnowledge

section Gather

variable {ε α β : Type}

/-- Look at items until enough is found. -/
def gather (accept : List β → α → Except ε (Option β)) (enough : Nat)
    (found : List β) : List α → Except ε (List β)
  | [] => .ok found
  | item :: items =>
      if enough ≤ found.length then .ok found
      else do
        match ← accept found item with
        | none => gather accept enough found items
        | some new => gather accept enough (found ++ [new]) items

/-- What an item adds to what was found; an item that raises adds nothing. -/
def yield (accept : List β → α → Except ε (Option β)) (found : List β) (item : α) :
    List β :=
  match accept found item with
  | .ok (some new) => found ++ [new]
  | _ => found

/-- What all items add, however much it is. -/
def gatherAll (accept : List β → α → Except ε (Option β)) (found : List β)
    (items : List α) : List β :=
  items.foldl (yield accept) found

variable {accept : List β → α → Except ε (Option β)} {enough : Nat}

theorem gatherAll_cons (found : List β) (item : α) (items : List α) :
    gatherAll accept found (item :: items) =
      gatherAll accept (yield accept found item) items := rfl

theorem prefix_yield (found : List β) (item : α) : found <+: yield accept found item := by
  unfold yield
  split
  · exact List.prefix_append _ _
  · exact List.prefix_rfl

theorem prefix_gatherAll (found : List β) (items : List α) :
    found <+: gatherAll accept found items := by
  induction items generalizing found with
  | nil => exact List.prefix_rfl
  | cons item items induction =>
      exact (prefix_yield found item).trans (induction _)

theorem gather_of_enough {found : List β} (full : enough ≤ found.length)
    (items : List α) : gather accept enough found items = .ok found := by
  cases items with
  | nil => rfl
  | cons item items => rw [gather, if_pos full]

/-- Items are gathered in two parts as they are in one. -/
theorem gather_append (found : List β) (first second : List α) :
    gather accept enough found (first ++ second) =
      gather accept enough found first >>= fun middle =>
        gather accept enough middle second := by
  induction first generalizing found with
  | nil => rfl
  | cons item first induction =>
      by_cases full : enough ≤ found.length
      · rw [gather_of_enough full, gather_of_enough full, except_ok_bind,
          gather_of_enough full]
      · rw [List.cons_append, gather, gather, if_neg full, if_neg full]
        cases accept found item with
        | error raised => rfl
        | ok outcome =>
            cases outcome with
            | none => exact induction found
            | some new => exact induction (found ++ [new])

/-- A predicate holds of every item that is reached and of what was found before
it. -/
def Reached (accept : List β → α → Except ε (Option β)) (enough : Nat)
    (found : List β) (items : List α) (holds : List β → α → Prop) : Prop :=
  ∀ before item after, items = before ++ item :: after →
    (gatherAll accept found before).length < enough →
      holds (gatherAll accept found before) item

theorem reached_nil {found : List β} {holds : List β → α → Prop} :
    Reached accept enough found [] holds := by
  intro before item after split
  exact absurd split.symm (List.append_ne_nil_of_right_ne_nil _ (List.cons_ne_nil _ _))

theorem reached_of_enough {found : List β} {items : List α} {holds : List β → α → Prop}
    (full : enough ≤ found.length) : Reached accept enough found items holds := by
  intro before item after _ short
  have longer := (@prefix_gatherAll _ _ _ accept found before).length_le
  exact absurd (full.trans longer) (Nat.not_le.mpr short)

theorem reached_cons {found : List β} {item : α} {items : List α}
    {holds : List β → α → Prop} :
    Reached accept enough found (item :: items) holds ↔
      (found.length < enough → holds found item) ∧
        Reached accept enough (yield accept found item) items holds := by
  constructor
  · intro reached
    refine ⟨fun short => reached [] item items rfl short, ?_⟩
    intro before other after split short
    exact reached (item :: before) other after (by rw [split]; rfl) short
  · rintro ⟨here, later⟩ before other after split short
    cases before with
    | nil =>
        cases split
        exact here short
    | cons first before =>
        obtain ⟨rfl, rest⟩ := List.cons.inj split
        exact later before other after rest short

/-- Gathering returns exactly when every item that is reached does, and finds
the first of what there is to be found. -/
theorem gather_eq_ok_iff {found result : List β} {items : List α}
    (room : found.length ≤ enough) :
    gather accept enough found items = .ok result ↔
      Reached accept enough found items
          (fun middle item => ∃ outcome, accept middle item = .ok outcome) ∧
        result = (gatherAll accept found items).take enough := by
  induction items generalizing found with
  | nil =>
      rw [gather, gatherAll, List.foldl_nil, List.take_of_length_le room]
      constructor
      · intro same
        cases same
        exact ⟨reached_nil, rfl⟩
      · rintro ⟨-, rfl⟩
        rfl
  | cons item items induction =>
      by_cases full : enough ≤ found.length
      · obtain ⟨more, extended⟩ :=
          @prefix_gatherAll _ _ _ accept found (item :: items)
        rw [gather_of_enough full, ← extended, List.take_left' (Nat.le_antisymm room full)]
        constructor
        · intro same
          cases same
          exact ⟨reached_of_enough full, rfl⟩
        · rintro ⟨-, rfl⟩
          rfl
      · have short := Nat.not_le.mp full
        rw [reached_cons, gatherAll_cons, gather, if_neg full]
        cases accepted : accept found item with
        | error raised =>
            constructor
            · intro same
              cases same
            · rintro ⟨⟨here, -⟩, -⟩
              obtain ⟨outcome, same⟩ := here short
              cases same
        | ok outcome =>
            rw [except_ok_bind]
            cases outcome with
            | none =>
                have same : yield accept found item = found := by rw [yield, accepted]
                rw [same]
                exact ⟨fun gathered => ⟨⟨fun _ => ⟨_, rfl⟩, ((induction room).mp gathered).1⟩,
                    ((induction room).mp gathered).2⟩,
                  fun gathered => (induction room).mpr ⟨gathered.1.2, gathered.2⟩⟩
            | some new =>
                have same : yield accept found item = found ++ [new] := by
                  rw [yield, accepted]
                have roomy : (found ++ [new]).length ≤ enough := by
                  rw [List.length_append]
                  exact short
                rw [same]
                exact ⟨fun gathered => ⟨⟨fun _ => ⟨_, rfl⟩, ((induction roomy).mp gathered).1⟩,
                    ((induction roomy).mp gathered).2⟩,
                  fun gathered => (induction roomy).mpr ⟨gathered.1.2, gathered.2⟩⟩

theorem gather_returns_iff {found : List β} {items : List α} :
    (∃ result, gather accept enough found items = .ok result) ↔
      Reached accept enough found items
        fun middle item => ∃ outcome, accept middle item = .ok outcome := by
  by_cases full : enough ≤ found.length
  · exact ⟨fun _ => reached_of_enough full, fun _ => ⟨found, gather_of_enough full items⟩⟩
  · have room := (Nat.not_le.mp full).le
    constructor
    · rintro ⟨result, gathered⟩
      exact ((gather_eq_ok_iff room).mp gathered).1
    · intro reached
      exact ⟨_, (gather_eq_ok_iff room).mpr ⟨reached, rfl⟩⟩

theorem reached_congr {found : List β} {items : List α} {holds holds' : List β → α → Prop}
    (same : ∀ middle item, holds middle item ↔ holds' middle item) :
    Reached accept enough found items holds ↔ Reached accept enough found items holds' := by
  have equal : holds = holds' := funext fun middle => funext fun item =>
    propext (same middle item)
  rw [equal]

/-- What is gathered fulfils what every item keeps. -/
theorem gatherAll_keeps {holds : List β → Prop} {found : List β} {items : List α}
    (initially : holds found)
    (kept : ∀ middle item new, holds middle → accept middle item = .ok (some new) →
      holds (middle ++ [new])) :
    holds (gatherAll accept found items) := by
  induction items generalizing found with
  | nil => exact initially
  | cons item items induction =>
      apply induction
      unfold yield
      split
      · rename_i new accepted
        exact kept found item new initially accepted
      · exact initially

end Gather

end NoKnowledge
