import NoKnowledge.Crypto.Suite

/-!
# A symbolic suite

Every operation writes down the term it stands for, with a tag in front.  Two
terms are equal only when they were built the same way, which is what the
idealised laws of `Suite` ask for.  The suite shows that these laws can hold
together and is the one concrete runs are evaluated with.
-/

namespace NoKnowledge

namespace Symbolic

def pair : Bytes → Bytes → Bytes
  | [], second => 0 :: second
  | byte :: first, second => 1 :: byte :: pair first second

def unpair : Bytes → Option (Bytes × Bytes)
  | 0 :: second => some ([], second)
  | 1 :: byte :: rest => (unpair rest).map fun parts => (byte :: parts.1, parts.2)
  | _ => none

@[simp] theorem unpair_pair (first second : Bytes) :
    unpair (pair first second) = some (first, second) := by
  induction first with
  | nil => rfl
  | cons byte first induction => simp [pair, unpair, induction]

@[simp] theorem pair_inj {first second first' second' : Bytes} :
    pair first second = pair first' second' ↔
      first = first' ∧ second = second' := by
  constructor
  · intro equality
    have parts := congrArg unpair equality
    simpa using parts
  · rintro ⟨rfl, rfl⟩
    rfl

def atMost : Bytes → Bytes → Bool
  | [], _ => true
  | _ :: _, [] => false
  | byte :: first, byte' :: second =>
      byte.toNat < byte'.toNat || byte == byte' && atMost first second

theorem atMost_total (first second : Bytes) :
    atMost first second = true ∨ atMost second first = true := by
  induction first generalizing second with
  | nil => simp [atMost]
  | cons byte first induction =>
      cases second with
      | nil => simp [atMost]
      | cons byte' second =>
          rcases Nat.lt_trichotomy byte.toNat byte'.toNat with less | same | more
          · simp [atMost, less]
          · have equal : byte = byte' := UInt8.toNat_inj.mp same
            simpa [atMost, equal] using induction second
          · simp [atMost, more]

theorem atMost_antisymm {first second : Bytes} (below : atMost first second = true)
    (above : atMost second first = true) : first = second := by
  induction first generalizing second with
  | nil =>
      cases second with
      | nil => rfl
      | cons byte' second => simp [atMost] at above
  | cons byte first induction =>
      cases second with
      | nil => simp [atMost] at below
      | cons byte' second =>
          simp only [atMost, Bool.or_eq_true, decide_eq_true_eq, Bool.and_eq_true,
            beq_iff_eq] at below above
          rcases below with less | ⟨rfl, below⟩
          · rcases above with more | ⟨rfl, _⟩
            · omega
            · omega
          · rcases above with more | ⟨_, above⟩
            · omega
            · rw [induction below above]

/-- The two-element multiset of a pair of byte strings, in order. -/
def unordered (first second : Bytes) : Bytes :=
  if atMost first second then pair first second else pair second first

theorem unordered_comm (first second : Bytes) :
    unordered first second = unordered second first := by
  unfold unordered
  by_cases below : atMost first second = true
  · by_cases above : atMost second first = true
    · rw [atMost_antisymm below above]
    · simp [below, above]
  · have above := (atMost_total first second).resolve_left below
    simp [below, above]

/-- With one member fixed, a pair of byte strings determines the other. -/
theorem unordered_cancel {shared first second : Bytes}
    (same : unordered shared first = unordered shared second) : first = second := by
  unfold unordered at same
  split at same
  · split at same
    · exact (pair_inj.mp same).2
    · obtain ⟨rfl, rfl⟩ := pair_inj.mp same
      rfl
  · split at same
    · obtain ⟨rfl, rfl⟩ := pair_inj.mp same
      rfl
    · exact (pair_inj.mp same).1

def exchange (private_ : Bytes) : Bytes → Option Bytes
  | 5 :: theirs => some (6 :: unordered private_ theirs)
  | _ => none

def aeadEncrypt (key nonce plaintext ad : Bytes) : Option Bytes :=
  some (7 :: pair key (pair nonce (pair ad plaintext)))

def aeadDecrypt (key nonce ciphertext ad : Bytes) : Option Bytes :=
  match ciphertext with
  | 7 :: body => do
      let (key', body) ← unpair body
      let (nonce', body) ← unpair body
      let (ad', plaintext) ← unpair body
      if key' = key ∧ nonce' = nonce ∧ ad' = ad then return plaintext else none
  | _ => none

def suite : Suite where
  hkdf := fun ikm salt info length =>
    10 :: pair ikm (pair salt (pair info (List.replicate length 0)))
  sha256 := fun message => 11 :: message
  kdfRk := fun rootKey dhOutput => (1 :: pair rootKey dhOutput, 2 :: pair rootKey dhOutput)
  kdfCk := fun chainKey => (3 :: chainKey, 4 :: chainKey)
  dhPublic := fun private_ => 5 :: private_
  exchange := exchange
  signingPublic := fun private_ => 9 :: private_
  sign := fun private_ message => 8 :: pair (9 :: private_) message
  verify := fun public_ signature message => signature == 8 :: pair public_ message
  aeadEncrypt := aeadEncrypt
  aeadDecrypt := aeadDecrypt

theorem suite_agrees : suite.Agrees fun _ => True := by
  intro mine theirs _ _
  exact ⟨6 :: unordered mine theirs, rfl, by
    rw [unordered_comm]
    rfl⟩

theorem aeadDecrypt_aeadEncrypt {key nonce plaintext ad ciphertext : Bytes}
    (encrypted : suite.aeadEncrypt key nonce plaintext ad = some ciphertext) :
    suite.aeadDecrypt key nonce ciphertext ad = some plaintext := by
  simp only [suite, aeadEncrypt, Option.some.injEq] at encrypted
  subst encrypted
  simp [suite, aeadDecrypt]

theorem suite_aeadCorrect : suite.AeadCorrect :=
  fun _ _ _ _ _ _ encrypted => aeadDecrypt_aeadEncrypt encrypted

/-- An opened ciphertext spells out its key, nonce, associated data and
plaintext. -/
theorem aeadDecrypt_eq_some {key nonce ciphertext ad plaintext : Bytes}
    (opened : suite.aeadDecrypt key nonce ciphertext ad = some plaintext) :
    ∃ body rest rest', ciphertext = 7 :: body ∧ unpair body = some (key, rest) ∧
      unpair rest = some (nonce, rest') ∧
      unpair rest' = some (ad, plaintext) := by
  simp only [suite, aeadDecrypt] at opened
  split at opened
  · rename_i body
    simp only [Option.bind_eq_bind, Option.bind_eq_some_iff, Prod.exists] at opened
    obtain ⟨key', rest, keyPart, nonce', rest', noncePart, ad', plaintext', adPart,
      checked⟩ := opened
    split at checked
    · rename_i same
      obtain ⟨rfl, rfl, rfl⟩ := same
      cases checked
      exact ⟨body, rest, rest', rfl, keyPart, noncePart, adPart⟩
    · cases checked
  · cases opened

theorem suite_aeadBinding : suite.AeadBinding := by
  intro key key' nonce nonce' ciphertext ad ad' plaintext plaintext' first second
  obtain ⟨body, rest, rest', rfl, keyPart, noncePart, adPart⟩ :=
    aeadDecrypt_eq_some first
  obtain ⟨_, _, _, shape, keyPart', noncePart', adPart'⟩ :=
    aeadDecrypt_eq_some second
  cases shape
  simp_all

theorem suite_kdfCollisionFree : suite.KdfCollisionFree where
  root equality := by
    simp only [suite, List.cons.injEq, true_and, pair_inj] at equality
    exact equality.1
  chain equality := by
    simp only [suite, List.cons.injEq, true_and, pair_inj] at equality
    exact equality.1
  message equality := by
    simpa [suite] using equality
  next equality := by
    simpa [suite] using equality
  start := by
    simp [suite]

end Symbolic

end NoKnowledge
