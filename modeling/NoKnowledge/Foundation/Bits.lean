import Mathlib.Data.List.Basic
import NoKnowledge.Foundation.Bytes

/-!
# Strings of bits

A number of a known width is a string of bits, the highest first.  Numbers that
are shifted together are strings one after the other, which is what a codec that
regroups bits keeps as it reads and writes.
-/

namespace NoKnowledge.Bits

/-- The lowest bits of a number, the highest of them first. -/
def ofNat : Nat → Nat → List Bool
  | 0, _ => []
  | width + 1, value => value.testBit width :: ofNat width value

/-- The number that bits spell. -/
def toNat : List Bool → Nat
  | [] => 0
  | bit :: bits => bit.toNat * 2 ^ bits.length + toNat bits

@[simp] theorem length_ofNat (width value : Nat) : (ofNat width value).length = width := by
  induction width with
  | zero => rfl
  | succ width induction => rw [ofNat, List.length_cons, induction]

theorem toNat_ofNat (width value : Nat) : toNat (ofNat width value) = value % 2 ^ width := by
  induction width with
  | zero => rw [ofNat, toNat, Nat.pow_zero, Nat.mod_one]
  | succ width induction =>
      rw [ofNat, toNat, length_ofNat, induction, Nat.toNat_testBit, Nat.mod_pow_succ,
        Nat.add_comm, Nat.mul_comm]

theorem ofNat_congr {width left right : Nat}
    (same : ∀ position < width, left.testBit position = right.testBit position) :
    ofNat width left = ofNat width right := by
  induction width with
  | zero => rfl
  | succ width induction =>
      rw [ofNat, ofNat, same width (Nat.lt_succ_self width),
        induction fun position below => same position (Nat.lt_succ_of_lt below)]

/-- Only the lowest bits are read. -/
theorem ofNat_mod (width value : Nat) : ofNat width (value % 2 ^ width) = ofNat width value := by
  apply ofNat_congr
  intro position below
  simp [below]

/-- High bits come before low ones. -/
theorem ofNat_add (high low value : Nat) :
    ofNat (high + low) value = ofNat high (value / 2 ^ low) ++ ofNat low value := by
  induction high with
  | zero => rw [Nat.zero_add, ofNat, List.nil_append]
  | succ high induction =>
      rw [Nat.succ_add, ofNat, ofNat, induction, Nat.testBit_div_two_pow, List.cons_append]

/-- A number is shifted in behind another. -/
theorem ofNat_shift {low value : Nat} (high shifted : Nat) (fits : value < 2 ^ low) :
    ofNat (high + low) (shifted * 2 ^ low + value) = ofNat high shifted ++ ofNat low value := by
  have upper : (shifted * 2 ^ low + value) / 2 ^ low = shifted := by
    rw [Nat.add_comm, Nat.add_mul_div_right _ _ (Nat.two_pow_pos low),
      Nat.div_eq_of_lt fits, Nat.zero_add]
  have lower : (shifted * 2 ^ low + value) % 2 ^ low = value := by
    rw [Nat.add_comm, Nat.add_mul_mod_self_right, Nat.mod_eq_of_lt fits]
  rw [ofNat_add, upper, ← ofNat_mod low (_ + value), lower]

theorem ofNat_zero (width : Nat) : ofNat width 0 = List.replicate width false := by
  induction width with
  | zero => rfl
  | succ width induction => rw [ofNat, induction, Nat.zero_testBit, List.replicate_succ]

/-- The bits of octets, one after the other. -/
def ofBytes (data : Bytes) : List Bool := data.flatMap fun byte => ofNat 8 byte.toNat

@[simp] theorem ofBytes_nil : ofBytes [] = [] := rfl

theorem ofBytes_cons (byte : UInt8) (data : Bytes) :
    ofBytes (byte :: data) = ofNat 8 byte.toNat ++ ofBytes data := by
  rw [ofBytes, List.flatMap_cons, ← ofBytes]

@[simp] theorem length_ofBytes (data : Bytes) : (ofBytes data).length = 8 * data.length := by
  rw [ofBytes, List.length_flatMap]
  simp [Nat.mul_comm]

theorem ofNat_byte_injective {left right : UInt8}
    (same : ofNat 8 left.toNat = ofNat 8 right.toNat) : left = right := by
  have numbers := congrArg toNat same
  rw [toNat_ofNat, toNat_ofNat, Nat.mod_eq_of_lt left.toNat_lt,
    Nat.mod_eq_of_lt right.toNat_lt] at numbers
  exact UInt8.toNat.inj numbers

theorem ofBytes_injective {left right : Bytes} (same : ofBytes left = ofBytes right) :
    left = right := by
  induction left generalizing right with
  | nil =>
      have empty := congrArg List.length same
      rw [length_ofBytes, length_ofBytes, List.length_nil] at empty
      exact (List.eq_nil_of_length_eq_zero (by omega)).symm
  | cons byte left induction =>
      cases right with
      | nil =>
          have empty := congrArg List.length same
          rw [length_ofBytes, length_ofBytes, List.length_cons, List.length_nil] at empty
          omega
      | cons other right =>
          have halves := List.append_inj same (by rw [length_ofNat, length_ofNat])
          rw [ofNat_byte_injective halves.1, induction halves.2]

/-- The group of an item among groups of one width. -/
theorem group_flatMap {α : Type} {spell : α → List Bool} {width : Nat}
    (uniform : ∀ item, (spell item).length = width) {items : List α} {index : Nat}
    (inside : index < items.length) :
    ((items.flatMap spell).drop (width * index)).take width = spell items[index] := by
  induction items generalizing index with
  | nil => exact absurd inside (Nat.not_lt_zero index)
  | cons item items induction =>
      rw [List.flatMap_cons]
      cases index with
      | zero =>
          rw [Nat.mul_zero, List.drop_zero, List.take_left' (uniform item)]
          rfl
      | succ index =>
          have further : width * (index + 1) = (spell item).length + width * index := by
            rw [uniform, Nat.mul_succ, Nat.add_comm]
          rw [further, List.drop_length_add_append, induction (Nat.lt_of_succ_lt_succ inside)]
          rfl

theorem length_flatMap_uniform {α : Type} {spell : α → List Bool} {width : Nat}
    (uniform : ∀ item, (spell item).length = width) (items : List α) :
    (items.flatMap spell).length = width * items.length := by
  rw [List.length_flatMap, List.map_congr_left fun item _ => uniform item, List.map_const',
    List.sum_replicate_nat, Nat.mul_comm]

/-- The first groups of one width. -/
theorem take_flatMap_uniform {α : Type} {spell : α → List Bool} {width : Nat}
    (uniform : ∀ item, (spell item).length = width) (items : List α) (count : Nat) :
    (items.flatMap spell).take (width * count) = (items.take count).flatMap spell := by
  induction items generalizing count with
  | nil => rw [List.take_nil, List.flatMap_nil, List.take_nil]
  | cons item items induction =>
      cases count with
      | zero => rfl
      | succ count =>
          have further : width * (count + 1) = (spell item).length + width * count := by
            rw [uniform, Nat.mul_succ, Nat.add_comm]
          rw [List.flatMap_cons, further, List.take_length_add_append, induction,
            List.take_succ_cons, List.flatMap_cons]

end NoKnowledge.Bits
