import Mathlib.Data.List.DropRight
import Mathlib.Data.List.TakeWhile
import Mathlib.Data.Nat.Init
import Mathlib.Tactic.Ring

/-!
# Doubles and their decimal texts

A finite double is a whole number of units of 2 to the power -1074.  A decimal
literal denotes the double nearest to it, and a double is shown as the shortest
literal that denotes it.  `printed` is the other text in use, of a fixed number of
significant digits.
-/

namespace NoKnowledge

namespace Binary64

/-- Units in one, and in the least power of two beyond the doubles. -/
def unitBits : Nat := 1074

def limitBits : Nat := 1024 + unitBits

/-- Binary digits a significand has after its first. -/
def fractionBits : Nat := 52

/-- The distance of doubles next to a number of units. -/
def spacing (units : Nat) : Nat := 2 ^ (units.log2 - fractionBits)

/-- A quotient rounded to the nearest number, ties to the even one. -/
def nearest (numerator denominator : Nat) : Nat :=
  let quotient := numerator / denominator
  let twice := 2 * (numerator % denominator)
  if twice < denominator ∨ twice = denominator ∧ quotient % 2 = 0 then quotient
  else quotient + 1

/-- A quotient of units rounded to the nearest units with few enough binary digits. -/
def roundUnits (numerator denominator : Nat) : Nat :=
  let step := spacing (numerator / denominator)
  nearest numerator (denominator * step) * step

theorem nearest_mul {denominator : Nat} (positive : 0 < denominator) (quotient : Nat) :
    nearest (denominator * quotient) denominator = quotient := by
  simp [nearest, positive]

theorem nearest_le {numerator denominator bound : Nat}
    (below : numerator / denominator < bound) : nearest numerator denominator ≤ bound := by
  unfold nearest
  dsimp only
  split
  · exact below.le
  · exact below

theorem spacing_pos (units : Nat) : 0 < spacing units := Nat.two_pow_pos _

/-- Units that are a multiple of a power of two, 53 binary digits above it at most. -/
theorem spacing_dvd {quotient exponent : Nat}
    (small : quotient ≤ 2 ^ (fractionBits + 1)) :
    spacing (quotient * 2 ^ exponent) ∣ quotient * 2 ^ exponent := by
  rcases small.lt_or_eq with below | rfl
  · refine Dvd.dvd.mul_left (Nat.pow_dvd_pow 2 ?_) quotient
    rcases Nat.eq_zero_or_pos quotient with rfl | positive
    · simp
    · have bound : quotient * 2 ^ exponent < 2 ^ (fractionBits + 1 + exponent) := by
        rw [Nat.pow_add]
        exact Nat.mul_lt_mul_of_pos_right below (Nat.two_pow_pos _)
      have nonzero : quotient * 2 ^ exponent ≠ 0 :=
        (Nat.mul_pos positive (Nat.two_pow_pos _)).ne'
      have log := (Nat.log2_lt nonzero).mpr bound
      omega
  · rw [← Nat.pow_add]
    refine Nat.pow_dvd_pow 2 ?_
    rw [Nat.log2_two_pow]
    omega

theorem spacing_roundUnits (numerator denominator : Nat) :
    spacing (roundUnits numerator denominator) ∣ roundUnits numerator denominator := by
  refine spacing_dvd (nearest_le ?_)
  rw [← Nat.div_div_eq_div_mul, Nat.div_lt_iff_lt_mul (spacing_pos _), spacing, ← Nat.pow_add]
  refine Nat.lt_log2_self.trans_le (Nat.pow_le_pow_right Nat.two_pos ?_)
  omega

/-- Rounding what is a double already changes nothing. -/
theorem roundUnits_mul {units denominator : Nat} (precise : spacing units ∣ units)
    (positive : 0 < denominator) : roundUnits (denominator * units) denominator = units := by
  obtain ⟨quotient, split⟩ := precise
  have unchanged : denominator * units = denominator * spacing units * quotient := by
    rw [Nat.mul_assoc, ← split]
  rw [roundUnits, Nat.mul_div_cancel_left units positive, unchanged,
    nearest_mul (Nat.mul_pos positive (spacing_pos units)), Nat.mul_comm, ← split]

/-- The absolute value of a finite double. -/
structure Magnitude where
  units : Nat
  precise : spacing units ∣ units
  bounded : units < 2 ^ limitBits
deriving DecidableEq, Repr

/-- The magnitude nearest to a quotient, unless that is beyond all doubles. -/
def Magnitude.ofRatio (numerator denominator : Nat) : Option Magnitude :=
  let units := roundUnits (numerator * 2 ^ unitBits) denominator
  if bounded : units < 2 ^ limitBits then some ⟨units, spacing_roundUnits _ _, bounded⟩
  else none

theorem Magnitude.ofRatio_eq_some {magnitude : Magnitude} {numerator denominator : Nat}
    (positive : 0 < denominator)
    (exact : numerator * 2 ^ unitBits = denominator * magnitude.units) :
    Magnitude.ofRatio numerator denominator = some magnitude := by
  have rounded : roundUnits (numerator * 2 ^ unitBits) denominator = magnitude.units := by
    rw [exact, roundUnits_mul magnitude.precise positive]
  simp only [ofRatio, rounded, magnitude.bounded, dite_true]

end Binary64

open Binary64

inductive Binary64 where
  | nan
  | infinite (negative : Bool)
  | finite (negative : Bool) (magnitude : Magnitude)
deriving DecidableEq, Inhabited, Repr

namespace Binary64

/-- Decimal digits without a superfluous leading zero. -/
def isIntegerPart (digits : List Char) : Bool :=
  digits.all Char.isDigit && !digits.isEmpty &&
    (digits.head? ≠ some '0' || digits.length = 1)

def isExponent : List Char → Bool
  | [] => true
  | head :: rest =>
      (head = 'e' || head = 'E') &&
        (let digits := match rest with
          | '+' :: digits => digits
          | '-' :: digits => digits
          | digits => digits
        digits.all Char.isDigit && !digits.isEmpty)

/-- The unsigned part of a number literal. -/
def unsigned : List Char → List Char
  | '-' :: text => text
  | text => text

/-- A literal with a fraction or an exponent. -/
def isFloatLiteral (text : List Char) : Bool :=
  isIntegerPart ((unsigned text).takeWhile Char.isDigit) &&
    (match (unsigned text).dropWhile Char.isDigit with
    | [] => false
    | '.' :: fraction =>
        !(fraction.takeWhile Char.isDigit).isEmpty &&
          isExponent (fraction.dropWhile Char.isDigit)
    | exponent => isExponent exponent)

/-- A literal up to its exponent. -/
def mantissa (literal : List Char) : List Char :=
  literal.takeWhile fun character => character ≠ 'e' && character ≠ 'E'

/-- Mantissa digits, without sign and point, of a float literal. -/
def mantissaDigits (literal : List Char) : List Char := (mantissa literal).filter Char.isDigit

/-- Exponent of a float literal once the point is moved past the last digit. -/
def decimalExponent (literal : List Char) : Int :=
  let written := match literal.drop ((mantissa literal).length + 1) with
    | '-' :: digits => -(Nat.ofDigitChars 10 digits 0 : Int)
    | '+' :: digits => (Nat.ofDigitChars 10 digits 0 : Int)
    | digits => (Nat.ofDigitChars 10 digits 0 : Int)
  written - (((mantissa literal).dropWhile (· ≠ '.')).length - 1 : Nat)

/-- The double that a float literal denotes. -/
def ofLiteral (literal : List Char) : Binary64 :=
  let negative := literal.head? = some '-'
  let digits := Nat.ofDigitChars 10 (mantissaDigits literal) 0
  let exponent := decimalExponent literal
  (Magnitude.ofRatio (digits * 10 ^ exponent.toNat) (10 ^ (-exponent).toNat)).elim
    (infinite negative) (finite negative)

/-- The digits of a magnitude, all of them; its point stands before the last 1074. -/
@[irreducible] def Magnitude.significand (magnitude : Magnitude) : Nat :=
  5 ^ unitBits * magnitude.units

def signed : Bool → List Char → List Char
  | false, text => text
  | true, text => '-' :: text

/-- The literal with every digit of a magnitude. -/
def exactText (magnitude : Magnitude) : List Char :=
  Nat.toDigits 10 magnitude.significand ++ ['e', '-', '1', '0', '7', '4']

/-- An exponent with its sign and two digits at least. -/
def exponentText (exponent : Int) : List Char :=
  (if exponent < 0 then '-' else '+') ::
    (if exponent.natAbs < 10 then ['0'] else []) ++ Nat.toDigits 10 exponent.natAbs

/-- Digits with the decimal point after some of them, or as many zeros away.  Beyond
`limit` places, and below four zeros, an exponent takes their place. -/
def pointed (limit : Int) (always : Bool) (digits : List Char) (place : Int) : List Char :=
  if -4 < place ∧ place ≤ limit then
    let padded := List.replicate (1 - place).toNat '0' ++ digits ++
      List.replicate (place.toNat - digits.length) '0'
    let whole := if place ≤ 0 then 1 else place.toNat
    let fraction := padded.drop whole
    padded.take whole ++ '.' :: (if fraction.isEmpty then ['0'] else fraction)
  else
    digits.take 1 ++
      (if digits.length = 1 then if always then ['.', '0'] else []
      else '.' :: digits.drop 1) ++ 'e' :: exponentText (place - 1)

/-- A number of units of a power of ten, without the zeros at its end. -/
def decimal (limit : Int) (always : Bool) (number : Nat) (exponent : Int) : List Char :=
  let digits := Nat.toDigits 10 number
  pointed limit always (digits.rdropWhile (· = '0')) (digits.length + exponent)

/-- Both roundings of a number to its leading digits, the nearer one first. -/
def roundings (number dropped : Nat) : List Nat :=
  let down := number / 10 ^ dropped
  if 2 * (number % 10 ^ dropped) ≤ 10 ^ dropped then [down, down + 1] else [down + 1, down]

/-- Texts that may show a magnitude, shorter ones first. -/
def candidates (magnitude : Magnitude) : List (List Char) :=
  if magnitude.units = 0 then [['0', '.', '0']]
  else (List.range 17).flatMap fun short =>
    let dropped := (Nat.toDigits 10 magnitude.significand).length - (short + 1)
    (roundings magnitude.significand dropped).map fun number =>
      decimal 16 false number (dropped - unitBits)

/-- The text of a finite double.  Seventeen digits always identify it; the exact text
stands for the case that none of the candidates did. -/
def literal (negative : Bool) (magnitude : Magnitude) : List Char :=
  (((candidates magnitude).map (signed negative)).find? fun text =>
    isFloatLiteral text && ofLiteral text = finite negative magnitude).getD
      (signed negative (exactText magnitude))

/-- `repr(value)` -/
def repr : Binary64 → List Char
  | nan => ['n', 'a', 'n']
  | infinite negative => signed negative ['i', 'n', 'f']
  | finite negative magnitude => literal negative magnitude

/-- The text of a double in JSON. -/
def dump : Binary64 → List Char
  | nan => ['N', 'a', 'N']
  | infinite negative => signed negative ['I', 'n', 'f', 'i', 'n', 'i', 't', 'y']
  | finite negative magnitude => literal negative magnitude

/-- Fifteen significant digits of a magnitude, always with a point. -/
def printed (magnitude : Magnitude) : List Char :=
  if magnitude.units = 0 then ['0', '.', '0']
  else
    let dropped := (Nat.toDigits 10 magnitude.significand).length - 15
    let rounded := (2 * magnitude.significand + 10 ^ dropped) / (2 * 10 ^ dropped)
    decimal 15 true rounded (dropped - unitBits)

/-- A finite double cut towards zero. -/
def truncate : Binary64 → Option Int
  | finite negative magnitude =>
      let absolute := magnitude.units / 2 ^ unitBits
      some (if negative then -(absolute : Int) else absolute)
  | _ => none

/-- A finite double without a fraction. -/
def isWhole : Binary64 → Bool
  | finite _ magnitude => magnitude.units % 2 ^ unitBits = 0
  | _ => false

def isZero : Binary64 → Bool
  | finite _ magnitude => magnitude.units = 0
  | _ => false

theorem isDigit_of_mem_toDigits {value : Nat} {character : Char}
    (member : character ∈ Nat.toDigits 10 value) : character.isDigit = true :=
  Nat.isDigit_of_mem_toDigits (by decide) (by decide) member

theorem head_toDigits_ne_zero {value : Nat} (positive : 0 < value) :
    (Nat.toDigits 10 value).head? ≠ some '0' := by
  induction value using Nat.strongRecOn with
  | ind value induction =>
      by_cases small : value < 10
      · rw [Nat.toDigits_of_lt_base small]
        have digit : ∀ digit, digit < 10 → 0 < digit →
            Nat.digitChar digit ≠ '0' := by decide
        simpa using digit value small positive
      · rw [Nat.toDigits_of_base_le (by decide) (by omega)]
        have smaller := induction (value / 10) (by omega) (by omega)
        have nonempty : Nat.toDigits 10 (value / 10) ≠ [] := Nat.toDigits_ne_nil
        cases digits : Nat.toDigits 10 (value / 10) with
        | nil => exact (nonempty digits).elim
        | cons head tail => simpa [digits] using smaller

theorem isIntegerPart_toDigits (value : Nat) :
    isIntegerPart (Nat.toDigits 10 value) = true := by
  have digits : (Nat.toDigits 10 value).all Char.isDigit = true := by
    rw [List.all_eq_true]
    exact fun character member => isDigit_of_mem_toDigits member
  have nonempty : (Nat.toDigits 10 value).isEmpty = false := by
    simp
  rcases Nat.eq_zero_or_pos value with zero | positive
  · subst value
    decide
  · simp [isIntegerPart, digits, nonempty, head_toDigits_ne_zero positive]

private theorem span_digits (value : Nat) (rest : List Char) :
    (Nat.toDigits 10 value ++ 'e' :: rest).takeWhile Char.isDigit = Nat.toDigits 10 value ∧
      (Nat.toDigits 10 value ++ 'e' :: rest).dropWhile Char.isDigit = 'e' :: rest := by
  have digits : ∀ character ∈ Nat.toDigits 10 value, character.isDigit = true :=
    fun character member => isDigit_of_mem_toDigits member
  have stop : 'e'.isDigit = false := by decide
  rw [List.takeWhile_append_of_pos digits, List.dropWhile_append_of_pos digits]
  simp [stop]

theorem unsigned_of_ne {head : Char} (tail : List Char) (notMinus : head ≠ '-') :
    unsigned (head :: tail) = head :: tail := by
  unfold unsigned
  split
  · rename_i shape
    exact (notMinus (List.cons.inj shape).1).elim
  · rfl

private theorem unsigned_signed (negative : Bool) {head : Char} (tail : List Char)
    (digit : head.isDigit = true) : unsigned (signed negative (head :: tail)) = head :: tail := by
  cases negative with
  | true => rfl
  | false =>
      refine unsigned_of_ne tail ?_
      rintro rfl
      exact absurd digit (by decide)

theorem toDigits_eq_cons (value : Nat) :
    ∃ head tail, Nat.toDigits 10 value = head :: tail ∧ head.isDigit = true := by
  cases digits : Nat.toDigits 10 value with
  | nil => exact (Nat.toDigits_ne_nil digits).elim
  | cons head tail =>
      exact ⟨head, tail, rfl, @isDigit_of_mem_toDigits value _ (by simp [digits])⟩

private theorem isFloatLiteral_exactText (negative : Bool) (magnitude : Magnitude) :
    isFloatLiteral (signed negative (exactText magnitude)) = true := by
  obtain ⟨head, tail, digits, digit⟩ := toDigits_eq_cons magnitude.significand
  have text : exactText magnitude = head :: (tail ++ ['e', '-', '1', '0', '7', '4']) := by
    rw [exactText, digits, List.cons_append]
  have bare : unsigned (signed negative (exactText magnitude)) =
      Nat.toDigits 10 magnitude.significand ++ 'e' :: ['-', '1', '0', '7', '4'] := by
    rw [text, unsigned_signed negative _ digit, digits, List.cons_append]
  obtain ⟨taken, dropped⟩ := span_digits magnitude.significand ['-', '1', '0', '7', '4']
  rw [isFloatLiteral, bare, taken, dropped, isIntegerPart_toDigits]
  decide

private theorem mem_signed_toDigits {negative : Bool} {value : Nat} {character : Char}
    (member : character ∈ signed negative (Nat.toDigits 10 value)) :
    character = '-' ∨ character.isDigit = true := by
  cases negative with
  | true => exact (List.mem_cons.mp member).imp_right isDigit_of_mem_toDigits
  | false => exact .inr (isDigit_of_mem_toDigits member)

/-- No sign and no digit ends a mantissa. -/
private theorem mantissa_signed (negative : Bool) (value : Nat) (rest : List Char) :
    mantissa (signed negative (Nat.toDigits 10 value ++ 'e' :: rest)) =
      signed negative (Nat.toDigits 10 value) := by
  have passed : ∀ character ∈ signed negative (Nat.toDigits 10 value),
      (character ≠ 'e' && character ≠ 'E') = true := by
    intro character member
    rcases mem_signed_toDigits member with rfl | digit
    · decide
    · simp only [ne_eq, decide_not, Bool.and_eq_true, Bool.not_eq_eq_eq_not, Bool.not_true,
        decide_eq_false_iff_not]
      constructor <;> (rintro rfl; exact absurd digit (by decide))
  have split : signed negative (Nat.toDigits 10 value ++ 'e' :: rest) =
      signed negative (Nat.toDigits 10 value) ++ 'e' :: rest := by
    cases negative <;> rfl
  rw [split, mantissa, List.takeWhile_append_of_pos passed]
  simp

private theorem mantissaDigits_exactText (negative : Bool) (magnitude : Magnitude) :
    mantissaDigits (signed negative (exactText magnitude)) =
      Nat.toDigits 10 magnitude.significand := by
  rw [mantissaDigits, exactText, mantissa_signed]
  have digits : (Nat.toDigits 10 magnitude.significand).filter Char.isDigit =
      Nat.toDigits 10 magnitude.significand :=
    List.filter_eq_self.mpr fun character member => isDigit_of_mem_toDigits member
  cases negative with
  | true =>
      have minus : '-'.isDigit = false := by decide
      rw [signed, List.filter_cons_of_neg (by rw [minus]; exact Bool.false_ne_true), digits]
  | false => rw [signed, digits]

private theorem decimalExponent_exactText (negative : Bool) (magnitude : Magnitude) :
    decimalExponent (signed negative (exactText magnitude)) = -1074 := by
  have after : (signed negative (exactText magnitude)).drop
      ((signed negative (Nat.toDigits 10 magnitude.significand)).length + 1) =
        ['-', '1', '0', '7', '4'] := by
    cases negative <;> simp [signed, exactText, List.drop_append]
  have pointless : (signed negative (Nat.toDigits 10 magnitude.significand)).dropWhile
      (· ≠ '.') = [] := by
    rw [List.dropWhile_eq_nil_iff]
    intro character member
    rcases mem_signed_toDigits member with rfl | digit
    · decide
    · simp only [ne_eq, decide_not, Bool.not_eq_eq_eq_not, Bool.not_true,
        decide_eq_false_iff_not]
      rintro rfl
      exact absurd digit (by decide)
  rw [decimalExponent]
  have taken : mantissa (signed negative (exactText magnitude)) = _ :=
    mantissa_signed negative magnitude.significand _
  rw [taken, after, pointless]
  decide

theorem ofLiteral_eq_finite {literal : List Char} {digits : Nat} {exponent : Int}
    {magnitude : Magnitude} (digitsRead : Nat.ofDigitChars 10 (mantissaDigits literal) 0 = digits)
    (exponentRead : decimalExponent literal = exponent)
    (rounded : Magnitude.ofRatio (digits * 10 ^ exponent.toNat) (10 ^ (-exponent).toNat) =
      some magnitude) :
    ofLiteral literal = finite (literal.head? = some '-') magnitude := by
  unfold ofLiteral
  simp only [digitsRead, exponentRead]
  rw [rounded, Option.elim_some]

private theorem tens_eq (units places : Nat) :
    5 ^ places * units * 2 ^ places = 10 ^ places * units := by
  have tens : 10 ^ places = 5 ^ places * 2 ^ places := Nat.mul_pow 5 2 places
  rw [tens]
  ring

private theorem ofLiteral_exactText (negative : Bool) (magnitude : Magnitude) :
    ofLiteral (signed negative (exactText magnitude)) = finite negative magnitude := by
  have sign : decide ((signed negative (exactText magnitude)).head? = some '-') = negative := by
    cases negative with
    | true => rfl
    | false =>
        obtain ⟨head, tail, digits, digit⟩ := toDigits_eq_cons magnitude.significand
        rw [signed, exactText, digits]
        simp only [List.cons_append, List.head?_cons, Option.some.injEq, decide_eq_false_iff_not]
        rintro rfl
        exact absurd digit (by decide)
  have digits : Nat.ofDigitChars 10
      (mantissaDigits (signed negative (exactText magnitude))) 0 = magnitude.significand := by
    rw [mantissaDigits_exactText, Nat.ofDigitChars_ten_toDigits]
  have exact : magnitude.significand * 2 ^ unitBits = 10 ^ unitBits * magnitude.units := by
    rw [Magnitude.significand]
    exact tens_eq magnitude.units unitBits
  have zero : (-1074 : Int).toNat = 0 := rfl
  have all : (- -1074 : Int).toNat = unitBits := rfl
  rw [ofLiteral_eq_finite digits (decimalExponent_exactText negative magnitude), sign]
  rw [zero, all, Nat.pow_zero, Nat.mul_one]
  exact Magnitude.ofRatio_eq_some (Nat.pow_pos (by decide)) exact

/-- The text of a double is a literal that denotes it. -/
theorem literal_spec (negative : Bool) (magnitude : Magnitude) :
    isFloatLiteral (literal negative magnitude) = true ∧
      ofLiteral (literal negative magnitude) = finite negative magnitude := by
  rw [literal]
  cases found : ((candidates magnitude).map (signed negative)).find? fun text =>
      isFloatLiteral text && ofLiteral text = finite negative magnitude with
  | none =>
      exact ⟨isFloatLiteral_exactText negative magnitude, ofLiteral_exactText negative magnitude⟩
  | some text =>
      have suits := List.find?_some found
      rw [Bool.and_eq_true, decide_eq_true_eq] at suits
      exact suits

end Binary64

end NoKnowledge
