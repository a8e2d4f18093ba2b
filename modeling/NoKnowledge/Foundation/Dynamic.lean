import NoKnowledge.Foundation.JsonCodec

/-!
# Conversions of dynamically typed values

How a dynamically typed program uses a parsed JSON value of unknown shape:
its truth value, its conversion to an integer and to a text.  A conversion
that raises is `none`.
-/

namespace NoKnowledge

namespace Json

/-- The truth value of a dynamic value. -/
def truthy : Json → Bool
  | null => false
  | bool value => value
  | int value => value ≠ 0
  | float value => !value.isZero
  | str value => value ≠ ""
  | arr items => !items.isEmpty
  | obj fields => !fields.isEmpty

/-- `value or default`. -/
def orElse (value default : Json) : Json :=
  if value.truthy then value else default

def isBlank (character : Char) : Bool :=
  character = ' ' || (9 ≤ character.toNat && character.toNat ≤ 13) ||
    (28 ≤ character.toNat && character.toNat ≤ 31) ||
    (0x2000 ≤ character.toNat && character.toNat ≤ 0x200A) ||
    [0x85, 0xA0, 0x1680, 0x2028, 0x2029, 0x202F, 0x205F, 0x3000].contains
      character.toNat

/-- A text without its surrounding blanks. -/
def strip (text : List Char) : List Char :=
  ((text.dropWhile isBlank).reverse.dropWhile isBlank).reverse

/-- Digits with single underscores between them. -/
def digitGroups : List Char → Option (List Char)
  | [] => none
  | [digit] => if digit.isDigit then some [digit] else none
  | digit :: '_' :: rest =>
      if digit.isDigit then (digitGroups rest).map (digit :: ·) else none
  | digit :: rest =>
      if digit.isDigit then (digitGroups rest).map (digit :: ·) else none

/-- A decimal integer as the integer conversion of texts reads it. -/
def integerText (text : List Char) : Option Int :=
  match strip text with
  | '-' :: digits => (digitGroups digits).map fun digits =>
      -(Nat.ofDigitChars 10 digits 0 : Int)
  | '+' :: digits => (digitGroups digits).map fun digits =>
      (Nat.ofDigitChars 10 digits 0 : Int)
  | digits => (digitGroups digits).map fun digits =>
      (Nat.ofDigitChars 10 digits 0 : Int)

/-- Conversion to an integer. -/
def toInt? : Json → Option Int
  | bool value => some (if value then 1 else 0)
  | int value => some value
  | float value => value.truncate
  | str value => integerText value.toList
  | _ => none

/-- Equality with an integer, across the numeric types. -/
def equalsInt (value : Json) (expected : Int) : Bool :=
  match value with
  | bool flag => (if flag then 1 else 0) = expected
  | int value => value = expected
  | float value => value.truncate = some expected && value.isWhole
  | _ => false

/-- A text quoted the way containers show their members. -/
def quoted (text : String) : String :=
  let quote := if text.toList.contains '\'' && !text.toList.contains '"'
    then '"' else '\''
  String.ofList ([quote] ++ (text.toList.flatMap fun character =>
    if character = '\\' then ['\\', '\\']
    else if character = '\n' then ['\\', 'n']
    else if character = '\r' then ['\\', 'r']
    else if character = '\t' then ['\\', 't']
    else if character = quote then ['\\', character]
    else [character]) ++ [quote])

mutual

/-- The representation of a member of a container. -/
def shown : Json → String
  | null => "None"
  | bool true => "True"
  | bool false => "False"
  | int value => String.ofList (dumpInt value)
  | float value => String.ofList value.repr
  | str value => quoted value
  | arr items => "[" ++ ", ".intercalate (shownItems items) ++ "]"
  | obj fields => "\x7b" ++ ", ".intercalate (shownFields fields) ++ "\x7d"

def shownItems : List Json → List String
  | [] => []
  | item :: items => shown item :: shownItems items

def shownFields : List (String × Json) → List String
  | [] => []
  | (key, value) :: fields =>
      (quoted key ++ ": " ++ shown value) :: shownFields fields

end

/-- Conversion to a text; total. -/
def toText : Json → String
  | str value => value
  | other => shown other

/-- The integer a converted optional value stands for: `int(value or 0)`. -/
def toIntOrZero? (value : Json) : Option Int :=
  (value.orElse (int 0)).toInt?

@[simp] theorem toInt?_int (value : Int) : (int value).toInt? = some value := rfl

@[simp] theorem toText_str (value : String) : (str value).toText = value := rfl

@[simp] theorem truthy_null : null.truthy = false := rfl

@[simp] theorem truthy_bool (value : Bool) : (bool value).truthy = value := rfl

@[simp] theorem truthy_str (value : String) :
    (str value).truthy = decide (value ≠ "") := rfl

theorem orElse_str {text : String} (nonempty : text ≠ "") (other : Json) :
    (str text).orElse other = str text := by
  simp [orElse, nonempty]

theorem toIntOrZero?_int (value : Int) :
    toIntOrZero? (int value) = some value := by
  by_cases zero : value = 0 <;> simp [toIntOrZero?, orElse, truthy, zero]

end Json

end NoKnowledge
