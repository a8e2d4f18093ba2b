import NoKnowledge.Errors

/-!
# Values bound to SQL statements

What happens to a dynamically typed value on its way into a table: integers
have 64 bits, a value stored in (or compared with) a text column is converted
to text, and containers cannot be bound at all.
-/

namespace NoKnowledge.Sql

/-- The integers an integer column holds. -/
def fits (value : Int) : Bool := -2 ^ 63 ≤ value && value < 2 ^ 63

/-- Bind an integer parameter. -/
def integer (value : Int) : Except Raised Int :=
  if fits value then .ok value else .error { class_ := .overflow }

/-- A float in a text column: fifteen significant digits, and no sign of a zero. -/
def real : Binary64 → Option String
  | .nan => none
  | .infinite negative => some (String.ofList (Binary64.signed negative ['I', 'n', 'f']))
  | .finite negative magnitude =>
      some (String.ofList (Binary64.signed (negative && magnitude.units ≠ 0)
        (Binary64.printed magnitude)))

/-- Bind a parameter that a text column receives or is compared with; `none`
is NULL. -/
def text : Json → Except Raised (Option String)
  | .null => .ok none
  | .bool value => .ok (some (if value then "1" else "0"))
  | .int value => do
      let value ← integer value
      return some (String.ofList (Json.dumpInt value))
  | .float value => .ok (real value)
  | .str value => .ok (some value)
  | .arr _ | .obj _ => .error { class_ := .database }

theorem integer_eq_ok {value bound : Int} :
    integer value = .ok bound ↔ fits value = true ∧ value = bound := by
  unfold integer
  split <;> simp_all

@[simp] theorem text_str (value : String) : text (.str value) = .ok (some value) :=
  rfl

/-- Two characters a pattern does not tell apart. -/
def sameLetter (left right : Char) : Bool := left.toLower = right.toLower

/-- `text LIKE pattern` without an escape character. -/
def like : (pattern text : List Char) → Bool
  | [], text => text.isEmpty
  | '%' :: pattern, text => text.tails.any fun rest => like pattern rest
  | '_' :: pattern, text =>
      match text with
      | [] => false
      | _ :: rest => like pattern rest
  | letter :: pattern, text =>
      match text with
      | [] => false
      | head :: rest => sameLetter letter head && like pattern rest

/-- A pattern comparison reads a text up to its first NUL. -/
def cString (text : String) : List Char := text.toList.takeWhile (· ≠ '\x00')

/-- The longest pattern a comparison accepts, in bytes. -/
def maxPatternBytes : Nat := 50000

end NoKnowledge.Sql
