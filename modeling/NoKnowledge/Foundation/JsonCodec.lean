import NoKnowledge.Foundation.Bytes
import NoKnowledge.Foundation.Json

/-!
# Deterministic JSON text

`Json.dump` writes a value with sorted keys, without whitespace and with
non-ASCII characters left as they are; `Json.parse` is an ordinary JSON
reader that also accepts whitespace, every escape and fields in any order.
The reader inverts the writer on canonical values, so the serialisation is
injective there.
-/

namespace NoKnowledge

namespace Json

open Binary64 (isFloatLiteral isIntegerPart)

def hexDigit (value : Nat) : Char := Nat.digitChar value

/-- One character inside a string literal. -/
def escapeChar (character : Char) : List Char :=
  if character = '"' then ['\\', '"']
  else if character = '\\' then ['\\', '\\']
  else if character = '\n' then ['\\', 'n']
  else if character = '\r' then ['\\', 'r']
  else if character = '\t' then ['\\', 't']
  else if character.toNat = 12 then ['\\', 'f']
  else if character.toNat = 8 then ['\\', 'b']
  else if character.toNat < 32 then
    ['\\', 'u', '0', '0', hexDigit (character.toNat / 16),
      hexDigit (character.toNat % 16)]
  else [character]

def escape (text : List Char) : List Char := text.flatMap escapeChar

def dumpString (text : String) : List Char :=
  '"' :: (escape text.toList ++ ['"'])

def dumpInt (value : Int) : List Char :=
  if value < 0 then '-' :: Nat.toDigits 10 value.natAbs
  else Nat.toDigits 10 value.natAbs

mutual

def dump : Json → List Char
  | null => ['n', 'u', 'l', 'l']
  | bool true => ['t', 'r', 'u', 'e']
  | bool false => ['f', 'a', 'l', 's', 'e']
  | int value => dumpInt value
  | float value => value.dump
  | str value => dumpString value
  | arr [] => ['[', ']']
  | arr (item :: items) => '[' :: (dump item ++ dumpItems items)
  | obj [] => ['{', '}']
  | obj ((key, value) :: fields) =>
      '{' :: (dumpString key ++ ':' :: (dump value ++ dumpFields fields))

/-- The rest of an array after its first item. -/
def dumpItems : List Json → List Char
  | [] => [']']
  | item :: items => ',' :: (dump item ++ dumpItems items)

/-- The rest of an object after its first field. -/
def dumpFields : List (String × Json) → List Char
  | [] => ['}']
  | (key, value) :: fields =>
      ',' :: (dumpString key ++ ':' :: (dump value ++ dumpFields fields))

end

mutual

/-- Objects at every depth with their fields sorted. -/
def normalize : Json → Json
  | arr items => arr (normalizeItems items)
  | obj fields => mkObj (normalizeFields fields)
  | other => other

def normalizeItems : List Json → List Json
  | [] => []
  | item :: items => normalize item :: normalizeItems items

def normalizeFields : List (String × Json) → List (String × Json)
  | [] => []
  | (key, value) :: fields => (key, normalize value) :: normalizeFields fields

end

def isSpace (character : Char) : Bool :=
  character = ' ' || character = '\t' || character = '\n' || character = '\r'

def skipSpace (input : List Char) : List Char := input.dropWhile isSpace

def hexValue (character : Char) : Option Nat :=
  if character.isDigit then some (character.toNat - '0'.toNat)
  else if 'a' ≤ character ∧ character ≤ 'f' then
    some (character.toNat - 'a'.toNat + 10)
  else if 'A' ≤ character ∧ character ≤ 'F' then
    some (character.toNat - 'A'.toNat + 10)
  else none

def hexFour (a b c d : Char) : Option Nat := do
  let first ← hexValue a
  let second ← hexValue b
  let third ← hexValue c
  let fourth ← hexValue d
  return ((first * 16 + second) * 16 + third) * 16 + fourth

/-- The character written by `\u` escapes.  A high surrogate takes the low
surrogate that follows with it; a lone surrogate is no character. -/
def unescapeUnicode : List Char → Option (Char × List Char)
  | a :: b :: c :: d :: rest => do
      let unit ← hexFour a b c d
      if 0xD800 ≤ unit ∧ unit < 0xDC00 then
        match rest with
        | '\\' :: 'u' :: e :: f :: g :: h :: rest => do
            let low ← hexFour e f g h
            if 0xDC00 ≤ low ∧ low < 0xE000 then
              some (Char.ofNat
                (0x10000 + (unit - 0xD800) * 0x400 + (low - 0xDC00)), rest)
            else none
        | _ => none
      else if 0xDC00 ≤ unit ∧ unit < 0xE000 then none
      else some (Char.ofNat unit, rest)
  | _ => none

/-- The character an escape stands for, after the backslash. -/
def unescape : List Char → Option (Char × List Char)
  | '"' :: rest => some ('"', rest)
  | '\\' :: rest => some ('\\', rest)
  | '/' :: rest => some ('/', rest)
  | 'b' :: rest => some (Char.ofNat 8, rest)
  | 'f' :: rest => some (Char.ofNat 12, rest)
  | 'n' :: rest => some ('\n', rest)
  | 'r' :: rest => some ('\r', rest)
  | 't' :: rest => some ('\t', rest)
  | 'u' :: rest => unescapeUnicode rest
  | _ => none

/-- The body of a string literal up to its closing quote. -/
def parseString : Nat → List Char → Option (List Char × List Char)
  | 0, _ => none
  | _ + 1, [] => none
  | fuel + 1, head :: rest =>
      if head = '"' then some ([], rest)
      else if head = '\\' then do
        let (character, rest) ← unescape rest
        let (text, rest) ← parseString fuel rest
        return (character :: text, rest)
      else if head.toNat < 32 then none
      else do
        let (text, rest) ← parseString fuel rest
        return (head :: text, rest)

def isNumberChar (character : Char) : Bool :=
  character.isDigit || character = '-' || character = '+' ||
    character = '.' || character = 'e' || character = 'E'

def parseNatural (digits : List Char) : Option Nat :=
  if isIntegerPart digits then some (Nat.ofDigitChars 10 digits 0) else none

def parseInteger : List Char → Option Int
  | '-' :: digits => (parseNatural digits).map fun value => -(value : Int)
  | digits => (parseNatural digits).map fun value => (value : Int)

def parseNumber (input : List Char) : Option (Json × List Char) :=
  let text := input.takeWhile isNumberChar
  let rest := input.dropWhile isNumberChar
  match parseInteger text with
  | some value => some (int value, rest)
  | none =>
      if isFloatLiteral text then some (float (Binary64.ofLiteral text), rest)
      else none

def parseLiteral : List Char → Option (Json × List Char)
  | 'n' :: 'u' :: 'l' :: 'l' :: rest => some (null, rest)
  | 't' :: 'r' :: 'u' :: 'e' :: rest => some (bool true, rest)
  | 'f' :: 'a' :: 'l' :: 's' :: 'e' :: rest => some (bool false, rest)
  | 'N' :: 'a' :: 'N' :: rest => some (float .nan, rest)
  | 'I' :: 'n' :: 'f' :: 'i' :: 'n' :: 'i' :: 't' :: 'y' :: rest =>
      some (float (.infinite false), rest)
  | '-' :: 'I' :: 'n' :: 'f' :: 'i' :: 'n' :: 'i' :: 't' :: 'y' :: rest =>
      some (float (.infinite true), rest)
  | input => parseNumber input

mutual

def parseValue : Nat → List Char → Option (Json × List Char)
  | 0, _ => none
  | fuel + 1, input =>
      match skipSpace input with
      | [] => none
      | head :: rest =>
          if head = '"' then do
            let (text, rest) ← parseString (rest.length + 1) rest
            return (str (String.ofList text), rest)
          else if head = '[' then
            if (skipSpace rest).head? = some ']' then
              some (arr [], (skipSpace rest).tail)
            else do
              let (items, rest) ← parseItems fuel rest
              return (arr items, rest)
          else if head = '{' then
            if (skipSpace rest).head? = some '}' then
              some (obj [], (skipSpace rest).tail)
            else do
              let (fields, rest) ← parseFields fuel rest
              return (mkObj fields, rest)
          else parseLiteral (head :: rest)

/-- Items up to the closing bracket. -/
def parseItems : Nat → List Char → Option (List Json × List Char)
  | 0, _ => none
  | fuel + 1, input => do
      let (item, rest) ← parseValue fuel input
      match skipSpace rest with
      | ',' :: rest => do
          let (items, rest) ← parseItems fuel rest
          return (item :: items, rest)
      | ']' :: rest => some ([item], rest)
      | _ => none

/-- Fields up to the closing brace. -/
def parseFields : Nat → List Char → Option (List (String × Json) × List Char)
  | 0, _ => none
  | fuel + 1, input =>
      match skipSpace input with
      | '"' :: rest => do
          let (key, rest) ← parseString (rest.length + 1) rest
          match skipSpace rest with
          | ':' :: rest => do
              let (value, rest) ← parseValue fuel rest
              match skipSpace rest with
              | ',' :: rest => do
                  let (fields, rest) ← parseFields fuel rest
                  return ((String.ofList key, value) :: fields, rest)
              | '}' :: rest => some ([(String.ofList key, value)], rest)
              | _ => none
          | _ => none
      | _ => none

end

/-- Parse a complete text. -/
def parse (input : List Char) : Option Json := do
  let (value, rest) ← parseValue (input.length + 1) input
  if skipSpace rest = [] then some value else none

end Json

/-- Deterministic serialisation: sorted keys, no whitespace, UTF-8. -/
def canonicalJson (value : Json) : Bytes :=
  utf8 (String.ofList value.normalize.dump)

/-- A serialised object begins with a brace. -/
theorem head?_canonicalJson (bindings : List (String × Json)) :
    (canonicalJson (.mkObj bindings)).head? = some 123 := by
  have shape : ∃ rest, (Json.mkObj bindings).normalize.dump = '{' :: rest := by
    show ∃ rest,
      (Json.mkObj (Json.normalizeFields (Json.sortFields bindings))).dump = '{' :: rest
    unfold Json.mkObj
    cases Json.sortFields (Json.normalizeFields (Json.sortFields bindings)) with
    | nil => exact ⟨_, rfl⟩
    | cons field fields => exact ⟨_, rfl⟩
  obtain ⟨rest, shape⟩ := shape
  rw [canonicalJson, shape, utf8, String.toList_ofList]
  rfl

/-- Decode and parse a JSON document. -/
def loadJson (data : Bytes) : Option Json := do
  let text ← decodeUtf8 data
  Json.parse text.toList

end NoKnowledge
