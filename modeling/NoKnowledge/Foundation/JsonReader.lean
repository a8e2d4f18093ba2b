import NoKnowledge.Foundation.Dict
import NoKnowledge.Foundation.JsonCodec

/-!
# Reading JSON of any shape

A text of a dynamic language may hold surrogates that belong to no pair, and
its JSON reader takes them from escapes as well as from the text.  The reader
refuses what is no JSON, and also an integer of more digits than the
interpreter converts.  It is given here as an automaton over tokens, so that
what it does with a text is what it does with one token after the other.
-/

namespace NoKnowledge

/-- A code point of a text: a character, or half of a pair by itself. -/
inductive Point where
  | char (value : Char)
  | lone (unit : Nat) (surrogate : 0xD800 ≤ unit ∧ unit < 0xE000)
deriving DecidableEq

def Point.char? : Point → Option Char
  | .char value => some value
  | .lone _ _ => none

abbrev Text := List Point

namespace Text

def ofString (text : String) : Text := text.toList.map Point.char

/-- A text without lone surrogates. -/
def toString? (text : Text) : Option String :=
  (text.mapM Point.char?).map String.ofList

/-- `text.encode("utf-8")` -/
def encode (text : Text) : Option Bytes := text.toString?.map utf8

end Text

/-- A JSON value, the fields of an object in the order of their keys' first use. -/
inductive Value where
  | null
  | bool (value : Bool)
  | int (value : Int)
  | float (literal : String)
  | text (value : Text)
  | arr (items : List Value)
  | obj (fields : List (Text × Value))
deriving Inhabited

namespace Reader

inductive Token where
  | leftBrace
  | rightBrace
  | leftBracket
  | rightBracket
  | colon
  | comma
  | text (value : Text)
  | scalar (value : Value)
  | integer (negative : Bool) (digits : List Char)
  /-- What is the beginning of no token. -/
  | bad

/-- A part of a string literal: a code point, or a code unit that is escaped. -/
inductive Piece where
  | raw (point : Point)
  | unit (value : Nat)

def isHigh (unit : Nat) : Bool := 0xD800 ≤ unit && unit < 0xDC00

def isLow (unit : Nat) : Bool := 0xDC00 ≤ unit && unit < 0xE000

def pointOf (unit : Nat) : Point :=
  if surrogate : 0xD800 ≤ unit ∧ unit < 0xE000 then .lone unit surrogate
  else .char (Char.ofNat unit)

def pair (high low : Nat) : Point :=
  .char (Char.ofNat (0x10000 + (high - 0xD800) * 0x400 + (low - 0xDC00)))

/-- Escaped halves that follow each other are one character. -/
def join : Option Nat → List Piece → Text
  | none, [] => []
  | some high, [] => [pointOf high]
  | none, .raw point :: pieces => point :: join none pieces
  | some high, .raw point :: pieces => pointOf high :: point :: join none pieces
  | none, .unit value :: pieces =>
      if isHigh value then join (some value) pieces else pointOf value :: join none pieces
  | some high, .unit value :: pieces =>
      if isLow value then pair high value :: join none pieces
      else if isHigh value then pointOf high :: join (some value) pieces
      else pointOf high :: pointOf value :: join none pieces

def simpleEscape : Char → Option Char
  | '"' => some '"'
  | '\\' => some '\\'
  | '/' => some '/'
  | 'b' => some (Char.ofNat 8)
  | 'f' => some (Char.ofNat 12)
  | 'n' => some '\n'
  | 'r' => some '\r'
  | 't' => some '\t'
  | _ => none

/-- The pieces up to the closing quote, and what follows it. -/
def readPieces : Text → Option (List Piece × Text)
  | [] => none
  | .char '"' :: rest => some ([], rest)
  | .char '\\' :: .char 'u' :: .char a :: .char b :: .char c :: .char d :: rest => do
      let value ← Json.hexFour a b c d
      let (pieces, rest) ← readPieces rest
      return (.unit value :: pieces, rest)
  | .char '\\' :: .char escaped :: rest => do
      let character ← simpleEscape escaped
      let (pieces, rest) ← readPieces rest
      return (.raw (.char character) :: pieces, rest)
  | .char '\\' :: _ => none
  | .char character :: rest =>
      if character.toNat < 32 then none
      else do
        let (pieces, rest) ← readPieces rest
        return (.raw (.char character) :: pieces, rest)
  | .lone unit surrogate :: rest => do
      let (pieces, rest) ← readPieces rest
      return (.raw (.lone unit surrogate) :: pieces, rest)

/-- The digits a text begins with, and the rest. -/
def spanDigits : Text → List Char × Text
  | .char character :: rest =>
      if character.isDigit then
        let (digits, rest) := spanDigits rest
        (character :: digits, rest)
      else ([], .char character :: rest)
  | text => ([], text)

/-- A point and digits behind it, or nothing. -/
def readFraction (text : Text) : List Char × Text :=
  match text with
  | .char '.' :: rest =>
      match spanDigits rest with
      | ([], _) => ([], text)
      | (digits, rest) => ('.' :: digits, rest)
  | _ => ([], text)

/-- The sign of an exponent. -/
def readSign : Text → List Char × Text
  | .char '+' :: rest => (['+'], rest)
  | .char '-' :: rest => (['-'], rest)
  | text => ([], text)

/-- An exponent with its digits, or nothing. -/
def readExponent (text : Text) : List Char × Text :=
  match text with
  | .char letter :: rest =>
      if letter = 'e' ∨ letter = 'E' then
        let (sign, unsigned) := readSign rest
        match spanDigits unsigned with
        | ([], _) => ([], text)
        | (digits, rest) => (letter :: (sign ++ digits), rest)
      else ([], text)
  | _ => ([], text)

/-- The integer part of a number: a zero, or digits that do not begin with one. -/
def readWhole : Text → List Char × Text
  | .char '0' :: rest => (['0'], rest)
  | text => spanDigits text

def readUnsigned (negative : Bool) (text : Text) : Option (Token × Text) :=
  let (digits, rest) := readWhole text
  if digits.isEmpty then none
  else
    let (fraction, rest) := readFraction rest
    let (exponent, rest) := readExponent rest
    if fraction.isEmpty && exponent.isEmpty then some (.integer negative digits, rest)
    else
      let sign := if negative then ['-'] else []
      some (.scalar (.float (String.ofList (sign ++ digits ++ fraction ++ exponent))), rest)

def readNumber : Text → Option (Token × Text)
  | .char '-' :: rest => readUnsigned true rest
  | text => readUnsigned false text

def keywords : List (String × Value) := [
  ("null", .null), ("true", .bool true), ("false", .bool false),
  ("NaN", .float "NaN"), ("Infinity", .float "Infinity"), ("-Infinity", .float "-Infinity")]

def readKeyword (text : Text) : Option (Token × Text) :=
  keywords.findSome? fun (word, value) =>
    if (Text.ofString word).isPrefixOf text then
      some (.scalar value, text.drop (Text.ofString word).length)
    else none

def readToken : Text → Option (Token × Text)
  | .char '{' :: rest => some (.leftBrace, rest)
  | .char '}' :: rest => some (.rightBrace, rest)
  | .char '[' :: rest => some (.leftBracket, rest)
  | .char ']' :: rest => some (.rightBracket, rest)
  | .char ':' :: rest => some (.colon, rest)
  | .char ',' :: rest => some (.comma, rest)
  | .char '"' :: rest => (readPieces rest).map fun (pieces, rest) =>
      (.text (join none pieces), rest)
  | text => (readKeyword text).or (readNumber text)

def isSpace : Point → Bool
  | .char character => Json.isSpace character
  | .lone _ _ => false

def skipSpace (text : Text) : Text := text.dropWhile isSpace

/-- The tokens of a text; what is none ends them. -/
def lex : Nat → Text → List Token
  | 0, _ => []
  | fuel + 1, text =>
      match skipSpace text with
      | [] => []
      | point :: rest =>
          match readToken (point :: rest) with
          | none => [.bad]
          | some (token, rest) => token :: lex fuel rest

/-- A token takes a code point at least. -/
def tokens (text : Text) : List Token := lex text.length text

theorem readPieces_shorter {text rest : Text} {pieces : List Piece}
    (read : readPieces text = some (pieces, rest)) : rest.length < text.length := by
  induction text using readPieces.induct generalizing pieces rest with
  | case1 => cases read
  | case2 after =>
      cases read
      exact Nat.lt_succ_self _
  | case3 a b c d after induction =>
      rw [readPieces] at read
      obtain ⟨value, -, read⟩ := Option.bind_eq_some_iff.mp read
      obtain ⟨⟨more, left⟩, later, read⟩ := Option.bind_eq_some_iff.mp read
      cases read
      have shorter := induction later
      simp only [List.length_cons]
      omega
  | case4 escaped after notUnit induction =>
      rw [readPieces.eq_4 escaped after notUnit] at read
      obtain ⟨character, -, read⟩ := Option.bind_eq_some_iff.mp read
      obtain ⟨⟨more, left⟩, later, read⟩ := Option.bind_eq_some_iff.mp read
      cases read
      have shorter := induction later
      simp only [List.length_cons]
      omega
  | case5 after notUnit notEscape =>
      rw [readPieces.eq_5 after notUnit notEscape] at read
      cases read
  | case6 character after notQuote notUnit notEscape notSlash control =>
      rw [readPieces.eq_6 character after notQuote notUnit notEscape notSlash,
        if_pos control] at read
      cases read
  | case7 character after notQuote notUnit notEscape notSlash printable induction =>
      rw [readPieces.eq_6 character after notQuote notUnit notEscape notSlash,
        if_neg printable] at read
      obtain ⟨⟨more, left⟩, later, read⟩ := Option.bind_eq_some_iff.mp read
      cases read
      exact Nat.lt_succ_of_lt (induction later)
  | case8 unit surrogate after induction =>
      rw [readPieces] at read
      obtain ⟨⟨more, left⟩, later, read⟩ := Option.bind_eq_some_iff.mp read
      cases read
      exact Nat.lt_succ_of_lt (induction later)

theorem spanDigits_le (text : Text) :
    (spanDigits text).1.length + (spanDigits text).2.length = text.length := by
  induction text using spanDigits.induct with
  | case1 character after digit digits rest spanned induction =>
      rw [spanDigits, if_pos digit]
      simp only [List.length_cons]
      omega
  | case2 character after other =>
      rw [spanDigits, if_neg other]
      exact Nat.zero_add _
  | case3 text other =>
      rw [spanDigits]
      · exact Nat.zero_add _
      · exact other

theorem readWhole_le (text : Text) :
    (readWhole text).1.length + (readWhole text).2.length = text.length := by
  rw [readWhole.eq_def]
  split
  · exact Nat.add_comm 1 _
  · exact spanDigits_le _

theorem readFraction_le (text : Text) : (readFraction text).2.length ≤ text.length := by
  rw [readFraction.eq_def]
  split
  · rename_i rest
    have spanned := spanDigits_le rest
    split
    · exact le_refl _
    · rename_i digits after _ same
      rw [same] at spanned
      simp only [List.length_cons] at spanned ⊢
      omega
  · exact le_refl _

theorem readSign_le (text : Text) : (readSign text).2.length ≤ text.length := by
  rw [readSign.eq_def]
  split
  · exact Nat.le_succ _
  · exact Nat.le_succ _
  · exact le_refl _

theorem readExponent_le (text : Text) : (readExponent text).2.length ≤ text.length := by
  rw [readExponent.eq_def]
  split
  · rename_i letter rest
    split
    · have signed := readSign_le rest
      have spanned := spanDigits_le (readSign rest).2
      dsimp only
      split
      · exact le_refl _
      · rename_i digits after _ same
        rw [same] at spanned
        simp only [List.length_cons] at spanned ⊢
        omega
    · exact le_refl _
  · exact le_refl _

theorem readUnsigned_shorter {negative : Bool} {text rest : Text} {token : Token}
    (read : readUnsigned negative text = some (token, rest)) : rest.length < text.length := by
  have whole := readWhole_le text
  have fraction := readFraction_le (readWhole text).2
  have exponent := readExponent_le (readFraction (readWhole text).2).2
  rw [readUnsigned] at read
  dsimp only at read
  split at read
  · cases read
  · rename_i filled
    have digits : 0 < (readWhole text).1.length := by
      rw [List.length_pos_iff]
      exact fun empty => filled (List.isEmpty_iff.mpr empty)
    have shorter : (readExponent (readFraction (readWhole text).2).2).2.length <
        text.length := by omega
    split at read
    · cases read
      exact shorter
    · cases read
      exact shorter

theorem readNumber_shorter {text rest : Text} {token : Token}
    (read : readNumber text = some (token, rest)) : rest.length < text.length := by
  rw [readNumber.eq_def] at read
  split at read
  · exact Nat.lt_succ_of_lt (readUnsigned_shorter read)
  · exact readUnsigned_shorter read

theorem readKeyword_shorter {text rest : Text} {token : Token}
    (read : readKeyword text = some (token, rest)) : rest.length < text.length := by
  obtain ⟨⟨word, value⟩, member, read⟩ := List.exists_of_findSome?_eq_some read
  dsimp only at read
  split at read
  · rename_i isPrefix
    cases read
    have filled : ∀ entry ∈ keywords, 0 < (Text.ofString entry.1).length := by decide
    have within := (List.isPrefixOf_iff_prefix.mp isPrefix).length_le
    have positive := filled (word, value) member
    rw [List.length_drop]
    dsimp only at positive
    omega
  · cases read

theorem readToken_shorter {text rest : Text} {token : Token}
    (read : readToken text = some (token, rest)) : rest.length < text.length := by
  rw [readToken.eq_def] at read
  split at read
  case h_7 =>
    obtain ⟨⟨pieces, left⟩, pieced, same⟩ := Option.map_eq_some_iff.mp read
    cases same
    exact Nat.lt_succ_of_lt (readPieces_shorter pieced)
  case h_8 =>
    rcases Option.or_eq_some_iff.mp read with keyword | ⟨-, number⟩
    · exact readKeyword_shorter keyword
    · exact readNumber_shorter number
  all_goals
    cases read
    exact Nat.lt_succ_self _

/-- Fuel for every code point is enough: more of it finds no other tokens. -/
theorem lex_eq_tokens {fuel : Nat} {text : Text} (enough : text.length ≤ fuel) :
    lex fuel text = tokens text := by
  have same : ∀ {size fuel : Nat} {text : Text}, text.length ≤ size → size ≤ fuel →
      lex fuel text = lex size text := by
    intro size
    induction size with
    | zero =>
        intro fuel text short _
        rw [List.eq_nil_of_length_eq_zero (Nat.le_zero.mp short)]
        cases fuel with
        | zero => rfl
        | succ fuel => rfl
    | succ size induction =>
        intro fuel text short more
        cases fuel with
        | zero => exact absurd more (Nat.not_succ_le_zero size)
        | succ fuel =>
            rw [lex, lex]
            cases skipped : skipSpace text with
            | nil => rfl
            | cons point rest =>
                have kept : (point :: rest).length ≤ text.length := by
                  rw [← skipped]
                  exact (List.dropWhile_sublist isSpace).length_le
                dsimp only
                cases read : readToken (point :: rest) with
                | none => rfl
                | some found =>
                    have shorter := readToken_shorter read
                    dsimp only
                    rw [induction (by omega) (Nat.le_of_succ_le_succ more)]
  exact same (le_refl _) enough

/-- Tokens are read to the end of the text, or to what is none. -/
theorem tokens_eq (text : Text) :
    tokens text =
      match skipSpace text with
      | [] => []
      | point :: rest =>
          match readToken (point :: rest) with
          | none => [.bad]
          | some (token, rest) => token :: tokens rest := by
  rw [← lex_eq_tokens (Nat.le_succ text.length), lex]
  cases skipped : skipSpace text with
  | nil => rfl
  | cons point rest =>
      have kept : (point :: rest).length ≤ text.length := by
        rw [← skipped]
        exact (List.dropWhile_sublist isSpace).length_le
      dsimp only
      cases read : readToken (point :: rest) with
      | none => rfl
      | some found =>
          have shorter := readToken_shorter read
          dsimp only
          rw [lex_eq_tokens (by omega)]

inductive Fault where
  /-- The text is no JSON. -/
  | syntax_
  /-- An integer has more digits than are converted. -/
  | digits
deriving DecidableEq, Repr

/-- A container that is not closed yet. -/
inductive Frame where
  | array (items : List Value)
  | object (fields : List (Text × Value))
  | field (fields : List (Text × Value)) (key : Text)

/-- What is due next. -/
inductive Due where
  | value
  | firstItem
  | key
  | firstKey
  | colon
  | separator
  | nothing (result : Value)

structure State where
  stack : List Frame
  due : Due

def start : State := ⟨[], .value⟩

/-- A value is complete. -/
def give (value : Value) : List Frame → Except Fault State
  | [] => .ok ⟨[], .nothing value⟩
  | .array items :: stack => .ok ⟨.array (items ++ [value]) :: stack, .separator⟩
  | .field fields key :: stack =>
      .ok ⟨.object (Dict.upsert key value fields) :: stack, .separator⟩
  | .object _ :: _ => .error .syntax_

/-- More digits than the limit, if there is one. -/
def tooLong (limit : Nat) (digits : List Char) : Bool := limit ≠ 0 && limit < digits.length

def integerOf (negative : Bool) (digits : List Char) : Int :=
  let magnitude : Int := Nat.ofDigitChars 10 digits 0
  if negative then -magnitude else magnitude

/-- The beginning of a value. -/
def begin_ (limit : Nat) (stack : List Frame) : Token → Except Fault State
  | .scalar value => give value stack
  | .text value => give (.text value) stack
  | .integer negative digits =>
      if tooLong limit digits then .error .digits
      else give (.int (integerOf negative digits)) stack
  | .leftBracket => .ok ⟨.array [] :: stack, .firstItem⟩
  | .leftBrace => .ok ⟨.object [] :: stack, .firstKey⟩
  | _ => .error .syntax_

/-- A token with which a value begins. -/
def Token.beginsValue : Token → Bool
  | .scalar _ | .text _ | .integer _ _ | .leftBracket | .leftBrace => true
  | _ => false

/-- A place where a value may begin. -/
def State.valueDue (state : State) : Bool :=
  match state.due with
  | .value | .firstItem => true
  | _ => false

/-- What a token does with which no value begins. -/
def move : Due → Token → List Frame → Except Fault State
  | .firstItem, .rightBracket, .array items :: stack => give (.arr items) stack
  | .firstKey, .rightBrace, .object fields :: stack => give (.obj fields) stack
  | .firstKey, .text key, .object fields :: stack => .ok ⟨.field fields key :: stack, .colon⟩
  | .key, .text key, .object fields :: stack => .ok ⟨.field fields key :: stack, .colon⟩
  | .colon, .colon, stack => .ok ⟨stack, .value⟩
  | .separator, .comma, .array items :: stack => .ok ⟨.array items :: stack, .value⟩
  | .separator, .rightBracket, .array items :: stack => give (.arr items) stack
  | .separator, .comma, .object fields :: stack => .ok ⟨.object fields :: stack, .key⟩
  | .separator, .rightBrace, .object fields :: stack => give (.obj fields) stack
  | _, _, _ => .error .syntax_

def step (limit : Nat) (state : State) (token : Token) : Except Fault State :=
  if state.valueDue && token.beginsValue then begin_ limit state.stack token
  else move state.due token state.stack

/-- `json.loads` of a decoded text -/
def decode (limit : Nat) (text : Text) : Except Fault Value := do
  let state ← (tokens text).foldlM (step limit) start
  match state.due with
  | .nothing result => return result
  | _ => throw .syntax_

/-- `json.loads` of a text, which may not begin with a byte order mark -/
def loads (limit : Nat) (text : Text) : Except Fault Value :=
  if text.head? = some (.char (Char.ofNat 0xFEFF)) then .error .syntax_ else decode limit text

/-- An integer of too many digits stands where a value is due, after the beginning of
a JSON text. -/
def LongInteger (limit : Nat) (text : Text) : Prop :=
  ∃ before negative digits after state,
    tokens text = before ++ .integer negative digits :: after ∧
    before.foldlM (step 0) start = .ok state ∧ state.valueDue = true ∧
    tooLong limit digits = true

variable {limit : Nat} {state next : State} {token : Token}

theorem give_ne_digits (value : Value) (stack : List Frame) :
    give value stack ≠ .error .digits := by
  rw [give.eq_def]
  split
  · exact nofun
  · exact nofun
  · exact nofun
  · exact nofun

theorem move_ne_digits (due : Due) (token : Token) (stack : List Frame) :
    move due token stack ≠ .error .digits := by
  rw [move.eq_def]
  split
  · exact give_ne_digits _ _
  · exact give_ne_digits _ _
  · exact nofun
  · exact nofun
  · exact nofun
  · exact nofun
  · exact give_ne_digits _ _
  · exact nofun
  · exact give_ne_digits _ _
  · exact nofun

theorem begin_eq_digits {stack : List Frame} :
    begin_ limit stack token = .error .digits ↔
      ∃ negative digits, token = .integer negative digits ∧ tooLong limit digits = true := by
  constructor
  · intro refused
    rw [begin_.eq_def] at refused
    split at refused
    · exact absurd refused (give_ne_digits _ _)
    · exact absurd refused (give_ne_digits _ _)
    · rename_i negative digits
      split at refused
      · rename_i long
        exact ⟨negative, digits, rfl, long⟩
      · exact absurd refused (give_ne_digits _ _)
    · cases refused
    · cases refused
    · cases refused
  · intro ⟨negative, digits, same, long⟩
    rw [same]
    exact if_pos long

/-- Nothing but an integer where a value is due is refused for its digits. -/
theorem step_eq_digits :
    step limit state token = .error .digits ↔
      ∃ negative digits, token = .integer negative digits ∧ state.valueDue = true ∧
        tooLong limit digits = true := by
  rw [step]
  split
  · rename_i begins
    rw [Bool.and_eq_true] at begins
    rw [begin_eq_digits]
    constructor
    · intro ⟨negative, digits, same, long⟩
      exact ⟨negative, digits, same, begins.1, long⟩
    · intro ⟨negative, digits, same, _, long⟩
      exact ⟨negative, digits, same, long⟩
  · rename_i moves
    refine iff_of_false (move_ne_digits _ _ _) ?_
    intro ⟨negative, digits, same, due, _⟩
    apply moves
    rw [due, same]
    rfl

/-- The limit refuses, and changes nothing else. -/
theorem step_of_not_digits (short : step limit state token ≠ .error .digits) :
    step limit state token = step 0 state token := by
  rw [step, step] at *
  split
  · rename_i begins
    rw [if_pos begins] at short
    cases token with
    | integer negative digits =>
        have fits : ¬ tooLong limit digits = true := fun long => short (if_pos long)
        rw [begin_, begin_, if_neg fits]
        rfl
    | _ => rfl
  · rfl

theorem step_zero_ne_digits : step 0 state token ≠ .error .digits := by
  intro refused
  obtain ⟨negative, digits, -, -, long⟩ := step_eq_digits.mp refused
  exact absurd long (by simp [tooLong])

/-- A run is refused for digits exactly when it comes to an integer of too many. -/
theorem run_eq_digits (tokens : List Token) (state : State) :
    tokens.foldlM (step limit) state = .error .digits ↔
      ∃ before negative digits after reached,
        tokens = before ++ .integer negative digits :: after ∧
        before.foldlM (step 0) state = .ok reached ∧ reached.valueDue = true ∧
        tooLong limit digits = true := by
  induction tokens generalizing state with
  | nil =>
      refine iff_of_false nofun ?_
      intro ⟨before, negative, digits, after, reached, same, _⟩
      simp at same
  | cons token tokens induction =>
      by_cases here : step limit state token = .error .digits
      · refine iff_of_true ?_ ?_
        · rw [List.foldlM_cons, here]
          rfl
        · obtain ⟨negative, digits, same, due, long⟩ := step_eq_digits.mp here
          exact ⟨[], negative, digits, tokens, state, by rw [same]; rfl, rfl, due, long⟩
      · have unlimited := step_of_not_digits here
        rw [List.foldlM_cons, unlimited]
        cases stepped : step 0 state token with
        | error fault =>
            have other : fault ≠ .digits := by
              rintro rfl
              exact step_zero_ne_digits stepped
            refine iff_of_false (fun refused => other (Except.error.inj refused)) ?_
            intro ⟨before, negative, digits, after, reached, same, ran, due, long⟩
            cases before with
            | nil =>
                obtain ⟨rfl, -⟩ := List.cons.inj same
                cases ran
                exact here (step_eq_digits.mpr ⟨negative, digits, rfl, due, long⟩)
            | cons first before =>
                obtain ⟨rfl, -⟩ := List.cons.inj same
                rw [List.foldlM_cons, stepped] at ran
                cases ran
        | ok next =>
            change tokens.foldlM (step limit) next = _ ↔ _
            rw [induction next]
            constructor
            · intro ⟨before, negative, digits, after, reached, same, ran, due, long⟩
              refine ⟨token :: before, negative, digits, after, reached, by rw [same]; rfl, ?_,
                due, long⟩
              rw [List.foldlM_cons, stepped]
              exact ran
            · intro ⟨before, negative, digits, after, reached, same, ran, due, long⟩
              cases before with
              | nil =>
                  obtain ⟨rfl, -⟩ := List.cons.inj same
                  cases ran
                  exact absurd (step_eq_digits.mpr ⟨negative, digits, rfl, due, long⟩) here
              | cons first before =>
                  obtain ⟨rfl, rest⟩ := List.cons.inj same
                  rw [List.foldlM_cons, stepped] at ran
                  exact ⟨before, negative, digits, after, reached, rest, ran, due, long⟩

/-- Reading fails for digits exactly when the text has an integer of too many. -/
theorem decode_eq_digits {text : Text} :
    decode limit text = .error .digits ↔ LongInteger limit text := by
  rw [LongInteger, ← run_eq_digits, decode]
  cases (tokens text).foldlM (step limit) start with
  | error fault =>
      constructor
      · intro same
        rw [Except.error.inj same]
      · intro same
        rw [Except.error.inj same]
        rfl
  | ok state =>
      refine iff_of_false ?_ nofun
      obtain ⟨stack, due⟩ := state
      cases due with
      | nothing result => exact nofun
      | _ => exact nofun

theorem loads_eq_digits {text : Text} :
    loads limit text = .error .digits ↔
      text.head? ≠ some (.char (Char.ofNat 0xFEFF)) ∧ LongInteger limit text := by
  rw [loads, ← decode_eq_digits]
  by_cases marked : text.head? = some (.char (Char.ofNat 0xFEFF))
  · rw [if_pos marked]
    exact iff_of_false nofun (fun both => both.1 marked)
  · rw [if_neg marked, and_iff_right marked]

end Reader

end NoKnowledge
