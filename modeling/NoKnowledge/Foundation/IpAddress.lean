import Mathlib.Data.List.Basic
import NoKnowledge.Foundation.Url

/-!
# Spellings of network addresses

Two readers of addresses.  The strict one is that of the address library: four
decimal octets, or the groups of a version 6 address with an optional zone.  The
loose one is that of the resolver, which fills an address from one to four
numbers in C notation.
-/

namespace NoKnowledge.Ip

/-- The value of a digit, in either case. -/
def digit? (character : Char) : Option Nat :=
  let code := character.toNat
  if 48 ≤ code ∧ code ≤ 57 then some (code - 48)
  else if 97 ≤ code ∧ code ≤ 102 then some (code - 87)
  else if 65 ≤ code ∧ code ≤ 70 then some (code - 55)
  else none

def addDigit (base value : Nat) (character : Char) : Option Nat :=
  match digit? character with
  | none => none
  | some digit => if digit < base then some (value * base + digit) else none

def numeral (base : Nat) (digits : List Char) : Option Nat :=
  if digits.isEmpty then none else digits.foldlM (addDigit base) 0

/-- `_parse_octet` -/
def octet (digits : List Char) : Option Nat :=
  if 3 < digits.length ∨ (digits.head? = some '0' ∧ digits ≠ ['0']) then none
  else (numeral 10 digits).filter (· ≤ 255)

def ipv4 (text : List Char) : Option Nat :=
  match (text.splitOn '.').mapM octet with
  | some [first, second, third, fourth] =>
      some (first * 2 ^ 24 + second * 2 ^ 16 + third * 2 ^ 8 + fourth)
  | _ => none

/-- `_parse_hextet` -/
def hextet (digits : List Char) : Option Nat :=
  if 4 < digits.length then none else numeral 16 digits

/-- A group between colons, which may be empty. -/
def group (digits : List Char) : Option (Option Nat) :=
  if digits.isEmpty then some none else (hextet digits).map some

/-- The groups of an address; the last two may be spelled as a version 4 address. -/
def groups (text : List Char) : Option (List (Option Nat)) :=
  let parts := text.splitOn ':'
  let last := parts.getLastD []
  if parts.length < 3 then none
  else if '.' ∈ last then do
    let four ← ipv4 last
    let front ← parts.dropLast.mapM group
    return front ++ [some (four / 2 ^ 16), some (four % 2 ^ 16)]
  else parts.mapM group

/-- The groups on one side of the gap; at the very edge there may be none. -/
def side (groups : List (Option Nat)) : Option (List Nat) :=
  if groups = [none] then some [] else groups.mapM id

def joinGroups (values : List Nat) : Nat :=
  values.foldl (fun joined value => joined * 2 ^ 16 + value) 0

/-- Fill the gap, of which there is one at most. -/
def assemble (groups : List (Option Nat)) : Option Nat :=
  let inner := (groups.drop 1).dropLast
  if 9 < groups.length ∨ 1 < inner.count none then none
  else if none ∈ inner then do
    let skip := inner.idxOf none + 1
    let high ← side (groups.take skip)
    let low ← side (groups.drop (skip + 1))
    if 8 ≤ high.length + low.length then none
    else return joinGroups high * 2 ^ (16 * (8 - high.length)) + joinGroups low
  else if groups.length = 8 then (groups.mapM id).map joinGroups
  else none

/-- A version 6 address with an optional zone behind a percent sign. -/
def ipv6 (text : List Char) : Option Nat :=
  if '/' ∈ text then none
  else if '%' ∈ text then
    let zone := Url.afterFirst '%' text
    if zone.isEmpty ∨ '%' ∈ zone then none
    else (groups (Url.beforeFirst '%' text)).bind assemble
  else (groups text).bind assemble

/-- What is registered of the addresses of both versions. -/
structure Registry where
  v4 : Nat → Url.IpAddress
  v6 : Nat → Url.IpAddress

/-- `ip_address` -/
def Registry.ipAddress (registry : Registry) (text : List Char) : Option Url.IpAddress :=
  match ipv4 text with
  | some number => some { registry.v4 number with version4 := true }
  | none => (ipv6 text).map fun number => { registry.v6 number with version4 := false }

/-- A number in C notation: hexadecimal, octal or decimal. -/
def cNumber : List Char → Option Nat
  | '0' :: 'x' :: digits => numeral 16 digits
  | '0' :: 'X' :: digits => numeral 16 digits
  | '0' :: digit :: digits => numeral 8 (digit :: digits)
  | digits => numeral 10 digits

/-- The last number fills what the ones before it leave of an address. -/
def fill : List Nat → Option Nat
  | [first] => if first < 2 ^ 32 then some first else none
  | [first, second] =>
      if first < 256 ∧ second < 2 ^ 24 then some (first * 2 ^ 24 + second) else none
  | [first, second, third] =>
      if first < 256 ∧ second < 256 ∧ third < 2 ^ 16 then
        some (first * 2 ^ 24 + second * 2 ^ 16 + third)
      else none
  | [first, second, third, fourth] =>
      if first < 256 ∧ second < 256 ∧ third < 256 ∧ fourth < 256 then
        some (first * 2 ^ 24 + second * 2 ^ 16 + third * 2 ^ 8 + fourth)
      else none
  | _ => none

/-- `inet_aton` -/
def inetAton (text : List Char) : Option Nat := ((text.splitOn '.').mapM cNumber).bind fill

/-- A character of a version 4 address, strictly or loosely spelled. -/
def isLooseChar (character : Char) : Bool :=
  (digit? character).isSome || character ∈ ['x', 'X', '.']

/-- A character that stands in an address, other than in its zone. -/
def isAddressChar (character : Char) : Bool := isLooseChar character || character = ':'

/-- What holds of all codes below 128 holds of every ASCII character. -/
theorem of_ascii (holds : Char → Prop) (all : ∀ code < 128, holds (Char.ofNat code))
    {character : Char} (ascii : character.toNat < 128) : holds character := by
  rw [← Char.ofNat_toNat character]
  exact all character.toNat ascii

theorem ascii_of_digit {character : Char} (digit : (digit? character).isSome = true) :
    character.toNat < 128 := by
  rw [digit?] at digit
  split at digit
  · omega
  · split at digit
    · omega
    · split at digit
      · omega
      · cases digit

theorem ascii_of_isAddressChar {character : Char} (address : isAddressChar character = true) :
    character.toNat < 128 := by
  rw [isAddressChar, isLooseChar, Bool.or_eq_true, Bool.or_eq_true] at address
  rcases address with (digit | mark) | colon
  · exact ascii_of_digit digit
  · have marks : ['x', 'X', '.'].all (·.toNat < 128) = true := by decide
    exact of_decide_eq_true (List.all_eq_true.mp marks character (of_decide_eq_true mark))
  · rw [of_decide_eq_true colon]
    decide

/-- Characters of addresses are none of the marks around them. -/
theorem not_mark_of_isAddressChar {character : Char} (address : isAddressChar character = true) :
    character ∉ ['[', ']', '%', '/', 'l', 'o'] := by
  have all : ∀ code < 128, isAddressChar (Char.ofNat code) = true →
      Char.ofNat code ∉ ['[', ']', '%', '/', 'l', 'o'] := by decide
  exact of_ascii (fun other => isAddressChar other = true →
    other ∉ ['[', ']', '%', '/', 'l', 'o']) all (ascii_of_isAddressChar address) address

theorem toLower_of_not_ascii {character : Char} (large : ¬ character.toNat < 128) :
    character.toLower = character := by
  apply dif_neg
  intro upper
  have small : character.toNat ≤ 90 := UInt32.le_iff_toNat_le.mp upper.2
  omega

theorem digit?_toLower (character : Char) : digit? character.toLower = digit? character := by
  by_cases ascii : character.toNat < 128
  · exact of_ascii (fun other => digit? other.toLower = digit? other) (by decide) ascii
  · rw [toLower_of_not_ascii ascii]

/-- A mark that has no lower case is told from lower case characters. -/
theorem toLower_eq_iff {character mark : Char} (listed : mark ∈ ['.', ':', '0', '%', '/']) :
    character.toLower = mark ↔ character = mark := by
  by_cases ascii : character.toNat < 128
  · have all : ∀ code < 128, ['.', ':', '0', '%', '/'].all (fun mark =>
        decide ((Char.ofNat code).toLower = mark ↔ Char.ofNat code = mark)) = true := by decide
    have marks := of_ascii (fun other => ['.', ':', '0', '%', '/'].all (fun mark =>
      decide (other.toLower = mark ↔ other = mark)) = true) all ascii
    exact of_decide_eq_true (List.all_eq_true.mp marks mark listed)
  · rw [toLower_of_not_ascii ascii]

abbrev lowered (text : List Char) : List Char := text.map Char.toLower

theorem addDigit_toLower (base value : Nat) (character : Char) :
    addDigit base value character.toLower = addDigit base value character := by
  rw [addDigit, addDigit, digit?_toLower]

theorem numeral_lowered (base : Nat) (digits : List Char) :
    numeral base (lowered digits) = numeral base digits := by
  have folded : ∀ (digits : List Char) (value : Nat),
      (lowered digits).foldlM (addDigit base) value = digits.foldlM (addDigit base) value := by
    intro digits
    induction digits with
    | nil => exact fun value => rfl
    | cons digit digits induction =>
        intro value
        rw [lowered, List.map_cons, List.foldlM_cons, List.foldlM_cons, addDigit_toLower]
        congr 1
        funext next
        exact induction next
  rw [numeral, numeral, folded, List.isEmpty_map]

theorem octet_lowered (digits : List Char) : octet (lowered digits) = octet digits := by
  have leading : (lowered digits).head? = some '0' ↔ digits.head? = some '0' := by
    cases digits with
    | nil => rfl
    | cons digit digits => simpa using toLower_eq_iff (by decide)
  have zero : lowered digits = ['0'] ↔ digits = ['0'] := by
    match digits with
    | [] => simp
    | [digit] => simpa using toLower_eq_iff (by decide)
    | _ :: _ :: _ => simp
  simp only [octet, numeral_lowered, List.length_map, leading, zero, ne_eq]

theorem group_lowered (digits : List Char) : group (lowered digits) = group digits := by
  rw [group, group, hextet, hextet, numeral_lowered, List.length_map, List.isEmpty_map]

theorem splitOn_lowered {mark : Char} (listed : mark ∈ ['.', ':', '0', '%', '/'])
    (text : List Char) :
    (lowered text).splitOn mark = (text.splitOn mark).map lowered := by
  induction text with
  | nil => simp
  | cons character text induction =>
      have same : (character.toLower == mark) = (character == mark) := by
        rw [Bool.eq_iff_iff, beq_iff_eq, beq_iff_eq, toLower_eq_iff listed]
      rw [lowered, List.map_cons, List.splitOn_cons_eq_if_modifyHead,
        List.splitOn_cons_eq_if_modifyHead, same, induction]
      split
      · rw [List.map_cons, lowered, List.map_nil]
      · cases text.splitOn mark with
        | nil => rfl
        | cons field fields => rfl

/-- Reading every field of a text in lower case. -/
theorem mapM_lowered {β : Type} {read : List Char → Option β}
    (same : ∀ field, read (lowered field) = read field) (fields : List (List Char)) :
    (fields.map lowered).mapM read = fields.mapM read := by
  rw [List.mapM_map]
  congr 1
  funext field
  exact same field

theorem ipv4_lowered (text : List Char) : ipv4 (lowered text) = ipv4 text := by
  rw [ipv4, ipv4, splitOn_lowered (by decide), mapM_lowered octet_lowered]

theorem groups_lowered (text : List Char) : groups (lowered text) = groups text := by
  have last : ((text.splitOn ':').map lowered).getLastD [] =
      lowered ((text.splitOn ':').getLastD []) := by
    cases text.splitOn ':' using List.reverseRecOn with
    | nil => rfl
    | append_singleton fields field => simp
  have dotted : ('.' ∈ lowered ((text.splitOn ':').getLastD [])) ↔
      '.' ∈ (text.splitOn ':').getLastD [] := by
    rw [List.mem_map]
    constructor
    · intro ⟨character, member, lower⟩
      rwa [← (toLower_eq_iff (by decide)).mp lower]
    · exact fun member => ⟨'.', member, rfl⟩
  have colon : ':' ∈ ['.', ':', '0', '%', '/'] := by decide
  simp only [groups, splitOn_lowered colon, List.length_map, last, dotted,
    ipv4_lowered, ← List.map_dropLast, mapM_lowered group_lowered]

theorem mem_splitOn (mark : Char) {character : Char} {text : List Char} (member : character ∈ text) :
    character = mark ∨ ∃ field ∈ text.splitOn mark, character ∈ field := by
  induction text with
  | nil => exact absurd member List.not_mem_nil
  | cons first text induction =>
      rw [List.splitOn_cons_eq_if_modifyHead]
      rcases List.mem_cons.mp member with rfl | later
      · by_cases separates : (character == mark) = true
        · exact .inl (beq_iff_eq.mp separates)
        · right
          rw [if_neg separates]
          obtain ⟨field, fields, split⟩ :=
            List.exists_cons_of_ne_nil (List.splitOn_ne_nil mark text)
          rw [split]
          exact ⟨character :: field, List.mem_cons_self, List.mem_cons_self⟩
      · rcases induction later with same | ⟨field, fieldMember, held⟩
        · exact .inl same
        · right
          split
          · exact ⟨field, List.mem_cons_of_mem _ fieldMember, held⟩
          · cases split : text.splitOn mark with
            | nil => exact absurd split (List.splitOn_ne_nil mark text)
            | cons head fields =>
                rw [split] at fieldMember
                rcases List.mem_cons.mp fieldMember with rfl | rest
                · exact ⟨first :: field, List.mem_cons_self, List.mem_cons_of_mem _ held⟩
                · exact ⟨field, List.mem_cons_of_mem _ rest, held⟩

/-- Every item of a list that is read as a whole is read. -/
theorem read_of_mapM {α β : Type} {read : α → Option β} {items : List α} {results : List β}
    (ran : items.mapM read = some results) : ∀ item ∈ items, ∃ result, read item = some result := by
  induction items generalizing results with
  | nil => exact fun item member => absurd member List.not_mem_nil
  | cons first items induction =>
      rw [List.mapM_cons] at ran
      obtain ⟨head, here, ran⟩ := Option.bind_eq_some_iff.mp ran
      obtain ⟨rest, later, -⟩ := Option.bind_eq_some_iff.mp ran
      intro item member
      rcases List.mem_cons.mp member with rfl | other
      · exact ⟨head, here⟩
      · exact induction later item other

/-- The characters of a text are those of its fields, and the marks between them. -/
theorem all_of_fields {β : Type} {read : List Char → Option β} {mark : Char}
    {allowed : Char → Bool} {text : List Char} {results : List β}
    (ran : (text.splitOn mark).mapM read = some results) (marked : allowed mark = true)
    (fields : ∀ field result, read field = some result →
      ∀ character ∈ field, allowed character = true) :
    ∀ character ∈ text, allowed character = true := by
  intro character member
  rcases mem_splitOn mark member with rfl | ⟨field, fieldMember, held⟩
  · exact marked
  · obtain ⟨result, isRead⟩ := read_of_mapM ran field fieldMember
    exact fields field result isRead character held

theorem digits_of_numeral {base value : Nat} {digits : List Char}
    (isRead : numeral base digits = some value) :
    ∀ character ∈ digits, (digit? character).isSome = true := by
  have folded : ∀ (digits : List Char) (start : Nat),
      digits.foldlM (addDigit base) start = some value →
        ∀ character ∈ digits, (digit? character).isSome = true := by
    intro digits
    induction digits with
    | nil => exact fun start ran character member => absurd member List.not_mem_nil
    | cons digit digits induction =>
        intro start ran character member
        rw [List.foldlM_cons] at ran
        obtain ⟨next, added, ran⟩ := Option.bind_eq_some_iff.mp ran
        rcases List.mem_cons.mp member with rfl | later
        · cases known : digit? character with
          | none =>
              rw [addDigit, known] at added
              cases added
          | some number => rfl
        · exact induction next ran character later
  rw [numeral] at isRead
  split at isRead
  · cases isRead
  · exact folded digits 0 isRead

theorem digits_of_octet {value : Nat} {digits : List Char}
    (isRead : octet digits = some value) :
    ∀ character ∈ digits, (digit? character).isSome = true := by
  rw [octet] at isRead
  split at isRead
  · cases isRead
  · exact digits_of_numeral (Option.filter_eq_some_iff.mp isRead).1

theorem isLooseChar_of_digit {character : Char} (digit : (digit? character).isSome = true) :
    isLooseChar character = true := by
  rw [isLooseChar, digit, Bool.true_or]

theorem isAddressChar_of_loose {character : Char} (loose : isLooseChar character = true) :
    isAddressChar character = true := by
  rw [isAddressChar, loose, Bool.true_or]

theorem loose_of_ipv4 {number : Nat} {text : List Char} (isRead : ipv4 text = some number) :
    ∀ character ∈ text, isLooseChar character = true := by
  cases octets : (text.splitOn '.').mapM octet with
  | none =>
      rw [ipv4, octets] at isRead
      cases isRead
  | some values =>
      exact all_of_fields octets (by decide) fun field value fieldRead character member =>
        isLooseChar_of_digit (digits_of_octet fieldRead character member)

theorem loose_of_cNumber {value : Nat} {digits : List Char}
    (isRead : cNumber digits = some value) :
    ∀ character ∈ digits, isLooseChar character = true := by
  have digit : ∀ {base : Nat} {digits : List Char}, numeral base digits = some value →
      ∀ character ∈ digits, isLooseChar character = true :=
    fun read character member => isLooseChar_of_digit (digits_of_numeral read character member)
  fun_cases cNumber digits with
  | case1 digits =>
      rw [cNumber] at isRead
      simpa using ⟨by decide, by decide, digit isRead⟩
  | case2 digits =>
      rw [cNumber] at isRead
      simpa using ⟨by decide, by decide, digit isRead⟩
  | case3 first digits notLower notUpper =>
      rw [cNumber] at isRead
      · simpa using ⟨by decide, by simpa using digit isRead⟩
      · exact notLower
      · exact notUpper
  | case4 digits notLower notUpper notOctal =>
      rw [cNumber] at isRead
      · exact digit isRead
      · exact notLower
      · exact notUpper
      · exact notOctal

theorem loose_of_inetAton {number : Nat} {text : List Char}
    (isRead : inetAton text = some number) :
    ∀ character ∈ text, isLooseChar character = true := by
  obtain ⟨values, numbers, -⟩ := Option.bind_eq_some_iff.mp isRead
  exact all_of_fields numbers (by decide) fun field value fieldRead =>
    loose_of_cNumber fieldRead

theorem address_of_group {value : Option Nat} {digits : List Char}
    (isRead : group digits = some value) :
    ∀ character ∈ digits, isAddressChar character = true := by
  intro character member
  rw [group] at isRead
  split at isRead
  · rename_i empty
    rw [List.isEmpty_iff.mp empty] at member
    exact absurd member List.not_mem_nil
  · obtain ⟨number, hexadecimal, -⟩ := Option.map_eq_some_iff.mp isRead
    rw [hextet] at hexadecimal
    split at hexadecimal
    · cases hexadecimal
    · exact isAddressChar_of_loose
        (isLooseChar_of_digit (digits_of_numeral hexadecimal character member))

theorem address_of_groups {found : List (Option Nat)} {text : List Char}
    (isRead : groups text = some found) :
    ∀ character ∈ text, isAddressChar character = true := by
  obtain ⟨init, last, fields⟩ : ∃ init last, text.splitOn ':' = init ++ [last] := by
    rcases List.eq_nil_or_concat (text.splitOn ':') with empty | ⟨init, last, same⟩
    · exact absurd empty (List.splitOn_ne_nil ':' text)
    · exact ⟨init, last, by rw [same, List.concat_eq_append]⟩
  simp only [groups, fields, List.getLastD_concat, List.dropLast_concat] at isRead
  intro character member
  split at isRead
  · cases isRead
  · split at isRead
    · obtain ⟨four, lastRead, isRead⟩ := Option.bind_eq_some_iff.mp isRead
      obtain ⟨front, frontRead, -⟩ := Option.bind_eq_some_iff.mp isRead
      rcases mem_splitOn ':' member with rfl | ⟨field, fieldMember, held⟩
      · decide
      · rw [fields] at fieldMember
        rcases List.mem_append.mp fieldMember with earlier | final
        · obtain ⟨value, fieldRead⟩ := read_of_mapM frontRead field earlier
          exact address_of_group fieldRead character held
        · rw [List.mem_singleton.mp final] at held
          exact isAddressChar_of_loose (loose_of_ipv4 lastRead character held)
    · rw [← fields] at isRead
      exact all_of_fields isRead (by decide)
        (fun field value fieldRead => address_of_group fieldRead) character member

/-- A text without a colon is no version 6 address. -/
theorem groups_of_no_colon {text : List Char} (none_ : ':' ∉ text) : groups text = none := by
  have whole : text.splitOn ':' = [text] := by
    rw [List.splitOn_eq_splitOnP]
    apply List.splitOnP_eq_singleton
    intro character member
    rw [beq_eq_false_iff_ne]
    intro same
    exact none_ (same ▸ member)
  rw [groups, whole]
  rfl

theorem no_colon_of_loose {text : List Char}
    (loose : ∀ character ∈ text, isLooseChar character = true) : ':' ∉ text := by
  intro member
  exact absurd (loose ':' member) (by decide)

theorem no_mark_of_address {mark : Char} (listed : mark ∈ ['[', ']', '%', '/', 'l', 'o'])
    {text : List Char} (address : ∀ character ∈ text, isAddressChar character = true) :
    mark ∉ text :=
  fun member => not_mark_of_isAddressChar (address mark member) listed

/-- Loosely spelled addresses are of version 4 only. -/
theorem ipv6_of_loose {text : List Char}
    (loose : ∀ character ∈ text, isLooseChar character = true) : ipv6 text = none := by
  have address : ∀ character ∈ text, isAddressChar character = true :=
    fun character member => isAddressChar_of_loose (loose character member)
  rw [ipv6, if_neg (no_mark_of_address (by decide) address),
    if_neg (no_mark_of_address (by decide) address),
    groups_of_no_colon (no_colon_of_loose loose)]
  rfl

theorem cNumber_of_octet {digits : List Char} {value : Nat}
    (isRead : octet digits = some value) : cNumber digits = some value ∧ value < 256 := by
  rw [octet] at isRead
  split at isRead
  · cases isRead
  · rename_i plain
    obtain ⟨decimal, small⟩ := Option.filter_eq_some_iff.mp isRead
    refine ⟨?_, Nat.lt_succ_of_le (of_decide_eq_true small)⟩
    have leading : ∀ digit rest, digits ≠ '0' :: digit :: rest := by
      rintro digit rest rfl
      exact plain (.inr ⟨rfl, by simp⟩)
    rw [cNumber]
    · exact decimal
    · exact fun rest => leading 'x' rest
    · exact fun rest => leading 'X' rest
    · exact fun digit rest => leading digit rest

/-- A strict spelling is one of the loose spellings. -/
theorem inetAton_of_ipv4 {text : List Char} {number : Nat} (isRead : ipv4 text = some number) :
    inetAton text = some number := by
  have octets : ∀ {fields : List (List Char)} {values : List Nat},
      fields.mapM octet = some values →
        fields.mapM cNumber = some values ∧ ∀ value ∈ values, value < 256 := by
    intro fields
    induction fields with
    | nil =>
        intro values ran
        cases ran
        exact ⟨rfl, fun value member => absurd member List.not_mem_nil⟩
    | cons field fields induction =>
        intro values ran
        rw [List.mapM_cons] at ran
        obtain ⟨head, here, ran⟩ := Option.bind_eq_some_iff.mp ran
        obtain ⟨rest, later, ran⟩ := Option.bind_eq_some_iff.mp ran
        cases ran
        obtain ⟨number, small⟩ := cNumber_of_octet here
        obtain ⟨numbers, allSmall⟩ := induction later
        refine ⟨by rw [List.mapM_cons, number, numbers]; rfl, ?_⟩
        exact List.forall_mem_cons.mpr ⟨small, allSmall⟩
  rw [ipv4] at isRead
  split at isRead
  · rename_i first second third fourth fields
    obtain ⟨numbers, small⟩ := octets fields
    rw [inetAton, numbers, Option.bind_some, fill, if_pos, ← isRead]
    simpa using small
  · cases isRead

end NoKnowledge.Ip
