import Mathlib

/-!
# JSON values and their text

Objects list their fields in insertion order.  `stringify` writes the canonical text without
whitespace, `parse` reads any JSON text whose numbers are integers, and reading back a written
value returns that value, fields in the same order.
-/

namespace Dalph

inductive Json where
  | null
  | bool (value : Bool)
  | num (value : Int)
  | str (value : String)
  | arr (items : List Json)
  | obj (fields : List (String × Json))

namespace Json

abbrev Fields := List (String × Json)

def setField : Fields → String → Json → Fields
  | [], key, value => [(key, value)]
  | (name, previous) :: rest, key, value =>
      if name = key then (name, value) :: rest else (name, previous) :: setField rest key value

def hexDigit (digit : Nat) : Char :=
  if digit < 10 then Char.ofNat (48 + digit) else Char.ofNat (87 + digit)

def escapeChar (char : Char) : List Char :=
  if char = '\x22' then ['\\', '\x22']
  else if char = '\\' then ['\\', '\\']
  else if char = '\x08' then ['\\', 'b']
  else if char = '\x0c' then ['\\', 'f']
  else if char = '\n' then ['\\', 'n']
  else if char = '\r' then ['\\', 'r']
  else if char = '\t' then ['\\', 't']
  else if char.toNat < 32 then
    ['\\', 'u', '0', '0', hexDigit (char.toNat / 16), hexDigit (char.toNat % 16)]
  else [char]

def printString : List Char → List Char
  | [] => ['\x22']
  | char :: rest => escapeChar char ++ printString rest

def printNumber : Int → List Char
  | .ofNat value => Nat.toDigits 10 value
  | .negSucc value => '-' :: Nat.toDigits 10 (value + 1)

mutual

def print : Json → List Char
  | .null => ['n', 'u', 'l', 'l']
  | .bool true => ['t', 'r', 'u', 'e']
  | .bool false => ['f', 'a', 'l', 's', 'e']
  | .num value => printNumber value
  | .str value => '\x22' :: printString value.toList
  | .arr [] => ['[', ']']
  | .arr (item :: rest) => '[' :: (print item ++ printItems rest)
  | .obj [] => ['\x7b', '\x7d']
  | .obj ((key, value) :: rest) =>
      '\x7b' :: '\x22' :: (printString key.toList ++ ':' :: (print value ++ printFields rest))

def printItems : List Json → List Char
  | [] => [']']
  | item :: rest => ',' :: (print item ++ printItems rest)

def printFields : Fields → List Char
  | [] => ['\x7d']
  | (key, value) :: rest =>
      ',' :: '\x22' :: (printString key.toList ++ ':' :: (print value ++ printFields rest))

end

def stringify (value : Json) : String :=
  String.ofList value.print

def isSpace (char : Char) : Bool :=
  char = ' ' || char = '\n' || char = '\r' || char = '\t'

def skip (text : List Char) : List Char :=
  text.dropWhile isSpace

def hexValue (char : Char) : Option Nat :=
  if '0' ≤ char ∧ char ≤ '9' then some (char.toNat - 48)
  else if 'a' ≤ char ∧ char ≤ 'f' then some (char.toNat - 87)
  else if 'A' ≤ char ∧ char ≤ 'F' then some (char.toNat - 55)
  else none

/-- The character after a backslash, and the text behind it.  A surrogate escape is refused: it has
no scalar value. -/
def parseEscape : List Char → Option (Char × List Char)
  | '\x22' :: rest => some ('\x22', rest)
  | '\\' :: rest => some ('\\', rest)
  | '/' :: rest => some ('/', rest)
  | 'b' :: rest => some ('\x08', rest)
  | 'f' :: rest => some ('\x0c', rest)
  | 'n' :: rest => some ('\n', rest)
  | 'r' :: rest => some ('\r', rest)
  | 't' :: rest => some ('\t', rest)
  | 'u' :: first :: second :: third :: fourth :: rest => do
      let first ← hexValue first
      let second ← hexValue second
      let third ← hexValue third
      let fourth ← hexValue fourth
      let code := ((first * 16 + second) * 16 + third) * 16 + fourth
      if code.isValidChar then some (Char.ofNat code, rest) else none
  | _ => none

/-- The characters up to the closing quote, and the text behind it. -/
def parseString : Nat → List Char → Option (List Char × List Char)
  | 0, _ => none
  | _ + 1, [] => none
  | fuel + 1, char :: rest =>
      if char = '\x22' then some ([], rest)
      else if char = '\\' then do
        let (char, rest) ← parseEscape rest
        let (chars, rest) ← parseString fuel rest
        some (char :: chars, rest)
      else if char.toNat < 32 then none
      else do
        let (chars, rest) ← parseString fuel rest
        some (char :: chars, rest)

/-- An integer literal, leading zeros allowed, and the text behind it. -/
def parseNumber (text : List Char) : Option (Json × List Char) :=
  let (negative, digits) :=
    match text with
    | '-' :: rest => (true, rest)
    | text => (false, text)
  let chars := digits.takeWhile Char.isDigit
  if chars = [] then none
  else
    let value : Int := Nat.ofDigitChars 10 chars 0
    some (.num (if negative then -value else value), digits.dropWhile Char.isDigit)

mutual

def parseValue : Nat → List Char → Option (Json × List Char)
  | 0, _ => none
  | fuel + 1, text =>
      match skip text with
      | 'n' :: 'u' :: 'l' :: 'l' :: rest => some (.null, rest)
      | 't' :: 'r' :: 'u' :: 'e' :: rest => some (.bool true, rest)
      | 'f' :: 'a' :: 'l' :: 's' :: 'e' :: rest => some (.bool false, rest)
      | '\x22' :: rest => do
          let (chars, rest) ← parseString (rest.length + 1) rest
          some (.str (String.ofList chars), rest)
      | '[' :: rest =>
          match skip rest with
          | ']' :: rest => some (.arr [], rest)
          | rest => do
              let (item, rest) ← parseValue fuel rest
              let (items, rest) ← parseItems fuel rest
              some (.arr (item :: items), rest)
      | '\x7b' :: rest =>
          match skip rest with
          | '\x7d' :: rest => some (.obj [], rest)
          | rest => do
              let (field, rest) ← parseField fuel rest
              let (fields, rest) ← parseFields fuel rest
              some (.obj ((field :: fields).foldl (fun all field => setField all field.1 field.2) []),
                rest)
      | text => parseNumber text

/-- The items after the first one and the closing bracket. -/
def parseItems : Nat → List Char → Option (List Json × List Char)
  | 0, _ => none
  | fuel + 1, text =>
      match skip text with
      | ']' :: rest => some ([], rest)
      | ',' :: rest => do
          let (item, rest) ← parseValue fuel rest
          let (items, rest) ← parseItems fuel rest
          some (item :: items, rest)
      | _ => none

def parseField : Nat → List Char → Option ((String × Json) × List Char)
  | 0, _ => none
  | fuel + 1, text =>
      match skip text with
      | '\x22' :: rest => do
          let (chars, rest) ← parseString (rest.length + 1) rest
          match skip rest with
          | ':' :: rest =>
              let (value, rest) ← parseValue fuel rest
              some ((String.ofList chars, value), rest)
          | _ => none
      | _ => none

/-- The fields after the first one and the closing brace. -/
def parseFields : Nat → List Char → Option (Fields × List Char)
  | 0, _ => none
  | fuel + 1, text =>
      match skip text with
      | '\x7d' :: rest => some ([], rest)
      | ',' :: rest => do
          let (field, rest) ← parseField fuel rest
          let (fields, rest) ← parseFields fuel rest
          some (field :: fields, rest)
      | _ => none

end

/-- `JSON.parse`.  Every recursive call consumes a character, so the length bounds the calls. -/
def parse (text : String) : Option Json :=
  match parseValue (2 * text.toList.length + 2) text.toList with
  | some (value, rest) => if skip rest = [] then some value else none
  | none => none

/-- Every object of the value has distinct keys. -/
inductive WellFormed : Json → Prop
  | null : WellFormed .null
  | bool (value : Bool) : WellFormed (.bool value)
  | num (value : Int) : WellFormed (.num value)
  | str (value : String) : WellFormed (.str value)
  | arr {items : List Json} (wellFormed : ∀ item ∈ items, WellFormed item) :
      WellFormed (.arr items)
  | obj {fields : Fields} (distinct : (fields.map Prod.fst).Nodup)
      (wellFormed : ∀ field ∈ fields, WellFormed field.2) : WellFormed (.obj fields)

theorem hexValue_hexDigit {digit : Nat} (bound : digit < 16) :
    hexValue (hexDigit digit) = some digit := by
  have every : ∀ digit : Fin 16, hexValue (hexDigit digit) = some digit.val := by decide
  exact every ⟨digit, bound⟩

variable {char : Char}

theorem parseEscape_control (control : char.toNat < 32) (rest : List Char) :
    parseEscape ('u' :: '0' :: '0' :: hexDigit (char.toNat / 16) :: hexDigit (char.toNat % 16) ::
      rest) = some (char, rest) := by
  have zero : hexValue '0' = some 0 := by decide
  have code : ((0 * 16 + 0) * 16 + char.toNat / 16) * 16 + char.toNat % 16 = char.toNat := by
    omega
  have valid : char.toNat.isValidChar := Or.inl (by omega)
  have high : hexValue (hexDigit (char.toNat / 16)) = some (char.toNat / 16) :=
    hexValue_hexDigit (by omega)
  have low : hexValue (hexDigit (char.toNat % 16)) = some (char.toNat % 16) :=
    hexValue_hexDigit (by omega)
  simp only [parseEscape, zero, high, low, Option.bind_eq_bind, Option.bind_some, code,
    if_pos valid, Char.ofNat_toNat]

theorem parseString_escapeChar (char : Char) (rest : List Char) (fuel : Nat) :
    parseString (fuel + 1) (escapeChar char ++ rest) =
      (parseString fuel rest).map fun read => (char :: read.1, read.2) := by
  unfold escapeChar
  split_ifs with quote backslash backspace feed newline carriage tab control
  · subst quote
    simp [parseString, parseEscape, Option.map_eq_bind]
  · subst backslash
    simp [parseString, parseEscape, Option.map_eq_bind]
  · subst backspace
    simp [parseString, parseEscape, Option.map_eq_bind]
  · subst feed
    simp [parseString, parseEscape, Option.map_eq_bind]
  · subst newline
    simp [parseString, parseEscape, Option.map_eq_bind]
  · subst carriage
    simp [parseString, parseEscape, Option.map_eq_bind]
  · subst tab
    simp [parseString, parseEscape, Option.map_eq_bind]
  · simp [parseString, parseEscape_control control, Option.map_eq_bind]
  · simp [parseString, quote, backslash, control, Option.map_eq_bind]

theorem parseString_printString (chars rest : List Char) {fuel : Nat}
    (enough : chars.length < fuel) :
    parseString fuel (printString chars ++ rest) = some (chars, rest) := by
  induction chars generalizing fuel with
  | nil =>
      obtain ⟨fuel, rfl⟩ := Nat.exists_eq_add_of_lt enough
      simp [printString, parseString]
  | cons char chars ih =>
      obtain ⟨fuel, rfl⟩ : ∃ less, fuel = less + 1 := ⟨fuel - 1, by omega⟩
      have fewer : chars.length < fuel := by simpa using enough
      rw [printString, List.append_assoc, parseString_escapeChar, ih fewer]
      rfl

def EndsNumber (rest : List Char) : Prop :=
  ∀ char ∈ rest.head?, char.isDigit = false

variable {rest : List Char}

theorem EndsNumber.takeWhile (ends : EndsNumber rest) : rest.takeWhile Char.isDigit = [] := by
  cases rest with
  | nil => rfl
  | cons char rest => simp [ends char (by simp)]

theorem EndsNumber.dropWhile (ends : EndsNumber rest) : rest.dropWhile Char.isDigit = rest := by
  cases rest with
  | nil => rfl
  | cons char rest => simp [ends char (by simp)]

theorem isDigit_of_mem_toDigits {value : Nat} (member : char ∈ Nat.toDigits 10 value) :
    char.isDigit = true :=
  Nat.isDigit_of_mem_toDigits (by decide) (by decide) member

theorem takeWhile_toDigits (value : Nat) (ends : EndsNumber rest) :
    (Nat.toDigits 10 value ++ rest).takeWhile Char.isDigit = Nat.toDigits 10 value := by
  rw [List.takeWhile_append_of_pos fun _ => isDigit_of_mem_toDigits, ends.takeWhile,
    List.append_nil]

theorem dropWhile_toDigits (value : Nat) (ends : EndsNumber rest) :
    (Nat.toDigits 10 value ++ rest).dropWhile Char.isDigit = rest := by
  rw [List.dropWhile_append_of_pos fun _ => isDigit_of_mem_toDigits, ends.dropWhile]

theorem toDigits_eq_cons (value : Nat) :
    ∃ char rest, Nat.toDigits 10 value = char :: rest ∧ char.isDigit = true := by
  obtain ⟨char, rest, text⟩ := List.exists_cons_of_ne_nil (Nat.toDigits_ne_nil (n := value))
  exact ⟨char, rest, text, isDigit_of_mem_toDigits (text ▸ List.mem_cons_self)⟩

theorem parseNumber_printNumber (value : Int) (ends : EndsNumber rest) :
    parseNumber (printNumber value ++ rest) = some (.num value, rest) := by
  cases value with
  | ofNat value =>
      obtain ⟨char, digits, text, digit⟩ := toDigits_eq_cons value
      have positive : char ≠ '-' := by
        rintro rfl
        revert digit
        decide
      have split : (match printNumber (.ofNat value) ++ rest with
          | '-' :: rest => (true, rest)
          | text => (false, text)) = (false, Nat.toDigits 10 value ++ rest) := by
        simp only [printNumber, text, List.cons_append]
        split
        · rename_i same
          exact absurd (List.cons.inj same).1 positive
        · rfl
      unfold parseNumber
      rw [split]
      simp [takeWhile_toDigits value ends, dropWhile_toDigits value ends]
  | negSucc value =>
      simp only [parseNumber, printNumber, List.cons_append,
        takeWhile_toDigits _ ends, dropWhile_toDigits _ ends, Nat.toDigits_ne_nil, if_false,
        Nat.ofDigitChars_ten_toDigits, if_true, Int.negSucc_eq, Int.natCast_add, Int.natCast_one]

def startsValue (char : Char) : Bool :=
  char ∈ ['n', 't', 'f', '\x22', '[', '\x7b', '-'] || char.isDigit

theorem print_eq_cons (value : Json) :
    ∃ char rest, value.print = char :: rest ∧ startsValue char = true := by
  cases value with
  | num value =>
      cases value with
      | ofNat value =>
          obtain ⟨char, rest, text, digit⟩ := toDigits_eq_cons value
          exact ⟨char, rest, text, by simp [startsValue, digit]⟩
      | negSucc value => exact ⟨'-', _, rfl, by decide⟩
  | bool value => cases value <;> exact ⟨_, _, rfl, by decide⟩
  | arr items => cases items <;> exact ⟨_, _, by rw [print], by decide⟩
  | obj fields =>
      rcases fields with _ | ⟨⟨key, value⟩, rest⟩ <;> exact ⟨_, _, by rw [print], by decide⟩
  | null => exact ⟨_, _, by rw [print], by decide⟩
  | str value => exact ⟨_, _, by rw [print], by decide⟩

theorem ne_of_startsValue (starts : startsValue char = true) (other : Char)
    (excluded : startsValue other = false) : char ≠ other := by
  rintro rfl
  rw [starts] at excluded
  cases excluded

theorem skip_cons (visible : isSpace char = false) (rest : List Char) :
    skip (char :: rest) = char :: rest := by
  simp [skip, visible]

theorem isSpace_of_startsValue (starts : startsValue char = true) : isSpace char = false := by
  have space := ne_of_startsValue starts ' ' (by decide)
  have newline := ne_of_startsValue starts '\n' (by decide)
  have carriage := ne_of_startsValue starts '\r' (by decide)
  have tab := ne_of_startsValue starts '\t' (by decide)
  simp [isSpace, space, newline, carriage, tab]

theorem skip_print (value : Json) (rest : List Char) :
    skip (value.print ++ rest) = value.print ++ rest := by
  obtain ⟨char, text, printed, starts⟩ := print_eq_cons value
  rw [printed, List.cons_append, skip_cons (isSpace_of_startsValue starts)]

theorem parseValue_number (number : char = '-' ∨ char.isDigit = true) (fuel : Nat)
    (rest : List Char) : parseValue (fuel + 1) (char :: rest) = parseNumber (char :: rest) := by
  have distinct : ∀ other : Char, other ≠ '-' → other.isDigit = false → char ≠ other := by
    rintro other notMinus notDigit rfl
    rcases number with minus | digit
    · exact notMinus minus
    · rw [digit] at notDigit
      cases notDigit
  have visible : isSpace char = false := by
    simp [isSpace, distinct ' ' (by decide) (by decide), distinct '\n' (by decide) (by decide),
      distinct '\r' (by decide) (by decide), distinct '\t' (by decide) (by decide)]
  rw [parseValue, skip_cons visible]
  split
  all_goals first
    | rfl
    | exact absurd (List.cons.inj ‹_›).1 (distinct _ (by decide) (by decide))

def Reads (value : Json) : Prop :=
  ∀ (fuel : Nat) (rest : List Char), 2 * value.print.length < fuel → EndsNumber rest →
    parseValue fuel (value.print ++ rest) = some (value, rest)

theorem reads_num (value : Int) : Reads (.num value) := by
  intro fuel rest enough ends
  obtain ⟨fuel, rfl⟩ : ∃ less, fuel = less + 1 := ⟨fuel - 1, by omega⟩
  rw [print]
  have start : ∃ char text, printNumber value = char :: text ∧
      (char = '-' ∨ char.isDigit = true) := by
    cases value with
    | ofNat value =>
        obtain ⟨char, text, printed, digit⟩ := toDigits_eq_cons value
        exact ⟨char, text, printed, Or.inr digit⟩
    | negSucc value => exact ⟨'-', _, rfl, Or.inl rfl⟩
  obtain ⟨char, text, printed, number⟩ := start
  rw [printed, List.cons_append, parseValue_number number, ← List.cons_append, ← printed,
    parseNumber_printNumber value ends]

theorem endsNumber_printItems (items : List Json) (rest : List Char) :
    EndsNumber (printItems items ++ rest) := by
  cases items <;> simp [EndsNumber, printItems]

theorem endsNumber_printFields (fields : Fields) (rest : List Char) :
    EndsNumber (printFields fields ++ rest) := by
  rcases fields with _ | ⟨⟨key, value⟩, fields⟩ <;> simp [EndsNumber, printFields]

theorem parseItems_printItems {items : List Json} (reads : ∀ item ∈ items, Reads item) {fuel : Nat}
    (enough : 2 * (printItems items).length < fuel) :
    parseItems fuel (printItems items ++ rest) = some (items, rest) := by
  induction items generalizing fuel with
  | nil =>
      obtain ⟨fuel, rfl⟩ : ∃ less, fuel = less + 1 := ⟨fuel - 1, by omega⟩
      rw [printItems, List.cons_append, parseItems, skip_cons (by decide)]
      rfl
  | cons item items ih =>
      obtain ⟨fuel, rfl⟩ : ∃ less, fuel = less + 1 := ⟨fuel - 1, by omega⟩
      simp only [printItems, List.length_cons, List.length_append] at enough
      rw [printItems, List.cons_append, List.append_assoc, parseItems, skip_cons (by decide)]
      have first := reads item List.mem_cons_self fuel (printItems items ++ rest) (by omega)
        (endsNumber_printItems items rest)
      have others : parseItems fuel (printItems items ++ rest) = some (items, rest) :=
        ih (fun other member => reads other (List.mem_cons_of_mem _ member)) (by omega)
      simp only [first, others, Option.bind_eq_bind, Option.bind_some]

def printField (field : String × Json) : List Char :=
  '\x22' :: (printString field.1.toList ++ ':' :: field.2.print)

theorem length_lt_printString (chars : List Char) : chars.length < (printString chars).length := by
  induction chars with
  | nil => decide
  | cons char chars ih =>
      have positive : 0 < (escapeChar char).length := by
        unfold escapeChar
        split_ifs <;> simp
      simp only [printString, List.length_append, List.length_cons]
      omega

theorem parseField_printField {field : String × Json} (reads : Reads field.2) {fuel : Nat}
    (enough : 2 * (printField field).length < fuel + 1) (ends : EndsNumber rest) :
    parseField fuel (printField field ++ rest) = some (field, rest) := by
  simp only [printField, List.length_cons, List.length_append] at enough
  obtain ⟨fuel, rfl⟩ : ∃ less, fuel = less + 1 := ⟨fuel - 1, by omega⟩
  have key : ∀ text : List Char,
      parseString ((printString field.1.toList ++ text).length + 1)
        (printString field.1.toList ++ text) = some (field.1.toList, text) := by
    intro text
    apply parseString_printString
    have longer := length_lt_printString field.1.toList
    rw [List.length_append]
    omega
  have value := reads fuel rest (by omega) ends
  have quote : skip ('\x22' :: (printString field.1.toList ++ ':' :: (field.2.print ++ rest))) =
      '\x22' :: (printString field.1.toList ++ ':' :: (field.2.print ++ rest)) :=
    skip_cons (by decide) _
  have colon : skip (':' :: (field.2.print ++ rest)) = ':' :: (field.2.print ++ rest) :=
    skip_cons (by decide) _
  simp only [printField, List.cons_append, List.append_assoc, parseField, quote, key, colon,
    value, Option.bind_eq_bind, Option.bind_some, String.ofList_toList]

theorem printFields_cons (field : String × Json) (fields : Fields) :
    printFields (field :: fields) = ',' :: (printField field ++ printFields fields) := by
  rw [printFields, printField]
  simp

variable {fields : Fields}

theorem parseFields_printFields (reads : ∀ field ∈ fields, Reads field.2) {fuel : Nat}
    (enough : 2 * (printFields fields).length < fuel) :
    parseFields fuel (printFields fields ++ rest) = some (fields, rest) := by
  induction fields generalizing fuel with
  | nil =>
      obtain ⟨fuel, rfl⟩ : ∃ less, fuel = less + 1 := ⟨fuel - 1, by omega⟩
      rw [printFields, List.cons_append, parseFields, skip_cons (by decide)]
      rfl
  | cons field fields ih =>
      obtain ⟨fuel, rfl⟩ : ∃ less, fuel = less + 1 := ⟨fuel - 1, by omega⟩
      rw [printFields_cons] at enough ⊢
      simp only [List.length_cons, List.length_append] at enough
      rw [List.cons_append, List.append_assoc, parseFields, skip_cons (by decide)]
      have first : parseField fuel (printField field ++ (printFields fields ++ rest)) =
          some (field, printFields fields ++ rest) :=
        parseField_printField (reads field List.mem_cons_self) (by omega)
          (endsNumber_printFields fields rest)
      have others : parseFields fuel (printFields fields ++ rest) = some (fields, rest) :=
        ih (fun other member => reads other (List.mem_cons_of_mem _ member)) (by omega)
      simp only [first, others, Option.bind_eq_bind, Option.bind_some]

variable {key : String}

theorem setField_of_not_mem (absent : key ∉ fields.map Prod.fst) (value : Json) :
    setField fields key value = fields ++ [(key, value)] := by
  induction fields with
  | nil => rfl
  | cons field fields ih =>
      obtain ⟨name, previous⟩ := field
      simp only [List.map_cons, List.mem_cons, not_or] at absent
      rw [setField, if_neg (Ne.symm absent.1), ih absent.2, List.cons_append]

theorem foldl_setField (before : Fields) (distinct : ((before ++ fields).map Prod.fst).Nodup) :
    fields.foldl (fun all field => setField all field.1 field.2) before = before ++ fields := by
  induction fields generalizing before with
  | nil => simp
  | cons field fields ih =>
      have absent : field.1 ∉ before.map Prod.fst := by
        rw [List.map_append, List.map_cons] at distinct
        intro present
        exact (List.nodup_append.mp distinct).2.2 _ present _ List.mem_cons_self rfl
      rw [List.foldl_cons, setField_of_not_mem absent, ih (before ++ [field]) (by simpa using
        distinct), List.append_assoc, List.singleton_append]

theorem reads_arr {items : List Json} (reads : ∀ item ∈ items, Reads item) :
    Reads (.arr items) := by
  intro fuel rest enough ends
  obtain ⟨fuel, rfl⟩ : ∃ less, fuel = less + 1 := ⟨fuel - 1, by omega⟩
  cases items with
  | nil =>
      rw [print, List.cons_append, parseValue, skip_cons (by decide)]
      rfl
  | cons item items =>
      simp only [print, List.length_cons, List.length_append] at enough
      rw [print, List.cons_append, List.append_assoc, parseValue, skip_cons (by decide)]
      have first := reads item List.mem_cons_self fuel (printItems items ++ rest) (by omega)
        (endsNumber_printItems items rest)
      have others : parseItems fuel (printItems items ++ rest) = some (items, rest) :=
        parseItems_printItems (fun other member => reads other (List.mem_cons_of_mem _ member))
          (by omega)
      obtain ⟨char, text, printed, starts⟩ := print_eq_cons item
      simp only [skip_print]
      split
      · rename_i closing
        rw [printed] at closing
        exact absurd (List.cons.inj closing).1 (ne_of_startsValue starts ']' (by decide))
      · simp only [first, others, Option.bind_eq_bind, Option.bind_some]

theorem reads_obj (distinct : (fields.map Prod.fst).Nodup) (reads : ∀ field ∈ fields, Reads field.2)
    : Reads (.obj fields) := by
  intro fuel rest enough ends
  obtain ⟨fuel, rfl⟩ : ∃ less, fuel = less + 1 := ⟨fuel - 1, by omega⟩
  cases fields with
  | nil =>
      rw [print, List.cons_append, parseValue, skip_cons (by decide)]
      rfl
  | cons field fields =>
      have printed : print (.obj (field :: fields)) =
          '\x7b' :: (printField field ++ printFields fields) := by
        rw [print, printField]
        simp
      rw [printed] at enough ⊢
      simp only [List.length_cons, List.length_append] at enough
      have first : parseField fuel (printField field ++ (printFields fields ++ rest)) =
          some (field, printFields fields ++ rest) :=
        parseField_printField (reads field List.mem_cons_self) (by omega)
          (endsNumber_printFields fields rest)
      have others : parseFields fuel (printFields fields ++ rest) = some (fields, rest) :=
        parseFields_printFields (fun other member => reads other (List.mem_cons_of_mem _ member))
          (by omega)
      have quoted : skip (printField field ++ (printFields fields ++ rest)) =
          printField field ++ (printFields fields ++ rest) := skip_cons (by decide) _
      rw [List.cons_append, List.append_assoc, parseValue, skip_cons (by decide)]
      simp only [quoted]
      split
      · rename_i closing
        exact absurd (List.cons.inj closing).1 (by decide)
      · have kept := foldl_setField [] distinct
        simp only [List.nil_append] at kept
        simp only [first, others, kept, Option.bind_eq_bind, Option.bind_some]

variable {value : Json}

theorem WellFormed.reads (wellFormed : WellFormed value) : Reads value := by
  induction wellFormed with
  | null =>
      intro fuel rest enough _
      obtain ⟨fuel, rfl⟩ : ∃ less, fuel = less + 1 := ⟨fuel - 1, by omega⟩
      rw [print, List.cons_append, parseValue, skip_cons (by decide)]
      rfl
  | bool value =>
      intro fuel rest enough _
      obtain ⟨fuel, rfl⟩ : ∃ less, fuel = less + 1 := ⟨fuel - 1, by omega⟩
      cases value <;> rw [print, List.cons_append, parseValue, skip_cons (by decide)] <;> rfl
  | num value => exact reads_num value
  | str value =>
      intro fuel rest enough _
      obtain ⟨fuel, rfl⟩ : ∃ less, fuel = less + 1 := ⟨fuel - 1, by omega⟩
      have read : parseString ((printString value.toList ++ rest).length + 1)
          (printString value.toList ++ rest) = some (value.toList, rest) := by
        apply parseString_printString
        have longer := length_lt_printString value.toList
        rw [List.length_append]
        omega
      rw [print, List.cons_append, parseValue, skip_cons (by decide)]
      simp only [read, Option.bind_eq_bind, Option.bind_some, String.ofList_toList]
  | arr _ ih => exact reads_arr ih
  | obj distinct _ ih => exact reads_obj distinct ih

theorem parse_stringify (wellFormed : WellFormed value) : parse (stringify value) = some value := by
  have read := wellFormed.reads (2 * value.print.length + 2) [] (by omega) (by simp [EndsNumber])
  rw [List.append_nil] at read
  simp [parse, stringify, read, skip]

theorem stringify_injective {left right : Json} (leftWellFormed : WellFormed left)
    (rightWellFormed : WellFormed right) (same : stringify left = stringify right) :
    left = right := by
  have read := parse_stringify leftWellFormed
  rw [same, parse_stringify rightWellFormed] at read
  exact (Option.some.inj read).symm

def without (fields : Fields) (key : String) : Fields :=
  fields.filter (·.1 ≠ key)

theorem mem_of_lookup (found : fields.lookup key = some value) : (key, value) ∈ fields := by
  induction fields with
  | nil => simp at found
  | cons field fields ih =>
      obtain ⟨name, previous⟩ := field
      rw [List.lookup_cons] at found
      by_cases same : key = name
      · subst same
        simp only [beq_self_eq_true, Option.some.injEq] at found
        subst found
        exact List.mem_cons_self
      · rw [beq_false_of_ne same] at found
        exact List.mem_cons_of_mem _ (ih found)

theorem mem_keys_of_lookup (found : fields.lookup key = some value) : key ∈ fields.map Prod.fst :=
  List.mem_map.mpr ⟨_, mem_of_lookup found, rfl⟩

theorem lookup_eq_none_iff : fields.lookup key = none ↔ key ∉ fields.map Prod.fst := by
  induction fields with
  | nil => simp
  | cons field fields ih =>
      obtain ⟨name, previous⟩ := field
      by_cases same : key = name
      · simp [same]
      · simp [List.lookup_cons, beq_false_of_ne same, same, ih]

theorem key_ne_of_mem (absent : key ∉ fields.map Prod.fst) {field : String × Json}
    (member : field ∈ fields) : field.1 ≠ key := by
  intro same
  exact absent (same ▸ List.mem_map_of_mem member)

theorem lookup_of_mem (distinct : (fields.map Prod.fst).Nodup) (member : (key, value) ∈ fields) :
    fields.lookup key = some value := by
  induction fields with
  | nil => simp at member
  | cons field fields ih =>
      obtain ⟨name, previous⟩ := field
      obtain ⟨absent, distinct⟩ := List.nodup_cons.mp distinct
      rcases List.mem_cons.mp member with first | later
      · cases first
        simp
      · rw [List.lookup_cons, beq_false_of_ne (key_ne_of_mem absent later)]
        exact ih distinct later

theorem lookup_map (transform : Json → Json) (fields : Fields) (key : String) :
    (fields.map fun field => (field.1, transform field.2)).lookup key =
      (fields.lookup key).map transform := by
  induction fields with
  | nil => rfl
  | cons field fields ih =>
      obtain ⟨name, previous⟩ := field
      by_cases same : key = name
      · simp [same]
      · simpa [List.lookup_cons, beq_false_of_ne same] using ih

theorem lookup_append (left right : Fields) (key : String) :
    (left ++ right).lookup key = (left.lookup key).or (right.lookup key) := by
  induction left with
  | nil => simp
  | cons field fields ih =>
      obtain ⟨name, previous⟩ := field
      by_cases same : key = name
      · simp [same]
      · simpa [List.lookup_cons, beq_false_of_ne same] using ih

theorem lookup_without_self (fields : Fields) (key : String) :
    (without fields key).lookup key = none := by
  rw [lookup_eq_none_iff, without]
  rintro member
  obtain ⟨field, kept, rfl⟩ := List.mem_map.mp member
  simp at kept

theorem lookup_without_of_ne (fields : Fields) {other : String} (different : other ≠ key) :
    (without fields key).lookup other = fields.lookup other := by
  induction fields with
  | nil => rfl
  | cons field fields ih =>
      obtain ⟨name, previous⟩ := field
      by_cases removed : name = key
      · subst removed
        simpa [without, List.lookup_cons, beq_false_of_ne different] using ih
      · by_cases same : other = name
        · simp [without, removed, same]
        · simpa [without, removed, List.lookup_cons, beq_false_of_ne same] using ih

theorem without_append_perm (distinct : (fields.map Prod.fst).Nodup)
    (found : fields.lookup key = some value) :
    (without fields key ++ [(key, value)]).Perm fields := by
  induction fields with
  | nil => simp at found
  | cons field fields ih =>
      obtain ⟨name, previous⟩ := field
      obtain ⟨absent, distinct⟩ := List.nodup_cons.mp distinct
      by_cases same : name = key
      · subst same
        rw [List.lookup_cons, beq_self_eq_true] at found
        obtain rfl : previous = value := Option.some.inj found
        have kept : without fields name = fields := by
          apply List.filter_eq_self.mpr
          intro other member
          simpa using key_ne_of_mem absent member
        have removed : without ((name, previous) :: fields) name = fields := by
          rw [← kept]
          simp [without]
        rw [removed]
        exact List.perm_append_singleton _ _
      · have found : fields.lookup key = some value := by
          simpa [List.lookup_cons, beq_false_of_ne (Ne.symm same)] using found
        have kept : without ((name, previous) :: fields) key =
            (name, previous) :: without fields key := by simp [without, same]
        rw [kept, List.cons_append]
        exact (ih distinct found).cons _

theorem setField_of_mem (distinct : (fields.map Prod.fst).Nodup)
    (present : key ∈ fields.map Prod.fst) (value : Json) :
    setField fields key value =
      fields.map fun field => if field.1 = key then (key, value) else field := by
  induction fields with
  | nil => simp at present
  | cons field fields ih =>
      obtain ⟨name, previous⟩ := field
      obtain ⟨absent, distinct⟩ := List.nodup_cons.mp distinct
      by_cases same : name = key
      · subst same
        have kept : (fields.map fun field => if field.1 = name then (name, value) else field) =
            fields := by
          rw [List.map_congr_left (g := id), List.map_id]
          intro field member
          simp [key_ne_of_mem absent member]
        simp [setField, kept]
      · have present : key ∈ fields.map Prod.fst := by
          simpa [Ne.symm same] using present
        simp [setField, same, ih distinct present]

theorem sizeOf_lt_of_lookup (found : fields.lookup key = some value) :
    sizeOf value < sizeOf (Json.obj fields) := by
  have smaller := List.sizeOf_lt_of_mem (mem_of_lookup found)
  simp only [Prod.mk.sizeOf_spec, obj.sizeOf_spec] at smaller ⊢
  omega

/-- Equality up to the order of object keys: the congruence generated by reordering fields. -/
inductive Equivalent : Json → Json → Prop
  | refl (value : Json) : Equivalent value value
  | items {left right : List Json} (same : List.Forall₂ Equivalent left right) :
      Equivalent (.arr left) (.arr right)
  | values {left right : Fields} (keys : left.map Prod.fst = right.map Prod.fst)
      (same : List.Forall₂ Equivalent (left.map Prod.snd) (right.map Prod.snd)) :
      Equivalent (.obj left) (.obj right)
  | order {left right : Fields} (reordered : left.Perm right) :
      Equivalent (.obj left) (.obj right)
  | trans {first second third : Json} (left : Equivalent first second)
      (right : Equivalent second third) : Equivalent first third

theorem equivalent_map {transform : String × Json → String × Json}
    (same : ∀ field ∈ fields,
      (transform field).1 = field.1 ∧ Equivalent (transform field).2 field.2) :
    Equivalent (.obj (fields.map transform)) (.obj fields) := by
  apply Equivalent.values
  · rw [List.map_map]
    exact List.map_congr_left fun field member => (same field member).1
  · rw [List.map_map, List.forall₂_map_left_iff, List.forall₂_map_right_iff, List.forall₂_same]
    exact fun field member => (same field member).2

def keys : Json → List String
  | .obj fields => fields.map Prod.fst
  | _ => []

theorem Equivalent.keys_perm {left right : Json} : Equivalent left right →
    left.keys.Perm right.keys
  | .refl _ => .refl _
  | .items _ => .refl _
  | .values keys _ => .of_eq keys
  | .order reordered => reordered.map _
  | .trans left right => left.keys_perm.trans right.keys_perm

def extend (extra : Fields) : Json → Json
  | .obj fields => .obj (fields ++ extra)
  | value => value

theorem Equivalent.extend {left right : Json} (extra : Fields) : Equivalent left right →
    Equivalent (left.extend extra) (right.extend extra)
  | .refl _ => .refl _
  | .items same => .items same
  | .values keys same => by
      refine .values (by simp [keys]) ?_
      rw [List.map_append, List.map_append]
      exact List.rel_append same (List.forall₂_same.mpr fun value _ => .refl value)
  | .order reordered => .order (reordered.append_right extra)
  | .trans left right => (left.extend extra).trans (right.extend extra)

end Json
end Dalph
