import ClassRecovery.Json.Basic

namespace ClassRecovery

/-!
# JSON as text

`Json.text` writes a value without blanks, and `Json.ofText?` reads any text of
the format.  A number written with a point or an exponent is read as a decimal,
and so is a negative zero, which no integer can hold.

The readers consume a list of characters and return what they leave.  Each one
that recurses takes a bound on its depth, and the bound is the length of the
text: every level of recursion consumes a character at least.
-/

namespace Json

/-! ## Writing -/

def hexDigit (value : Nat) : Char :=
  (['0', '1', '2', '3', '4', '5', '6', '7', '8', '9', 'a', 'b', 'c', 'd', 'e', 'f'][value]?).getD '0'

/-- Quotes, backslashes and control characters are escaped, and nothing else. -/
def escaped (character : Char) : List Char :=
  if character = '"' then ['\\', '"']
  else if character = '\\' then ['\\', '\\']
  else if character = '\n' then ['\\', 'n']
  else if character = '\r' then ['\\', 'r']
  else if character = '\t' then ['\\', 't']
  else if character.toNat < 32 then
    ['\\', 'u', '0', '0', hexDigit (character.toNat / 16), hexDigit (character.toNat % 16)]
  else [character]

def quoted (text : String) : String :=
  String.ofList ('"' :: text.toList.flatMap escaped ++ ['"'])

mutual

/-- The value as text, without blanks. -/
def text : Json → String
  | .null => "null"
  | .boolean true => "true"
  | .boolean false => "false"
  | .integer value => toString value
  | .decimal value => value.text
  | .string text => quoted text
  | .array elements => "[" ++ ",".intercalate (textOfElements elements) ++ "]"
  | .object fields => "\x7b" ++ ",".intercalate (textOfFields fields) ++ "\x7d"

def textOfElements : List Json → List String
  | [] => []
  | element :: rest => element.text :: textOfElements rest

def textOfFields : List (String × Json) → List String
  | [] => []
  | (name, value) :: rest => (quoted name ++ ":" ++ value.text) :: textOfFields rest

end

/-! ## Reading -/

def isBlank (character : Char) : Bool :=
  character == ' ' || character == '\n' || character == '\r' || character == '\t'

def skipBlanks (characters : List Char) : List Char :=
  characters.dropWhile isBlank

/-- The rest of a text that begins with the given characters. -/
def rest? : List Char → List Char → Option (List Char)
  | [], characters => some characters
  | expected :: more, character :: rest =>
      if expected = character then rest? more rest else none
  | _ :: _, [] => none

def hexValue? (character : Char) : Option Nat :=
  let code := character.toNat
  if 48 ≤ code ∧ code ≤ 57 then some (code - 48)
  else if 97 ≤ code ∧ code ≤ 102 then some (code - 87)
  else if 65 ≤ code ∧ code ≤ 70 then some (code - 55)
  else none

/-- Four hexadecimal digits, as they follow the letter of an escape. -/
def codeUnit? : List Char → Option (Nat × List Char)
  | first :: second :: third :: fourth :: rest => do
      let high := (← hexValue? first) * 16 + (← hexValue? second)
      let low := (← hexValue? third) * 16 + (← hexValue? fourth)
      some (high * 256 + low, rest)
  | _ => none

/-- One character given by code units.  A pair of surrogates stands for one
character, and a surrogate on its own for none. -/
def escapedCharacter? (characters : List Char) : Option (Char × List Char) := do
  let (unit, rest) ← codeUnit? characters
  if 0xD800 ≤ unit ∧ unit < 0xDC00 then
    let (low, rest) ← codeUnit? (← rest? ['\\', 'u'] rest)
    if 0xDC00 ≤ low ∧ low < 0xE000 then
      some (Char.ofNat (0x10000 + (unit - 0xD800) * 0x400 + (low - 0xDC00)), rest)
    else none
  else if 0xDC00 ≤ unit ∧ unit < 0xE000 then none
  else some (Char.ofNat unit, rest)

def shortEscape? : Char → Option Char
  | '"' => some '"'
  | '\\' => some '\\'
  | '/' => some '/'
  | 'b' => some '\x08'
  | 'f' => some '\x0c'
  | 'n' => some '\n'
  | 'r' => some '\r'
  | 't' => some '\t'
  | _ => none

/-- The inside of a string up to its closing quote.  Characters already read
are kept in reverse. -/
def stringBody? : Nat → List Char → List Char → Option (String × List Char)
  | 0, _, _ => none
  | bound + 1, done, characters =>
      match characters with
      | [] => none
      | '"' :: rest => some (String.ofList done.reverse, rest)
      | '\\' :: 'u' :: rest =>
          match escapedCharacter? rest with
          | some (character, rest) => stringBody? bound (character :: done) rest
          | none => none
      | '\\' :: letter :: rest =>
          match shortEscape? letter with
          | some character => stringBody? bound (character :: done) rest
          | none => none
      | character :: rest =>
          if character = '\\' ∨ character.toNat < 32 then none
          else stringBody? bound (character :: done) rest

def takeDigits (characters : List Char) : List Char × List Char :=
  (characters.takeWhile Char.isDigit, characters.dropWhile Char.isDigit)

def valueOfDigits (digits : List Char) : Nat :=
  digits.foldl (fun value digit => value * 10 + (digit.toNat - 48)) 0

/-- The digits after a point, at least one, or none where there is no point. -/
def fraction? : List Char → Option (List Char × List Char)
  | '.' :: rest =>
      match takeDigits rest with
      | ([], _) => none
      | taken => some taken
  | characters => some ([], characters)

/-- The power of ten after the letter of an exponent, where there is one. -/
def exponent? : List Char → Option (Option Int × List Char)
  | letter :: rest =>
      if letter = 'e' ∨ letter = 'E' then
        let (negative, rest) := match rest with
          | '-' :: rest => (true, rest)
          | '+' :: rest => (false, rest)
          | rest => (false, rest)
        match takeDigits rest with
        | ([], _) => none
        | (digits, rest) =>
            let value : Int := valueOfDigits digits
            some (some (if negative then -value else value), rest)
      else some (none, letter :: rest)
  | [] => some (none, [])

/-- A number without its sign.  A whole part of several digits does not begin
with a zero. -/
def number? (negative : Bool) (characters : List Char) : Option (Json × List Char) := do
  let (whole, rest) := takeDigits characters
  if whole = [] ∨ (whole.head? = some '0' ∧ whole.length ≠ 1) then none
  else
    let (fraction, rest) ← fraction? rest
    let (exponent, rest) ← exponent? rest
    let digits := valueOfDigits (whole ++ fraction)
    if fraction = [] ∧ exponent = none ∧ ¬(negative = true ∧ digits = 0) then
      some (.integer (if negative then -(digits : Int) else digits), rest)
    else
      some (.decimal ⟨negative, digits, exponent.getD 0 - fraction.length⟩, rest)

/-- Add a field to an object under construction, kept in reverse.  A name that
occurs again replaces the earlier field. -/
def addField (name : String) (value : Json) (done : List (String × Json)) : List (String × Json) :=
  (name, value) :: done.filter (·.1 != name)

mutual

/-- One value at the start of a text, blanks before it allowed. -/
def value? : Nat → List Char → Option (Json × List Char)
  | 0, _ => none
  | bound + 1, characters =>
      match skipBlanks characters with
      | '"' :: rest => (stringBody? (rest.length + 1) [] rest).map fun (text, rest) => (.string text, rest)
      | '[' :: rest =>
          match skipBlanks rest with
          | ']' :: rest => some (.array [], rest)
          | _ => (elementsOf? bound [] rest).map fun (elements, rest) => (.array elements, rest)
      | '\x7b' :: rest =>
          match skipBlanks rest with
          | '\x7d' :: rest => some (.object [], rest)
          | _ => (fieldsOf? bound [] rest).map fun (fields, rest) => (.object fields, rest)
      | '-' :: rest => number? true rest
      | 'n' :: rest => (rest? ['u', 'l', 'l'] rest).map fun rest => (.null, rest)
      | 't' :: rest => (rest? ['r', 'u', 'e'] rest).map fun rest => (.boolean true, rest)
      | 'f' :: rest => (rest? ['a', 'l', 's', 'e'] rest).map fun rest => (.boolean false, rest)
      | characters => number? false characters

/-- The elements of an array from the next one to the closing bracket. -/
def elementsOf? : Nat → List Json → List Char → Option (List Json × List Char)
  | 0, _, _ => none
  | bound + 1, done, characters =>
      match value? bound characters with
      | none => none
      | some (element, rest) =>
          match skipBlanks rest with
          | ',' :: rest => elementsOf? bound (element :: done) rest
          | ']' :: rest => some ((element :: done).reverse, rest)
          | _ => none

/-- The fields of an object from the next one to the closing brace. -/
def fieldsOf? : Nat → List (String × Json) → List Char → Option (List (String × Json) × List Char)
  | 0, _, _ => none
  | bound + 1, done, characters =>
      match skipBlanks characters with
      | '"' :: rest =>
          match stringBody? (rest.length + 1) [] rest with
          | none => none
          | some (name, rest) =>
              match skipBlanks rest with
              | ':' :: rest =>
                  match value? bound rest with
                  | none => none
                  | some (value, rest) =>
                      match skipBlanks rest with
                      | ',' :: rest => fieldsOf? bound (addField name value done) rest
                      | '\x7d' :: rest => some ((addField name value done).reverse, rest)
                      | _ => none
              | _ => none
      | _ => none

end

/-- The value that a whole text writes. -/
def ofText? (text : String) : Option Json :=
  match value? (text.length + 1) text.toList with
  | some (value, rest) => if (skipBlanks rest).isEmpty then some value else none
  | none => none

end Json

end ClassRecovery
