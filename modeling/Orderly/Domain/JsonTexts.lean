import Orderly.Domain.JsonObjects

/-!
# JSON texts

`JSON.parse`.  The text that JavaScript prints for the number a literal stands
for is a parameter.  A lone surrogate becomes a replacement character.
-/

namespace Orderly
namespace Json

/-! ## Strings -/

def hexDigit? (c : Char) : Option Nat :=
  if '0' ≤ c ∧ c ≤ '9' then some (c.toNat - 48)
  else if 'a' ≤ c ∧ c ≤ 'f' then some (c.toNat - 87)
  else if 'A' ≤ c ∧ c ≤ 'F' then some (c.toNat - 55)
  else none

/-- `uXXXX`. -/
def hexUnit? (a b c d : Char) : Option Nat := do
  return 4096 * (← hexDigit? a) + 256 * (← hexDigit? b) + 16 * (← hexDigit? c) + (← hexDigit? d)

/-- What stands for a character behind a backslash. -/
def unescape? (c : Char) : Option Char :=
  if c = '"' ∨ c = '\\' ∨ c = '/' then some c
  else if c = 'n' then some '\n'
  else if c = 'r' then some '\r'
  else if c = 't' then some '\t'
  else if c = 'b' then some (Char.ofNat 8)
  else if c = 'f' then some (Char.ofNat 12)
  else none

/-- The code units of a string from behind its opening quote, and what follows it. -/
def readUnits : List Char → Option (List Nat × List Char)
  | [] => none
  | '"' :: rest => some ([], rest)
  | '\\' :: 'u' :: a :: b :: c :: d :: rest =>
      match hexUnit? a b c d, readUnits rest with
      | some unit, some (units, rest) => some (unit :: units, rest)
      | _, _ => none
  | '\\' :: c :: rest =>
      match unescape? c, readUnits rest with
      | some c, some (units, rest) => some (utf16 c ++ units, rest)
      | _, _ => none
  | c :: rest =>
      if c.toNat < 32 then none
      else (readUnits rest).map fun (units, rest) => (utf16 c ++ units, rest)

/-- A code unit by itself. -/
def ofUnit (unit : Nat) : Char := if 0xD800 ≤ unit ∧ unit < 0xE000 then '\uFFFD' else Char.ofNat unit

def ofUnits : List Nat → List Char
  | [] => []
  | [unit] => [ofUnit unit]
  | high :: low :: rest =>
      if 0xD800 ≤ high ∧ high < 0xDC00 ∧ 0xDC00 ≤ low ∧ low < 0xE000 then
        Char.ofNat (0x10000 + (high - 0xD800) * 0x400 + (low - 0xDC00)) :: ofUnits rest
      else ofUnit high :: ofUnits (low :: rest)

def readString (text : List Char) : Option (String × List Char) :=
  (readUnits text).map fun (units, rest) => (String.ofList (ofUnits units), rest)

/-! ## Numbers -/

/-- `\d+`. -/
def readDigits (text : List Char) : Option (List Char × List Char) :=
  let (digits, rest) := text.span Decimal.isDigit
  if digits = [] then none else some (digits, rest)

/-- `0|[1-9]\d*`. -/
def readWhole : List Char → Option (List Char × List Char)
  | '0' :: rest => some (['0'], rest)
  | text => readDigits text

/-- `(\.\d+)?`. -/
def readFraction : List Char → Option (List Char × List Char)
  | '.' :: rest => (readDigits rest).map fun (digits, rest) => ('.' :: digits, rest)
  | text => some ([], text)

/-- `[+-]?\d+`. -/
def readSigned : List Char → Option (List Char × List Char)
  | '+' :: rest => (readDigits rest).map fun (digits, rest) => ('+' :: digits, rest)
  | '-' :: rest => (readDigits rest).map fun (digits, rest) => ('-' :: digits, rest)
  | text => readDigits text

/-- `([eE][+-]?\d+)?`. -/
def readPower : List Char → Option (List Char × List Char)
  | 'e' :: rest => (readSigned rest).map fun (digits, rest) => ('e' :: digits, rest)
  | 'E' :: rest => (readSigned rest).map fun (digits, rest) => ('E' :: digits, rest)
  | text => some ([], text)

/-- One reader after another. -/
def andThen (first second : List Char → Option (List Char × List Char)) (text : List Char) :
    Option (List Char × List Char) := do
  let (read, rest) ← first text
  let (read', rest') ← second rest
  return (read ++ read', rest')

/-- A number without its sign. -/
def readMagnitude : List Char → Option (List Char × List Char) :=
  andThen readWhole (andThen readFraction readPower)

def readNumber : List Char → Option (List Char × List Char)
  | '-' :: rest => (readMagnitude rest).map fun (literal, rest) => ('-' :: literal, rest)
  | text => readMagnitude text

/-! ## Values -/

def isBlank (c : Char) : Bool := c = ' ' || c = '\t' || c = '\n' || c = '\r'

def skipBlanks (text : List Char) : List Char := text.dropWhile isBlank

/-- What follows a sign that has to come next. -/
def expect (sign : Char) (text : List Char) : Option (List Char) :=
  match skipBlanks text with
  | c :: rest => if c = sign then some rest else none
  | [] => none

section Values

variable (numberText : String → String)

mutual

/-- One value, in at most so many steps, and what follows it. -/
def readValue : Nat → List Char → Option (Json × List Char)
  | 0, _ => none
  | fuel + 1, text =>
      match skipBlanks text with
      | 'n' :: 'u' :: 'l' :: 'l' :: rest => some (null, rest)
      | 't' :: 'r' :: 'u' :: 'e' :: rest => some (bool true, rest)
      | 'f' :: 'a' :: 'l' :: 's' :: 'e' :: rest => some (bool false, rest)
      | '"' :: rest => (readString rest).map fun (value, rest) => (str value, rest)
      | '[' :: rest =>
          match expect ']' rest with
          | some rest => some (arr [], rest)
          | none => (readItems fuel rest).map fun (items, rest) => (arr items, rest)
      | '\x7b' :: rest =>
          match expect '\x7d' rest with
          | some rest => some (obj [], rest)
          | none => (readMembers fuel rest).map fun (members, rest) => (ofEntries members, rest)
      | text => (readNumber text).map fun (literal, rest) => (num (numberText (String.ofList literal)), rest)

/-- The items of an array up to its closing bracket. -/
def readItems : Nat → List Char → Option (List Json × List Char)
  | 0, _ => none
  | fuel + 1, text => do
      let (item, rest) ← readValue fuel text
      match expect ',' rest with
      | some rest => (readItems fuel rest).map fun (items, rest) => (item :: items, rest)
      | none => (expect ']' rest).map fun rest => ([item], rest)

/-- The members of an object up to its closing brace. -/
def readMembers : Nat → List Char → Option (List (String × Json) × List Char)
  | 0, _ => none
  | fuel + 1, text => do
      let rest ← expect '"' text
      let (name, rest) ← readString rest
      let rest ← expect ':' rest
      let (value, rest) ← readValue fuel rest
      match expect ',' rest with
      | some rest => (readMembers fuel rest).map fun (members, rest) => ((name, value) :: members, rest)
      | none => (expect '\x7d' rest).map fun rest => ([(name, value)], rest)

end

/-- `JSON.parse(text)`, where it does not throw. -/
def parse (text : String) : Option Json :=
  match readValue numberText (text.length + 1) text.toList with
  | some (value, rest) => if skipBlanks rest = [] then some value else none
  | none => none

end Values

end Json
end Orderly
