import Orderly.Domain.UpperCase

/-!
# Values shared by the services

JSON payloads, decimal amounts and money.  `Decimal` covers the part of
decimal.js the code uses: reading a decimal literal, products and sums rounded
to the configured 28 significant digits, and `toFixed`.  Rounding is half up,
away from zero, as set in `money.ts`.  Literals with a base prefix (`0x`, `0b`,
`0o`) or digit separators are refused here; nothing in the repository writes an
amount in those notations.
-/

namespace Orderly

/-- A v4 UUID.  Only equality of identifiers is ever used. -/
abbrev Uuid := Nat

/-- Milliseconds. -/
abbrev Date := Nat

/-- What a JavaScript `throw` carries: an `Error` with its message, or anything
else. -/
inductive JsError where
  | error (message : String)
  | other
  deriving DecidableEq, Repr

/-- A JSON document.  A number is kept as the text JavaScript prints for it. -/
inductive Json where
  | null
  | bool (value : Bool)
  | num (literal : String)
  | str (value : String)
  | arr (items : List Json)
  | obj (members : List (String × Json))

namespace Json

/-- `value[key]` of a parsed object; anything else has no members. -/
def member? (key : String) : Json → Option Json
  | obj members => (members.find? (fun entry => entry.1 = key)).map Prod.snd
  | _ => none

def ofNat (number : Nat) : Json := num (toString number)

def ofUuid (id : Uuid) : Json := str (toString id)

/-- `string | null`. -/
def ofOption : Option String → Json
  | some text => str text
  | none => null

/-- One character inside a JSON string. -/
def escape (c : Char) : List Char :=
  if c = '"' then ['\\', '"']
  else if c = '\\' then ['\\', '\\']
  else if c = '\n' then ['\\', 'n']
  else if c = '\r' then ['\\', 'r']
  else if c = '\t' then ['\\', 't']
  else if c.toNat = 8 then ['\\', 'b']
  else if c.toNat = 12 then ['\\', 'f']
  else if c.toNat < 32 then
    ['\\', 'u', '0', '0', Nat.digitChar (c.toNat / 16), Nat.digitChar (c.toNat % 16)]
  else [c]

def quote (text : String) : String := String.ofList ('"' :: text.toList.flatMap escape ++ ['"'])

/-- `Number.isFinite(value)`. -/
def isFinite (literal : String) : Bool := literal ∉ ["Infinity", "-Infinity", "NaN"]

mutual

/-- `JSON.stringify(value)`. -/
def stringify : Json → String
  | null => "null"
  | bool value => if value then "true" else "false"
  | num literal => if isFinite literal then literal else "null"
  | str text => quote text
  | arr items => "[" ++ ",".intercalate (stringifyItems items) ++ "]"
  | obj members => "\x7b" ++ ",".intercalate (stringifyMembers members) ++ "\x7d"

def stringifyItems : List Json → List String
  | [] => []
  | item :: items => stringify item :: stringifyItems items

def stringifyMembers : List (String × Json) → List String
  | [] => []
  | (key, value) :: members => (quote key ++ ":" ++ stringify value) :: stringifyMembers members

end

example : (obj [("a", arr [num "1", null]), ("b", str "x\"y")]).stringify =
    "\x7b\"a\":[1,null],\"b\":\"x\\\"y\"\x7d" := by decide +kernel

end Json

/-- A JavaScript number: the text it prints as, and its value where it is an integer. -/
structure JsNumber where
  text : String
  integer : Option Int
  deriving DecidableEq, Repr

/-! ## Decimals -/

/-- A decimal.js number: `± coefficient * 10 ^ exponent`, or a special value. -/
inductive Decimal where
  | nan
  | infinity (negative : Bool)
  | finite (negative : Bool) (coefficient : Nat) (exponent : Int)
  deriving DecidableEq, Repr

namespace Decimal

def isDigit (c : Char) : Bool := '0' ≤ c && c ≤ '9'

def ofDigits (digits : List Char) : Nat :=
  digits.foldl (fun number digit => 10 * number + (digit.toNat - '0'.toNat)) 0

def digitCount (number : Nat) : Nat := (Nat.toDigits 10 number).length

/-- decimal.js's `maxE`, also the negative of its `minE`. -/
def maxExponent : Int := 9000000000000000

/-- A parsed magnitude: beyond the exponent range it overflows or vanishes. -/
def ofMagnitude (negative : Bool) (coefficient : Nat) (exponent : Int) : Decimal :=
  let leading := exponent + digitCount coefficient - 1
  if coefficient = 0 then finite negative 0 0
  else if maxExponent < leading then infinity negative
  else if leading < -maxExponent then finite negative 0 0
  else finite negative coefficient exponent

/-- `(e[+-]?\d+)?` up to the end of the text. -/
def readExponent : List Char → Option Int
  | [] => some 0
  | marker :: rest =>
      if marker = 'e' ∨ marker = 'E' then
        let (negative, digits) := match rest with
          | '-' :: digits => (true, digits)
          | '+' :: digits => (false, digits)
          | digits => (false, digits)
        if digits ≠ [] ∧ digits.all isDigit then
          some (if negative then -(ofDigits digits : Int) else ofDigits digits)
        else none
      else none

/-- `^(\d+(\.\d*)?|\.\d+)(e[+-]?\d+)?$`, as coefficient and exponent. -/
def readMagnitude (text : List Char) : Option (Nat × Int) :=
  let (whole, rest) := text.span isDigit
  let (fraction, tail) := match rest with
    | '.' :: rest => rest.span isDigit
    | rest => ([], rest)
  if whole = [] ∧ fraction = [] then none
  else (readExponent tail).map fun exponent =>
    (ofDigits (whole ++ fraction), exponent - fraction.length)

/-- `new Decimal(text)`.  The error names the text without its sign. -/
def parse (text : String) : Except JsError Decimal :=
  let (negative, digits) := match text.toList with
    | '-' :: digits => (true, digits)
    | '+' :: digits => (false, digits)
    | digits => (false, digits)
  match readMagnitude digits with
  | some (coefficient, exponent) => .ok (ofMagnitude negative coefficient exponent)
  | none =>
      if digits = "Infinity".toList then .ok (infinity negative)
      else if digits = "NaN".toList then .ok nan
      else .error (.error ("[DecimalError] Invalid argument: " ++ String.ofList digits))

def isNaN : Decimal → Bool
  | nan => true
  | _ => false

def isFinite : Decimal → Bool
  | finite .. => true
  | _ => false

/-- The sign bit, which `-0` also has. -/
def isNegative : Decimal → Bool
  | nan => false
  | infinity negative => negative
  | finite negative .. => negative

/-- Drop `places` trailing digits, rounding half up. -/
def dropDigits (coefficient places : Nat) : Nat :=
  let unit := 10 ^ places
  if unit ≤ 2 * (coefficient % unit) then coefficient / unit + 1 else coefficient / unit

/-- The configured precision of `plus` and `times`. -/
def precision : Nat := 28

/-- Round to the configured number of significant digits. -/
def roundSignificant (negative : Bool) (coefficient : Nat) (exponent : Int) : Decimal :=
  let excess := digitCount coefficient - precision
  finite negative (dropDigits coefficient excess) (exponent + excess)

/-- The product of two finite numbers. -/
def times : Decimal → Decimal → Decimal
  | finite negative coefficient exponent, finite negative' coefficient' exponent' =>
      roundSignificant (negative != negative') (coefficient * coefficient') (exponent + exponent')
  | _, _ => nan

/-- A coefficient with its sign. -/
def signed (negative : Bool) (coefficient : Nat) : Int := if negative then -coefficient else coefficient

/-- The sum of two finite numbers. -/
def plus : Decimal → Decimal → Decimal
  | finite negative coefficient exponent, finite negative' coefficient' exponent' =>
      let least := min exponent exponent'
      let sum := signed negative (coefficient * 10 ^ (exponent - least).toNat) +
        signed negative' (coefficient' * 10 ^ (exponent' - least).toNat)
      roundSignificant (sum < 0) sum.natAbs least
  | _, _ => nan

/-- `greaterThan`, which `NaN` never is and nothing is than `NaN`. -/
def greaterThan : Decimal → Decimal → Bool
  | finite negative coefficient exponent, finite negative' coefficient' exponent' =>
      let least := min exponent exponent'
      decide (signed negative' (coefficient' * 10 ^ (exponent' - least).toNat) <
        signed negative (coefficient * 10 ^ (exponent - least).toNat))
  | infinity negative, infinity negative' => !negative && negative'
  | infinity negative, finite .. => !negative
  | finite .., infinity negative' => negative'
  | _, _ => false

/-- The number of units of `10 ^ -places`, rounded half up. -/
def toUnits (places : Nat) (coefficient : Nat) (exponent : Int) : Nat :=
  if 0 ≤ exponent + places then coefficient * 10 ^ (exponent + places).toNat
  else dropDigits coefficient (-(exponent + places)).toNat

/-- Print a number of units of `10 ^ -places` in positional notation. -/
def printUnits (places units : Nat) : List Char :=
  let digits := Nat.toDigits 10 units
  let padded := List.replicate (places + 1 - digits.length) '0' ++ digits
  let whole := padded.take (padded.length - places)
  let fraction := padded.drop (padded.length - places)
  if places = 0 then whole else whole ++ '.' :: fraction

/-- `toFixed(places)`. -/
def toFixed (places : Nat) : Decimal → String
  | nan => "NaN"
  | infinity negative => if negative then "-Infinity" else "Infinity"
  | finite negative coefficient exponent =>
      let digits := printUnits places (toUnits places coefficient exponent)
      String.ofList (if negative && coefficient != 0 then '-' :: digits else digits)

end Decimal

/-! ## Money -/

/-- The length JavaScript reports: UTF-16 code units. -/
def jsLength (text : String) : Nat :=
  text.toList.foldl (fun length c => length + if 0x10000 ≤ c.toNat then 2 else 1) 0

/-- `toLowerCase` on ASCII text, all that the gateway's currency codes use. -/
def toLowerCase (text : String) : String := String.ofList (text.toList.map Char.toLower)

/-- An immutable amount, always printed with two decimals. -/
structure Money where
  amount : String
  currency : String
  deriving DecidableEq, Repr

/-- `{ amount, currency }` as it travels in job data and metadata. -/
structure MoneyJson where
  amount : String
  currency : String
  deriving DecidableEq, Repr

namespace Money

/-- The constructor. -/
def new (amount currency : String) : Except JsError Money :=
  if currency = "" ∨ jsLength currency ≠ 3 then
    .error (.error ("Invalid currency code: " ++ currency))
  else match Decimal.parse amount with
    | .error error => .error error
    | .ok d =>
        if d.isNaN || !d.isFinite then
          .error (.error ("Invalid monetary amount: " ++ amount))
        else if d.isNegative then
          .error (.error ("Monetary amount cannot be negative: " ++ amount))
        else .ok { amount := d.toFixed 2, currency := toUpperCase currency }

theorem new_currency {amount currency : String} {money : Money} (made : new amount currency = .ok money) :
    money.currency = toUpperCase currency := by
  unfold new at made
  split at made
  · cases made
  · split at made
    · cases made
    · split at made
      · cases made
      · split at made
        · cases made
        · cases made
          rfl

def zero (currency : String) : Except JsError Money := new "0.00" currency

def add (money other : Money) : Except JsError Money :=
  if money.currency ≠ other.currency then
    .error (.error ("Cannot operate on money with different currencies: " ++ money.currency ++ " and " ++
      other.currency))
  else do
    let result := (← Decimal.parse money.amount).plus (← Decimal.parse other.amount)
    new (result.toFixed 2) money.currency

/-- A sum keeps the currency. -/
theorem add_currency {money other sum : Money} (added : money.add other = .ok sum) :
    sum.currency = toUpperCase money.currency := by
  unfold add at added
  split at added
  · cases added
  · cases left : Decimal.parse money.amount with
    | error error =>
        rw [left] at added
        cases added
    | ok a =>
        cases right : Decimal.parse other.amount with
        | error error =>
            rw [left, right] at added
            cases added
        | ok b =>
            rw [left, right] at added
            exact new_currency added

/-- A factor here is a quantity, so it is finite and not negative.  JavaScript prints
it exactly up to 2^53, which is more than a quantity column holds. -/
def multiply (money : Money) (factor : Nat) : Except JsError Money := do
  let result := (← Decimal.parse money.amount).times (.finite false factor 0)
  new (result.toFixed 2) money.currency

def isGreaterThan (money other : Money) : Except JsError Bool :=
  if money.currency ≠ other.currency then
    .error (.error ("Cannot operate on money with different currencies: " ++ money.currency ++ " and " ++
      other.currency))
  else do return (← Decimal.parse money.amount).greaterThan (← Decimal.parse other.amount)

def equals (money other : Money) : Bool := money.currency = other.currency && money.amount = other.amount

def toJSON (money : Money) : MoneyJson := { amount := money.amount, currency := money.currency }

end Money

namespace MoneyJson

def toJson (money : MoneyJson) : Json :=
  .obj [("amount", .str money.amount), ("currency", .str money.currency)]

end MoneyJson

example : Money.new "019.995" "usd" = .ok { amount := "20.00", currency := "USD" } := by decide +kernel

example : ((Money.new "19.99" "USD").bind fun price => price.multiply 3) =
    .ok { amount := "59.97", currency := "USD" } := by decide +kernel

end Orderly
