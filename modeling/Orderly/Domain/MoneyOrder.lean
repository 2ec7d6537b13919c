import Orderly.Domain.Amounts
import Mathlib.Algebra.Order.Round
import Mathlib.Data.List.TakeWhile
import Mathlib.Data.Rat.Floor

/-!
# Amounts as numbers

The constructor of `Money` keeps the hundredths nearest to the number it is
given, half up, and keeps them as their one text.  So two amounts are compared
as texts or as decimals with the same outcome, in whatever notation they came.

The constructor is taken apart at `new Decimal(String(amount))`, so that what
is said here covers every notation decimal.js reads, not only those that
`Decimal.parse` does.
-/

namespace Orderly

open Decimal

namespace Decimal

/-! ## Rounding half up -/

/-- The number a decimal stands for. -/
def value : Decimal → ℚ
  | finite negative coefficient exponent => signed negative coefficient * (10 : ℚ) ^ exponent
  | _ => 0

/-- The hundredths nearest to a number, half up. -/
def nearestHundredths (d : Decimal) : ℤ := round (100 * d.value)

theorem dropDigits_round (coefficient places : Nat) :
    (dropDigits coefficient places : ℤ) = round ((coefficient : ℚ) / 10 ^ places) := by
  have unit : 0 < 10 ^ places := Nat.pow_pos (by decide)
  have split : 10 ^ places * (coefficient / 10 ^ places) + coefficient % 10 ^ places = coefficient :=
    Nat.div_add_mod coefficient (10 ^ places)
  have rest := Nat.mod_lt coefficient unit
  have cast : ((10 ^ places : Nat) : ℚ) = 10 ^ places := Nat.cast_pow 10 places
  rw [← cast]
  unfold dropDigits
  dsimp only
  generalize 10 ^ places = u at *
  generalize coefficient / u = whole at *
  generalize coefficient % u = remainder at *
  have positive : (0 : ℚ) < u := Nat.cast_pos.mpr unit
  have split' : (u : ℚ) * whole + remainder = coefficient := by exact_mod_cast split
  have rest' : (remainder : ℚ) < u := Nat.cast_lt.mpr rest
  have start : (0 : ℚ) ≤ remainder := Nat.cast_nonneg remainder
  apply Eq.symm
  apply round_eq_iff.mpr
  split
  · next up =>
      have half : (u : ℚ) ≤ 2 * remainder := by exact_mod_cast up
      constructor
      · rw [le_div_iff₀ positive, ← split']
        push_cast
        linarith
      · rw [div_lt_iff₀ positive, ← split']
        push_cast
        linarith
  · next down =>
      have half : 2 * (remainder : ℚ) < u := by exact_mod_cast Nat.not_le.mp down
      constructor
      · rw [le_div_iff₀ positive, ← split']
        push_cast
        linarith
      · rw [div_lt_iff₀ positive, ← split']
        push_cast
        linarith

theorem toUnits_round (places coefficient : Nat) (exponent : Int) :
    (toUnits places coefficient exponent : ℤ) = round ((coefficient : ℚ) * 10 ^ (exponent + places)) := by
  unfold Decimal.toUnits
  split
  · next whole =>
      have power : (10 : ℚ) ^ (exponent + places) = ((10 ^ (exponent + places).toNat : Nat) : ℚ) := by
        rw [Nat.cast_pow, Nat.cast_ofNat, ← zpow_natCast, Int.toNat_of_nonneg whole]
      rw [power, ← Nat.cast_mul, round_natCast]
  · next fraction =>
      have power : (10 : ℚ) ^ (exponent + places) = ((10 : ℚ) ^ (-(exponent + places)).toNat)⁻¹ := by
        rw [← zpow_natCast, Int.toNat_of_nonneg (by omega), zpow_neg, inv_inv]
      rw [dropDigits_round, power, div_eq_mul_inv]

/-- A positive number has as many hundredths as `toFixed(2)` prints. -/
theorem toUnits_nearest (coefficient : Nat) (exponent : Int) :
    (toUnits 2 coefficient exponent : ℤ) = nearestHundredths (finite false coefficient exponent) := by
  rw [toUnits_round]
  unfold nearestHundredths value signed
  congr 1
  rw [zpow_add₀ (by norm_num)]
  norm_num
  ring

/-- The digits of a decimal.js number, seven to an element of an array. -/
def mostDigits : Nat := 7 * (2 ^ 32 - 1)

/-- What a decimal.js number can be: its first digit stands no higher than `maxE` allows, and its digits fit in an
array. -/
def Held : Decimal → Prop
  | finite _ coefficient exponent =>
      exponent + digitCount coefficient - 1 ≤ maxExponent ∧ digitCount coefficient ≤ mostDigits
  | _ => True

theorem digitCount_le_of_le {number bound : Nat} (below : number ≤ bound) : digitCount number ≤ digitCount bound :=
  (digitCount_le_iff (digitCount_pos bound)).mpr
    (Nat.lt_of_le_of_lt below ((digitCount_le_iff (digitCount_pos bound)).mp (Nat.le_refl _)))

/-- Rounded to hundredths, such a number can be read again. -/
theorem readable_of_held {negative : Bool} {coefficient : Nat} {exponent : Int}
    (held : Held (finite negative coefficient exponent)) : Readable (toUnits 2 coefficient exponent) := by
  rcases held with ⟨leading, digits⟩
  have count := digitCount_pos coefficient
  have bound := (digitCount_le_iff count).mp (Nat.le_refl _)
  unfold Readable Decimal.toUnits
  unfold maxExponent at *
  unfold mostDigits at digits
  split
  · next whole =>
      have longer : digitCount (coefficient * 10 ^ (exponent + 2).toNat) ≤
          digitCount coefficient + (exponent + 2).toNat := by
        apply (digitCount_le_iff (by omega)).mpr
        rw [Nat.pow_add]
        exact Nat.mul_lt_mul_of_pos_right bound (Nat.pow_pos (by decide))
      push_cast at *
      omega
  · next fraction =>
      have carried : dropDigits coefficient (-(exponent + 2)).toNat ≤ coefficient + 1 :=
        Nat.le_trans (dropDigits_bounds _ _).2 (Nat.add_le_add_right (Nat.div_le_self _ _) 1)
      have longer : digitCount (coefficient + 1) ≤ digitCount coefficient + 1 := by
        apply (digitCount_le_iff (by omega)).mpr
        rw [Nat.pow_succ]
        omega
      have shorter := digitCount_le_of_le carried
      push_cast at *
      omega

/-! ## Reading -/

theorem span_short (text : List Char) :
    (∀ c ∈ (text.span isDigit).1, isDigit c = true) ∧
      (text.span isDigit).1.length + (text.span isDigit).2.length = text.length := by
  rw [List.span_eq_takeWhile_dropWhile]
  refine ⟨fun c member => List.mem_takeWhile_imp member, ?_⟩
  rw [← List.length_append, List.takeWhile_append_dropWhile]

/-- A coefficient has no more digits than its text has characters. -/
theorem readMagnitude_short {text : List Char} {coefficient : Nat} {exponent : Int}
    (read : readMagnitude text = some (coefficient, exponent)) : coefficient < 10 ^ text.length := by
  have parts := span_short text
  unfold readMagnitude at read
  split at read
  next whole rest spanned =>
    rw [spanned] at parts
    rcases parts with ⟨digits, length⟩
    split at read
    next fraction tail taken =>
      have fits : (∀ c ∈ fraction, isDigit c = true) ∧ fraction.length ≤ rest.length := by
        split at taken
        · next more =>
            have parts := span_short more
            rw [taken] at parts
            exact ⟨parts.1, Nat.le_succ_of_le (Nat.le.intro parts.2)⟩
        · cases taken
          exact ⟨List.forall_mem_nil _, Nat.zero_le _⟩
      split at read
      · cases read
      · rcases Option.map_eq_some_iff.mp read with ⟨power, _, same⟩
        cases same
        have all : ∀ c ∈ whole ++ fraction, isDigit c = true := List.forall_mem_append.mpr ⟨digits, fits.1⟩
        refine Nat.lt_of_lt_of_le (ofDigits_lt all) (Nat.pow_le_pow_right (by decide) ?_)
        rw [List.length_append, ← length]
        exact Nat.add_le_add_left fits.2 _

theorem ofMagnitude_held {negative : Bool} {coefficient : Nat} {exponent : Int} {length : Nat}
    (below : coefficient < 10 ^ length) (some : 0 < length) (short : length ≤ mostDigits) :
    Held (ofMagnitude negative coefficient exponent) := by
  have none : Held (finite negative 0 0) := ⟨by decide, by decide⟩
  have digits := (digitCount_le_iff some).mpr below
  unfold ofMagnitude
  dsimp only
  split
  · exact none
  · split
    · exact trivial
    · split
      · exact none
      · exact ⟨by omega, by omega⟩

/-- Reading a text gives such a number. -/
theorem parse_held {text : String} {d : Decimal} (parsed : parse text = .ok d) (short : text.length ≤ mostDigits) :
    Held d := by
  rw [← String.length_toList] at short
  unfold parse at parsed
  split at parsed
  next negative digits signed =>
    have fits : digits.length ≤ text.toList.length := by
      split at signed
      · next shape =>
          cases signed
          rw [shape]
          exact Nat.le_succ _
      · next shape =>
          cases signed
          rw [shape]
          exact Nat.le_succ _
      · cases signed
        exact Nat.le_refl _
    split at parsed
    · next coefficient exponent read =>
        cases parsed
        cases digits with
        | nil => cases read
        | cons c digits => exact ofMagnitude_held (readMagnitude_short read) (Nat.succ_pos _) (Nat.le_trans fits short)
    · split at parsed
      · cases parsed
        trivial
      · split at parsed
        · cases parsed
          trivial
        · cases parsed

end Decimal

namespace Money

/-! ## The constructor -/

/-- The constructor, when `new Decimal(String(amount))` is `d`. -/
def construct (amount : String) (d : Decimal) (currency : String) : Except JsError Money :=
  if currency = "" ∨ jsLength currency ≠ 3 then
    .error (.error ("Invalid currency code: " ++ currency))
  else if d.isNaN || !d.isFinite then
    .error (.error ("Invalid monetary amount: " ++ amount))
  else if d.isNegative then
    .error (.error ("Monetary amount cannot be negative: " ++ amount))
  else .ok { amount := d.toFixed 2, currency := toUpperCase currency }

/-- A money that the constructor has made of a number. -/
structure Built (currency : String) (d : Decimal) (money : Money) : Prop where
  held : Held d
  constructed : ∃ amount, construct amount d currency = .ok money

section Built

variable {amount currency : String} {d : Decimal} {money : Money}

theorem construct_of_new (made : new amount currency = .ok money) :
    ∃ d, Decimal.parse amount = .ok d ∧ construct amount d currency = .ok money := by
  unfold new at made
  split at made
  · cases made
  · next code =>
      split at made
      · cases made
      · next d parsed =>
          refine ⟨d, parsed, ?_⟩
          unfold construct
          rw [if_neg code]
          exact made

theorem new_built (made : new amount currency = .ok money) (short : amount.length ≤ mostDigits) :
    ∃ d, Decimal.parse amount = .ok d ∧ Built currency d money := by
  rcases construct_of_new made with ⟨d, parsed, constructed⟩
  exact ⟨d, parsed, parse_held parsed short, amount, constructed⟩

/-- It is the money of the nearest hundredths. -/
theorem Built.units (built : Built currency d money) : jsLength currency = 3 ∧
    ∃ units : Nat, (units : ℤ) = d.nearestHundredths ∧ Readable units ∧
      money = ofUnits units (toUpperCase currency) := by
  rcases built with ⟨held, amount, constructed⟩
  unfold construct at constructed
  split at constructed
  · cases constructed
  · next code =>
      split at constructed
      · cases constructed
      · next proper =>
          split at constructed
          · cases constructed
          · next unsigned =>
              cases constructed
              refine ⟨not_not.mp fun wrong => code (Or.inr wrong), ?_⟩
              cases d with
              | nan => exact absurd rfl proper
              | infinity negative => exact absurd rfl proper
              | finite negative coefficient exponent =>
                  cases negative with
                  | true => exact absurd rfl unsigned
                  | false => exact ⟨_, toUnits_nearest coefficient exponent, readable_of_held held, rfl⟩

end Built

/-! ## Comparing -/

section Comparing

variable {units units' : Nat} {currency : String}

theorem greaterThan_readUnits (readable : Readable units) (readable' : Readable units') :
    (readUnits units).greaterThan (readUnits units') = decide (units' < units) := by
  rcases readUnits_of_readable readable with ⟨rfl, read⟩ | read
  · rcases readUnits_of_readable readable' with ⟨rfl, read'⟩ | read'
    · rw [read]
      rfl
    · rw [read, read']
      simp [greaterThan, signed]
  · rcases readUnits_of_readable readable' with ⟨rfl, read'⟩ | read'
    · rw [read, read']
      simp [greaterThan, signed]
    · rw [read, read']
      simp [greaterThan, signed]

theorem isGreaterThan_ofUnits (readable : Readable units) (readable' : Readable units') :
    (ofUnits units currency).isGreaterThan (ofUnits units' currency) = .ok (decide (units' < units)) := by
  have same : (ofUnits units currency).currency = (ofUnits units' currency).currency := rfl
  unfold isGreaterThan
  rw [if_neg (not_not.mpr same), parse_ofUnits, parse_ofUnits, ← greaterThan_readUnits readable readable']
  rfl

theorem equals_ofUnits : (ofUnits units currency).equals (ofUnits units' currency) = decide (units = units') := by
  have texts : amountText units = amountText units' ↔ units = units' :=
    ⟨amountText_injective, congrArg amountText⟩
  unfold equals ofUnits
  rw [decide_eq_true rfl, Bool.true_and]
  exact decide_eq_decide.mpr texts

end Comparing

theorem codeUnits_small : ∀ code < 128, codeUnits (Char.ofNat code) = 1 := by decide +kernel

/-- Only one entry of the tables is about letters of ASCII. -/
theorem upperCase_beyond : (expandedUpperCase.all fun entry => Nat.ble 128 entry.1) = true ∧
    (simpleUpperCase.all fun range => Nat.ble 128 range.first || range = ⟨97, 122, 1, 65⟩) = true := by
  decide +kernel

theorem upperCodes_small {code : Nat} (small : code < 128) : ∃ capital < 128, upperCodes code = [capital] := by
  unfold upperCodes
  split
  · next entry found =>
      have beyond := List.all_eq_true.mp upperCase_beyond.1 entry (List.mem_of_find?_eq_some found)
      have same := List.find?_some found
      rw [Nat.ble_eq] at beyond
      rw [Nat.beq_eq] at same
      omega
  · split
    · next range found =>
        have listed := List.all_eq_true.mp upperCase_beyond.2 range (List.mem_of_find?_eq_some found)
        have included := List.find?_some found
        have bounds := CaseRange.includes_iff.mp included
        rw [Bool.or_eq_true, Nat.ble_eq, decide_eq_true_iff] at listed
        rcases listed with beyond | rfl
        · omega
        · refine ⟨_, ?_, rfl⟩
          change 65 + (code - 97) < 128
          omega
    · exact ⟨code, small, rfl⟩

theorem codeUnits_upperOf {c : Char} (small : c.toNat < 128) : ((upperOf c).map codeUnits).sum = codeUnits c := by
  rcases upperCodes_small small with ⟨capital, small', upper⟩
  have one := codeUnits_small c.toNat small
  rw [Char.ofNat_toNat] at one
  unfold upperOf
  rw [upper, List.map_singleton, List.map_singleton, List.sum_singleton, codeUnits_small capital small', one]

/-- Letters of ASCII are as long in upper case. -/
theorem jsLength_letters {text : String} (letters : ∀ c ∈ text.toList, c.isAlpha = true) :
    jsLength (toUpperCase text) = jsLength text := by
  rw [jsLength_eq, jsLength_eq, toUpperCase, String.toList_ofList]
  revert letters
  generalize text.toList = characters
  induction characters with
  | nil => exact fun _ => rfl
  | cons c characters inductionHypothesis =>
      intro letters
      have small : c.toNat < 128 := by
        have letter : (c.isUpper || c.isLower) = true := letters c List.mem_cons_self
        rcases (Bool.or_eq_true _ _).mp letter with upper | lower
        · have range : c.val ≥ 65 ∧ c.val ≤ 90 := of_decide_eq_true upper
          have below : c.toNat ≤ 90 := UInt32.le_iff_toNat_le.mp range.2
          exact Nat.lt_of_le_of_lt below (by decide)
        · have upTo : decide (c.val ≤ 122) = true := ((Bool.and_eq_true _ _).mp lower).2
          have below : c.toNat ≤ 122 := UInt32.le_iff_toNat_le.mp (of_decide_eq_true upTo)
          exact Nat.lt_of_le_of_lt below (by decide)
      rw [List.flatMap_cons, List.map_append, List.sum_append, codeUnits_upperOf small,
        inductionHypothesis fun c later => letters c (List.mem_cons_of_mem _ later), List.map_cons, List.sum_cons]

/-- Two amounts in one currency are equal exactly when their numbers are nearest to the same hundredths, one of them
is greater than the other or they are equal, never two of these, `isGreaterThan` is transitive, and an amount is
built again from its JSON. -/
theorem ordered {currency currency' currency'' : String} {d d' d'' : Decimal} {a b c : Money}
    (letters : ∀ symbol ∈ currency.toList, symbol.isAlpha = true) (same : toUpperCase currency' = toUpperCase currency)
    (same' : toUpperCase currency'' = toUpperCase currency) (built : Built currency d a) (built' : Built currency' d' b)
    (built'' : Built currency'' d'' c) :
    (a.equals b = true ↔ d.nearestHundredths = d'.nearestHundredths) ∧
    (∃ greater less, a.isGreaterThan b = .ok greater ∧ b.isGreaterThan a = .ok less ∧
      [greater, less, a.equals b].count true = 1) ∧
    (a.isGreaterThan b = .ok true → b.isGreaterThan c = .ok true → a.isGreaterThan c = .ok true) ∧
    ∃ again, new a.toJSON.amount a.toJSON.currency = .ok again ∧ again.equals a = true := by
  rcases built.units with ⟨code, units, nearest, readable, rfl⟩
  rcases built'.units with ⟨_, units', nearest', readable', rfl⟩
  rcases built''.units with ⟨_, units'', _, readable'', rfl⟩
  rw [same, same', equals_ofUnits, isGreaterThan_ofUnits readable readable', isGreaterThan_ofUnits readable' readable,
    isGreaterThan_ofUnits readable' readable'', isGreaterThan_ofUnits readable readable'']
  refine ⟨?_, ?_, ?_, ?_⟩
  · rw [← nearest, ← nearest', decide_eq_true_iff, Nat.cast_inj]
  · refine ⟨_, _, rfl, rfl, ?_⟩
    rcases Nat.lt_trichotomy units units' with less | equal | greater
    · rw [decide_eq_false (by omega), decide_eq_true less, decide_eq_false (by omega)]
      rfl
    · rw [decide_eq_false (by omega), decide_eq_false (by omega), decide_eq_true equal]
      rfl
    · rw [decide_eq_true greater, decide_eq_false (by omega), decide_eq_false (by omega)]
      rfl
  · intro greater greater'
    have first := of_decide_eq_true (Except.ok.inj greater)
    have second := of_decide_eq_true (Except.ok.inj greater')
    rw [decide_eq_true (Nat.lt_trans second first)]
  · refine ⟨_, new_amountText ((jsLength_letters letters).trans code) readable, ?_⟩
    have settled : toUpperCase (ofUnits units (toUpperCase currency)).toJSON.currency = toUpperCase currency :=
      toUpperCase_toUpperCase currency
    rw [settled, equals_ofUnits, decide_eq_true rfl]

theorem ordered_cent : ∃ d d' a b, Decimal.parse "0.005" = .ok d ∧ Decimal.parse "100e-4" = .ok d' ∧
    new "0.005" "usd" = .ok a ∧ new "100e-4" "USD" = .ok b ∧
    (a.equals b = true ↔ d.nearestHundredths = d'.nearestHundredths) := by
  have cent : Money.new "0.005" "usd" = .ok { amount := "0.01", currency := "USD" } ∧
      Money.new "100e-4" "USD" = .ok { amount := "0.01", currency := "USD" } ∧
      toUpperCase "USD" = toUpperCase "usd" ∧ "usd".toList.all Char.isAlpha = true := by decide +kernel
  rcases cent with ⟨made, made', same, letters⟩
  rcases new_built made (by decide) with ⟨d, parsed, built⟩
  rcases new_built made' (by decide) with ⟨d', parsed', built'⟩
  exact ⟨d, d', _, _, parsed, parsed', made, made', (ordered (List.all_eq_true.mp letters) same rfl built built' built).1⟩

end Money
end Orderly
