import Orderly.Domain.Values
import Mathlib.Data.List.TakeDrop

/-!
# Decimals and their texts

`toFixed(2)` prints a number of hundredths, and reading the text gives the
number back.  Between the two, `times` and `plus` round to 28 significant
digits, which changes nothing below 10^28 hundredths and never leads from above
this bound to below it.
-/

namespace Orderly

/-! ## Lengths -/

/-- The UTF-16 code units of a character. -/
def codeUnits (c : Char) : Nat := 1 + if 0x10000 ≤ c.toNat then 1 else 0

theorem jsLength_eq (text : String) : jsLength text = (text.toList.map codeUnits).sum := by
  have counted : ∀ (characters : List Char) (length : Nat),
      characters.foldl (fun length c => length + if 0x10000 ≤ c.toNat then 2 else 1) length =
        length + (characters.map codeUnits).sum := by
    intro characters
    induction characters with
    | nil => exact fun length => rfl
    | cons c characters inductionHypothesis =>
        intro length
        rw [List.foldl_cons, inductionHypothesis, List.map_cons, List.sum_cons, ← Nat.add_assoc]
        congr 2
        unfold codeUnits
        split <;> rfl
  exact (counted _ 0).trans (Nat.zero_add _)

/-- A character counts once at least. -/
theorem length_le_jsLength (text : String) : text.length ≤ jsLength text := by
  rw [jsLength_eq, ← String.length_toList]
  generalize text.toList = characters
  induction characters with
  | nil => exact Nat.le_refl 0
  | cons c characters inductionHypothesis =>
      rw [List.length_cons, List.map_cons, List.sum_cons]
      unfold codeUnits at *
      omega

namespace Decimal

/-! ## Digits -/

theorem isDigit_iff {c : Char} : isDigit c = true ↔ c.isDigit = true := by
  simp [isDigit, Char.isDigit, Char.le_def, UInt32.le_iff_toNat_le]

theorem isDigit_of_mem_toDigits {number : Nat} {c : Char} (member : c ∈ Nat.toDigits 10 number) :
    isDigit c = true :=
  isDigit_iff.mpr (Nat.isDigit_of_mem_toDigits (by decide) (by decide) member)

theorem ofDigits_toDigits (number : Nat) : ofDigits (Nat.toDigits 10 number) = number :=
  Nat.ofDigitChars_ten_toDigits

/-- Numbers are told apart by their texts. -/
theorem toString_inj {number other : Nat} (same : toString number = toString other) : number = other := by
  rw [Nat.toString_eq_ofList_toDigits, Nat.toString_eq_ofList_toDigits] at same
  have digits := congrArg (fun text : String => ofDigits text.toList) same
  simpa only [String.toList_ofList, ofDigits_toDigits] using digits

/-- Leading zeros do not count. -/
theorem ofDigits_zeros (count : Nat) (digits : List Char) :
    ofDigits (List.replicate count '0' ++ digits) = ofDigits digits := by
  change Nat.ofDigitChars 10 _ 0 = Nat.ofDigitChars 10 _ 0
  rw [Nat.ofDigitChars_append, Nat.ofDigitChars_replicate_zero, Nat.mul_zero]

theorem digit_le_nine {c : Char} (digit : isDigit c = true) : c.toNat - '0'.toNat ≤ 9 := by
  have bound : c.toNat ≤ 57 := of_decide_eq_true (Bool.and_eq_true_iff.mp digit).2
  change c.toNat - 48 ≤ 9
  omega

theorem ofDigits_lt {digits : List Char} (all : ∀ c ∈ digits, isDigit c = true) :
    ofDigits digits < 10 ^ digits.length := by
  induction digits with
  | nil => decide
  | cons c digits inductionHypothesis =>
      have digit := digit_le_nine (all c List.mem_cons_self)
      have rest := inductionHypothesis fun c later => all c (List.mem_cons_of_mem _ later)
      have front : ofDigits (c :: digits) = 10 ^ digits.length * (c.toNat - '0'.toNat) + ofDigits digits := by
        change Nat.ofDigitChars 10 (c :: digits) 0 = _ + Nat.ofDigitChars 10 digits 0
        rw [Nat.ofDigitChars_cons, Nat.ofDigitChars_eq_ofDigitChars_zero, Nat.mul_zero, Nat.zero_add]
      rw [front, List.length_cons, Nat.pow_succ]
      calc 10 ^ digits.length * (c.toNat - '0'.toNat) + ofDigits digits
          < 10 ^ digits.length * 9 + 10 ^ digits.length := Nat.add_lt_add_of_le_of_lt (Nat.mul_le_mul_left _ digit) rest
        _ = 10 ^ digits.length * 10 := (Nat.mul_succ _ 9).symm

theorem digitCount_pos (number : Nat) : 0 < digitCount number := Nat.length_toDigits_pos

theorem digitCount_le_iff {number count : Nat} (some : 0 < count) :
    digitCount number ≤ count ↔ number < 10 ^ count := Nat.length_toDigits_le_iff (by decide) some

/-- A number has at least as many digits as the powers of ten below it. -/
theorem lt_digitCount {number count : Nat} (reached : 10 ^ count ≤ number) : count < digitCount number := by
  rcases Nat.eq_zero_or_pos count with rfl | some
  · exact digitCount_pos number
  · by_contra few
    have below := (digitCount_le_iff some).mp (Nat.not_lt.mp few)
    omega

theorem span_digits {digits rest : List Char} (all : ∀ c ∈ digits, isDigit c = true)
    (stops : ∀ c, rest.head? = some c → isDigit c = false) : (digits ++ rest).span isDigit = (digits, rest) := by
  rw [List.span_eq_takeWhile_dropWhile, List.takeWhile_append_of_pos all, List.dropWhile_append_of_pos all]
  cases rest with
  | nil => simp
  | cons c rest => simp [stops c rfl]

/-- The digits before a point. -/
theorem span_pointed {whole fraction : List Char} (all : ∀ c ∈ whole, isDigit c = true) :
    (whole ++ '.' :: fraction).span isDigit = (whole, '.' :: fraction) := by
  apply span_digits all
  intro c same
  cases same
  decide

/-! ## Reading -/

/-- A text with a point between digits. -/
theorem readMagnitude_pointed {whole fraction : List Char} (some : whole ≠ [])
    (digits : ∀ c ∈ whole, isDigit c = true) (digits' : ∀ c ∈ fraction, isDigit c = true) :
    readMagnitude (whole ++ '.' :: fraction) = .some (ofDigits (whole ++ fraction), -(fraction.length : Int)) := by
  have rest : fraction.span isDigit = (fraction, []) := by
    have alone : (fraction ++ []).span isDigit = (fraction, []) := span_digits digits' fun c none => by cases none
    rwa [List.append_nil] at alone
  unfold readMagnitude
  rw [span_pointed digits]
  simp only [rest, some, false_and, if_false]
  simp [readExponent]

/-- It has no sign. -/
theorem parse_pointed {whole fraction : List Char} (some : whole ≠ [])
    (digits : ∀ c ∈ whole, isDigit c = true) (digits' : ∀ c ∈ fraction, isDigit c = true) :
    parse (String.ofList (whole ++ '.' :: fraction)) =
      .ok (ofMagnitude false (ofDigits (whole ++ fraction)) (-(fraction.length : Int))) := by
  have read := readMagnitude_pointed some digits digits'
  cases whole with
  | nil => exact absurd rfl some
  | cons head whole =>
      have digit := digits head List.mem_cons_self
      have unsigned : head ≠ '-' ∧ head ≠ '+' := by
        constructor
        · rintro rfl
          cases digit
        · rintro rfl
          cases digit
      unfold parse
      rw [String.toList_ofList, List.cons_append]
      simp only [List.cons.injEq, unsigned.1, unsigned.2, false_and, imp_false, not_false_eq_true, implies_true]
      rw [← List.cons_append, read]

/-! ## Printing -/

/-- A positional text with two digits after the point. -/
structure Positional (units : Nat) (text whole fraction : List Char) : Prop where
  text : text = whole ++ '.' :: fraction
  some : whole ≠ []
  places : fraction.length = 2
  digits : ∀ c ∈ whole ++ fraction, isDigit c = true
  value : ofDigits (whole ++ fraction) = units
  length : whole.length + 2 = max 3 (digitCount units)

theorem printUnits_positional (units : Nat) : ∃ whole fraction, Positional units (printUnits 2 units) whole fraction := by
  rcases (⟨_, rfl⟩ : ∃ padded, padded = List.replicate (3 - digitCount units) '0' ++ Nat.toDigits 10 units)
    with ⟨padded, same⟩
  have printed : printUnits 2 units = padded.take (padded.length - 2) ++ '.' :: padded.drop (padded.length - 2) := by
    rw [same]
    rfl
  have length : padded.length = max 3 (digitCount units) := by
    rw [same, List.length_append, List.length_replicate]
    change 3 - digitCount units + digitCount units = _
    omega
  refine ⟨_, _, printed, ?_, ?_, ?_, ?_, ?_⟩
  · apply List.ne_nil_of_length_pos
    rw [List.length_take]
    omega
  · rw [List.length_drop]
    omega
  · rw [List.take_append_drop, same]
    intro c member
    rcases List.mem_append.mp member with zero | digit
    · rw [List.eq_of_mem_replicate zero]
      decide
    · exact isDigit_of_mem_toDigits digit
  · rw [List.take_append_drop, same, ofDigits_zeros, ofDigits_toDigits]
  · rw [List.length_take]
    omega

/-- The text of an amount of so many hundredths. -/
def amountText (units : Nat) : String := String.ofList (printUnits 2 units)

/-- The amount that a text with two decimals stands for, in hundredths. -/
def hundredths (amount : String) : Nat := ofDigits (amount.toList.filter isDigit)

theorem hundredths_amountText (units : Nat) : hundredths (amountText units) = units := by
  rcases printUnits_positional units with ⟨whole, fraction, printed⟩
  have parts := List.forall_mem_append.mp printed.digits
  unfold hundredths amountText
  rw [String.toList_ofList, printed.text, List.filter_append, List.filter_cons_of_neg (by decide),
    List.filter_eq_self.mpr parts.1, List.filter_eq_self.mpr parts.2, printed.value]

theorem amountText_injective {units units' : Nat} (same : amountText units = amountText units') : units = units' := by
  rw [← hundredths_amountText units, same, hundredths_amountText]

theorem length_amountText (units : Nat) : (amountText units).length = max 3 (digitCount units) + 1 := by
  rcases printUnits_positional units with ⟨whole, fraction, printed⟩
  have length := printed.length
  unfold amountText
  rw [String.length_ofList, printed.text, List.length_append, List.length_cons, printed.places]
  omega

/-- A finite number that is not negative prints as an amount. -/
theorem toFixed_amountText {d : Decimal} (finite : d.isFinite = true) (sign : d.isNegative = false) :
    ∃ units, d.toFixed 2 = amountText units := by
  cases d with
  | nan => cases finite
  | infinity negative => cases finite
  | finite negative coefficient exponent =>
      cases sign
      exact ⟨_, rfl⟩

/-- What reading the text of an amount gives. -/
def readUnits (units : Nat) : Decimal := ofMagnitude false units (-2)

theorem parse_amountText (units : Nat) : parse (amountText units) = .ok (readUnits units) := by
  rcases printUnits_positional units with ⟨whole, fraction, printed⟩
  have parts := List.forall_mem_append.mp printed.digits
  unfold amountText
  rw [printed.text, parse_pointed printed.some parts.1 parts.2, printed.value, printed.places]
  rfl

/-- The amount is in the range of exponents. -/
def Readable (units : Nat) : Prop := (digitCount units : Int) ≤ maxExponent + 3

theorem readUnits_of_readable {units : Nat} (readable : Readable units) :
    units = 0 ∧ readUnits units = finite false 0 0 ∨ readUnits units = finite false units (-2) := by
  unfold readUnits ofMagnitude
  unfold Readable maxExponent at *
  have some := digitCount_pos units
  split
  · next zero => exact Or.inl ⟨zero, rfl⟩
  · rw [if_neg (by omega), if_neg (by omega)]
    exact Or.inr rfl

theorem readUnits_unreadable {units : Nat} (unreadable : ¬ Readable units) : readUnits units = infinity false := by
  unfold readUnits ofMagnitude
  unfold Readable maxExponent at *
  have some : units ≠ 0 := by
    rintro rfl
    exact unreadable (by decide)
  rw [if_neg some, if_pos (by omega)]

/-! ## Rounding -/

/-- A number of units rounded to the configured precision. -/
def rounded (number : Nat) : Nat :=
  dropDigits number (digitCount number - precision) * 10 ^ (digitCount number - precision)

theorem toFixed_roundSignificant (number : Nat) :
    (roundSignificant false number (-2)).toFixed 2 = amountText (rounded number) := by
  have units : ∀ coefficient excess : Nat,
      Decimal.toUnits 2 coefficient (-2 + excess) = coefficient * 10 ^ excess := by
    intro coefficient excess
    unfold Decimal.toUnits
    rw [if_pos (by omega)]
    congr
    omega
  unfold roundSignificant toFixed amountText rounded
  rw [← units]
  rfl

theorem times_readUnits {units : Nat} (readable : Readable units) (factor : Nat) :
    ((readUnits units).times (finite false factor 0)).toFixed 2 = amountText (rounded (units * factor)) := by
  rcases readUnits_of_readable readable with ⟨rfl, zero⟩ | read
  · rw [zero, Nat.zero_mul]
    change (roundSignificant false (0 * factor) 0).toFixed 2 = _
    rw [Nat.zero_mul]
    decide
  · rw [read]
    exact toFixed_roundSignificant (units * factor)

theorem plus_readUnits {units units' : Nat} (readable : Readable units) (readable' : Readable units') :
    ((readUnits units).plus (readUnits units')).toFixed 2 = amountText (rounded (units + units')) := by
  have sum : ∀ total : Int, total = (units + units' : Nat) →
      (roundSignificant (total < 0) total.natAbs (-2)).toFixed 2 = amountText (rounded (units + units')) := by
    rintro _ rfl
    rw [Int.natAbs_natCast, ← toFixed_roundSignificant, decide_eq_false (by omega)]
  have least : min (0 : Int) (-2) = -2 ∧ min (-2 : Int) 0 = -2 := by decide
  rcases readUnits_of_readable readable with ⟨rfl, read⟩ | read
  · rcases readUnits_of_readable readable' with ⟨rfl, read'⟩ | read'
    · rw [read]
      decide
    · rw [read, read']
      apply sum
      simp [signed]
  · rcases readUnits_of_readable readable' with ⟨rfl, read'⟩ | read'
    · rw [read, read']
      apply sum
      simp [signed]
    · rw [read, read']
      apply sum
      simp [signed]

theorem rounded_of_lt {number : Nat} (short : number < 10 ^ precision) : rounded number = number := by
  have digits : digitCount number ≤ precision := (digitCount_le_iff (by decide)).mpr short
  unfold rounded
  rw [Nat.sub_eq_zero_of_le digits]
  unfold dropDigits
  simp [Nat.mod_one]

/-- Rounding carries once at most. -/
theorem dropDigits_bounds (number places : Nat) :
    number / 10 ^ places ≤ dropDigits number places ∧ dropDigits number places ≤ number / 10 ^ places + 1 := by
  unfold dropDigits
  dsimp only
  split
  · omega
  · omega

theorem le_rounded {number : Nat} (long : 10 ^ precision ≤ number) : 10 ^ precision ≤ rounded number := by
  have digits : 28 < digitCount number := lt_digitCount long
  have leading : 10 ^ (digitCount number - 1) ≤ number := by
    by_contra below
    have fewer := (digitCount_le_iff (by omega)).mpr (Nat.not_le.mp below)
    omega
  have split : 10 ^ (digitCount number - 1) = 10 ^ (precision - 1) * 10 ^ (digitCount number - precision) := by
    rw [← Nat.pow_add]
    congr 1
    change digitCount number - 1 = 27 + (digitCount number - 28)
    omega
  have kept : 10 ^ (precision - 1) ≤ number / 10 ^ (digitCount number - precision) := by
    rw [Nat.le_div_iff_mul_le (Nat.pow_pos (by decide)), ← split]
    exact leading
  unfold rounded
  calc 10 ^ precision ≤ 10 ^ (digitCount number - 1) := Nat.pow_le_pow_right (by decide) (by
          change 28 ≤ digitCount number - 1
          omega)
    _ = 10 ^ (precision - 1) * 10 ^ (digitCount number - precision) := split
    _ ≤ _ := Nat.mul_le_mul_right _ (Nat.le_trans kept (dropDigits_bounds _ _).1)

/-- A rounded number below the bound has not been rounded. -/
theorem rounded_lt {number : Nat} (short : rounded number < 10 ^ precision) :
    number < 10 ^ precision ∧ rounded number = number := by
  have below : number < 10 ^ precision := by
    by_contra long
    exact absurd (le_rounded (Nat.not_lt.mp long)) (Nat.not_le.mpr short)
  exact ⟨below, rounded_of_lt below⟩

theorem rounded_le (number : Nat) : rounded number ≤ 2 * number := by
  by_cases short : number < 10 ^ precision
  · rw [rounded_of_lt short]
    omega
  · have unit : 10 ^ (digitCount number - precision) ≤ number := by
      by_contra below
      have some := lt_digitCount (Nat.not_lt.mp short)
      have fewer := (digitCount_le_iff (by omega)).mpr (Nat.not_le.mp below)
      change digitCount number ≤ digitCount number - 28 at fewer
      have pos := digitCount_pos number
      omega
    unfold rounded
    calc dropDigits number (digitCount number - precision) * 10 ^ (digitCount number - precision)
        ≤ (number / 10 ^ (digitCount number - precision) + 1) * 10 ^ (digitCount number - precision) :=
          Nat.mul_le_mul_right _ (dropDigits_bounds _ _).2
      _ = number / 10 ^ (digitCount number - precision) * 10 ^ (digitCount number - precision) +
            10 ^ (digitCount number - precision) := Nat.succ_mul _ _
      _ ≤ number + number := Nat.add_le_add (Nat.div_mul_le_self _ _) unit
      _ = 2 * number := (Nat.two_mul number).symm

end Decimal

end Orderly
