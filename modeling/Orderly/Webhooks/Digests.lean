import Orderly.Domain.JsonRoundTrip
import Orderly.Events.Signature

/-!
# Digests in hexadecimal

Which texts decode to a digest, and so which are taken for a signature: the
decoding stops silently where no further byte follows, and whatever stands
there is ignored.
-/

namespace Orderly
namespace WebhookSignature

open Json

/-! ## Hexadecimal digits -/

theorem hexDigit?_digitChar (n : Nat) (small : n < 16) : hexDigit? (Nat.digitChar n) = some n := by
  revert n
  decide

theorem fromHex_toHex (bytes : List UInt8) : fromHex (toHex bytes).toList = bytes := by
  unfold toHex
  rw [String.toList_ofList]
  induction bytes with
  | nil => rfl
  | cons byte bytes inductionHypothesis =>
      have small := byte.toNat_lt
      have whole : 16 * (byte.toNat / 16) + byte.toNat % 16 = byte.toNat := Nat.div_add_mod _ _
      rw [List.flatMap_cons]
      dsimp only [List.cons_append, List.nil_append]
      rw [fromHex, hexDigit?_digitChar _ (by omega), hexDigit?_digitChar _ (by omega)]
      dsimp only
      rw [whole, UInt8.ofNat_toNat, inductionHypothesis]

theorem toHex_injective : Function.Injective toHex := by
  intro bytes bytes' same
  have decoded := congrArg (fun text : String => fromHex text.toList) same
  rw [fromHex_toHex, fromHex_toHex] at decoded
  exact decoded

/-- The code of a character's lower-case letter. -/
theorem toNat_toLower (c : Char) :
    c.toLower.toNat = if 65 ≤ c.toNat ∧ c.toNat ≤ 90 then c.toNat + 32 else c.toNat := by
  unfold Char.toLower
  split
  · next upper =>
      have range : 65 ≤ c.toNat ∧ c.toNat ≤ 90 := upper
      have sum : (c.val + ('a'.val - 'A'.val)).toNat = (c.val.toNat + 32) % 2 ^ 32 := UInt32.toNat_add _ _
      rw [if_pos range]
      exact sum.trans (Nat.mod_eq_of_lt (Nat.lt_of_le_of_lt (Nat.add_le_add_right range.2 32) (by decide)))
  · next other =>
      have range : ¬ (65 ≤ c.toNat ∧ c.toNat ≤ 90) := other
      rw [if_neg range]

theorem toNat_digitChar (n : Nat) (small : n < 16) :
    (Nat.digitChar n).toNat = if n < 10 then n + 48 else n + 87 := by
  revert n
  decide

/-- A character is a hexadecimal digit exactly if its lower-case letter is written for one. -/
theorem hexDigit?_iff (c : Char) (n : Nat) : hexDigit? c = some n ↔ n < 16 ∧ c.toLower = Nat.digitChar n := by
  have ranges : ∀ low high : Char,
      (low ≤ c ∧ c ≤ high) ↔ low.toNat ≤ c.toNat ∧ c.toNat ≤ high.toNat := fun _ _ => Iff.rfl
  have lower : n < 16 ∧ c.toLower = Nat.digitChar n ↔ n < 16 ∧
      (if 65 ≤ c.toNat ∧ c.toNat ≤ 90 then c.toNat + 32 else c.toNat) =
        if n < 10 then n + 48 else n + 87 := by
    apply and_congr_right
    intro small
    rw [← toNat_toLower, ← toNat_digitChar n small, Char.toNat_inj]
  rw [lower]
  unfold hexDigit?
  simp only [ranges]
  have zero : '0'.toNat = 48 := rfl
  have nine : '9'.toNat = 57 := rfl
  have a : 'a'.toNat = 97 := rfl
  have f : 'f'.toNat = 102 := rfl
  have A : 'A'.toNat = 65 := rfl
  have F : 'F'.toNat = 70 := rfl
  rw [zero, nine, a, f, A, F]
  split_ifs <;> simp only [Option.some.injEq, false_iff] <;> omega

/-- No byte follows. -/
def Stops (text : List Char) : Prop :=
  ∀ high low rest, text = high :: low :: rest → hexDigit? high = none ∨ hexDigit? low = none

theorem fromHex_pair {high low : Char} {n m : Nat} (first : hexDigit? high = some n)
    (second : hexDigit? low = some m) (rest : List Char) :
    fromHex (high :: low :: rest) = UInt8.ofNat (16 * n + m) :: fromHex rest := by
  rw [fromHex, first, second]

/-- Decoding gives nothing exactly where no byte follows. -/
theorem fromHex_nil_iff (text : List Char) : fromHex text = [] ↔ Stops text := by
  unfold fromHex
  split
  · next high low rest =>
      split
      · next n m first second =>
          apply iff_of_false (List.cons_ne_nil _ _)
          intro stops
          rcases stops high low rest rfl with none | none
          · rw [none] at first
            cases first
          · rw [none] at second
            cases second
      · next neither =>
          apply iff_of_true rfl
          intro high' low' rest' same
          cases same
          cases first : hexDigit? high with
          | none => exact .inl rfl
          | some n =>
              cases second : hexDigit? low with
              | none => exact .inr rfl
              | some m => exact (neither n m first second).elim
  · next short =>
      apply iff_of_true rfl
      intro high low rest same
      exact absurd same (short high low rest)

theorem toHex_cons (byte : UInt8) (bytes : List UInt8) : (toHex (byte :: bytes)).toList =
    Nat.digitChar (byte.toNat / 16) :: Nat.digitChar (byte.toNat % 16) :: (toHex bytes).toList := by
  unfold toHex
  rw [String.toList_ofList, String.toList_ofList]
  rfl

theorem length_toHex (bytes : List UInt8) : (toHex bytes).length = 2 * bytes.length := by
  rw [← String.length_toList]
  induction bytes with
  | nil => rfl
  | cons byte bytes inductionHypothesis =>
      rw [toHex_cons, List.length_cons, List.length_cons, inductionHypothesis, List.length_cons]
      omega

/-- A digest is written in small letters. -/
theorem toLower_toHex (bytes : List UInt8) : (toHex bytes).toList.map Char.toLower = (toHex bytes).toList := by
  induction bytes with
  | nil => rfl
  | cons byte bytes inductionHypothesis =>
      have small := byte.toNat_lt
      have high := (hexDigit?_iff _ _).mp (hexDigit?_digitChar (byte.toNat / 16) (by omega))
      have low := (hexDigit?_iff _ _).mp (hexDigit?_digitChar (byte.toNat % 16) (by omega))
      rw [toHex_cons, List.map_cons, List.map_cons, inductionHypothesis, high.2, low.2]

/-- The two digits of a byte. -/
theorem byte_digits {n m : Nat} {byte : UInt8} (first : n < 16) (second : m < 16)
    (same : UInt8.ofNat (16 * n + m) = byte) : byte.toNat / 16 = n ∧ byte.toNat % 16 = m := by
  have value : byte.toNat = 16 * n + m := by
    rw [← same, UInt8.toNat_ofNat']
    omega
  rw [value]
  omega

/-- A text decodes to some bytes exactly if it begins with their digits, in capital or small letters, and no byte
follows. -/
theorem fromHex_eq_iff (bytes : List UInt8) (text : List Char) : fromHex text = bytes ↔
    ∃ head tail, text = head ++ tail ∧ head.map Char.toLower = (toHex bytes).toList ∧ Stops tail := by
  induction bytes generalizing text with
  | nil =>
      rw [fromHex_nil_iff]
      constructor
      · intro stops
        exact ⟨[], text, rfl, rfl, stops⟩
      · rintro ⟨head, tail, rfl, none, stops⟩
        rw [List.map_eq_nil_iff.mp none]
        exact stops
  | cons byte bytes inductionHypothesis =>
      rw [toHex_cons]
      constructor
      · intro decoded
        unfold fromHex at decoded
        split at decoded
        · next high low rest =>
            split at decoded
            · next n m first second =>
                rcases List.cons.inj decoded with ⟨same, later⟩
                rcases (inductionHypothesis rest).mp later with ⟨head, tail, rfl, letters, stops⟩
                rcases (hexDigit?_iff high n).mp first with ⟨small, letter⟩
                rcases (hexDigit?_iff low m).mp second with ⟨small', letter'⟩
                rcases byte_digits small small' same with ⟨upper, lower⟩
                refine ⟨high :: low :: head, tail, rfl, ?_, stops⟩
                rw [List.map_cons, List.map_cons, letter, letter', letters, upper, lower]
            · cases decoded
        · cases decoded
      · rintro ⟨head, tail, rfl, letters, stops⟩
        rcases List.map_eq_cons_iff.mp letters with ⟨high, head, rfl, letter, letters⟩
        rcases List.map_eq_cons_iff.mp letters with ⟨low, head, rfl, letter', letters⟩
        have small := byte.toNat_lt
        have first := (hexDigit?_iff high _).mpr ⟨by omega, letter⟩
        have second := (hexDigit?_iff low _).mpr ⟨by omega, letter'⟩
        have later := (inductionHypothesis (head ++ tail)).mpr ⟨head, tail, rfl, letters, stops⟩
        rw [List.cons_append, List.cons_append, fromHex_pair first second, later, Nat.div_add_mod,
          UInt8.ofNat_toNat]

/-! ## What is taken for a signature -/

variable {hmac : String → String → List UInt8}

theorem fromHex_signPayload (payload : Json) (secret : String) :
    fromHex (signPayload hmac payload secret).toList = hmac secret (canonicalize payload).stringify :=
  fromHex_toHex _

/-- A text is accepted that decodes to the digest. -/
theorem verifyPayload_iff {payload : Json} {signature secret : String} :
    verifyPayload hmac payload signature secret = true ↔
      fromHex signature.toList = hmac secret (canonicalize payload).stringify := by
  unfold verifyPayload
  rw [fromHex_signPayload]
  dsimp only
  split
  · next lengths =>
      constructor
      · intro accepted
        cases accepted
      · intro same
        exact absurd (congrArg List.length same).symm lengths
  · rw [decide_eq_true_iff]
    exact eq_comm

/-- A text that is the signature, in capital or small letters, with something behind it that is no further byte. -/
def Trailing (signature text : String) : Prop :=
  ∃ head tail, text.toList = head ++ tail ∧ head.map Char.toLower = signature.toList ∧ tail ≠ [] ∧ Stops tail

/-- The signature of a digest of 32 bytes has 64 digits, and exactly it is accepted, in capital or small letters,
exactly where the text is not the signature with something behind it. -/
theorem accepted_exactly (digest : ∀ secret text, (hmac secret text).length = 32) (payload : Json)
    (secret text : String) : (signPayload hmac payload secret).length = 64 ∧
    ((verifyPayload hmac payload text secret = true ↔
        text.toList.map Char.toLower = (signPayload hmac payload secret).toList) ↔
      ¬ Trailing (signPayload hmac payload secret) text) := by
  constructor
  · exact (length_toHex _).trans (congrArg (2 * ·) (digest secret _))
  · rw [verifyPayload_iff, fromHex_eq_iff]
    constructor
    · rintro exactly ⟨head, tail, whole, letters, some, stops⟩
      have known := exactly.mp ⟨head, tail, whole, letters, stops⟩
      have lengths := congrArg List.length (known.trans letters.symm)
      rw [whole, List.length_map, List.length_map, List.length_append] at lengths
      exact some (List.length_eq_zero_iff.mp (by omega))
    · intro clean
      constructor
      · rintro ⟨head, tail, whole, letters, stops⟩
        cases tail with
        | nil =>
            rw [whole, List.append_nil]
            exact letters
        | cons c tail => exact absurd ⟨head, c :: tail, whole, letters, List.cons_ne_nil _ _, stops⟩ clean
      · intro letters
        exact ⟨text.toList, [], (List.append_nil _).symm, letters, fun _ _ _ none => nomatch none⟩

/-- A signature in capital and small letters. -/
def mixedText : String := String.ofList (List.replicate 32 ['A', 'b']).flatten

theorem accepted_exactly_mixed :
    (signPayload (fun _ _ => List.replicate 32 0xAB) (obj [("id", num "7")]) "secret").length = 64 ∧
      verifyPayload (fun _ _ => List.replicate 32 0xAB) (obj [("id", num "7")]) mixedText "secret" = true := by
  rcases @accepted_exactly (fun _ _ => List.replicate 32 0xAB) (fun _ _ => List.length_replicate) (obj [("id", num "7")])
    "secret" mixedText with ⟨length, exactly⟩
  have letters : mixedText.toList.map Char.toLower =
      (signPayload (fun _ _ => List.replicate 32 0xAB) (obj [("id", num "7")]) "secret").toList := by decide +kernel
  have clean : ¬ Trailing (signPayload (fun _ _ => List.replicate 32 0xAB) (obj [("id", num "7")]) "secret") mixedText := by
    rintro ⟨head, tail, whole, known, some, _⟩
    have lengths := congrArg List.length (letters.trans known.symm)
    rw [whole, List.length_map, List.length_map, List.length_append] at lengths
    exact some (List.length_eq_zero_iff.mp (by omega))
  exact ⟨length, (exactly.mpr clean).mpr letters⟩

/-- A signature with a letter behind it is accepted. -/
theorem trailing_letter_ignored (hmac : String → String → List UInt8) :
    verifyPayload hmac (obj []) (signPayload hmac (obj []) "secret" ++ "z") "secret" = true ∧
      (signPayload hmac (obj []) "secret" ++ "z").toList.map Char.toLower ≠
        (signPayload hmac (obj []) "secret").toList := by
  have digits : (signPayload hmac (obj []) "secret").toList.map Char.toLower =
      (signPayload hmac (obj []) "secret").toList := toLower_toHex _
  constructor
  · rw [verifyPayload_iff, fromHex_eq_iff]
    refine ⟨_, ['z'], String.toList_append, digits, ?_⟩
    intro high low rest same
    cases same
  · intro same
    rw [String.toList_append, List.map_append, digits] at same
    exact absurd (List.append_right_eq_self.mp same) (by decide)

theorem accepted_with_trailing_letter :
    let hmac := fun (_ _ : String) => List.replicate 32 (0 : UInt8)
    verifyPayload hmac (obj []) (signPayload hmac (obj []) "secret" ++ "z") "secret" = true ∧
      (signPayload hmac (obj []) "secret" ++ "z").toList.map Char.toLower ≠
        (signPayload hmac (obj []) "secret").toList :=
  trailing_letter_ignored _

end WebhookSignature
end Orderly
