import Orderly.System

/-!
# Payloads through postgres.js

`toJson` hands the driver a text, and the cast makes the server describe the
parameter as jsonb.  postgres.js serialises such a parameter with
`JSON.stringify`, so the text is quoted once more, and parses the column with
`JSON.parse`, which removes one layer of quotes.  A driver is given here by its
`JSON.parse`, of which only what it does to the text of a string matters.
-/

namespace Orderly

/-- `toJson(value)`. -/
def SagaRepository.toJson (value : Json) : String := value.stringify

/-- `JSON.parse`, which undoes `JSON.stringify` on strings. -/
structure PostgresDriver where
  parse : String → Json
  parse_stringify : ∀ text, parse (Json.str text).stringify = .str text

namespace PostgresDriver

/-- A value written with `${toJson(value)}::jsonb` and read again. -/
def column (driver : PostgresDriver) (value : Json) : Json :=
  driver.parse (Json.str (SagaRepository.toJson value)).stringify

theorem column_eq (driver : PostgresDriver) (value : Json) : driver.column value = .str value.stringify :=
  driver.parse_stringify value.stringify

end PostgresDriver

/-! ## Reading a quoted text -/

namespace Json

/-- What stands for the character behind a backslash. -/
def unescaped (c : Char) : Char :=
  if c = 'n' then '\n' else if c = 'r' then '\r' else if c = 't' then '\t'
  else if c = 'b' then Char.ofNat 8 else if c = 'f' then Char.ofNat 12 else c

def hexValue (c : Char) : Nat := if c.toNat < 58 then c.toNat - 48 else c.toNat - 87

/-- The characters of a JSON string from behind its opening quote. -/
def unquote : List Char → Option (List Char)
  | ['"'] => some []
  | '\\' :: 'u' :: '0' :: '0' :: a :: b :: rest =>
      (unquote rest).map (Char.ofNat (16 * hexValue a + hexValue b) :: ·)
  | '\\' :: c :: rest => (unquote rest).map (unescaped c :: ·)
  | c :: rest => (unquote rest).map (c :: ·)
  | [] => none

/-- The string a text stands for, where it stands for one. -/
def parseString (text : String) : Json :=
  match text.toList with
  | '"' :: rest =>
      match unquote rest with
      | some characters => .str (String.ofList characters)
      | none => .null
  | _ => .null

/-- Two hexadecimal digits name a control character. -/
theorem hex_control {code : Nat} (control : code < 32) :
    16 * hexValue (Nat.digitChar (code / 16)) + hexValue (Nat.digitChar (code % 16)) = code := by
  revert code
  decide

/-- An escaped character reads as itself. -/
theorem unquote_escape (c : Char) (rest : List Char) :
    unquote (escape c ++ rest) = (unquote rest).map (c :: ·) := by
  have code : Char.ofNat c.toNat = c := Char.ofNat_toNat c
  unfold escape
  split
  · next same => simp [same, unquote, unescaped]
  · next noQuote =>
      split
      · next same => simp [same, unquote, unescaped]
      · next noBackslash =>
          split
          · next same => simp [same, unquote, unescaped]
          · split
            · next same => simp [same, unquote, unescaped]
            · split
              · next same => simp [same, unquote, unescaped]
              · split
                · next same =>
                    rw [same] at code
                    subst code
                    simp [unquote, unescaped]
                · split
                  · next same =>
                      rw [same] at code
                      subst code
                      simp [unquote, unescaped]
                  · split
                    · next control =>
                        rw [← hex_control control] at code
                        simp [unquote, code]
                    · rw [List.singleton_append, unquote]
                      · intro same _
                        exact noQuote same
                      · intro a b rest same
                        exact absurd same noBackslash
                      · intro d rest same
                        exact absurd same noBackslash

theorem unquote_flatMap (text : List Char) : unquote (text.flatMap escape ++ ['"']) = some text := by
  induction text with
  | nil => rfl
  | cons c text inductionHypothesis =>
      rw [List.flatMap_cons, List.append_assoc, unquote_escape, inductionHypothesis]
      rfl

/-- Quoting and reading a string cancel. -/
theorem parseString_quote (text : String) : parseString (quote text) = .str text := by
  simp [parseString, quote, unquote_flatMap]

/-- A quoted text is longer than the text. -/
theorem length_quote (text : String) : text.length + 2 ≤ (quote text).length := by
  have grown : text.toList.length ≤ (text.toList.flatMap escape).length := by
    induction text.toList with
    | nil => exact Nat.le_refl 0
    | cons c rest inductionHypothesis =>
        have one : 1 ≤ (escape c).length := by
          unfold escape
          repeat' split
          all_goals simp
        rw [List.flatMap_cons, List.length_append, List.length_cons]
        omega
  have same : text.length = text.toList.length := String.length_toList.symm
  simp only [quote, String.length_ofList, List.length_append, List.length_cons, List.length_nil]
  omega

/-- No value is the text it serialises to. -/
theorem str_stringify_ne (value : Json) : .str value.stringify ≠ value := by
  intro same
  cases value with
  | str text =>
      injection same with equal
      have longer := length_quote text
      rw [stringify] at equal
      rw [equal] at longer
      omega
  | _ => cases same

end Json

/-- A driver whose `JSON.parse` reads strings. -/
def stringDriver : PostgresDriver where
  parse := Json.parseString
  parse_stringify := Json.parseString_quote

/-- What the small shop's platform reads back is what the driver makes of a payload. -/
theorem postgresJs_column (driver : PostgresDriver) (value : Json) :
    postgresJs.jsonb value = driver.column value :=
  (driver.column_eq value).symm

end Orderly
