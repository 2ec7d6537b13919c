import Orderly.Events.Urls
import Mathlib.Data.List.TakeWhile
import Mathlib.Tactic.IntervalCases

/-!
# Blocked addresses

Which URLs are blocked: those that write a private host as the patterns expect
it, directly behind a scheme in small letters.  The rules for URLs know many
other ways to write the same host, and those are not blocked.
-/

namespace Orderly

open Process (Program Log)

/-! ## Patterns -/

namespace UrlPattern

/-- A run of decimal digits. -/
def Run (text : List Char) : Prop := text ≠ [] ∧ ∀ c ∈ text, c.isDigit = true

/-- What holds of the text behind `http://` or `https://`. -/
def Behind (P : List Char → Prop) (url : List Char) : Prop :=
  ∃ scheme ∈ ["http://", "https://"], ∃ rest, url = scheme.toList ++ rest ∧ P rest

theorem Behind.or {P Q : List Char → Prop} {url : List Char} :
    Behind (fun rest => P rest ∨ Q rest) url ↔ Behind P url ∨ Behind Q url := by
  constructor
  · rintro ⟨scheme, listed, rest, whole, holds | holds⟩
    · exact .inl ⟨scheme, listed, rest, whole, holds⟩
    · exact .inr ⟨scheme, listed, rest, whole, holds⟩
  · rintro (⟨scheme, listed, rest, whole, holds⟩ | ⟨scheme, listed, rest, whole, holds⟩)
    · exact ⟨scheme, listed, rest, whole, .inl holds⟩
    · exact ⟨scheme, listed, rest, whole, .inr holds⟩

end UrlPattern

/-! ## Plain writing -/

namespace Urls

open UrlPattern

/-- How a text begins that writes a private address as the patterns expect it. -/
inductive PlainAddress : List Char → Prop where
  | start {start : String} (listed : start ∈ ["127.", "192.168.", "169.254.", "[::1]"]) (rest : List Char) :
      PlainAddress (start.toList ++ rest)
  | network {first : String} (listed : first ∈ ["0.", "10."]) {a b c : List Char} (second : Run a) (third : Run b)
      (fourth : Run c) (rest : List Char) :
      PlainAddress (first.toList ++ (a ++ '.' :: (b ++ '.' :: (c ++ rest))))
  | shared {second : Nat} (low : 16 ≤ second) (high : second ≤ 31) {a b : List Char} (third : Run a) (fourth : Run b)
      (rest : List Char) :
      PlainAddress ("172.".toList ++ (Nat.toDigits 10 second ++ '.' :: (a ++ '.' :: (b ++ rest))))

/-- A hexadecimal digit, in small letters. -/
def isHex (c : Char) : Bool := c.isDigit || (decide ('a' ≤ c) && decide (c ≤ 'f'))

/-- The same for names and local networks, in small letters. -/
inductive PlainName : List Char → Prop where
  | name {name : String} (listed : name ∈ ["localhost", "metadata.google.internal"]) (rest : List Char) :
      PlainName (name.toList ++ rest)
  | network {start : String} (listed : start ∈ ["[fc", "[fd"]) {a b : Char} (third : isHex a = true)
      (fourth : isHex b = true) (rest : List Char) : PlainName (start.toList ++ a :: b :: ':' :: rest)

end Urls

end Orderly
