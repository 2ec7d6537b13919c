import Orderly.Domain.MoneyOrder
import Orderly.Infrastructure.StripeAdapter

/-!
# The amount that is posted

Both requests of the adapter multiply by 100, so they ask for the number of
hundredths.  For a currency with another minor unit this is another number.
-/

namespace Orderly

open Decimal
open Process (Program)

/-- Below 10^10 of a currency nothing is rounded on the way to whole hundredths. -/
theorem toFixed_hundred {units : Nat} (small : units < 10 ^ 12) :
    ((readUnits units).times (finite false 100 0)).toFixed 0 = toString units := by
  have readable : Readable units := readable_of_small (Nat.lt_of_lt_of_le small (by decide))
  rcases readUnits_of_readable readable with ⟨rfl, read⟩ | read
  · rw [read]
    decide +kernel
  · have digits : digitCount (units * 100) ≤ precision := by
      apply (digitCount_le_iff (by decide)).mpr
      unfold precision
      omega
    have kept : dropDigits (units * 100) 0 = units * 100 := by
      unfold dropDigits
      simp [Nat.mod_one]
    have whole : Decimal.toUnits 0 (units * 100) (-2) = units := by
      unfold Decimal.toUnits dropDigits
      simp
    have printed : printUnits 0 units = Nat.toDigits 10 units := by
      have some := digitCount_pos units
      unfold digitCount at some
      unfold printUnits
      simp [Nat.sub_eq_zero_of_le some]
    rw [read]
    change (roundSignificant false (units * 100) (-2)).toFixed 0 = toString units
    unfold roundSignificant
    rw [Nat.sub_eq_zero_of_le digits]
    dsimp only
    rw [kept]
    change String.ofList (printUnits 0 (Decimal.toUnits 0 (units * 100) (-2))) = toString units
    rw [whole, printed]
    exact Nat.repr_eq_ofList_toDigits.symm

namespace StripeAdapter

theorem minorUnits_ofUnits {units : Nat} (small : units < 10 ^ 12) (currency : String) :
    minorUnits (Money.ofUnits units currency) = .ok (toString units) := by
  unfold minorUnits
  rw [Money.parse_ofUnits, ← toFixed_hundred small]
  rfl

/-- A request that is posted asks for so many units. -/
def AsksFor (units : Nat) : HttpCall → Prop
  | .fetch request => request.body.lookup "amount" = some (toString units)
  | _ => True

/-- Whatever is answered, nothing else is posted. -/
def OnlyAsksFor (units : Nat) {α : Type} (client : Client α) (log : Process.Log http JsError Ledger) : Prop :=
  client.Meets (fun _ _ => True) (fun _ call => AsksFor units call) (fun _ _ => True) (fun _ _ => True) log

section Asking

variable {units : Nat} {α β : Type} {log : Process.Log http JsError Ledger}

theorem OnlyAsksFor.bind {client : Client α} {next : α → Client β} (first : OnlyAsksFor units client log)
    (second : ∀ value log, OnlyAsksFor units (next value) log) : OnlyAsksFor units (client >>= next) log :=
  Program.Meets.bind first fun value log _ => second value log

theorem OnlyAsksFor.tryCatch {client : Client α} {handler : JsError → Client α} (body : OnlyAsksFor units client log)
    (handled : ∀ error log, OnlyAsksFor units (handler error) log) :
    OnlyAsksFor units (MonadExcept.tryCatch client handler) log :=
  Program.Meets.tryCatch body fun error log _ => handled error log

theorem OnlyAsksFor.ofExcept (result : Except JsError α) (log : Process.Log http JsError Ledger) :
    OnlyAsksFor units (Program.ofExcept result) log :=
  Program.Meets.ofExcept (fun _ _ => trivial) (fun _ _ => trivial)

theorem OnlyAsksFor.call {request : HttpCall} (asks : AsksFor units request) :
    OnlyAsksFor units (Program.call (S := http) request) log :=
  ⟨asks, fun _ _ _ _ => Program.Meets.ofExcept (fun _ _ => trivial) (fun _ _ => trivial)⟩

/-- An exchange posts its request and nothing else. -/
theorem exchange_onlyAsksFor {request : HttpRequest} {errorCode errorMessage : String} :
    OnlyAsksFor units (exchange (.ok request) errorCode errorMessage) log ↔ AsksFor units (.fetch request) := by
  constructor
  · intro asks
    exact asks.1
  · intro asks
    have read : ∀ (response : HttpResponse) log, OnlyAsksFor units response.json log := fun _ _ => .call trivial
    refine .tryCatch ?_ fun error log => trivial
    change OnlyAsksFor units (fetch request >>= _) log
    refine .bind (.call asks) ?_
    intro response log
    split
    · refine .bind (.tryCatch (read response log) fun error log => trivial) ?_
      intro error log
      exact .bind (.ofExcept _ log) fun detail log => trivial
    · refine .bind (read response log) ?_
      intro data log
      exact .bind (.ofExcept _ log) fun id log => trivial

end Asking

section Requests

variable {config : GatewayConfig} {money : Money} {posted : String}

/-- Without a key the adapter posts nothing, otherwise `charge` asks for the minor units it has computed. -/
theorem charge_onlyAsksFor (units : Nat) (orderId : Uuid) (token : String) (computed : minorUnits money = .ok posted) :
    OnlyAsksFor units (charge config orderId money token) [] ↔
      config.paymentGatewayApiKey = "" ∨ posted = toString units := by
  unfold charge
  split
  · next unset =>
      exact ⟨fun _ => Or.inl unset, fun _ => .bind (.call trivial) fun id log => trivial⟩
  · next key =>
      unfold chargeRequest
      rw [computed]
      exact exchange_onlyAsksFor.trans ((Iff.intro Option.some.inj (congrArg some)).trans (or_iff_right key).symm)

/-- So does `refund`. -/
theorem refund_onlyAsksFor (units : Nat) (transactionId : String) (computed : minorUnits money = .ok posted) :
    OnlyAsksFor units (refund config transactionId money) [] ↔
      config.paymentGatewayApiKey = "" ∨ posted = toString units := by
  unfold refund
  split
  · next unset =>
      exact ⟨fun _ => Or.inl unset, fun _ => .bind (.call trivial) fun id log => trivial⟩
  · next key =>
      unfold refundRequest
      rw [computed]
      exact exchange_onlyAsksFor.trans ((Iff.intro Option.some.inj (congrArg some)).trans (or_iff_right key).symm)

end Requests

/-- A total of whole hundredths that is `minor` units of `10 ^ -exponent`, is asked for and given back as that
number of units, exactly where the units are hundredths, the total is zero or nothing is posted. -/
theorem asks_minor_units {currency : String} {d : Decimal} {money : Money} {exponent minor hundredths : Nat}
    (config : GatewayConfig) (built : Money.Built currency d money) (cents : d.value * 100 = hundredths)
    (whole : d.value * 10 ^ exponent = minor) (below : d.value < 10 ^ 10) (orderId : Uuid) (token transactionId : String) :
    OnlyAsksFor minor (charge config orderId money token) [] ∧
      OnlyAsksFor minor (refund config transactionId money) [] ↔
    config.paymentGatewayApiKey = "" ∨ exponent = 2 ∨ minor = 0 := by
  rcases built.units with ⟨_, units, nearest, _, rfl⟩
  have exact' : units = hundredths := by
    have rounded : d.nearestHundredths = hundredths := by
      unfold nearestHundredths
      rw [mul_comm, cents, round_natCast]
    exact_mod_cast nearest.trans rounded
  subst exact'
  have small : units < 10 ^ 12 := by
    have bound : (units : ℚ) < 10 ^ 12 := by
      rw [← cents]
      linarith
    exact_mod_cast bound
  have computed := minorUnits_ofUnits small (toUpperCase currency)
  rw [charge_onlyAsksFor minor orderId token computed, refund_onlyAsksFor minor transactionId computed, and_self]
  refine or_congr_right ?_
  have zero : minor = 0 ↔ d.value = 0 := by
    rw [← Nat.cast_eq_zero (R := ℚ), ← whole, mul_eq_zero, or_iff_left (pow_ne_zero _ (by norm_num))]
  have hundred : (100 : ℚ) = 10 ^ exponent ↔ exponent = 2 := by
    rw [show (100 : ℚ) = 10 ^ 2 by norm_num, pow_right_inj₀ (by norm_num) (by norm_num), eq_comm]
  have texts : toString units = toString minor ↔ units = minor := ⟨toString_inj, congrArg toString⟩
  calc toString units = toString minor
      ↔ (units : ℚ) = minor := by rw [texts, Nat.cast_inj]
    _ ↔ d.value * 100 = d.value * 10 ^ exponent := by rw [cents, whole]
    _ ↔ exponent = 2 ∨ minor = 0 := by rw [mul_eq_mul_left_iff, hundred, zero]

/-- A configuration with a key. -/
def liveConfig : GatewayConfig where
  paymentGatewayApiKey := "sk_live"
  paymentGatewayBaseUrl := "https://api.stripe.com"

theorem asks_minor_units_dollars :
    let money : Money := { amount := "19.99", currency := "USD" }
    OnlyAsksFor 1999 (charge liveConfig 7 money "tok") [] ∧ OnlyAsksFor 1999 (refund liveConfig "ch_1" money) [] ↔
      liveConfig.paymentGatewayApiKey = "" ∨ 2 = 2 ∨ 1999 = 0 :=
  have built : Money.Built "USD" (finite false 1999 (-2)) { amount := "19.99", currency := "USD" } :=
    ⟨⟨by decide, by decide⟩, "19.99", by decide +kernel⟩
  @asks_minor_units "USD" _ _ 2 1999 1999 liveConfig built (by norm_num [Decimal.value, signed])
    (by norm_num [Decimal.value, signed])
    (by norm_num [Decimal.value, signed]) 7 "tok" "ch_1"

/-- 500 yen are 500 of their smallest unit, and 50000 are charged. -/
theorem overcharges_yen : ∃ d money, Money.Built "JPY" d money ∧ d.value = 500 ∧ d.value * 10 ^ 0 = (500 : Nat) ∧
    ¬ OnlyAsksFor 500 (charge liveConfig 7 money "tok") [] ∧ OnlyAsksFor 50000 (charge liveConfig 7 money "tok") [] := by
  have made : Money.construct "500.00" (finite false 50000 (-2)) "JPY" =
      .ok { amount := "500.00", currency := "JPY" } ∧
      minorUnits { amount := "500.00", currency := "JPY" } = .ok "50000" := by decide +kernel
  refine ⟨finite false 50000 (-2), { amount := "500.00", currency := "JPY" }, ⟨⟨by decide, by decide⟩, _, made.1⟩,
    by norm_num [Decimal.value, signed], by norm_num [Decimal.value, signed], ?_, ?_⟩
  · rw [charge_onlyAsksFor 500 7 "tok" made.2]
    decide
  · exact (charge_onlyAsksFor 50000 7 "tok" made.2).mpr (Or.inr rfl)

end StripeAdapter
end Orderly
