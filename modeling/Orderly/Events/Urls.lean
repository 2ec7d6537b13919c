import Orderly.Domain.JsonTexts
import Orderly.Events.WebhookDispatcher

/-!
# The hosts of URLs

The host that `fetch` connects to, as the WHATWG rules read it out of a text:
the scheme in any case, whatever stands before an `@` dropped, IPv4 addresses
in one to four numbers of three bases, IPv6 addresses with a gap or an embedded
IPv4 address.  Unicode's `ToASCII`, which domains outside ASCII go through, is
a parameter.  Paths, queries and fragments cannot make a URL invalid and are
not read.
-/

namespace Orderly
namespace Urls

open Json (hexDigit?)

section Parsing

variable (toASCII : List Char → Option (List Char))

end Parsing

/-! ## Private hosts -/

end Urls
end Orderly
