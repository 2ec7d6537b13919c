import Orderly.Domain.JsonTexts

/-!
# Signatures of webhooks

HMAC-SHA256 is a parameter: a function of the secret and the text to a digest
in bytes.
-/

namespace Orderly
namespace WebhookSignature

open Json (TextLe define enumerated)

/-! ## Canonical payloads -/

/-- `sorted[key] = value`.  The name `__proto__` sets a prototype instead, which is not enumerated. -/
def assign (sorted : List (String × Json)) (entry : String × Json) : List (String × Json) :=
  if entry.1 = "__proto__" then sorted else define entry.1 entry.2 sorted

/-- The order of `Object.keys(value).sort()`. -/
abbrev KeyLe (first second : String × Json) : Prop := TextLe first.1 second.1

mutual

def canonicalize : Json → Json
  | .arr items => .arr (canonicalizeItems items)
  | .obj members => .obj (enumerated (((canonicalizeMembers members).insertionSort KeyLe).foldl assign []))
  | value => value

def canonicalizeItems : List Json → List Json
  | [] => []
  | item :: items => canonicalize item :: canonicalizeItems items

def canonicalizeMembers : List (String × Json) → List (String × Json)
  | [] => []
  | (key, value) :: members => (key, canonicalize value) :: canonicalizeMembers members

end

/-! ## Hexadecimal digests -/

/-- `digest('hex')`. -/
def toHex (bytes : List UInt8) : String :=
  String.ofList (bytes.flatMap fun byte => [Nat.digitChar (byte.toNat / 16), Nat.digitChar (byte.toNat % 16)])

/-- `Buffer.from(text, 'hex')`, which stops at the first pair that is no two digits. -/
def fromHex : List Char → List UInt8
  | high :: low :: rest =>
      match Json.hexDigit? high, Json.hexDigit? low with
      | some high, some low => UInt8.ofNat (16 * high + low) :: fromHex rest
      | _, _ => []
  | _ => []

/-! ## Signing and verifying -/

section Signing

variable (hmac : String → String → List UInt8)

def signPayload (payload : Json) (secret : String) : String :=
  toHex (hmac secret (canonicalize payload).stringify)

def verifyPayload (payload : Json) (signature secret : String) : Bool :=
  let expected := fromHex (signPayload hmac payload secret).toList
  let provided := fromHex signature.toList
  if expected.length ≠ provided.length then false else expected = provided

end Signing

end WebhookSignature
end Orderly
