import Orderly.Webhooks.Hosts

/-!
# Blocked deliveries

A delivery posts nothing exactly where its URL is blocked.  Hosts written as
the rules for URLs write them themselves are blocked where they are private;
other writings of the same hosts are not, such as an IPv4 address in one number.
-/

namespace Orderly
namespace Urls

open Process (Program Log)
open UrlPattern WebhookDispatcher

/-! ## Private hosts in plain writing -/

theorem PlainAddress.sign {text : List Char} (plain : PlainAddress text) : '.' ∈ text ∨ '[' ∈ text := by
  cases plain with
  | start listed rest =>
      simp only [List.mem_cons, List.not_mem_nil, or_false] at listed
      rcases listed with rfl | rfl | rfl | rfl
      · exact .inl (List.mem_append_left _ (by decide))
      · exact .inl (List.mem_append_left _ (by decide))
      · exact .inl (List.mem_append_left _ (by decide))
      · exact .inr (List.mem_append_left _ (by decide))
  | network listed second third fourth rest =>
      exact .inl (List.mem_append_right _ (List.mem_append_right _ List.mem_cons_self))
  | shared low high third fourth rest => exact .inl (List.mem_append_left _ (by decide))

theorem PlainName.sign {text : List Char} (plain : PlainName text) : 'l' ∈ text ∨ '[' ∈ text := by
  cases plain with
  | name listed rest =>
      simp only [List.mem_cons, List.not_mem_nil, or_false] at listed
      rcases listed with rfl | rfl
      · exact .inl (List.mem_append_left _ (by decide))
      · exact .inl (List.mem_append_left _ (by decide))
  | network listed third fourth rest =>
      simp only [List.mem_cons, List.not_mem_nil, or_false] at listed
      rcases listed with rfl | rfl
      · exact .inr (List.mem_append_left _ (by decide))
      · exact .inr (List.mem_append_left _ (by decide))

/-- A call that posts nothing. -/
def Silent : DeliveryCall → Prop
  | .fetch _ => False
  | _ => True

end Urls
end Orderly
