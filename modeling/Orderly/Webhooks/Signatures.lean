import Orderly.Events.WebhookDispatcher
import Orderly.Webhooks.Canonical
import Orderly.Webhooks.Digests

/-!
# Webhook signatures

What a delivery posts verifies, and what a signature vouches for: the payload
up to the order of members, but for what canonicalisation loses.
-/

namespace Orderly
namespace WebhookSignature

open Json

/-! ## Payloads of one signature -/

section Verifying

variable {hmac : String → String → List UInt8}

/-- A payload verifies against the signatures of the payloads with its canonical text. -/
theorem verifyPayload_signPayload (injective : ∀ secret, Function.Injective (hmac secret)) {p q : Json}
    {secret : String} : verifyPayload hmac q (signPayload hmac p secret) secret = true ↔
      (canonicalize p).stringify = (canonicalize q).stringify := by
  rw [verifyPayload_iff, fromHex_signPayload]
  exact (injective secret).eq_iff

theorem signPayload_inj (injective : ∀ secret, Function.Injective (hmac secret)) {p q : Json} {secret : String} :
    signPayload hmac p secret = signPayload hmac q secret ↔
      (canonicalize p).stringify = (canonicalize q).stringify :=
  toHex_injective.eq_iff.trans (injective secret).eq_iff

end Verifying

/-! ## What arrives verifies -/

section Delivering

open WebhookDispatcher Process

variable {hmac : String → String → List UInt8} {numberText : String → String}

/-- Numbers are as printed after reordering as before. -/
theorem printed_reorders {first second : Json} (reorders : Reorders first second)
    (printed : All (Printed numberText) first) : All (Printed numberText) second :=
  reorders.all (fun _ _ => trivial) (fun _ => trivial) printed

/-- Whoever reads the text of a payload, its members in whatever order, computes its signature. -/
theorem signPayload_readBack {payload other : Json} (distinct : Distinct payload)
    (reorders : Reorders payload other) (secret : String) :
    signPayload hmac (readBack other) secret = signPayload hmac payload secret := by
  have text : (canonicalize (readBack other)).stringify = (canonicalize payload).stringify := by
    rw [canonicalize_readBack (reorders.distinct distinct), stringify_told, canonicalize_reorders reorders distinct]
  exact congrArg (fun text => toHex (hmac secret text)) text

theorem verifyPayload_self (payload : Json) (secret : String) :
    verifyPayload hmac payload (signPayload hmac payload secret) secret = true := by
  rw [verifyPayload_iff, fromHex_signPayload]

/-- A delivery posts nothing but this. -/
def Posts (request : WebhookRequest) : DeliveryCall → Prop
  | .fetch request' => request' = request
  | _ => True

theorem recordDelivery_posts {State : Type} {request : WebhookRequest} {subscriptionId aggregateId : Uuid}
    {status : Int} {responseBody : String} {log : Log deliveryPorts JsError State} :
    (recordDelivery subscriptionId aggregateId status responseBody).Meets (fun _ _ => True)
      (fun _ call => Posts request call) (fun _ _ => True) (fun _ _ => True) log := by
  refine Program.Meets.attempt_call trivial ?_
  intro reply before after _
  cases reply with
  | ok value => exact trivial
  | error error => exact trivial

theorem attemptDelivery_posts {State : Type} {config : WebhookConfig} {sub : SubscriptionRow}
    {webhookPayload : WebhookPayload} {log : Log deliveryPorts JsError State} :
    (attemptDelivery config sub webhookPayload).Meets (fun _ _ => True)
      (fun _ call => Posts (requestOf config sub webhookPayload) call) (fun _ _ => True) (fun _ _ => True) log := by
  refine Program.Meets.attempt_call (Eq.refl (requestOf config sub webhookPayload)) ?_
  intro reply before after _
  cases reply with
  | error err => exact trivial
  | ok status =>
      have body : (tryCatch responseText fun _ => return "" : Delivering String).Meets (fun _ _ => True)
          (fun _ call => Posts (requestOf config sub webhookPayload) call) (fun _ _ => True) (fun _ _ => True)
          (⟨.fetch (requestOf config sub webhookPayload), .ok status, before, after⟩ :: log) := by
        refine Program.Meets.attempt_call trivial ?_
        intro reply before after _
        cases reply with
        | ok value => exact trivial
        | error error => exact trivial
      refine Program.Meets.bind body ?_
      intro responseBody log _
      refine Program.Meets.bind recordDelivery_posts ?_
      intro _ log _
      split
      · exact trivial
      · exact trivial

/-- A delivery posts one text with one signature. -/
theorem deliver_posts {State : Type} (config : WebhookConfig) (sub : SubscriptionRow)
    (webhookPayload : WebhookPayload) (log : Log deliveryPorts JsError State) :
    (deliver config sub webhookPayload).Meets (fun _ _ => True)
      (fun _ call => Posts (requestOf config sub webhookPayload) call) (fun _ _ => True) (fun _ _ => True) log := by
  unfold deliver
  split
  · exact trivial
  · refine Program.Meets.bind attemptDelivery_posts ?_
    rintro ⟨httpStatus, responseBody, ended⟩ log _
    cases ended with
    | ok value => exact trivial
    | error err =>
        refine Program.Meets.bind (recordDelivery_posts.tryCatch ?_) ?_
        · exact fun _ _ _ => trivial
        · exact fun _ _ _ => trivial

/-- What is posted verifies: its text, read back, against the signature beside it, and so does every text with
the members of its objects in another order. -/
def Verifiable (numberText : String → String) (hmac : String → String → List UInt8) (payload : Json)
    (header secret : String) : DeliveryCall → Prop
  | .fetch request =>
      request.body = payload.stringify ∧
      ∃ signature, (header, signature) ∈ request.headers ∧
        ∀ other, Reorders payload other → ∃ received, parse numberText other.stringify = some received ∧
          verifyPayload hmac received signature secret = true
  | _ => True

/-- Everything that a delivery posts verifies. -/
theorem delivered_verifies {State : Type} {config : WebhookConfig} (signed : config.signPayload = signPayload hmac)
    (sub : SubscriptionRow) {webhookPayload : WebhookPayload} (distinct : Distinct webhookPayload.payload)
    (printed : All (Printed numberText) webhookPayload.payload) (log : Log deliveryPorts JsError State) :
    (deliver config sub webhookPayload).Meets (fun _ _ => True)
      (fun _ call => Verifiable numberText hmac (payloadJson config webhookPayload) config.webhookSecretHeader
        sub.secret call) (fun _ _ => True) (fun _ _ => True) log := by
  have names : Distinct (payloadJson config webhookPayload) := by
    have apart : ["eventType", "aggregateId", "payload", "timestamp"].Nodup := by decide
    refine distinct_obj.mpr ⟨apart, ?_⟩
    exact List.forall_mem_cons.mpr ⟨trivial, List.forall_mem_cons.mpr ⟨trivial, List.forall_mem_cons.mpr
      ⟨distinct, List.forall_mem_singleton.mpr trivial⟩⟩⟩
  have numbers : All (Printed numberText) (payloadJson config webhookPayload) := by
    refine all_obj.mpr ⟨trivial, ?_⟩
    exact List.forall_mem_cons.mpr ⟨trivial, List.forall_mem_cons.mpr ⟨trivial, List.forall_mem_cons.mpr
      ⟨printed, List.forall_mem_singleton.mpr trivial⟩⟩⟩
  refine (deliver_posts config sub webhookPayload log).widen ?_
  intro log call posts
  cases call with
  | text => trivial
  | insertDelivery row => trivial
  | fetch request =>
      cases posts
      refine ⟨rfl, signPayload hmac (payloadJson config webhookPayload) sub.secret, ?_, ?_⟩
      · rw [← signed]
        exact List.mem_cons_of_mem _ List.mem_cons_self
      · intro other reorders
        refine ⟨readBack other, parse_stringify (printed_reorders reorders numbers), ?_⟩
        rw [← signPayload_readBack names reorders]
        exact verifyPayload_self _ _

/-- A subscriber that signs with a digest of zeros. -/
def zeros : WebhookConfig where
  webhookSecretHeader := "X-Webhook-Signature"
  uuidText := toString
  toISOString := toString
  signPayload := signPayload fun _ _ => List.replicate 32 0

theorem zero_printed : Printed (fun _ => "0") (num "0") := fun _ => ⟨by decide, rfl⟩

def orderPaid : WebhookPayload where
  eventType := "order.paid"
  aggregateId := 2
  payload := obj [("total", num "0")]
  timestamp := 3

def hook : SubscriptionRow where
  id := 1
  url := "https://shop.example/hook"
  eventTypes := ["order.paid"]
  secret := "secret"

theorem delivered_verifies_total :
    (deliver zeros hook orderPaid).Meets (fun _ _ => True)
      (fun (_ : Log deliveryPorts JsError Unit) call => Verifiable (fun _ => "0") (fun _ _ => List.replicate 32 0)
        (payloadJson zeros orderPaid) zeros.webhookSecretHeader hook.secret call)
      (fun _ _ => True) (fun _ _ => True) [] := by
  have distinct : Distinct orderPaid.payload :=
    distinct_obj.mpr ⟨by decide, List.forall_mem_singleton.mpr trivial⟩
  have printed : All (Printed fun _ => "0") orderPaid.payload :=
    all_obj.mpr ⟨trivial, List.forall_mem_singleton.mpr zero_printed⟩
  exact delivered_verifies rfl hook distinct printed []

end Delivering

/-! ## What a signature covers -/

section Covering

variable {hmac : String → String → List UInt8} {numberText : String → String} {keep : String → Bool}

theorem prune_printed (value : Json) :
    All (Printed numberText) value → All (Printed numberText) (prune keep value) := by
  induction value using induct with
  | null => exact fun printed => printed
  | bool value => exact fun printed => printed
  | num literal =>
      intro printed
      rw [prune_num]
      split
      · exact printed
      · exact trivial
  | str value => exact fun printed => printed
  | arr items inductionHypothesis =>
      intro printed
      rw [prune_arr]
      refine all_arr.mpr ⟨trivial, List.forall_mem_map.mpr ?_⟩
      intro item member
      exact inductionHypothesis item member ((all_arr.mp printed).2 item member)
  | obj members inductionHypothesis =>
      intro printed
      rw [prune_obj]
      refine all_obj.mpr ⟨trivial, List.forall_mem_map.mpr ?_⟩
      intro member inside
      have known := (List.mem_filter.mp inside).1
      exact inductionHypothesis member known ((all_obj.mp printed).2 member known)

/-- What has been told once is told again. -/
theorem told_told (value : Json) : told (told value) = told value := by
  induction value using induct with
  | null => rfl
  | bool value => rfl
  | num literal =>
      rw [told_num]
      split
      · next finite => exact (told_num literal).trans (if_pos finite)
      · rfl
  | str value => rfl
  | arr items inductionHypothesis =>
      rw [told_arr, told_arr, List.map_map]
      exact congrArg arr (List.map_congr_left inductionHypothesis)
  | obj members inductionHypothesis =>
      rw [told_obj, told_obj, List.map_map]
      refine congrArg obj (List.map_congr_left ?_)
      intro member inside
      exact congrArg (Prod.mk member.1) (inductionHypothesis member inside)

/-- One canonical text is the text of one visible part. -/
theorem canonical_text_iff {p q : Json} (wellFormed : WellFormed numberText p)
    (wellFormed' : WellFormed numberText q) :
    (canonicalize p).stringify = (canonicalize q).stringify ↔ Reorders (visible p) (visible q) := by
  have reads : ∀ {payload}, WellFormed numberText payload →
      parse numberText (canonicalize payload).stringify = some (readBack (told (canonicalize payload))) ∧
      Reorders (visible payload) (readBack (told (canonicalize payload))) := by
    intro payload known
    have shown := visible_reorders known.1
    have numbers := printed_reorders shown (prune_printed payload known.2)
    have back := told_reorders_readBack _ (shown.distinct (prune_distinct payload known.1))
    rw [told_told] at back
    refine ⟨?_, shown.trans back⟩
    rw [← stringify_told]
    exact parse_stringify numbers
  constructor
  · intro same
    have read := (reads wellFormed).1
    rw [same, (reads wellFormed').1] at read
    have back := (reads wellFormed).2
    rw [← Option.some.inj read] at back
    exact back.trans (reads wellFormed').2.symm
  · intro reorders
    have same := canonicalize_reorders reorders (prune_distinct p wellFormed.1)
    rw [canonicalize_visible wellFormed.1, canonicalize_visible wellFormed'.1] at same
    rw [← stringify_told, same, stringify_told]

/-- A signature of one payload is accepted for another, or the signatures are the same, only where the payloads
differ in the order of members alone, exactly where they do not differ in what no signature sees: members named
`__proto__`, and infinite numbers in the place of null. -/
theorem signature_covers (prints : Prints numberText) (injective : ∀ secret, Function.Injective (hmac secret))
    {text text' : String} {p q : Json} (parsed : parse numberText text = some p)
    (parsed' : parse numberText text' = some q) (secret : String) :
    ((verifyPayload hmac q (signPayload hmac p secret) secret = true → Reorders p q) ↔
      (Reorders (visible p) (visible q) → Reorders p q)) ∧
    ((signPayload hmac p secret = signPayload hmac q secret → Reorders p q) ↔
      (Reorders (visible p) (visible q) → Reorders p q)) := by
  have covers := canonical_text_iff (parse_wellFormed prints parsed) (parse_wellFormed prints parsed')
  constructor
  · rw [verifyPayload_signPayload injective, covers]
  · rw [signPayload_inj injective, covers]

/-- Members that are no indices are enumerated as they were added. -/
theorem enumerated_unindexed {members : List (String × Json)}
    (unindexed : ∀ member ∈ members, arrayIndex? member.1 = none) : enumerated members = members := by
  have first : members.filter (fun member => (arrayIndex? member.1).isSome) = [] := by
    apply List.filter_eq_nil_iff.mpr
    intro member inside
    rw [unindexed member inside]
    exact Bool.false_ne_true
  have second : members.filter (fun member => !(arrayIndex? member.1).isSome) = members := by
    apply List.filter_eq_self.mpr
    intro member inside
    rw [unindexed member inside]
    rfl
  unfold enumerated
  rw [first, second]
  rfl

/-- A payload without members, and one with a member that no signature sees. -/
def bare : Json := obj []

def altered : Json := obj [("__proto__", obj [("paid", bool true)])]

theorem readBack_altered (paid : arrayIndex? "paid" = none) (proto : arrayIndex? "__proto__" = none) :
    readBack altered = altered := by
  have inner : enumerated [("paid", bool true)] = [("paid", bool true)] :=
    enumerated_unindexed (List.forall_mem_singleton.mpr paid)
  have outer : enumerated [("__proto__", obj [("paid", bool true)])] = [("__proto__", obj [("paid", bool true)])] :=
    enumerated_unindexed (List.forall_mem_singleton.mpr proto)
  refine (readBack_obj _).trans ?_
  rw [ofEntries, foldl_define (by decide), List.map_singleton]
  dsimp only
  rw [readBack_obj, ofEntries, foldl_define (by decide), List.map_singleton]
  exact (congrArg (fun members => obj (enumerated [("__proto__", obj members)])) inner).trans (congrArg obj outer)

theorem signature_misses_prototype :
    parse id "\x7b\x7d" = some bare ∧
    parse id "\x7b\"__proto__\":\x7b\"paid\":true\x7d\x7d" = some altered ∧
    (∀ hmac secret, verifyPayload hmac altered (signPayload hmac bare secret) secret = true) ∧
    ¬ Reorders bare altered := by
  have evaluated : bare.stringify = "\x7b\x7d" ∧
      altered.stringify = "\x7b\"__proto__\":\x7b\"paid\":true\x7d\x7d" ∧ arrayIndex? "paid" = none ∧
      arrayIndex? "__proto__" = none := by decide
  rcases evaluated with ⟨text, text', paid, proto⟩
  refine ⟨?_, ?_, ?_, ?_⟩
  · rw [← text]
    exact parse_stringify (all_obj.mpr ⟨trivial, fun _ none => nomatch none⟩)
  · rw [← text', parse_stringify]
    · exact congrArg some (readBack_altered paid proto)
    exact all_obj.mpr ⟨trivial, List.forall_mem_singleton.mpr
      (all_obj.mpr ⟨trivial, List.forall_mem_singleton.mpr trivial⟩)⟩
  · intro hmac secret
    have same : canonicalize (obj [("__proto__", obj [("paid", bool true)])]) = canonicalize bare := by
      rw [canonicalize_members, List.map_singleton]
      have unset : ∀ value, ([("__proto__", value)].insertionSort KeyLe).foldl assign [] = [] := by
        intro value
        have single : [("__proto__", value)].insertionSort KeyLe = [("__proto__", value)] := rfl
        rw [single, List.foldl_cons, assign, if_pos rfl]
        rfl
      rw [unset]
      rfl
    have digest := congrArg (fun value => hmac secret value.stringify) same.symm
    exact verifyPayload_iff.mpr ((fromHex_signPayload bare secret).trans digest)
  · intro reorders
    have settable : Settable bare := settable_obj.mpr ⟨List.not_mem_nil, fun _ none => nomatch none⟩
    have settable' : Settable altered :=
      reorders.named (fun permuted kept inside => kept (permuted.mem_iff.mpr inside)) settable
    exact (settable_obj.mp settable').1 List.mem_cons_self

/-- The bytes of a text, in place of its digest. -/
def bytesOf (_ text : String) : List UInt8 := text.toByteArray.data.toList

theorem bytesOf_injective (secret : String) : Function.Injective (bytesOf secret) := by
  intro text text' same
  exact String.toByteArray_inj.mp (ByteArray.ext (Array.toList_inj.mp same))

/-- A printer that knows one number besides zero. -/
def sevens (literal : String) : String := if literal = "7" then "7" else "0"

theorem sevens_prints : Prints sevens := by
  intro text literal rest _
  unfold sevens
  split <;> exact fun _ => ⟨by decide, by decide⟩

/-- One payload in two orders of its members. -/
def settled : Json := obj [("id", num "7"), ("paid", bool true)]

def turned : Json := obj [("paid", bool true), ("id", num "7")]

theorem readBack_settled : readBack settled = settled ∧ readBack turned = turned := by
  have unindexed : arrayIndex? "id" = none ∧ arrayIndex? "paid" = none := by decide
  constructor
  · refine (readBack_obj _).trans ?_
    rw [ofEntries, foldl_define (by decide)]
    exact congrArg obj (enumerated_unindexed (List.forall_mem_cons.mpr
      ⟨unindexed.1, List.forall_mem_singleton.mpr unindexed.2⟩))
  · refine (readBack_obj _).trans ?_
    rw [ofEntries, foldl_define (by decide)]
    exact congrArg obj (enumerated_unindexed (List.forall_mem_cons.mpr
      ⟨unindexed.2, List.forall_mem_singleton.mpr unindexed.1⟩))

theorem parse_settled : parse sevens "\x7b\"id\":7,\"paid\":true\x7d" = some settled ∧
    parse sevens "\x7b\"paid\":true,\"id\":7\x7d" = some turned := by
  have evaluated : settled.stringify = "\x7b\"id\":7,\"paid\":true\x7d" ∧
      turned.stringify = "\x7b\"paid\":true,\"id\":7\x7d" := by decide
  have seven : Printed sevens (num "7") := fun _ => ⟨by decide, by decide⟩
  constructor
  · rw [← evaluated.1, parse_stringify, readBack_settled.1]
    exact all_obj.mpr ⟨trivial, List.forall_mem_cons.mpr ⟨seven, List.forall_mem_singleton.mpr trivial⟩⟩
  · rw [← evaluated.2, parse_stringify, readBack_settled.2]
    exact all_obj.mpr ⟨trivial, List.forall_mem_cons.mpr ⟨trivial, List.forall_mem_singleton.mpr seven⟩⟩

/-- The signature of a payload, against the same in another order. -/
theorem signature_covers_turned : settled ≠ turned ∧
    ((verifyPayload bytesOf turned (signPayload bytesOf settled "secret") "secret" = true → Reorders settled turned) ↔
      (Reorders (visible settled) (visible turned) → Reorders settled turned)) ∧
    ((signPayload bytesOf settled "secret" = signPayload bytesOf turned "secret" → Reorders settled turned) ↔
      (Reorders (visible settled) (visible turned) → Reorders settled turned)) := by
  have different : settled ≠ turned := by
    intro same
    injection same with members
    injection members with head
    injection head with name
    exact absurd name (by decide)
  exact ⟨different, @signature_covers bytesOf sevens sevens_prints bytesOf_injective _ _ settled turned parse_settled.1
    parse_settled.2 "secret"⟩

end Covering

end WebhookSignature
end Orderly
