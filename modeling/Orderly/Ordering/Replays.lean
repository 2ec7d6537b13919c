import Orderly.Ordering.OneOrder

/-!
# Replays

A record of the idempotency store is the answer of the request that created an
order, under that request's key and with its hash.  Where a later request finds
a record, it is answered from it.  Where it finds none, because a read or a
write of Redis failed or the record is gone, it runs into the unique constraint
of the database and is answered with an internal error.
-/

namespace Orderly

open Process (Program System)

/-! ## Where records come from -/

section Records

variable {platform : Platform} {config : ApiConfig} {post : PostOrder} {log : IntakeLog} {event : IntakeEvent}

/-- A record that Redis holds after a call was there before or is the one that the call stores. -/
theorem records_admits (admitted : (api platform config).Admits log event) :
    ∀ entry ∈ event.after.records, entry ∈ event.before.records ∨
      ∃ ttlSeconds, event.call = .set entry.1 entry.2.1 ttlSeconds := by
  rcases event with ⟨call, reply, before, after⟩
  rcases System.admits_iff.mp admitted with ⟨choice, performed⟩
  rcases Prod.ext_iff.mp performed with ⟨replied, rfl⟩
  intro entry member
  cases call with
  | commit transaction =>
      refine Or.inl ?_
      change entry ∈ (before.perform platform (.commit transaction) choice).2.records at member
      rcases perform_commit platform before transaction choice with done | ⟨same, _⟩
      · rwa [(commit_untouched done).records] at member
      · rwa [same] at member
  | addJob jobId data =>
      refine Or.inl ?_
      change entry ∈ (before.perform platform (.addJob jobId data) choice).2.records at member
      rcases perform_addJob platform before jobId data choice with done | same
      · rw [done] at member
        unfold Backend.addJob at member
        split at member
        · exact member
        · exact member
      · rwa [same] at member
  | get key =>
      refine Or.inl ?_
      cases choice with
      | refuse => exact List.mem_of_mem_filter member
      | _ => exact member
  | set key record ttlSeconds =>
      have stored : entry ∈ (before.setRecord key record ttlSeconds).records → entry ∈ before.records ∨
          ∃ ttlSeconds', IntakeCall.set key record ttlSeconds = .set entry.1 entry.2.1 ttlSeconds' := by
        intro member
        rcases List.mem_cons.mp member with rfl | kept
        · exact Or.inr ⟨ttlSeconds, rfl⟩
        · exact Or.inl (List.mem_of_mem_filter kept)
      cases choice with
      | reject error => exact Or.inl member
      | _ => exact stored member
  | _ => cases choice <;> exact Or.inl member

/-- A record that a request is told was under the key it asked for. -/
theorem recalls_admits {record : IdempotencyRecord} (admitted : (api platform config).Admits log event)
    (recalls : recalledBy event = some record) :
    ∃ key expires, event.call = .get key ∧ (key, record, expires) ∈ event.before.records := by
  rcases event with ⟨call, reply, before, after⟩
  rcases System.admits_iff.mp admitted with ⟨choice, performed⟩
  rcases Prod.ext_iff.mp performed with ⟨replied, rfl⟩
  cases call with
  | get key =>
      have found : before.record key = some record := by
        cases choice with
        | refuse =>
            cases replied
            cases recalls
        | reject error =>
            cases replied
            cases recalls
        | lose error =>
            cases replied
            cases recalls
        | _ =>
            cases replied
            exact recalls
      unfold Backend.record at found
      rcases Option.map_eq_some_iff.mp found with ⟨entry, listed, rfl⟩
      have selected := List.find?_some listed
      have named : entry.1 = key := (of_decide_eq_true selected).1
      refine ⟨entry.1, entry.2.2, ?_, List.mem_of_find?_eq_some listed⟩
      rw [named]
  | _ => cases recalls

theorem Placed.later {request : CreateOrderRequest} {order : Order} {log later : IntakeLog}
    (placed : Placed request order log) (grown : log <:+ later) : Placed request order later := by
  rcases grown with ⟨since, rfl⟩
  induction since with
  | nil => exact placed
  | cons event since inductionHypothesis => exact inductionHypothesis.cons

theorem Stores.later {key : String} {record : IdempotencyRecord} {log later : IntakeLog}
    (stores : Stores config post log key record) (grown : log <:+ later) : Stores config post later key record where
  key := stores.key
  order := by
    rcases stores.order with ⟨request, order, placed, same⟩
    exact ⟨request, order, placed.later grown, same⟩
  status := stores.status
  hash := stores.hash
  valid := stores.valid

end Records

/-- One of the requests has stored this record. -/
def Stored (config : ApiConfig) (reached : Serving) (key : String) (record : IdempotencyRecord) : Prop :=
  ∃ (position : Nat) (maker : Posting), reached.threads[position]? = some maker ∧
    Stores config maker.task maker.log key record

/-- Every record that Redis holds or has told a request has been stored by a request. -/
structure Traced (config : ApiConfig) (reached : Serving) : Prop where
  records : ∀ entry ∈ reached.shared.records, Stored config reached entry.1 entry.2.1
  recalls : ∀ (position : Nat) (thread : Posting) (record : IdempotencyRecord),
    reached.threads[position]? = some thread → recalled thread.log = some record →
    ∃ key, lookupKey thread.task = some key ∧ Stored config reached key record

section Runs

variable {platform : Platform} {config : ApiConfig} {start : Backend} {reached next : Serving}

theorem Stored.kept {key : String} {record : IdempotencyRecord} (stored : Stored config reached key record)
    (kept : ∀ (position : Nat) (thread : Posting), reached.threads[position]? = some thread →
      ∃ later, next.threads[position]? = some later ∧ later.task = thread.task ∧ thread.log <:+ later.log) :
    Stored config next key record := by
  rcases stored with ⟨position, maker, found, stores⟩
  rcases kept position maker found with ⟨later, listed, task, grown⟩
  refine ⟨position, later, listed, ?_⟩
  rw [task]
  exact stores.later grown

theorem Traced.unmoved (traced : Traced config reached) (unmoved : System.Unmoved reached next) :
    Traced config next := by
  have kept : ∀ (position : Nat) (thread : Posting), reached.threads[position]? = some thread →
      ∃ later, next.threads[position]? = some later ∧ later.task = thread.task ∧ thread.log <:+ later.log := by
    intro position thread found
    rcases unmoved.kept position thread found with ⟨later, listed, task, same⟩
    exact ⟨later, listed, task, same ▸ List.suffix_refl _⟩
  constructor
  · intro entry member
    rw [unmoved.shared] at member
    exact (traced.records entry member).kept kept
  · intro position thread record found recalls
    rcases unmoved.threads position thread found with ⟨old, earlier, task, same⟩ | nothing
    · rw [← same] at recalls
      rcases traced.recalls position old record earlier recalls with ⟨key, looks, stored⟩
      exact ⟨key, task ▸ looks, stored.kept kept⟩
    · rw [nothing] at recalls
      cases recalls

theorem Traced.moved {index : Nat} {thread : Posting} {event : IntakeEvent} {rest : Intake ApiResponse}
    (traced : Traced config reached) (listed : reached.threads[index]? = some thread)
    (before : event.before = reached.shared) (intended : PostIntends config thread.task thread.log event.call)
    (admitted : (api platform config).Admits thread.log event) :
    Traced config { shared := event.after, threads := reached.threads.set index (thread.answered event rest) } := by
  have kept : ∀ (position : Nat) (old : Posting), reached.threads[position]? = some old →
      ∃ later, (reached.threads.set index (thread.answered event rest))[position]? = some later ∧
        later.task = old.task ∧ old.log <:+ later.log :=
    fun position old found => System.getElem?_moved event rest listed found
  have still : ∀ {key record}, Stored config reached key record → Stored config
      { shared := event.after, threads := reached.threads.set index (thread.answered event rest) } key record :=
    fun stored => stored.kept kept
  constructor
  · intro entry member
    rcases records_admits admitted entry member with earlier | ⟨ttlSeconds, called⟩
    · rw [before] at earlier
      exact still (traced.records entry earlier)
    · rw [called] at intended
      exact still ⟨index, thread, listed, intended⟩
  · intro position other record found recalls
    rcases System.getElem?_set_cases listed found with ⟨_, rfl⟩ | ⟨_, found⟩
    · cases told : recalledBy event with
      | none =>
          have earlier : recalled thread.log = some record := (recalled_cons told).symm.trans recalls
          rcases traced.recalls index thread record listed earlier with ⟨key, looks, stored⟩
          exact ⟨key, looks, still stored⟩
      | some record' =>
          have same : record' = record := by
            change recalled (event :: thread.log) = some record at recalls
            unfold recalled at recalls
            rw [List.findSome?_cons, told] at recalls
            exact Option.some.inj recalls
          subst same
          rcases recalls_admits admitted told with ⟨key, expires, called, member⟩
          rw [called] at intended
          rw [before] at member
          exact ⟨key, intended, still (traced.records _ member)⟩
    · rcases traced.recalls position other record found recalls with ⟨key, looks, stored⟩
      exact ⟨key, looks, still stored⟩

theorem reaches_traced (empty : start.records = [])
    (reaches : (api platform config).Reaches (fun _ _ => True) { shared := start } reached) :
    Traced config reached := by
  refine reaches.moving ?_ ?_ ?_
  · constructor
    · intro entry member
      rw [empty] at member
      cases member
    · intro position thread record found
      cases found
  · intro earlier later unmoved traced
    exact traced.unmoved unmoved
  · intro earlier index choice thread call resume reaches' _ listed pending traced
    have answered := (reaches_posting reaches' thread (List.mem_of_getElem? listed)).answered pending earlier.shared choice
    exact traced.moved listed rfl answered.1 ⟨choice, rfl⟩

/-! ## Who has created an order -/

/-- The request has created the order of this id. -/
def Creates (thread : Posting) (id : Uuid) : Prop := ∃ request order, Placed request order thread.log ∧ order.id = id

/-- A request that has created an order has its row in the table, under its key. -/
theorem Intact.created {floor : Uuid} (intact : Intact floor reached) {position : Nat} {thread : Posting} {id : Uuid}
    (found : reached.threads[position]? = some thread) (creates : Creates thread id) :
    orderId thread.log = some id ∧ ∃ row ∈ reached.shared.world.db.orders.rows, row.id = id ∧ floor ≤ id ∧
      row.idempotencyKey = thread.task.idempotencyKey := by
  rcases creates with ⟨request, order, ⟨_, drawn, eventId, before, after, member⟩, rfl⟩
  refine ⟨drawn, ?_⟩
  cases intact.standing position thread found with
  | pending _ unconfirmed => cases unconfirmed _ member
  | placed row drawn' listed keyed _ _ _ =>
      have same := Option.some.inj (drawn.symm.trans drawn')
      refine ⟨row, ?_, same.symm, (intact.drawn position thread found _ drawn).1, keyed⟩
      have present : row ∈ ordersOf reached.shared row.id := by
        rw [listed]
        exact List.mem_singleton_self row
      exact (List.mem_filter.mp present).1

/-- A request creates an order under a key. -/
theorem Posting.Keeping.keyed {thread : Posting} {id : Uuid} (keeping : Posting.Keeping platform config thread)
    (creates : Creates thread id) : thread.task.idempotencyKey.isSome = true := by
  rcases creates with ⟨request, order, ⟨_, _, eventId, before, after, member⟩, _⟩
  rcases keeping.behind.admitted member with ⟨_, log, _, ⟨_, key, _, given, _⟩, _⟩
  rw [given]
  rfl

/-- Two requests of one key have not both created an order. -/
theorem Intact.creator {floor : Uuid} (intact : Intact floor reached) {position other : Nat} {thread thread' : Posting}
    {id id' : Uuid} (found : reached.threads[position]? = some thread) (creates : Creates thread id)
    (found' : reached.threads[other]? = some thread') (creates' : Creates thread' id')
    (same : thread'.task.idempotencyKey = thread.task.idempotencyKey)
    (given : thread.task.idempotencyKey.isSome = true) : position = other ∧ id' = id := by
  rcases intact.created found creates with ⟨drawn, row, listed, rfl, newer, keyed⟩
  rcases intact.created found' creates' with ⟨drawn', row', listed', rfl, _, keyed'⟩
  have one : row' = row := by
    apply intact.keys row listed row' listed' newer
    · rw [keyed]
      exact given
    · exact keyed'.trans (same.trans keyed.symm)
  subst one
  refine ⟨?_, rfl⟩
  by_contra different
  exact intact.apart position other thread thread' found found' different _ drawn drawn'

/-! ## What later requests are answered -/

def answerOf (thread : Posting) : Option ApiResponse :=
  match thread.code with
  | .done response => some response
  | _ => none

/-- The order that a response has accepted. -/
def acceptedId (response : ApiResponse) : Option Uuid :=
  match response.body with
  | .order order => if response.status = 201 then some order.id else none
  | .problem _ => none

/-- Whether a later request is answered as its key has been. -/
def Replays (first later : PostOrder) (id : Uuid) (response : ApiResponse) : Prop :=
  (later.body = first.body → acceptedId response = some id) ∧ (later.body ≠ first.body → response.status = 409)

/-- Only requests of one idempotency key share a request's key in the store. -/
def Unmixed (reached : Serving) (post : PostOrder) : Prop :=
  ∀ other ∈ reached.threads, lookupKey other.task = lookupKey post → other.task.idempotencyKey = post.idempotencyKey

theorem posting_answered (reaches : (api platform config).Reaches (fun _ _ => True) { shared := start } reached)
    {thread : Posting} {response : ApiResponse} (member : thread ∈ reached.threads)
    (answered : answerOf thread = some response) : Answered config thread.task response thread.log := by
  have ahead := (reaches_posting reaches thread member).ahead
  unfold answerOf at answered
  split at answered
  · next done =>
      cases answered
      rw [done] at ahead
      exact ahead
  · cases answered

theorem hashOf_valid {post : PostOrder} {body : Json} (valid : config.validateSchema post.body = .ok body) :
    hashOf config post = some (hashBody config body) := by
  unfold hashOf
  rw [valid]

theorem acceptedId_refusal {response : ApiResponse} (refusal : Refusal response) : acceptedId response = none := by
  unfold acceptedId
  split
  · rw [if_neg]
    intro status
    apply refusal.2
    rw [status]
    decide
  · rfl

/-- The answer 201 goes back to a request of the same key and body that has created the order. -/
theorem accepted_creator (traced : Traced config reached) {position : Nat} {thread : Posting} {response : ApiResponse}
    {id : Uuid} (found : reached.threads[position]? = some thread)
    (answered : Answered config thread.task response thread.log) (accepts : acceptedId response = some id) :
    ∃ (place : Nat) (maker : Posting), reached.threads[place]? = some maker ∧ Creates maker id ∧
      lookupKey maker.task = lookupKey thread.task ∧ hashOf config maker.task = hashOf config thread.task := by
  cases answered with
  | created request order placed _ same =>
      subst same
      cases accepts
      exact ⟨position, thread, found, ⟨request, order, placed, rfl⟩, rfl, rfl⟩
  | replayed body record valid told hash same =>
      rcases traced.recalls position thread record found told with ⟨key, looks, place, maker, listed, stores⟩
      rcases stores.order with ⟨request, order, placed, response'⟩
      refine ⟨place, maker, listed, ⟨request, order, placed, ?_⟩, stores.key.trans looks.symm, ?_⟩
      · rw [same] at accepts
        unfold acceptedId at accepts
        simp only [response', stores.status, if_true] at accepts
        exact Option.some.inj accepts
      · rw [stores.hash, hashOf_valid valid, hash]
  | mismatched body record valid told hash same =>
      subst same
      cases accepts
  | refused _ _ refusal => cases (acceptedId_refusal refusal).symm.trans accepts

/-- After a request has been answered 201 with an order, a later one of the same client
and key is answered as it should be exactly when its lookup finds a record and another
body has another hash. -/
theorem replays_iff {earlier later : Serving} {place position : Nat} {first thread : Posting} {id : Uuid}
    {response : ApiResponse} (unused : ∀ id, start.world.nextUuid ≤ id → Absent start id) (empty : start.records = [])
    (reached : (api platform config).Reaches (fun _ _ => True) { shared := start } earlier)
    (onwards : (api platform config).Reaches (fun _ _ => True) earlier later)
    (found : earlier.threads[place]? = some first) (accepted : (answerOf first).bind acceptedId = some id)
    (since : earlier.threads.length ≤ position) (listed : later.threads[position]? = some thread)
    (answered : answerOf thread = some response) (client : thread.task.clientId = first.task.clientId)
    (key : thread.task.idempotencyKey = first.task.idempotencyKey) (unmixed : Unmixed later thread.task) :
    Replays first.task thread.task id response ↔
      (recalled thread.log).isSome = true ∧
        (thread.task.body ≠ first.task.body → hashOf config thread.task ≠ hashOf config first.task) := by
  have all := reached.trans onwards
  have intact := reaches_intact unused all
  have traced := reaches_traced empty all
  have looks : lookupKey thread.task = lookupKey first.task := by
    unfold lookupKey
    rw [client, key]
  rcases Option.bind_eq_some_iff.mp accepted with ⟨response', answered', accepts⟩
  -- the request that has created the order, as it stands in the end
  rcases accepted_creator (reaches_traced empty reached) found
    (posting_answered reached (List.mem_of_getElem? found) answered') accepts with
    ⟨origin, maker', listed', creates', looks', hash'⟩
  rcases onwards.kept listed' with ⟨maker, present, task, grown⟩
  have creates : Creates maker id := by
    rcases creates' with ⟨request, order, placed, same⟩
    exact ⟨request, order, placed.later grown, same⟩
  rw [← task] at looks' hash'
  have keyed : maker.task.idempotencyKey = thread.task.idempotencyKey :=
    unmixed maker (List.mem_of_getElem? present) (looks'.trans looks.symm)
  have earlier_origin : origin < position := lt_of_lt_of_le (List.getElem?_eq_some_iff.mp listed').1 since
  have given : thread.task.idempotencyKey.isSome = true := by
    rw [← keyed]
    exact (reaches_posting all maker (List.mem_of_getElem? present)).keyed creates
  -- the only record that the later request can find
  have tells : ∀ record, recalled thread.log = some record →
      acceptedId { status := record.status, body := record.response, replayed := true } = some id ∧
        record.status = 201 ∧ hashOf config first.task = some record.requestHash := by
    intro record told
    rcases traced.recalls position thread record listed told with ⟨own, looks'', place', author, written, stores⟩
    rcases stores.order with ⟨request, order, placed, body⟩
    have keyed' : author.task.idempotencyKey = maker.task.idempotencyKey :=
      (unmixed author (List.mem_of_getElem? written) (stores.key.trans looks''.symm)).trans keyed.symm
    rcases intact.creator present creates written ⟨request, order, placed, rfl⟩ keyed' (keyed ▸ given) with ⟨rfl, same⟩
    cases present.symm.trans written
    refine ⟨?_, stores.status, hash'.symm.trans stores.hash⟩
    unfold acceptedId
    simp only [body, stores.status, if_true]
    exact congrArg some same
  have silent : recalled thread.log = none → ¬ (recalled thread.log).isSome = true := by
    intro unrecalled some
    rw [unrecalled] at some
    cases some
  cases posting_answered all (List.mem_of_getElem? listed) answered with
  | created request order placed unrecalled same =>
      have again := intact.creator present creates listed ⟨request, order, placed, rfl⟩ keyed.symm (keyed ▸ given)
      omega
  | replayed body record valid told hash same =>
      rcases tells record told with ⟨accepts', status, stored⟩
      have equal : hashOf config thread.task = hashOf config first.task := by
        rw [hashOf_valid valid, stored, hash]
      constructor
      · rintro ⟨_, conflict⟩
        refine ⟨Option.isSome_of_eq_some told, fun different => ?_⟩
        have impossible := conflict different
        rw [same] at impossible
        cases status.symm.trans impossible
      · rintro ⟨_, differs⟩
        refine ⟨fun _ => ?_, fun different => absurd equal (differs different)⟩
        rw [same]
        exact accepts'
  | mismatched body record valid told hash same =>
      rcases tells record told with ⟨_, _, stored⟩
      have differs : hashOf config thread.task ≠ hashOf config first.task := by
        rw [hashOf_valid valid, stored]
        intro equal
        exact hash (Option.some.inj equal).symm
      constructor
      · intro _
        exact ⟨Option.isSome_of_eq_some told, fun _ => differs⟩
      · intro _
        refine ⟨fun equal => absurd ?_ differs, fun _ => ?_⟩
        · unfold hashOf
          rw [equal]
        · rw [same]
          rfl
  | refused unrecalled _ refusal =>
      refine iff_of_false ?_ fun recalls => silent unrecalled recalls.1
      rintro ⟨again, conflict⟩
      by_cases equal : thread.task.body = first.task.body
      · cases (acceptedId_refusal refusal).symm.trans (again equal)
      · exact refusal.1 (conflict equal)

end Runs

/-! ## The same request twice -/

def plainRequest : PostOrder := plainPost "client" "key" plainBody

/-- A request whose last call is answered by choice. -/
def once (last : Choice) : Serving :=
  (api postgresJs plainApi).run ((api postgresJs plainApi).step { shared := emptyBackend } (.start plainRequest))
    (serving 0 15 ++ [.advance 0 last])

/-- The request is sent again and gets so many calls answered. -/
def twice (last : Choice) (calls : Nat) : Serving :=
  (api postgresJs plainApi).run ((api postgresJs plainApi).step (once last) (.start plainRequest)) (serving 1 calls)

theorem once_reached (last : Choice) :
    (api postgresJs plainApi).Reaches (fun _ _ => True) { shared := emptyBackend } (once last) :=
  System.Reaches.trans (.step _ .refl trivial) (System.run_reaches _ _)

theorem twice_reached (last : Choice) (calls : Nat) :
    (api postgresJs plainApi).Reaches (fun _ _ => True) (once last) (twice last calls) :=
  System.Reaches.trans (.step _ .refl trivial) (System.run_reaches _ _)

theorem once_task {last : Choice} {thread : Posting} (found : (once last).threads[0]? = some thread) :
    thread.task = plainRequest := by
  have started : ((api postgresJs plainApi).step { shared := emptyBackend } (.start plainRequest)).threads[0]? =
      some { task := plainRequest, code := postOrder plainApi plainRequest } := rfl
  rcases (System.run_reaches _ (serving 0 15 ++ [.advance 0 last])).kept started with ⟨later, listed, task, _⟩
  cases found.symm.trans listed
  exact task

theorem twice_task {last : Choice} {calls : Nat} {thread : Posting} (single : (once last).threads.length = 1)
    (found : (twice last calls).threads[1]? = some thread) : thread.task = plainRequest := by
  have started : ((api postgresJs plainApi).step (once last) (.start plainRequest)).threads[1]? =
      some { task := plainRequest, code := postOrder plainApi plainRequest } := by
    rw [← single]
    exact List.getElem?_concat_length
  rcases (System.run_reaches _ (serving 1 calls)).kept started with ⟨later, listed, task, _⟩
  cases found.symm.trans listed
  exact task

def statuses (config : Serving) : List (Option Nat) := config.threads.map fun thread => (answerOf thread).map ApiResponse.status

example : statuses (twice .serve 3) = [some 201, some 201] := by decide +kernel

example : statuses (twice (.reject .other) 12) = [some 201, some 500] := by decide +kernel

/-- The lookup finds the record. -/
theorem replays_iff_recorded : ∃ first thread response, (once .serve).threads[0]? = some first ∧
    (twice .serve 3).threads[1]? = some thread ∧ answerOf thread = some response ∧
      (Replays first.task thread.task 0 response ↔ (recalled thread.log).isSome = true ∧
        (thread.task.body ≠ first.task.body → hashOf plainApi thread.task ≠ hashOf plainApi first.task)) := by
  have unused : ∀ id, emptyBackend.world.nextUuid ≤ id → Absent emptyBackend id := fun _ _ => ⟨rfl, rfl, rfl, rfl⟩
  have single : (once .serve).threads.length = 1 := by decide +kernel
  have accepts : (((once .serve).threads[0]?).bind answerOf).bind acceptedId = some 0 := by decide +kernel
  have answers : (((twice .serve 3).threads[1]?).bind answerOf).isSome = true := by decide +kernel
  have keys : (twice .serve 3).threads.map (fun thread => thread.task.idempotencyKey) = [some "key", some "key"] := by
    decide +kernel
  rcases Option.bind_eq_some_iff.mp accepts with ⟨answer, answered, _⟩
  rcases Option.bind_eq_some_iff.mp answered with ⟨first, found, _⟩
  rcases Option.isSome_iff_exists.mp answers with ⟨response, again⟩
  rcases Option.bind_eq_some_iff.mp again with ⟨thread, listed, replied⟩
  rw [found] at accepts
  have task : thread.task = first.task := (twice_task single listed).trans (once_task found).symm
  have given : ∀ other ∈ (twice .serve 3).threads, other.task.idempotencyKey = some "key" := by
    intro other member
    have mapped := List.mem_map_of_mem (f := fun thread : Posting => thread.task.idempotencyKey) member
    rw [keys] at mapped
    simpa using mapped
  refine ⟨first, thread, response, found, listed, replied, ?_⟩
  exact replays_iff unused rfl (once_reached _) (twice_reached _ _) found accepts single.le listed replied
    (by rw [task]) (by rw [task])
    fun other member _ => (given other member).trans (given thread (List.mem_of_getElem? listed)).symm

/-- The record was not stored, and the same request is answered 500. -/
theorem unreplayed : ∃ first thread response, (once (.reject .other)).threads[0]? = some first ∧
    (answerOf first).bind acceptedId = some 0 ∧ (twice (.reject .other) 12).threads[1]? = some thread ∧
      answerOf thread = some response ∧ thread.task = first.task ∧ response.status = 500 ∧
        ¬ Replays first.task thread.task 0 response := by
  have single : (once (.reject .other)).threads.length = 1 := by decide +kernel
  have accepts : (((once (.reject .other)).threads[0]?).bind answerOf).bind acceptedId = some 0 := by decide +kernel
  have fails : ((((twice (.reject .other) 12).threads[1]?).bind answerOf).map fun response =>
      (response.status, acceptedId response)) = some (500, none) := by
    decide +kernel
  rcases Option.bind_eq_some_iff.mp accepts with ⟨answer, answered, _⟩
  rcases Option.bind_eq_some_iff.mp answered with ⟨first, found, _⟩
  rcases Option.map_eq_some_iff.mp fails with ⟨response, again, outcome⟩
  rcases Option.bind_eq_some_iff.mp again with ⟨thread, listed, replied⟩
  rw [found] at accepts
  have task : thread.task = first.task := (twice_task single listed).trans (once_task found).symm
  refine ⟨first, thread, response, found, accepts, listed, replied, task, congrArg Prod.fst outcome, ?_⟩
  rintro ⟨replays, _⟩
  have accepted := replays (by rw [task])
  cases (congrArg Prod.snd outcome).symm.trans accepted

end Orderly
