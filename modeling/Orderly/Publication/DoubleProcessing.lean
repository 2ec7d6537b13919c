import Orderly.Publication.Batches

/-!
# Double processing

`FOR UPDATE SKIP LOCKED` passes over rows whose lock is held, and a lock lives
as long as its transaction.  `getPending` is a statement of its own, so what a
batch has read is unlocked again before the first of its events is enqueued.
Another poll finds such an event as long as it is PENDING.

Two batches never have one event in hand where no poll is answered while a batch
under way has yet to go through an event whose row is PENDING.
-/

namespace Orderly

open Process (Program System Move)

/-- The unprocessed events of a batch that is under way. -/
def workingOn (thread : Publisher) : List Uuid :=
  if thread.stopped || thread.code.finished then [] else (remainder thread.log).map OutboxEvent.id

/-- No event is in the hands of two batches. -/
def Exclusive (config : Publishing) : Prop :=
  ∀ (left right : Nat) (first second : Publisher), left ≠ right → config.threads[left]? = some first →
    config.threads[right]? = some second → ∀ id ∈ workingOn first, id ∉ workingOn second

/-- The rows that other statements lock while this move answers a poll. -/
def pollAnswered (config : Publishing) : Move OutboxTask OutboxChoice → Option (List Uuid)
  | .advance index (.serve locked) =>
      match config.threads[index]? with
      | some { code := .await (OutboxCall.getPending _) _, stopped := false, .. } => some locked
      | _ => none
  | _ => none

/-- No poll is answered while a batch under way has an event in hand whose row is
PENDING and not locked. -/
def pollsApart (config : Publishing) (move : Move OutboxTask OutboxChoice) : Bool :=
  (pollAnswered config move).all fun locked => config.threads.all fun thread => (workingOn thread).all fun id =>
    id ∈ locked || statusAt config.shared id ≠ some .pending

/-! ## What one move changes -/

section Steps

variable {platform : Platform} {outboxMaxRetries : Int} {outbox : Outbox} {config config' : Publishing}
  {thread : Publisher} {call : outboxPorts.Call}
  {resume : Except JsError (outboxPorts.Reply call) → Program outboxPorts JsError Unit}

theorem mem_workingOn {id : Uuid} :
    id ∈ workingOn thread ↔
      thread.stopped = false ∧ thread.code.finished = false ∧ id ∈ (remainder thread.log).map OutboxEvent.id := by
  unfold workingOn
  cases thread.stopped <;> cases thread.code.finished <;> simp

/-- A batch that has a call pending has its whole remainder in hand. -/
theorem mem_workingOn_pending (pending : thread.code = .await call resume) (live : thread.stopped = false) {id : Uuid} :
    id ∈ workingOn thread ↔ id ∈ (remainder thread.log).map OutboxEvent.id := by
  rw [mem_workingOn, pending, live]
  exact ⟨fun parts => parts.2.2, fun member => ⟨rfl, rfl, member⟩⟩

/-- Only an answered poll adds to what a batch has in hand. -/
theorem workingOn_answered (pending : thread.code = .await call resume) (live : thread.stopped = false)
    {event : OutboxEventCall} {rest : Program outboxPorts JsError Unit} (unread : readBy event = []) {id : Uuid}
    (member : id ∈ workingOn (thread.answered event rest)) : id ∈ workingOn thread := by
  rw [mem_workingOn_pending pending live]
  have left := (mem_workingOn.mp member).2.2
  change id ∈ (remainder (event :: thread.log)).map OutboxEvent.id at left
  rw [remainder_cons unread] at left
  exact ((List.drop_sublist _ _).map _).mem left

theorem Exclusive.shrink (exclusive : Exclusive config)
    (shrinks : ∀ (position : Nat) (later : Publisher), config'.threads[position]? = some later →
      ∀ id ∈ workingOn later,
      ∃ thread, config.threads[position]? = some thread ∧ id ∈ workingOn thread) : Exclusive config' := by
  intro left right first second different atLeft atRight id member shared
  rcases shrinks left first atLeft id member with ⟨first', atLeft', member'⟩
  rcases shrinks right second atRight id shared with ⟨second', atRight', shared'⟩
  exact exclusive left right first' second' different atLeft' atRight' id member' shared'

/-- A batch that has not polled has nothing in hand. -/
theorem workingOn_unpolled (unpolled : thread.log = []) {id : Uuid} : id ∉ workingOn thread := by
  intro member
  have left := (mem_workingOn.mp member).2.2
  rw [unpolled] at left
  cases left

/-- An answered poll hands the batch exactly the rows it has found. -/
theorem mem_workingOn_polled {limit : Nat} {rows : List OutboxEvent} {before after : Outbox}
    {rest : Program outboxPorts JsError Unit} (unpolled : thread.log = []) (live : thread.stopped = false)
    (keeping : Publisher.Keeping platform outboxMaxRetries
      (thread.answered ⟨.getPending limit, .ok rows, before, after⟩ rest)) {id : Uuid} :
    id ∈ workingOn (thread.answered ⟨.getPending limit, .ok rows, before, after⟩ rest) ↔
      id ∈ rows.map OutboxEvent.id := by
  have handed : remainder (thread.answered ⟨.getPending limit, .ok rows, before, after⟩ rest).log = rows := by
    change remainder (_ :: thread.log) = rows
    rw [unpolled]
    exact List.append_nil rows
  rw [mem_workingOn, handed]
  constructor
  · exact fun parts => parts.2.2
  · intro member
    refine ⟨live, ?_, member⟩
    have ahead := keeping.ahead
    cases rest with
    | done value =>
        have nothing : rows = [] := handed.symm.trans ahead
        rw [nothing] at member
        cases member
    | thrown error =>
        rcases ahead with ⟨event, earlier, error, last, rejected⟩
        cases last
        cases rejected
    | await call resume => rfl

theorem pollAnswered_served {index limit : Nat} {locked : List Uuid}
    {resume : Except JsError (List OutboxEvent) → Program outboxPorts JsError Unit}
    (listed : config.threads[index]? = some thread) (pending : thread.code = .await (.getPending limit) resume)
    (live : thread.stopped = false) : pollAnswered config (.advance index (.serve locked)) = some locked := by
  rcases thread with ⟨task, code, log, stopped⟩
  cases pending
  cases live
  simp only [pollAnswered, listed]

/-- Whatever is answered as a poll is one. -/
theorem pollAnswered_some {index : Nat} {choice : OutboxChoice} {locked : List Uuid}
    (listed : config.threads[index]? = some thread) (pending : thread.code = .await call resume)
    (polled : pollAnswered config (.advance index choice) = some locked) :
    choice = .serve locked ∧ ∃ limit, call = .getPending limit := by
  rcases thread with ⟨task, code, log, stopped⟩
  cases pending
  cases choice with
  | serve found =>
      simp only [pollAnswered, listed] at polled
      split at polled
      · next same =>
          cases same
          cases polled
          exact ⟨rfl, _, rfl⟩
      · cases polled
  | lose error => cases polled
  | reject error => cases polled

/-- Any call but an answered poll reads nothing. -/
theorem readBy_quiet {index : Nat} {choice : OutboxChoice} (listed : config.threads[index]? = some thread)
    (pending : thread.code = .await call resume) (live : thread.stopped = false)
    (quiet : pollAnswered config (.advance index choice) = none) :
    readBy ((publication platform outboxMaxRetries).answer config.shared call choice) = [] := by
  cases call with
  | getPending limit =>
      cases choice with
      | serve locked => cases (pollAnswered_served listed pending live).symm.trans quiet
      | lose error => rfl
      | reject error => rfl
  | _ => rfl

/-- A poll keeps the batches apart when what it finds is in no batch's hands. -/
theorem Exclusive.polled {index limit : Nat} {locked : List Uuid}
    {resume : Except JsError (List OutboxEvent) → Program outboxPorts JsError Unit}
    (keeping : Publisher.Keeping platform outboxMaxRetries thread) (exclusive : Exclusive config)
    (listed : config.threads[index]? = some thread) (pending : thread.code = .await (.getPending limit) resume)
    (live : thread.stopped = false)
    (fresh : ∀ event ∈ config.shared.getPending locked limit, ∀ other ∈ config.threads, event.id ∉ workingOn other) :
    Exclusive
      { shared := config.shared
        threads := config.threads.set index (thread.answered ((publication platform outboxMaxRetries).answer
          config.shared (.getPending limit) (.serve locked)) (resume (.ok (config.shared.getPending locked limit)))) } := by
  have answered := keeping.answered pending config.shared (.serve locked)
  have inHand : ∀ id, id ∈ workingOn (thread.answered ((publication platform outboxMaxRetries).answer config.shared
      (.getPending limit) (.serve locked)) (resume (.ok (config.shared.getPending locked limit)))) ↔
      id ∈ (config.shared.getPending locked limit).map OutboxEvent.id :=
    fun id => mem_workingOn_polled answered.1 live answered.2
  have apart : ∀ (position : Nat) (other : Publisher), config.threads[position]? = some other → ∀ id,
      id ∈ (config.shared.getPending locked limit).map OutboxEvent.id → id ∉ workingOn other := by
    intro position other found id named
    rcases List.mem_map.mp named with ⟨event, polled, rfl⟩
    exact fresh event polled other (List.mem_of_getElem? found)
  intro left right first second different atLeft atRight id hasLeft hasRight
  rcases System.getElem?_set_cases listed atLeft with ⟨rfl, rfl⟩ | ⟨_, earlierLeft⟩
  · rcases System.getElem?_set_cases listed atRight with ⟨rfl, _⟩ | ⟨_, earlierRight⟩
    · exact different rfl
    · exact apart right second earlierRight id ((inHand id).mp hasLeft) hasRight
  · rcases System.getElem?_set_cases listed atRight with ⟨rfl, rfl⟩ | ⟨_, earlierRight⟩
    · exact apart left first earlierLeft id ((inHand id).mp hasRight) hasLeft
    · exact exclusive left right first second different earlierLeft earlierRight id hasLeft hasRight

/-- What a poll finds is PENDING and not locked, so no batch has it in hand where polls
keep apart. -/
theorem pollsApart_fresh {index limit : Nat} {locked : List Uuid}
    {resume : Except JsError (List OutboxEvent) → Program outboxPorts JsError Unit}
    (listed : config.threads[index]? = some thread) (pending : thread.code = .await (.getPending limit) resume)
    (live : thread.stopped = false) (apart : pollsApart config (.advance index (.serve locked)) = true) :
    ∀ event ∈ config.shared.getPending locked limit, ∀ other ∈ config.threads, event.id ∉ workingOn other := by
  intro event found other member inHand
  rcases Outbox.mem_getPending found with ⟨present, status, unlocked⟩
  unfold pollsApart at apart
  rw [pollAnswered_served listed pending live] at apart
  have spared := List.all_eq_true.mp (List.all_eq_true.mp apart other member) event.id inHand
  rw [statusAt_of_mem present, status] at spared
  simp [unlocked] at spared

/-- A move that answers no poll keeps the batches apart, and one that does so in time. -/
theorem Exclusive.step {move : Move OutboxTask OutboxChoice}
    (keeping : ∀ thread ∈ config.threads, Publisher.Keeping platform outboxMaxRetries thread)
    (exclusive : Exclusive config) (apart : pollsApart config move = true)
    (stepped : (publication platform outboxMaxRetries).Stepped config move config') : Exclusive config' := by
  cases stepped with
  | idle => exact exclusive
  | started task =>
      apply exclusive.shrink
      intro position later listed id member
      rcases Nat.lt_or_ge position config.threads.length with inside | outside
      · rw [List.getElem?_append_left inside] at listed
        exact ⟨later, listed, member⟩
      · rw [List.getElem?_append_right outside] at listed
        cases List.mem_singleton.mp (List.mem_of_getElem? listed)
        exact absurd member (workingOn_unpolled rfl)
  | stopped index =>
      apply exclusive.shrink
      intro position later listed id member
      rcases System.getElem?_of_stop listed with ⟨thread, earlier, same | rfl⟩
      · exact ⟨thread, earlier, same ▸ member⟩
      · cases (mem_workingOn.mp member).1
  | answered index choice thread call resume listed pending live =>
      cases polled : pollAnswered config (.advance index choice) with
      | none =>
          apply exclusive.shrink
          intro position later found id member
          rcases System.getElem?_set_cases listed found with ⟨rfl, rfl⟩ | ⟨_, earlier⟩
          · exact ⟨thread, listed, workingOn_answered pending live (readBy_quiet listed pending live polled) member⟩
          · exact ⟨later, earlier, member⟩
      | some locked =>
          rcases pollAnswered_some listed pending polled with ⟨rfl, limit, rfl⟩
          exact exclusive.polled (keeping thread (List.mem_of_getElem? listed)) listed pending live
            (pollsApart_fresh listed pending live apart)

theorem reaches_exclusive {Legal : Publishing → Move OutboxTask OutboxChoice → Prop}
    (apart : ∀ config move, Legal config move → pollsApart config move = true)
    (reached : (publication platform outboxMaxRetries).Reaches Legal { shared := outbox } config) : Exclusive config := by
  refine reached.induct ?_ ?_
  · intro left right first second _ atLeft
    cases atLeft
  · intro earlier move next reached' legal stepped exclusive
    exact exclusive.step (reaches_warranted reached') (apart _ _ legal) stepped

end Steps

/-- No event is ever in the hands of two batches in a run whose polls keep apart. -/
theorem never_shared {platform : Platform} {outboxMaxRetries : Int} {outbox : Outbox} {config : Publishing}
    (reached : (publication platform outboxMaxRetries).Reaches (fun config move => pollsApart config move = true)
      { shared := outbox } config) : Exclusive config :=
  reaches_exclusive (fun _ _ apart => apart) reached

/-- The second batch polls while the row that the first has in hand is being updated, and
a third when the first is done. -/
def polledApart : List (Move OutboxTask OutboxChoice) :=
  .start .processBatch :: .start .processBatch :: .start .processBatch ::
    (poll 0 3 ++ .advance 1 (.serve [0]) :: (poll 0 1 ++ poll 2 1))

theorem never_shared_apart : (publishing (polledApart.take 7)).threads.map workingOn = [[0], [], []] ∧
    Exclusive (publishing polledApart) := by
  have reached : (publication postgresJs 5).Reaches (fun config move => pollsApart config move = true)
      { shared := smallOutbox } (publishing polledApart) := System.reaches_run (by decide +kernel)
  exact ⟨by decide +kernel, never_shared reached⟩

/-! ## Two polls -/

/-- Whatever the processors do, no event is in the hands of two batches. -/
def NeverDoubleProcessed (platform : Platform) (outboxMaxRetries : Int) (outbox : Outbox) : Prop :=
  ∀ moves, Exclusive ((publication platform outboxMaxRetries).run { shared := outbox } moves)

/-- Two batches, each of which has just polled. -/
def bothPolled : List (Move OutboxTask OutboxChoice) :=
  .start .processBatch :: .start .processBatch :: poll 0 1 ++ poll 1 1

example : (publishing bothPolled).threads.map workingOn = [[0], [0]] := by decide +kernel

theorem polled_twice : ¬ NeverDoubleProcessed postgresJs 5 smallOutbox := by
  intro claimed
  have shared : ∃ first second, (publishing bothPolled).threads[0]? = some first ∧
      (publishing bothPolled).threads[1]? = some second ∧ 0 ∈ workingOn first ∧ 0 ∈ workingOn second := by
    refine ⟨_, _, rfl, rfl, ?_, ?_⟩
    · decide +kernel
    · decide +kernel
  rcases shared with ⟨first, second, atFirst, atSecond, inFirst, inSecond⟩
  exact claimed bothPolled 0 1 first second Nat.zero_ne_one atFirst atSecond 0 inFirst inSecond

end Orderly
