import Orderly.Publication.Delivery
import Orderly.Publication.DoubleProcessing

/-!
# PUBLISHED events

`resetForRetry` and `markFailed` write their status whatever the row holds.  A
batch issues them for events it has read earlier, so by then another batch may
have published the event, or its own `markPublished` may have taken effect
although it was reported as failed.

Where neither happens, no event that a batch still has in hand is PUBLISHED, and
PUBLISHED is final.
-/

namespace Orderly

open Process (Program System Move)

/-- The event whose status a statement sets to PENDING or FAILED. -/
def overwrites (outbox : Outbox) : OutboxCall → Option Uuid
  | .markFailed id incrementRetry => if incrementRetry && outbox.overflows id then none else some id
  | .resetForRetry id => if outbox.overflows id then none else some id
  | _ => none

/-- The same, where a rejected statement takes no effect. -/
def turnsBack (outbox : Outbox) (call : OutboxCall) : OutboxChoice → Option Uuid
  | .reject _ => none
  | _ => overwrites outbox call

/-- No `markPublished` takes effect without its answer. -/
def marksAnswered (config : Publishing) : Move OutboxTask OutboxChoice → Bool
  | .advance index (.lose _) =>
      match config.threads[index]? with
      | some { code := .await (OutboxCall.markPublished _) _, .. } => false
      | _ => true
  | _ => true

/-- Polls keep apart, and what has been published is known to be. -/
def publishesKnowingly (config : Publishing) (move : Move OutboxTask OutboxChoice) : Bool :=
  pollsApart config move && marksAnswered config move

/-! ## The statements -/

section Statements

variable {platform : Platform} {outbox : Outbox} {id : Uuid}

theorem statusAt_update_other {named : Uuid} {change : OutboxEvent → OutboxEvent}
    {keeps : ∀ row, (change row).id = row.id} (different : id ≠ named) :
    statusAt (outbox.update named change keeps) id = statusAt outbox id := by
  unfold statusAt Outbox.update
  rw [Store.Table.lookup_update, if_neg different]

theorem statusAt_update_self {change : OutboxEvent → OutboxEvent} {keeps : ∀ row, (change row).id = row.id} :
    statusAt (outbox.update id change keeps) id = (outbox.events.lookup id).map fun row => (change row).status := by
  unfold statusAt Outbox.update
  rw [Store.Table.lookup_update, if_pos rfl, Option.map_map]
  rfl

/-- An update does not leave its event in a status that it never sets. -/
theorem statusAt_update_ne {status : OutboxStatus} {change : OutboxEvent → OutboxEvent}
    {keeps : ∀ row, (change row).id = row.id} (never : ∀ row, (change row).status ≠ status) :
    statusAt (outbox.update id change keeps) id ≠ some status := by
  rw [statusAt_update_self]
  cases outbox.events.lookup id with
  | none => exact nofun
  | some row => exact fun same => never row (Option.some.inj same)

theorem statusAt_insert {events : Store.Table OutboxEvent Uuid OutboxEvent.id} {row : OutboxEvent}
    (inserted : outbox.events.insert row = some events) :
    statusAt { outbox with events := events, clock := outbox.clock + 1 } id =
      if id = row.id then some row.status else statusAt outbox id := by
  unfold statusAt
  rw [Store.Table.lookup_insert id inserted]
  split
  · rfl
  · rfl

/-- An event that is not overwritten stays PUBLISHED. -/
theorem effect_kept {call : OutboxCall} (locked : List Uuid) (published : statusAt outbox id = some .published)
    (spared : overwrites outbox call ≠ some id) :
    statusAt (outbox.effect platform call locked).2 id = some .published := by
  cases call with
  | insert named event =>
      simp only [Outbox.effect]
      split
      · next events inserted =>
          rw [statusAt_insert inserted]
          split
          · next same =>
              have absent := Store.Table.insert_fresh inserted
              rw [← same] at absent
              rw [statusAt, absent] at published
              cases published
          · exact published
      · exact published
  | markPublished named =>
      by_cases same : id = named
      · subst same
        refine statusAt_update_self.trans ?_
        rcases Option.map_eq_some_iff.mp published with ⟨row, present, _⟩
        rw [present]
        rfl
      · exact (statusAt_update_other same).trans published
  | markFailed named incrementRetry =>
      simp only [Outbox.effect]
      simp only [overwrites] at spared
      split
      · exact published
      · next within =>
          rw [if_neg within] at spared
          exact (statusAt_update_other fun same => spared (congrArg some same.symm)).trans published
  | resetForRetry named =>
      simp only [Outbox.effect]
      simp only [overwrites] at spared
      split
      · exact published
      · next within =>
          rw [if_neg within] at spared
          exact (statusAt_update_other fun same => spared (congrArg some same.symm)).trans published
  | add queueName name data jobId =>
      simp only [Outbox.effect, Outbox.addJob]
      split
      · exact published
      · exact published
  | _ => exact published

/-- Only `markPublished` makes an event PUBLISHED. -/
theorem effect_gained {call : OutboxCall} {log : OutboxLog} {outboxMaxRetries : Int} (locked : List Uuid)
    (warranted : Warranted outboxMaxRetries log call)
    (published : statusAt (outbox.effect platform call locked).2 id = some .published) :
    statusAt outbox id = some .published ∨ call = .markPublished id := by
  cases call with
  | insert named event =>
      simp only [Outbox.effect] at published
      split at published
      · next events inserted =>
          rw [statusAt_insert inserted] at published
          split at published
          · have status : event.status = .published := Option.some.inj published
            rw [warranted.1] at status
            cases status
          · exact Or.inl published
      · exact Or.inl published
  | markPublished named =>
      by_cases same : id = named
      · exact Or.inr (congrArg _ same.symm)
      · exact Or.inl ((statusAt_update_other same).symm.trans published)
  | markFailed named incrementRetry =>
      simp only [Outbox.effect] at published
      split at published
      · exact Or.inl published
      · by_cases same : id = named
        · subst same
          exact absurd published (statusAt_update_ne fun row same => (by cases same))
        · exact Or.inl ((statusAt_update_other same).symm.trans published)
  | resetForRetry named =>
      simp only [Outbox.effect] at published
      split at published
      · exact Or.inl published
      · by_cases same : id = named
        · subst same
          exact absurd published (statusAt_update_ne fun row same => (by cases same))
        · exact Or.inl ((statusAt_update_other same).symm.trans published)
  | add queueName name data jobId =>
      simp only [Outbox.effect, Outbox.addJob] at published
      split at published
      · exact Or.inl published
      · exact Or.inl published
  | _ => exact Or.inl published

theorem perform_kept {call : OutboxCall} {choice : OutboxChoice} (published : statusAt outbox id = some .published)
    (spared : turnsBack outbox call choice ≠ some id) :
    statusAt (outbox.perform platform call choice).2 id = some .published := by
  cases choice with
  | serve locked => exact effect_kept locked published spared
  | lose error => exact effect_kept [] published spared
  | reject error => exact published

theorem perform_gained {call : OutboxCall} {choice : OutboxChoice} {log : OutboxLog} {outboxMaxRetries : Int}
    (warranted : Warranted outboxMaxRetries log call)
    (published : statusAt (outbox.perform platform call choice).2 id = some .published) :
    statusAt outbox id = some .published ∨ call = .markPublished id := by
  cases choice with
  | serve locked => exact effect_gained locked warranted published
  | lose error => exact effect_gained [] warranted published
  | reject error => exact Or.inl published

/-- A batch turns back only the event it is at. -/
theorem atEvent_of_turnsBack {call : OutboxCall} {choice : OutboxChoice} {log : OutboxLog} {outboxMaxRetries : Int}
    (warranted : Warranted outboxMaxRetries log call) (turned : turnsBack outbox call choice = some id) :
    AtEvent log id := by
  have overwritten : overwrites outbox call = some id := by
    cases choice with
    | reject error => cases turned
    | _ => exact turned
  cases call with
  | markFailed named incrementRetry =>
      simp only [overwrites] at overwritten
      split at overwritten
      · cases overwritten
      · cases overwritten
        rcases warranted with ⟨_, event, rest, now, same, _⟩
        exact ⟨event, rest, now, same⟩
  | resetForRetry named =>
      simp only [overwrites] at overwritten
      split at overwritten
      · cases overwritten
      · cases overwritten
        exact warranted
  | _ => cases overwritten

end Statements

/-! ## The runs -/

section Runs

variable {platform : Platform} {outboxMaxRetries : Int} {outbox : Outbox} {config config' : Publishing}
  {thread : Publisher} {id : Uuid}

theorem mem_remainder_of_atEvent {log : OutboxLog} (current : AtEvent log id) :
    id ∈ (remainder log).map OutboxEvent.id := by
  rcases current with ⟨event, rest, now, rfl⟩
  rw [now]
  exact List.mem_cons_self

/-- No event that a batch has in hand is PUBLISHED, and it has none twice. -/
structure InHandOpen (config : Publishing) : Prop where
  unpublished : ∀ thread ∈ config.threads, ∀ id ∈ workingOn thread, statusAt config.shared id ≠ some .published
  once : ∀ thread ∈ config.threads, ((remainder thread.log).map OutboxEvent.id).Nodup

section Answered

variable {index : Nat} {call : OutboxCall} {choice : OutboxChoice}
  {resume : Except JsError (outboxPorts.Reply call) → Program outboxPorts JsError Unit}
  (keeping : Publisher.Keeping platform outboxMaxRetries thread)
  (listed : config.threads[index]? = some thread) (pending : thread.code = .await call resume)
  (live : thread.stopped = false)

include keeping listed pending live

/-- An answer leaves no event in hand twice. -/
theorem InHandOpen.once_answered (open_ : InHandOpen config) :
    ((remainder ((publication platform outboxMaxRetries).answer config.shared call choice :: thread.log)).map
      OutboxEvent.id).Nodup := by
  cases polled : pollAnswered config (.advance index choice) with
  | none =>
      have unread : readBy ((publication platform outboxMaxRetries).answer config.shared call choice) = [] :=
        readBy_quiet listed pending live polled
      rw [remainder_cons unread]
      exact (open_.once thread (List.mem_of_getElem? listed)).sublist ((List.drop_sublist _ _).map _)
  | some locked =>
      rcases pollAnswered_some listed pending polled with ⟨rfl, limit, rfl⟩
      have unpolled : thread.log = [] := (keeping.answered pending config.shared (.serve locked)).1
      have handed : remainder ((publication platform outboxMaxRetries).answer config.shared (.getPending limit)
          (.serve locked) :: thread.log) = config.shared.getPending locked limit := by
        rw [unpolled]
        exact List.append_nil _
      rw [handed]
      exact Outbox.nodup_getPending config.shared locked limit

/-- What the batch has in hand after an answer is not PUBLISHED. -/
theorem InHandOpen.own_answered (open_ : InHandOpen config) (knowingly : marksAnswered config (.advance index choice) = true)
    {rest : Program outboxPorts JsError Unit}
    (member : id ∈ workingOn (thread.answered ((publication platform outboxMaxRetries).answer config.shared call choice)
      rest)) :
    statusAt (config.shared.perform platform call choice).2 id ≠ some .published := by
  intro published
  have warranted := (keeping.answered pending config.shared choice).1
  cases polled : pollAnswered config (.advance index choice) with
  | some locked =>
      -- the rows of a poll are PENDING
      rcases pollAnswered_some listed pending polled with ⟨rfl, limit, rfl⟩
      have unpolled : thread.log = [] := warranted
      have found : id ∈ (config.shared.getPending locked limit).map OutboxEvent.id := by
        have left := (mem_workingOn.mp member).2.2
        change id ∈ (remainder (_ :: thread.log)).map OutboxEvent.id at left
        rw [unpolled] at left
        exact (List.append_nil (config.shared.getPending locked limit)) ▸ left
      rcases List.mem_map.mp found with ⟨row, among, rfl⟩
      rcases Outbox.mem_getPending among with ⟨present, status, _⟩
      have waiting := statusAt_of_mem present
      rw [status] at waiting
      cases waiting.symm.trans published
  | none =>
      have unread : readBy ((publication platform outboxMaxRetries).answer config.shared call choice) = [] :=
        readBy_quiet listed pending live polled
      have before := open_.unpublished thread (List.mem_of_getElem? listed) id
        (workingOn_answered pending live unread member)
      rcases perform_gained warranted published with already | rfl
      · exact before already
      · -- the batch goes on from the event it has published
        cases choice with
        | serve locked =>
            rcases warranted with ⟨⟨event, rest, now, same⟩, _⟩
            have once := open_.once thread (List.mem_of_getElem? listed)
            rw [now, List.map_cons, List.nodup_cons] at once
            have left := (mem_workingOn.mp member).2.2
            have gone : remainder ((publication platform outboxMaxRetries).answer config.shared (.markPublished id)
                (.serve locked) :: thread.log) = rest := remainder_finished rfl rfl now
            change id ∈ (remainder (_ :: thread.log)).map OutboxEvent.id at left
            rw [gone] at left
            exact once.1 (same.symm ▸ left)
        | lose error =>
            rcases thread with ⟨task, code, log, stopped⟩
            cases pending
            simp only [marksAnswered, listed] at knowingly
            cases knowingly
        | reject error => exact before published

/-- Nor is what any other batch has in hand. -/
theorem InHandOpen.others_answered (open_ : InHandOpen config) (exclusive : Exclusive config) {position : Nat}
    {other : Publisher} (different : position ≠ index) (found : config.threads[position]? = some other)
    (member : id ∈ workingOn other) : statusAt (config.shared.perform platform call choice).2 id ≠ some .published := by
  intro published
  have warranted := (keeping.answered pending config.shared choice).1
  rcases perform_gained warranted published with already | rfl
  · exact open_.unpublished other (List.mem_of_getElem? found) id member already
  · have own : id ∈ workingOn thread :=
      (mem_workingOn_pending pending live).mpr (mem_remainder_of_atEvent warranted.1)
    exact exclusive position index other thread different found listed id member own

/-- An event is turned back only while a batch has it in hand. -/
theorem InHandOpen.kept_answered (open_ : InHandOpen config) (published : statusAt config.shared id = some .published) :
    statusAt (config.shared.perform platform call choice).2 id = some .published := by
  apply perform_kept published
  intro turned
  have current := atEvent_of_turnsBack (keeping.answered pending config.shared choice).1 turned
  have own : id ∈ workingOn thread := (mem_workingOn_pending pending live).mpr (mem_remainder_of_atEvent current)
  exact open_.unpublished thread (List.mem_of_getElem? listed) id own published

end Answered

theorem InHandOpen.step {move : Move OutboxTask OutboxChoice} (open_ : InHandOpen config)
    (keeping : ∀ thread ∈ config.threads, Publisher.Keeping platform outboxMaxRetries thread)
    (exclusive : Exclusive config) (knowingly : marksAnswered config move = true)
    (stepped : (publication platform outboxMaxRetries).Stepped config move config') : InHandOpen config' := by
  cases stepped with
  | idle => exact open_
  | started task =>
      constructor
      · intro thread member id inHand
        rcases List.mem_append.mp member with earlier | fresh
        · exact open_.unpublished thread earlier id inHand
        · cases List.mem_singleton.mp fresh
          exact absurd inHand (workingOn_unpolled rfl)
      · intro thread member
        rcases List.mem_append.mp member with earlier | fresh
        · exact open_.once thread earlier
        · cases List.mem_singleton.mp fresh
          exact List.nodup_nil
  | stopped index =>
      constructor
      · intro thread member id inHand
        rcases System.mem_modify_stop member with earlier | ⟨old, earlier, rfl⟩
        · exact open_.unpublished thread earlier id inHand
        · cases (mem_workingOn.mp inHand).1
      · intro thread member
        rcases System.mem_modify_stop member with earlier | ⟨old, earlier, rfl⟩
        · exact open_.once thread earlier
        · exact open_.once old earlier
  | answered index choice thread call resume listed pending live =>
      have keeps := keeping thread (List.mem_of_getElem? listed)
      constructor
      · intro other member id inHand
        rcases List.mem_iff_getElem?.mp member with ⟨position, found⟩
        rcases System.getElem?_set_cases listed found with ⟨rfl, rfl⟩ | ⟨different, earlier⟩
        · exact open_.own_answered keeps listed pending live knowingly inHand
        · exact open_.others_answered keeps listed pending live exclusive different earlier inHand
      · intro other member
        rcases List.mem_or_eq_of_mem_set member with earlier | rfl
        · exact open_.once other earlier
        · exact open_.once_answered keeps listed pending live

theorem reaches_inHandOpen
    (reached : (publication platform outboxMaxRetries).Reaches (fun config move => publishesKnowingly config move = true)
      { shared := outbox } config) : Exclusive config ∧ InHandOpen config := by
  have apart : ∀ config move, publishesKnowingly config move = true → pollsApart config move = true :=
    fun config move knowingly => (Bool.and_eq_true_iff.mp knowingly).1
  refine ⟨reaches_exclusive apart reached, ?_⟩
  refine reached.induct ?_ ?_
  · constructor
    all_goals
      intro thread member
      cases member
  · intro earlier move next reached' knowingly stepped open_
    exact open_.step (reaches_warranted reached') (reaches_exclusive apart reached')
      (Bool.and_eq_true_iff.mp knowingly).2 stepped

/-- Where polls keep apart and every `markPublished` that takes effect is answered, a
PUBLISHED event stays so. -/
theorem published_final {first later : Publishing}
    (reached : (publication platform outboxMaxRetries).Reaches (fun config move => publishesKnowingly config move = true)
      { shared := outbox } first)
    (continued : (publication platform outboxMaxRetries).Reaches (fun config move => publishesKnowingly config move = true)
      first later)
    (published : statusAt first.shared id = some .published) : statusAt later.shared id = some .published := by
  refine continued.induct published ?_
  intro earlier move next between _ stepped still
  have so := reached.trans between
  have open_ := (reaches_inHandOpen so).2
  cases stepped with
  | idle => exact still
  | started task => exact still
  | stopped index => exact still
  | answered index choice thread call resume listed pending live =>
      have keeps := reaches_warranted so thread (List.mem_of_getElem? listed)
      exact open_.kept_answered keeps listed pending live still

/-- A batch whose enqueue is refused, and another that publishes the event. -/
def secondPublishes : List (Move OutboxTask OutboxChoice) :=
  .start .processBatch :: .start .processBatch :: (poll 0 2 ++ .advance 0 (.reject .other) :: (poll 0 1 ++ poll 1 4))

theorem published_final_polled : statusAt (publishing secondPublishes).shared 0 = some .published ∧
    statusAt ((publication postgresJs 5).run (publishing secondPublishes)
      (.start .processBatch :: poll 2 4)).shared 0 = some .published := by
  have reached : (publication postgresJs 5).Reaches (fun config move => publishesKnowingly config move = true)
      { shared := smallOutbox } (publishing secondPublishes) := System.reaches_run (by decide +kernel)
  have continued : (publication postgresJs 5).Reaches (fun config move => publishesKnowingly config move = true)
      (publishing secondPublishes) ((publication postgresJs 5).run (publishing secondPublishes)
        (.start .processBatch :: poll 2 4)) := System.reaches_run (by decide +kernel)
  have published : statusAt (publishing secondPublishes).shared 0 = some .published := by decide +kernel
  exact ⟨published, published_final reached continued published⟩

end Runs

/-! ## A late failure report -/

/-- Whatever the processors do, a PUBLISHED event stays PUBLISHED. -/
def PublishedIsFinal (platform : Platform) (outboxMaxRetries : Int) (outbox : Outbox) : Prop :=
  ∀ moves later id,
    statusAt ((publication platform outboxMaxRetries).run { shared := outbox } moves).shared id = some .published →
      statusAt ((publication platform outboxMaxRetries).run { shared := outbox } (moves ++ later)).shared id =
        some .published

/-- Two batches read the event; the first publishes it. -/
def firstPublishes : List (Move OutboxTask OutboxChoice) :=
  .start .processBatch :: .start .processBatch :: poll 0 1 ++ poll 1 1 ++ poll 0 3

/-- The second cannot enqueue it and sets it back. -/
def secondFails : List (Move OutboxTask OutboxChoice) := poll 1 1 ++ [.advance 1 (.reject .other)] ++ poll 1 1

example : publishedStatus (publishing (firstPublishes ++ secondFails)) = some .pending := by decide +kernel

theorem republished : ¬ PublishedIsFinal postgresJs 5 smallOutbox := by
  intro claimed
  have published : statusAt (publishing firstPublishes).shared 0 = some .published := by decide +kernel
  have pending : statusAt (publishing (firstPublishes ++ secondFails)).shared 0 = some .pending := by decide +kernel
  cases pending.symm.trans (claimed firstPublishes secondFails 0 published)

end Orderly
