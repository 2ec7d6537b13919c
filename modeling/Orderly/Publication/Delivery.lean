import Orderly.Publication.Batches
import Orderly.Process.Execution

/-!
# No event is lost

Processors decide on what they have read and write without looking again, so a
write may meet a newer row.  It does no harm to the accounts: a row is never
deleted, its payload is never written and its retry count only grows, so a
decision that was warranted by what was read is warranted by what is there.
-/

namespace Orderly

open Process (Program System)

/-- What a call can have made of a row. -/
inductive Written : outboxPorts.Call → OutboxEvent → OutboxEvent → Prop where
  | kept (call : OutboxCall) (row : OutboxEvent) : Written call row row
  | published (now : Date) (row : OutboxEvent) :
      Written (OutboxCall.markPublished row.id) row (Outbox.publishedRow now row)
  | failed (now : Date) (incrementRetry : Bool) (row : OutboxEvent) :
      Written (OutboxCall.markFailed row.id incrementRetry) row (Outbox.failedRow now incrementRetry row)
  | retried (row : OutboxEvent) : Written (OutboxCall.resetForRetry row.id) row (Outbox.retriedRow row)

namespace Written

variable {call : outboxPorts.Call} {row row' : OutboxEvent}

theorem id (written : Written call row row') : row'.id = row.id := by
  cases written <;> rfl

theorem payload (written : Written call row row') : row'.payload = row.payload := by
  cases written <;> rfl

theorem retryCount (written : Written call row row') : row.retryCount ≤ row'.retryCount := by
  cases written with
  | kept => exact Nat.le_refl _
  | published now row => exact Nat.le_refl _
  | failed now incrementRetry row =>
      cases incrementRetry with
      | true => exact Nat.le_succ _
      | false => exact Nat.le_refl _
  | retried row => exact Nat.le_succ _

end Written

/-! ## What an answered call does to the table -/

section Rows

variable {platform : Platform} {outboxMaxRetries : Int} {before after : Outbox} {call : OutboxCall}
  {choice : OutboxChoice} {reply : Except JsError call.Reply}

/-- The rows after an update. -/
theorem update_rows {outbox : Outbox} {id : Uuid} {change : OutboxEvent → OutboxEvent}
    {keeps : ∀ row, (change row).id = row.id}
    (written : ∀ row, row.id = id → Written call row (change row)) :
    (∀ row ∈ outbox.events.rows, ∃ row' ∈ (outbox.update id change keeps).events.rows, Written call row row') ∧
      ∀ row' ∈ (outbox.update id change keeps).events.rows, ∃ row ∈ outbox.events.rows, Written call row row' := by
  have changed : ∀ row, Written call row (if row.id = id then change row else row) := by
    intro row
    split
    · next same => exact written row same
    · exact .kept call row
  constructor
  · intro row member
    have moved : (if row.id = id then change row else row) ∈ (outbox.events.update id change keeps).rows :=
      Store.Table.mem_update.mpr ⟨row, member, rfl⟩
    exact ⟨_, moved, changed row⟩
  · intro row' member
    have moved : row' ∈ (outbox.events.update id change keeps).rows := member
    rcases Store.Table.mem_update.mp moved with ⟨row, earlier, rfl⟩
    exact ⟨row, earlier, changed row⟩

/-- Rows stay, each as it was or as the call writes it, and a new row is one
that was inserted. -/
structure Progress (platform : Platform) (call : outboxPorts.Call) (before after : Outbox) : Prop where
  stays : ∀ row ∈ before.events.rows, ∃ row' ∈ after.events.rows, Written call row row'
  comes : ∀ row' ∈ after.events.rows, (∃ row ∈ before.events.rows, Written call row row') ∨
    ∃ id event, call = OutboxCall.insert id event ∧ row' = Database.outboxRow platform before.clock id event

theorem Progress.same (same : after.events = before.events) : Progress platform call before after where
  stays := by
    rw [same]
    exact fun row member => ⟨row, member, .kept call row⟩
  comes := by
    rw [same]
    exact fun row member => Or.inl ⟨row, member, .kept call row⟩

theorem Progress.update {outbox : Outbox} {id : Uuid} {change : OutboxEvent → OutboxEvent}
    {keeps : ∀ row, (change row).id = row.id} (written : ∀ row, row.id = id → Written call row (change row)) :
    Progress platform call outbox (outbox.update id change keeps) where
  stays := (update_rows written).1
  comes := fun row' member => Or.inl ((update_rows written).2 row' member)

theorem effect_progress (locked : List Uuid) :
    Progress platform call before (before.effect platform call locked).2 := by
  cases call with
  | randomUUID => exact .same rfl
  | insert id event =>
      simp only [Outbox.effect]
      split
      · next events inserted =>
          constructor
          · intro row member
            exact ⟨row, (Store.Table.mem_insert inserted).mpr (Or.inl member), .kept _ row⟩
          · intro row' member
            rcases (Store.Table.mem_insert inserted).mp member with earlier | rfl
            · exact Or.inl ⟨row', earlier, .kept _ row'⟩
            · exact Or.inr ⟨id, event, rfl, rfl⟩
      · exact .same rfl
  | getPending limit => exact .same rfl
  | markPublished id =>
      apply Progress.update
      intro row same
      exact same ▸ .published _ row
  | markFailed id incrementRetry =>
      simp only [Outbox.effect]
      split
      · exact .same rfl
      · apply Progress.update
        intro row same
        exact same ▸ .failed _ incrementRetry row
  | resetForRetry id =>
      simp only [Outbox.effect]
      split
      · exact .same rfl
      · apply Progress.update
        intro row same
        exact same ▸ .retried row
  | createQueue name => exact .same rfl
  | add queueName name data jobId =>
      simp only [Outbox.effect, Outbox.addJob]
      split
      · exact .same rfl
      · exact .same rfl

theorem perform_progress (choice : OutboxChoice) :
    Progress platform call before (before.perform platform call choice).2 := by
  cases choice with
  | serve locked => exact effect_progress locked
  | lose error => exact effect_progress []
  | reject error => exact .same rfl

end Rows

theorem outbox_admits {platform : Platform} {outboxMaxRetries : Int} {log : OutboxLog} {event : OutboxEventCall}
    (admitted : (publication platform outboxMaxRetries).Admits log event) :
    Progress platform event.call event.before event.after := by
  rcases event with ⟨call, reply, before, after⟩
  rcases System.admits_iff.mp admitted with ⟨choice, performed⟩
  rcases Prod.ext_iff.mp performed with ⟨_, rfl⟩
  exact perform_progress choice

/-! ## The accounts -/

/-- An enqueue for the event has resolved. -/
def Resolved (config : Publishing) (id : Uuid) : Prop := ∃ thread ∈ config.threads, id ∈ resolved thread.log

/-- PENDING, or PUBLISHED after a resolved enqueue, or FAILED with its retries
used up. -/
def Accounted (outboxMaxRetries : Int) (config : Publishing) (row : OutboxEvent) : Prop :=
  match row.status with
  | .pending => True
  | .published => Resolved config row.id
  | .failed => outboxMaxRetries ≤ row.retryCount

/-- What the processors rely on. -/
structure Accounts (outboxMaxRetries : Int) (config : Publishing) : Prop where
  rows : ∀ row ∈ config.shared.events.rows, Accounted outboxMaxRetries config row
  /-- what a batch has read is still there, with at least as many retries -/
  read : ∀ thread ∈ config.threads, ∀ event ∈ snapshots thread.log,
    ∃ row ∈ config.shared.events.rows, row.id = event.id ∧ event.retryCount ≤ row.retryCount

variable {platform : Platform} {outboxMaxRetries : Int} {outbox : Outbox} {config config' : Publishing}

theorem remainder_sublist (log : OutboxLog) : (remainder log).Sublist (snapshots log) := List.drop_sublist _ _

theorem resolved_suffix {earlier later : OutboxLog} (suffix : earlier <:+ later) {id : Uuid}
    (member : id ∈ resolved earlier) : id ∈ resolved later := by
  rcases suffix with ⟨since, rfl⟩
  unfold resolved at *
  rw [List.filterMap_append]
  exact List.mem_append_right _ member

theorem Resolved.step {move : Process.Move OutboxTask OutboxChoice} {id : Uuid}
    (stepped : (publication platform outboxMaxRetries).Stepped config move config') (before : Resolved config id) :
    Resolved config' id := by
  rcases before with ⟨thread, member, known⟩
  rcases stepped.logs_grow thread member with ⟨later, listed, suffix⟩
  exact ⟨later, listed, resolved_suffix suffix known⟩

/-- What has been read is what the table holds. -/
theorem readBy_rows {log : OutboxLog} {event : OutboxEventCall}
    (admitted : (publication platform outboxMaxRetries).Admits log event) :
    ∀ row ∈ readBy event, row ∈ event.before.events.rows := by
  intro row member
  rcases event with ⟨call, reply, before, after⟩
  rcases System.admits_iff.mp admitted with ⟨choice, performed⟩
  rcases Prod.ext_iff.mp performed with ⟨replied, _⟩
  cases call with
  | getPending limit =>
      cases choice with
      | serve locked =>
          cases replied
          exact (Outbox.mem_getPending member).1
      | lose error =>
          cases replied
          cases member
      | reject error =>
          cases replied
          cases member
  | _ => cases member

/-- A warranted statement keeps the accounts of every row. -/
theorem Accounts.written {thread : Publisher} {call : OutboxCall} {row row' : OutboxEvent}
    (accounts : Accounts outboxMaxRetries config) (listed : thread ∈ config.threads)
    (warranted : Warranted outboxMaxRetries thread.log call) (member : row ∈ config.shared.events.rows)
    (written : Written call row row') : Accounted outboxMaxRetries config row' := by
  cases written with
  | kept => exact accounts.rows row member
  | published now row => exact ⟨thread, listed, warranted.2⟩
  | failed now incrementRetry row =>
      rcases warranted with ⟨rfl, event, rest, now, same, exceeded⟩
      have snapshot : event ∈ snapshots thread.log := by
        apply (remainder_sublist thread.log).mem
        rw [now]
        exact List.mem_cons_self
      rcases accounts.read thread listed event snapshot with ⟨current, found, named, counted⟩
      -- the primary key makes the row that was read the row that is written
      have first := Store.Table.lookup_of_mem found
      rw [named, same, Store.Table.lookup_of_mem member] at first
      cases first
      change outboxMaxRetries ≤ (row.retryCount : Int)
      omega
  | retried row => trivial

theorem Accounted.step {move : Process.Move OutboxTask OutboxChoice} {row : OutboxEvent}
    (stepped : (publication platform outboxMaxRetries).Stepped config move config')
    (accounted : Accounted outboxMaxRetries config row) : Accounted outboxMaxRetries config' row := by
  unfold Accounted at *
  split
  · trivial
  · next published =>
      rw [published] at accounted
      exact Resolved.step stepped accounted
  · next failed =>
      rw [failed] at accounted
      exact accounted

/-- Every move keeps the accounts. -/
theorem Accounts.step {move : Process.Move OutboxTask OutboxChoice}
    (keeping : ∀ thread ∈ config.threads, Publisher.Keeping platform outboxMaxRetries thread)
    (stepped : (publication platform outboxMaxRetries).Stepped config move config')
    (accounts : Accounts outboxMaxRetries config) : Accounts outboxMaxRetries config' := by
  have stays : ∀ row, Accounted outboxMaxRetries config row → Accounted outboxMaxRetries config' row :=
    fun row accounted => accounted.step stepped
  cases stepped with
  | idle => exact accounts
  | started task =>
      constructor
      · intro row member
        exact stays row (accounts.rows row member)
      · intro thread listed event read
        rcases List.mem_append.mp listed with earlier | fresh
        · exact accounts.read thread earlier event read
        · cases List.mem_singleton.mp fresh
          cases read
  | stopped index =>
      constructor
      · intro row member
        exact stays row (accounts.rows row member)
      · intro thread listed event read
        rcases System.mem_modify_stop listed with earlier | ⟨old, earlier, rfl⟩
        · exact accounts.read thread earlier event read
        · exact accounts.read old earlier event read
  | answered index choice thread call resume listed pending live =>
      have member := List.mem_of_getElem? listed
      have warranted := ((keeping thread member).answered pending config.shared choice).1
      have admitted : (publication platform outboxMaxRetries).Admits []
          ((publication platform outboxMaxRetries).answer config.shared call choice) := ⟨choice, rfl⟩
      have progress := outbox_admits admitted
      constructor
      · intro row' found
        rcases progress.comes row' found with ⟨row, earlier, written⟩ | ⟨id, event, inserted, rfl⟩
        · exact stays row' (accounts.written member warranted earlier written)
        · change call = _ at inserted
          subst inserted
          have fresh : event.status = .pending := warranted.1
          unfold Accounted Database.outboxRow
          rw [fresh]
          trivial
      · intro other known event read
        have kept : ∀ earlier ∈ config.threads, event ∈ snapshots earlier.log → ∃ row ∈
            ((publication platform outboxMaxRetries).answer config.shared call choice).after.events.rows,
            row.id = event.id ∧ event.retryCount ≤ row.retryCount := by
          intro earlier found snapshot
          rcases accounts.read earlier found event snapshot with ⟨row, present, same, counted⟩
          rcases progress.stays row present with ⟨row', there, written⟩
          exact ⟨row', there, written.id.trans same, counted.trans written.retryCount⟩
        rcases List.mem_or_eq_of_mem_set known with earlier | rfl
        · exact kept other earlier read
        · rcases List.mem_append.mp read with now | before
          · rcases progress.stays event (readBy_rows admitted event now) with ⟨row', there, written⟩
            exact ⟨row', there, written.id, written.retryCount⟩
          · exact kept thread member before

theorem reaches_accounts (fresh : ∀ row ∈ outbox.events.rows, row.status = .pending)
    (reached : (publication platform outboxMaxRetries).Reaches (fun _ _ => True) { shared := outbox } config) :
    Accounts outboxMaxRetries config := by
  refine reached.induct ?_ ?_
  · constructor
    · intro row member
      unfold Accounted
      rw [fresh row member]
      trivial
    · intro thread member
      cases member
  · intro config move next earlier _ stepped accounts
    exact accounts.step (reaches_warranted earlier) stepped

/-- A row of the table stays in it, with its payload and at least its retries. -/
theorem row_persists {row : OutboxEvent} (member : row ∈ config.shared.events.rows)
    (later : (publication platform outboxMaxRetries).Reaches (fun _ _ => True) config config') :
    ∃ row' ∈ config'.shared.events.rows,
      row'.id = row.id ∧ row'.payload = row.payload ∧ row.retryCount ≤ row'.retryCount := by
  refine later.induct ?_ ?_
  · exact ⟨row, member, rfl, rfl, Nat.le_refl _⟩
  · intro current move next _ _ stepped present
    rcases present with ⟨row', there, same, payload, counted⟩
    cases stepped with
    | idle => exact ⟨row', there, same, payload, counted⟩
    | started => exact ⟨row', there, same, payload, counted⟩
    | stopped => exact ⟨row', there, same, payload, counted⟩
    | answered index choice thread call resume listed pending live =>
        have admitted : (publication platform outboxMaxRetries).Admits []
            ((publication platform outboxMaxRetries).answer current.shared call choice) := ⟨choice, rfl⟩
        rcases (outbox_admits admitted).stays row' there with ⟨row'', here, written⟩
        exact ⟨row'', here, written.id.trans same, written.payload.trans payload, counted.trans written.retryCount⟩

/-- Whatever the processors do, an event that has been committed is still there
with its payload and its retries, and its status is accounted for. -/
theorem events_accounted (fresh : ∀ row ∈ outbox.events.rows, row.status = .pending)
    (reached : (publication platform outboxMaxRetries).Reaches (fun _ _ => True) { shared := outbox } config)
    (later : (publication platform outboxMaxRetries).Reaches (fun _ _ => True) config config') :
    ∀ event ∈ config.shared.events.rows, ∃ event' ∈ config'.shared.events.rows,
      event'.id = event.id ∧ event'.payload = event.payload ∧ event.retryCount ≤ event'.retryCount ∧
        Accounted outboxMaxRetries config' event' := by
  intro event member
  rcases row_persists member later with ⟨event', there, same, payload, counted⟩
  exact ⟨event', there, same, payload, counted, (reaches_accounts fresh (reached.trans later)).rows event' there⟩

/-- Two batches over one event, the second of which cannot enqueue it. -/
def contended : Publishing :=
  publishing (.start .processBatch :: .start .processBatch :: poll 0 1 ++ poll 1 1 ++ poll 0 3 ++ poll 1 1 ++
    [.advance 1 (.reject .other)] ++ poll 1 1)

theorem events_accounted_twice : ∃ event' ∈ contended.shared.events.rows,
    event'.id = 0 ∧ event'.payload = (orderCreated 0).payload ∧ 0 ≤ event'.retryCount ∧
      Accounted 5 contended event' := by
  have fresh : ∀ row ∈ smallOutbox.events.rows, row.status = .pending := by decide
  exact events_accounted fresh (System.run_reaches _ []) (System.run_reaches _ _) (orderCreated 0)
    (List.mem_singleton_self _)

end Orderly
