import Orderly.Fulfilment.Conduct

/-!
# Who writes which saga row

The persisted status of a saga changes only through `create` and `update`, and
a routine writes only the row it has created or, as an admin request, has read.
No two routines create the same row, because its id is a primary key.
-/

namespace Orderly

open Store (Table)

/-- The persisted status of a saga. -/
def sagaStatus (world : World) (id : Uuid) : Option SagaStatus :=
  (world.db.sagas.lookup id).map SagaInstance.status

/-- The saga a routine has created. -/
def createdSaga (log : CallLog) : Option SagaInstance := (footprint log).created.head?

variable {platform : Platform}

/-! ## What one event does to the rows -/

/-- How an event can change the status of a saga. -/
inductive StatusChange (event : CallEvent) (id : Uuid) : Prop where
  | unchanged (same : sagaStatus event.after id = sagaStatus event.before id)
  | inserted (row : SagaInstance) (call : event.call = .createSaga row) (named : row.id = id)
      (fresh : sagaStatus event.before id = none) (now : sagaStatus event.after id = some row.status)
  | updated (row : SagaInstance) (call : event.call = .updateSaga row) (named : row.id = id)
      (present : (sagaStatus event.before id).isSome)
      (now : sagaStatus event.after id = some row.status)

theorem sagaStatus_of_sagas {first second : World} (same : second.db.sagas = first.db.sagas) (id : Uuid) :
    sagaStatus second id = sagaStatus first id := by
  unfold sagaStatus
  rw [same]

/-- The status after an insert. -/
theorem sagaStatus_insert {before after : World} {saga : SagaInstance}
    (inserted : before.db.sagas.insert (Database.sagaRow platform saga) = some after.db.sagas) (id : Uuid) :
    sagaStatus after id = if id = saga.id then some saga.status else sagaStatus before id := by
  unfold sagaStatus
  rw [Table.lookup_insert id inserted]
  change Option.map _ (if id = saga.id then _ else _) = _
  split <;> rfl

/-- The status after an update. -/
theorem sagaStatus_update {before after : World} {saga : SagaInstance}
    (update : after.db = before.db.updateSaga platform saga) (id : Uuid) :
    sagaStatus after id =
      if id = saga.id then (sagaStatus before id).map fun _ => saga.status else sagaStatus before id := by
  have rows : after.db.sagas = before.db.sagas.update saga.id (Database.setSaga platform saga)
      (Database.setSaga_id platform saga) := by
    rw [update]
    rfl
  unfold sagaStatus
  rw [rows, Table.lookup_update]
  split
  · cases before.db.sagas.lookup id <;> rfl
  · rfl

theorem statusChange {event : CallEvent} (admitted : (orderly platform).Admits [] event) (id : Uuid) :
    StatusChange event id := by
  rcases event with ⟨call, reply, before, after⟩
  rcases admits_iff.mp admitted with ⟨choice, performed⟩
  cases call with
  | createSaga saga =>
      rcases World.createSaga_answered performed with ⟨same, _⟩ | inserted
      · exact .unchanged (sagaStatus_of_sagas (by rw [same]) id)
      · have status := sagaStatus_insert inserted id
        by_cases named : id = saga.id
        · subst named
          refine .inserted saga rfl rfl ?_ (by simpa using status)
          have fresh := Table.insert_fresh inserted
          change Option.map _ (before.db.sagas.lookup saga.id) = none
          change before.db.sagas.lookup saga.id = none at fresh
          rw [fresh]
          rfl
        · rw [if_neg named] at status
          exact .unchanged status
  | updateSaga saga =>
      rcases World.updateSaga_answered performed with ⟨same, _⟩ | update
      · exact .unchanged (sagaStatus_of_sagas (by rw [same]) id)
      · have status := sagaStatus_update update id
        by_cases named : id = saga.id
        · subst named
          rw [if_pos rfl] at status
          cases present : sagaStatus before saga.id with
          | none =>
              rw [present] at status
              exact .unchanged (status.trans present.symm)
          | some old =>
              rw [present] at status
              exact .updated saga rfl rfl (by rw [present]; rfl) status
        · rw [if_neg named] at status
          exact .unchanged status
  | _ =>
      have frame := World.perform_frame performed
      exact .unchanged (sagaStatus_of_sagas (frame.sagas fun same => by cases same) id)

/-- An answered insert has inserted a new row. -/
theorem created_status {saga : SagaInstance} {before after : World}
    (admitted : (orderly platform).Admits [] ⟨.createSaga saga, .ok (), before, after⟩) :
    sagaStatus before saga.id = none ∧ sagaStatus after saga.id = some saga.status := by
  rcases admits_iff.mp admitted with ⟨choice, performed⟩
  rcases World.createSaga_answered performed with ⟨_, refused⟩ | inserted
  · exact absurd rfl refused
  · have fresh := Table.insert_fresh inserted
    change before.db.sagas.lookup saga.id = none at fresh
    refine ⟨?_, by simpa using sagaStatus_insert inserted saga.id⟩
    unfold sagaStatus
    rw [fresh]
    rfl

/-- A row that has been inserted stays. -/
theorem StatusChange.persists {event : CallEvent} {id : Uuid} (change : StatusChange event id)
    (present : (sagaStatus event.before id).isSome) : (sagaStatus event.after id).isSome := by
  cases change with
  | unchanged same => rw [same]; exact present
  | inserted row call named fresh now => rw [now]; rfl
  | updated row call named present now => rw [now]; rfl

/-! ## What a routine writes -/

theorem undoing_updates {context : SagaContext} {steps : List SagaStep} {saga : SagaInstance}
    {undone : Footprint} (undoing : Undoing platform context steps saga undone) :
    undone.created = [] ∧ ∀ row ∈ undone.updateCalls, row.id = saga.id ∧ row.status = .failed := by
  cases undoing with
  | failing now =>
      refine ⟨rfl, fun row member => ?_⟩
      cases List.mem_singleton.mp member
      exact ⟨rfl, rfl⟩
  | _ => exact ⟨rfl, fun row member => by cases member⟩

theorem compensating_updates {context : SagaContext} {saga : SagaInstance} {done : Footprint}
    (compensating : Compensating platform context saga done) :
    done.created = [] ∧
      ∀ row ∈ done.updateCalls, row.id = saga.id ∧ (row.status = .compensating ∨ row.status = .failed) := by
  cases compensating with
  | entered => exact ⟨rfl, fun row member => by cases member⟩
  | announcing =>
      refine ⟨rfl, fun row member => ?_⟩
      cases List.mem_singleton.mp member
      exact ⟨rfl, .inl rfl⟩
  | undoing _ undoing =>
      rcases undoing_updates undoing with ⟨created, updates⟩
      refine ⟨?_, fun row member => ?_⟩
      · change [] ++ _ = []
        rw [created]
        rfl
      · rcases List.mem_cons.mp member with rfl | later
        · exact ⟨rfl, .inl rfl⟩
        · exact ⟨(updates row later).1, .inr (updates row later).2⟩

/-- A saga run updates no row but the one it has created. -/
theorem fulfilling_updates {context : SagaContext} {done : Footprint}
    (fulfilling : Fulfilling platform context done) :
    (done.created = [] ∧ done.updateCalls = []) ∨
      ∃ saga, SagaInstance.NewFor context saga ∧ done.created = [saga] ∧
        ∀ row ∈ done.updateCalls, row.id = saga.id := by
  cases fulfilling with
  | idle => exact Or.inl ⟨rfl, rfl⟩
  | creating => exact Or.inl ⟨rfl, rfl⟩
  | created new => exact Or.inr ⟨_, new, rfl, by simp⟩
  | starting new => exact Or.inr ⟨_, new, rfl, by simp [SagaInstance.running]⟩
  | reserving new => exact Or.inr ⟨_, new, rfl, by simp [SagaInstance.running]⟩
  | charging new => exact Or.inr ⟨_, new, rfl, by simp [SagaInstance.running]⟩
  | charged new => exact Or.inr ⟨_, new, rfl, by simp [SagaInstance.running]⟩
  | confirming new => exact Or.inr ⟨_, new, rfl, by simp [SagaInstance.running]⟩
  | completing _ _ new =>
      exact Or.inr ⟨_, new, rfl, by simp [SagaInstance.running, SagaInstance.completedOn]⟩
  | compensating new _ _ compensating =>
      rcases compensating_updates compensating with ⟨created, updates⟩
      refine Or.inr ⟨_, new, ?_, fun row member => ?_⟩
      · change [_] ++ _ = [_]
        rw [created]
        rfl
      · rcases List.mem_cons.mp member with rfl | later
        · rfl
        · exact (updates row later).1

/-- An admin request creates nothing and writes no status but COMPENSATING and
FAILED. -/
theorem handling_updates {id : Uuid} {done : Footprint} (handling : Handling platform id done) :
    done.created = [] ∧
      ∀ row ∈ done.updateCalls, row.id = id ∧ (row.status = .compensating ∨ row.status = .failed) := by
  cases handling with
  | asked => exact ⟨rfl, fun row member => by cases member⟩
  | handling found compensating =>
      subst found
      exact compensating_updates compensating

/-- A run creates its row as `createSagaInstance` makes it. -/
theorem created_pending {task : Task} {done : Footprint} {saga : SagaInstance}
    (conduct : Conduct platform task done) (created : done.created.head? = some saga) :
    saga.status = .pending := by
  have run : ∀ {context}, Fulfilling platform context done → saga.status = .pending := by
    intro context fulfilling
    rcases fulfilling_updates fulfilling with ⟨none, _⟩ | ⟨_, ⟨id, date, rfl⟩, one, _⟩
    · rw [none] at created
      cases created
    · rw [one] at created
      cases created
      rfl
  cases task with
  | startSaga context => exact run conduct
  | sagaJob job => exact run conduct
  | compensateSaga id =>
      rw [(handling_updates conduct).1] at created
      cases created

/-- The lists of a log that a saga update extends. -/
theorem update_footprint {event : CallEvent} {row : SagaInstance} (call : event.call = .updateSaga row) (log : CallLog) :
    (footprint (event :: log)).updateCalls = (footprint log).updateCalls ++ [row] ∧
      (footprint (event :: log)).created = (footprint log).created ∧
      ∀ earlier ∈ (footprint (event :: log)).updated, earlier = row ∨ earlier ∈ (footprint log).updated := by
  rcases event with ⟨_, reply, before, after⟩
  cases call
  have created : (footprint log).created ++ [] = (footprint log).created := List.append_nil _
  cases reply with
  | error error =>
      refine ⟨rfl, created, fun earlier member => ?_⟩
      rcases List.mem_append.mp member with known | new
      · exact Or.inr known
      · cases new
  | ok value =>
      refine ⟨rfl, created, fun earlier member => ?_⟩
      rcases List.mem_append.mp member with known | new
      · exact Or.inr known
      · exact Or.inl (List.mem_singleton.mp new)

/-! ## Ownership -/

section Ownership

open Process (Program System)

/-- Only an answered insert leaves a created row. -/
theorem created_event {event : CallEvent} {saga : SagaInstance}
    (member : saga ∈ (eventFootprint event).created) :
    ∃ before after, event = ⟨.createSaga saga, .ok (), before, after⟩ := by
  rcases event with ⟨call, reply, before, after⟩
  cases call with
  | createSaga row =>
      cases reply with
      | ok value =>
          cases List.mem_singleton.mp member
          exact ⟨before, after, rfl⟩
      | error error => cases member
  | reserve sku quantity => rcases reply with error | (_ | _) <;> cases member
  | release sku quantity => rcases reply with error | (_ | _) <;> cases member
  | _ =>
      exfalso
      revert member
      cases reply <;> simp only [eventFootprint, setbackOf] <;> (repeat' split) <;> simp

theorem createdSaga_cons {event : CallEvent} {log : CallLog} {saga : SagaInstance}
    (created : createdSaga (event :: log) = some saga) :
    createdSaga log = some saga ∨ (createdSaga log = none ∧
      ∃ before after, event = ⟨.createSaga saga, .ok (), before, after⟩) := by
  change ((footprint log).created ++ (eventFootprint event).created).head? = some saga at created
  unfold createdSaga
  cases earlier : (footprint log).created with
  | cons first rest =>
      rw [earlier] at created
      exact Or.inl created
  | nil =>
      rw [earlier] at created
      exact Or.inr ⟨rfl, created_event (List.mem_of_mem_head? created)⟩

/-- Each created row belongs to one run, and a COMPLETED one has been completed
by that run. -/
structure Owned (config : Running) : Prop where
  stored : ∀ (index : Nat) (thread : Routine) saga, config.threads[index]? = some thread →
    createdSaga thread.log = some saga → (sagaStatus config.shared saga.id).isSome
  apart : ∀ (index other : Nat) (thread thread' : Routine) saga saga',
    config.threads[index]? = some thread → config.threads[other]? = some thread' →
    createdSaga thread.log = some saga → createdSaga thread'.log = some saga' →
    saga.id = saga'.id → index = other
  completed : ∀ (index : Nat) (thread : Routine) saga, config.threads[index]? = some thread →
    createdSaga thread.log = some saga → sagaStatus config.shared saga.id = some .completed →
    ∃ row ∈ (footprint thread.log).updateCalls, row.status = .completed

/-- The row an event updates belongs to the routine, if it ends up COMPLETED. -/
theorem Keeping.completes {thread : Routine} {event : CallEvent} {row : SagaInstance}
    (keeping : Conduct platform thread.task (footprint (event :: thread.log)))
    (call : event.call = .updateSaga row) (completed : row.status = .completed) :
    ∃ saga, createdSaga thread.log = some saga ∧ saga.id = row.id := by
  rcases event with ⟨_, reply, before, after⟩
  cases call
  have nothing : (eventFootprint ⟨.updateSaga row, reply, before, after⟩).created = [] := by
    cases reply <;> rfl
  have listed : row ∈ (footprint (⟨.updateSaga row, reply, before, after⟩ :: thread.log)).updateCalls := by
    refine List.mem_append_right _ ?_
    cases reply <;> exact List.mem_singleton_self row
  have run : ∀ {context}, Fulfilling platform context
      (footprint (⟨.updateSaga row, reply, before, after⟩ :: thread.log)) →
      ∃ saga, createdSaga thread.log = some saga ∧ saga.id = row.id := by
    intro context fulfilling
    rcases fulfilling_updates fulfilling with ⟨_, none⟩ | ⟨saga, _, created, updates⟩
    · rw [none] at listed
      cases listed
    · refine ⟨saga, ?_, (updates row listed).symm⟩
      change (footprint thread.log).created ++ _ = [saga] at created
      rw [nothing, List.append_nil] at created
      unfold createdSaga
      rw [created]
      rfl
  rcases thread with ⟨task, code, log, stopped⟩
  cases task with
  | startSaga context => exact run keeping
  | sagaJob job => exact run keeping
  | compensateSaga id =>
      rcases (handling_updates keeping).2 row listed with ⟨_, status | status⟩ <;>
        rw [status] at completed <;> cases completed

theorem Owned.of_logs {config next : Running} (owned : Owned config) (shared : next.shared = config.shared)
    (logs : ∀ (position : Nat) (thread : Routine), next.threads[position]? = some thread →
      (∃ old : Routine, config.threads[position]? = some old ∧ old.log = thread.log) ∨ thread.log = []) :
    Owned next := by
  have known : ∀ {position : Nat} {thread : Routine} {saga : SagaInstance},
      next.threads[position]? = some thread → createdSaga thread.log = some saga →
      ∃ old : Routine, config.threads[position]? = some old ∧ old.log = thread.log := by
    intro position thread saga found created
    rcases logs position thread found with earlier | empty
    · exact earlier
    · rw [empty] at created
      cases created
  constructor
  · intro position thread saga found created
    rcases known found created with ⟨old, listed, same⟩
    rw [shared]
    exact owned.stored position old saga listed (same ▸ created)
  · intro first second thread thread' saga saga' found found' created created' same
    rcases known found created with ⟨old, listed, same₁⟩
    rcases known found' created' with ⟨old', listed', same₂⟩
    exact owned.apart first second old old' saga saga' listed listed' (same₁ ▸ created) (same₂ ▸ created') same
  · intro position thread saga found created completed
    rcases known found created with ⟨old, listed, same⟩
    rw [shared] at completed
    rw [← same]
    exact owned.completed position old saga listed (same ▸ created) completed

theorem Owned.answered {config : Running} {index : Nat} {thread : Routine} {event : CallEvent}
    {rest : Service Outcome} (owned : Owned config) (listed : config.threads[index]? = some thread)
    (start : event.before = config.shared) (admitted : (orderly platform).Admits [] event)
    (conduct : Conduct platform thread.task (footprint (event :: thread.log))) :
    Owned { shared := event.after, threads := config.threads.set index (thread.answered event rest) } := by
  rcases config with ⟨shared, threads⟩
  subst start
  -- a created row was created before, or by this event
  have created : ∀ {position : Nat} {other : Routine} {saga : SagaInstance},
      (threads.set index (thread.answered event rest))[position]? = some other →
      createdSaga other.log = some saga →
      (∃ old : Routine, threads[position]? = some old ∧ createdSaga old.log = some saga ∧
        ∀ row ∈ (footprint old.log).updateCalls, row ∈ (footprint other.log).updateCalls) ∨
      (position = index ∧ other = thread.answered event rest ∧
        sagaStatus event.before saga.id = none ∧ sagaStatus event.after saga.id = some saga.status) := by
    intro position other saga found known
    rcases System.getElem?_set_cases listed found with ⟨rfl, rfl⟩ | ⟨_, found⟩
    · rcases createdSaga_cons known with earlier | ⟨_, before, after, rfl⟩
      · exact Or.inl ⟨thread, listed, earlier, fun row member => List.mem_append_left _ member⟩
      · exact Or.inr ⟨rfl, rfl, created_status admitted⟩
    · exact Or.inl ⟨other, found, known, fun row member => member⟩
  constructor
  · intro position other saga found known
    rcases created found known with ⟨old, found, known, _⟩ | ⟨_, _, _, now⟩
    · exact (statusChange admitted saga.id).persists (owned.stored position old saga found known)
    · change (sagaStatus event.after saga.id).isSome
      rw [now]
      rfl
  · intro first second other other' saga saga' found found' known known' same
    rcases created found known with ⟨old, listed₁, known₁, _⟩ | ⟨first', _, fresh, _⟩
    · rcases created found' known' with ⟨old', listed₂, known₂, _⟩ | ⟨_, _, fresh, _⟩
      · exact owned.apart first second old old' saga saga' listed₁ listed₂ known₁ known₂ same
      · have stored := owned.stored first old saga listed₁ known₁
        rw [same] at stored
        change (sagaStatus event.before saga'.id).isSome at stored
        rw [fresh] at stored
        cases stored
    · rcases created found' known' with ⟨old', listed₂, known₂, _⟩ | ⟨second', _, _, _⟩
      · have stored := owned.stored second old' saga' listed₂ known₂
        rw [← same] at stored
        change (sagaStatus event.before saga.id).isSome at stored
        rw [fresh] at stored
        cases stored
      · rw [first', second']
  · intro position other saga found known completed
    rcases created found known with ⟨old, found', known', kept⟩ | ⟨rfl, rfl, _, now⟩
    · have stored := owned.stored position old saga found' known'
      cases statusChange admitted saga.id with
      | unchanged same =>
          rcases owned.completed position old saga found' known' (same.symm.trans completed) with
            ⟨row, member, status⟩
          exact ⟨row, kept row member, status⟩
      | inserted row call named fresh now =>
          change (sagaStatus event.before saga.id).isSome at stored
          rw [fresh] at stored
          cases stored
      | updated row call named present now =>
          have status : row.status = .completed := Option.some.inj (now.symm.trans completed)
          rcases Keeping.completes conduct call status with ⟨own, owns, same⟩
          have here : index = position :=
            owned.apart index position thread old own saga listed found' owns known' (same.trans named)
          subst here
          rcases System.getElem?_set_cases listed found with ⟨_, rfl⟩ | ⟨impossible, _⟩
          · refine ⟨row, ?_, status⟩
            rcases event with ⟨_, reply, before, after⟩
            cases call
            refine List.mem_append_right _ ?_
            cases reply <;> exact List.mem_singleton_self row
          · exact absurd rfl impossible
    · have pending : saga.status = .pending := created_pending conduct known
      have status : saga.status = .completed := Option.some.inj (now.symm.trans completed)
      rw [pending] at status
      cases status

/-- Created rows belong to one run each, in every reachable configuration. -/
theorem reaches_owned {Legal : Running → Process.Move Task Choice → Prop} {world : World}
    {config : Running} (reached : (orderly platform).Reaches Legal { shared := world } config) :
    Owned config := by
  refine reached.induct ?_ ?_
  · constructor <;> intros <;> contradiction
  · intro config move next earlier _ stepped owned
    cases move with
    | advance index choice =>
        cases stepped with
        | idle => exact owned
        | answered index choice thread call resume listed pending live =>
            have keeping := reaches_keeping earlier thread (List.mem_of_getElem? listed)
            have conduct := Keeping.conduct (keeping.answered pending config.shared choice).2
            exact owned.answered listed rfl ⟨choice, rfl⟩ conduct
    | start task =>
        rcases stepped.logs (fun _ _ same => by cases same) with ⟨shared, logs⟩
        exact owned.of_logs shared logs
    | stop index =>
        rcases stepped.logs (fun _ _ same => by cases same) with ⟨shared, logs⟩
        exact owned.of_logs shared logs

end Ownership

end Orderly
