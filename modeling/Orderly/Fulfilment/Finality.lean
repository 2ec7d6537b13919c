import Orderly.Fulfilment.OrderRows

/-!
# Terminal states

The guards of `saga.ts` look at a copy of the saga row, and `update` overwrites
the row whatever it says by then.  Where the guard also holds of the persisted
row, the persisted statuses follow the state machine of `saga.ts`, so COMPLETED
and FAILED are final.
-/

namespace Orderly

open Process (System Move)

/-- One saga run, and then any number of admin requests. -/
def oneRun (config : Running) : Move Task Choice → Bool
  | .start (.startSaga _) => config.threads.isEmpty
  | .start (.sagaJob _) => false
  | .start (.compensateSaga _) => !config.threads.isEmpty
  | _ => true

/-- Once persisted as COMPLETED or FAILED, a saga keeps its status, and after
FAILED its order is not set to PAID. -/
def TerminalIsFinal (Legal : Running → Move Task Choice → Prop) (platform : Platform) (world : World) :
    Prop :=
  ∀ first, (orderly platform).Reaches Legal { shared := world } first →
    ∀ thread ∈ first.threads, ∀ saga, createdSaga thread.log = some saga →
    ∀ status, status.Terminal → sagaStatus first.shared saga.id = some status →
    ∀ later, (orderly platform).Reaches Legal first later →
      sagaStatus later.shared saga.id = some status ∧
      (status = .failed → ∀ move, Legal later move → orderStatus later.shared saga.orderId ≠ some .paid →
        orderStatus ((orderly platform).step later move).shared saga.orderId ≠ some .paid)

/-- Where a routine is about to complete a saga, to compensate it or to confirm
its order, the persisted status is the RUNNING that the routine's own copy says. -/
def copiesCurrent (config : Running) : Move Task Choice → Bool
  | .advance index _ =>
      match config.threads[index]? with
      | some thread =>
          match thread.code with
          | .await (.updateSaga row) _ =>
              (row.status ≠ .completed ∧ row.status ≠ .compensating) ∨
                sagaStatus config.shared row.id = some .running
          | .await (.commit transaction) _ =>
              match transaction.outcome, createdSaga thread.log with
              | some (_, .paid), some saga => sagaStatus config.shared saga.id = some .running
              | _, _ => true
          | _ => true
      | none => true
  | _ => true

/-! ## The writes of a routine in their order -/

section Writes

variable {platform : Platform} {context : SagaContext} {row : SagaInstance} {done : Footprint}

/-- What the latest update of a routine can be, and what must have come before. -/
inductive LatestUpdate (done : Footprint) (row : SagaInstance) : Prop where
  | running (status : row.status = .running) (first : done.updateCalls.dropLast = [])
      (created : ∃ saga, done.created = [saga] ∧ saga.id = row.id)
  | completed (status : row.status = .completed)
  | compensating (status : row.status = .compensating)
  | failed (status : row.status = .failed) (earlier : SagaInstance) (answered : earlier ∈ done.updated)
      (same : earlier.id = row.id) (announced : earlier.status = .compensating)

theorem compensating_latest {saga : SagaInstance} (compensating : Compensating platform context saga done)
    (last : done.updateCalls.getLast? = some row) : LatestUpdate done row := by
  cases compensating with
  | entered => cases last
  | announcing =>
      cases last
      exact .compensating rfl
  | undoing _ undoing =>
      cases undoing with
      | failing now =>
          cases last
          exact .failed rfl saga.compensating (List.mem_append_left _ (List.mem_singleton_self _)) rfl rfl
      | refunding => cases last; exact .compensating rfl
      | releasing => cases last; exact .compensating rfl
      | cancelling => cases last; exact .compensating rfl

theorem fulfilling_latest (fulfilling : Fulfilling platform context done)
    (last : done.updateCalls.getLast? = some row) : LatestUpdate done row := by
  cases fulfilling with
  | idle => cases last
  | creating => cases last
  | created => cases last
  | starting => cases last; exact .running rfl rfl ⟨_, rfl, rfl⟩
  | reserving => cases last; exact .running rfl rfl ⟨_, rfl, rfl⟩
  | charging => cases last; exact .running rfl rfl ⟨_, rfl, rfl⟩
  | charged => cases last; exact .running rfl rfl ⟨_, rfl, rfl⟩
  | confirming => cases last; exact .running rfl rfl ⟨_, rfl, rfl⟩
  | completing => cases last; exact .completed rfl
  | @compensating saga _ _ _ compensated _ _ _ compensating =>
      change (saga.running :: compensated.updateCalls).getLast? = some row at last
      cases later : compensated.updateCalls with
      | nil =>
          rw [later] at last
          cases last
          have alone : ([saga.running] ++ compensated.updateCalls).dropLast = [] := by
            rw [later]
            rfl
          have created : [saga] ++ compensated.created = [saga] := by
            rw [(compensating_updates compensating).1]
            rfl
          exact .running rfl alone ⟨saga, created, rfl⟩
      | cons next rest =>
          have own : compensated.updateCalls.getLast? = some row := by
            rw [later] at last ⊢
            exact (List.getLast?_cons_cons.symm).trans last
          cases compensating_latest compensating own with
          | running status first created =>
              rcases created with ⟨other, created, _⟩
              rw [(compensating_updates compensating).1] at created
              cases created
          | completed status => exact .completed status
          | compensating status => exact .compensating status
          | failed status earlier answered same announced =>
              exact .failed status earlier (List.mem_append_right _ answered) same announced

/-- The latest update of any routine. -/
theorem conduct_latest {task : Task} (conduct : Conduct platform task done)
    (last : done.updateCalls.getLast? = some row) : LatestUpdate done row := by
  cases task with
  | startSaga context => exact fulfilling_latest conduct last
  | sagaJob job => exact fulfilling_latest conduct last
  | compensateSaga id =>
      cases conduct with
      | asked => cases last
      | handling found compensating => exact compensating_latest compensating last

end Writes

/-! ## The persisted state machine -/

/-- The transitions of `saga.ts`, and the second terminal write of two
compensations that overlap. -/
inductive Advances : SagaStatus → SagaStatus → Prop where
  | started : Advances .pending .running
  | completed : Advances .running .completed
  | compensating : Advances .running .compensating
  | failed : Advances .compensating .failed
  | failedAgain : Advances .failed .failed

theorem Advances.terminal {old new : SagaStatus} (advances : Advances old new) (terminal : old.Terminal) :
    new = old := by
  cases advances with
  | started => rcases terminal with impossible | impossible <;> cases impossible
  | completed => rcases terminal with impossible | impossible <;> cases impossible
  | compensating => rcases terminal with impossible | impossible <;> cases impossible
  | failed => rcases terminal with impossible | impossible <;> cases impossible
  | failedAgain => rfl

/-- What the routines know about the rows they have written. -/
structure Current (config : Running) : Prop where
  compensating : ∀ (index : Nat) (thread : Routine) row, config.threads[index]? = some thread →
    row ∈ (footprint thread.log).updated → row.status = .compensating →
    sagaStatus config.shared row.id = some .compensating ∨ sagaStatus config.shared row.id = some .failed
  pending : ∀ (index : Nat) (thread : Routine) saga, config.threads[index]? = some thread →
    createdSaga thread.log = some saga → (footprint thread.log).updateCalls = [] →
    sagaStatus config.shared saga.id = some .pending

section Machine

variable {platform : Platform} {config : Running} {index : Nat} {choice : Choice} {thread : Routine}
  {event : CallEvent} {rest : Service Outcome}

/-- An answered update leaves the row it has sent, wherever there is a row. -/
theorem updated_status {row : SagaInstance} {before after : World}
    (admitted : (orderly platform).Admits [] ⟨.updateSaga row, .ok (), before, after⟩) :
    sagaStatus after row.id = (sagaStatus before row.id).map fun _ => row.status := by
  rcases admits_iff.mp admitted with ⟨choice, performed⟩
  rcases World.updateSaga_answered performed with ⟨_, refused⟩ | update
  · exact absurd rfl refused
  · have status := sagaStatus_update update row.id
    rwa [if_pos rfl] at status

/-- Only an answered update leaves an updated row. -/
theorem updated_event {row : SagaInstance} (member : row ∈ (eventFootprint event).updated) :
    ∃ before after, event = ⟨.updateSaga row, .ok (), before, after⟩ := by
  rcases event with ⟨call, reply, before, after⟩
  cases call with
  | updateSaga saga =>
      cases reply with
      | ok value =>
          cases List.mem_singleton.mp member
          exact ⟨before, after, rfl⟩
      | error error => cases member
  | reserve sku quantity => rcases reply with error | (_ | _) <;> cases member
  | release sku quantity => rcases reply with error | (_ | _) <;> cases member
  | _ =>
      exfalso
      revert member
      cases reply <;> simp only [eventFootprint, setbackOf] <;> (repeat' split) <;> simp

/-- An update whose guard also holds of the persisted row is a transition of the
machine, and one to RUNNING is the first update of the row's own run. -/
theorem Current.advances (current : Current config) (listed : config.threads[index]? = some thread)
    {row : SagaInstance} (call : event.call = .updateSaga row)
    (guarded : row.status = .completed ∨ row.status = .compensating →
      sagaStatus config.shared row.id = some .running)
    (conduct : Conduct platform thread.task (footprint (event :: thread.log))) {old : SagaStatus}
    (present : sagaStatus config.shared row.id = some old) :
    Advances old row.status ∧ (row.status = .running →
      ∃ saga, createdSaga thread.log = some saga ∧ saga.id = row.id ∧
        (footprint thread.log).updateCalls = []) := by
  rcases update_footprint call thread.log with ⟨calls, creations, updates⟩
  have last : (footprint (event :: thread.log)).updateCalls.getLast? = some row := by
    rw [calls]
    exact List.getLast?_concat
  cases conduct_latest conduct last with
  | running status first created =>
      rw [calls, List.dropLast_concat] at first
      rcases created with ⟨saga, created, same⟩
      rw [creations] at created
      have owns : createdSaga thread.log = some saga := by
        unfold createdSaga
        rw [created]
        rfl
      have waiting := current.pending index thread saga listed owns first
      rw [same, present] at waiting
      cases waiting
      rw [status]
      exact ⟨.started, fun _ => ⟨saga, owns, same, first⟩⟩
  | completed status =>
      have now := guarded (Or.inl status)
      rw [present] at now
      cases now
      rw [status]
      exact ⟨.completed, fun impossible => by cases impossible⟩
  | compensating status =>
      have now := guarded (Or.inr status)
      rw [present] at now
      cases now
      rw [status]
      exact ⟨.compensating, fun impossible => by cases impossible⟩
  | failed status earlier answered same announced =>
      rw [status]
      refine ⟨?_, fun impossible => by cases impossible⟩
      rcases updates earlier answered with rfl | known
      · rw [status] at announced
        cases announced
      · rcases current.compensating index thread earlier listed known announced with now | now
        · rw [same, present] at now
          cases now
          exact .failed
        · rw [same, present] at now
          cases now
          exact .failedAgain

theorem Current.answered (current : Current config) (owned : Owned config)
    (listed : config.threads[index]? = some thread) (start : event.before = config.shared)
    (admitted : (orderly platform).Admits [] event)
    (conduct : Conduct platform thread.task (footprint (event :: thread.log)))
    (guarded : ∀ row, event.call = .updateSaga row → row.status = .completed ∨ row.status = .compensating →
      sagaStatus config.shared row.id = some .running) :
    Current { shared := event.after, threads := config.threads.set index (thread.answered event rest) } := by
  rcases config with ⟨shared, threads⟩
  subst start
  constructor
  · intro position other row found member announced
    have known : (∃ old : Routine, threads[position]? = some old ∧ row ∈ (footprint old.log).updated) ∨
        row ∈ (eventFootprint event).updated := by
      rcases System.getElem?_set_cases listed found with ⟨rfl, rfl⟩ | ⟨_, found⟩
      · rcases List.mem_append.mp member with earlier | new
        · exact Or.inl ⟨thread, listed, earlier⟩
        · exact Or.inr new
      · exact Or.inl ⟨other, found, member⟩
    rcases known with ⟨old, found, earlier⟩ | new
    · have status := current.compensating position old row found earlier announced
      cases statusChange admitted row.id with
      | unchanged same =>
          change sagaStatus event.after row.id = _ ∨ sagaStatus event.after row.id = _
          rw [same]
          exact status
      | inserted row' call named fresh now =>
          change sagaStatus event.before row.id = _ ∨ sagaStatus event.before row.id = _ at status
          rw [fresh] at status
          rcases status with impossible | impossible <;> cases impossible
      | updated row' call named present now =>
          have failed : row'.status = .failed := by
            rcases status with status | status
            · rw [← named] at status
              have advances := (current.advances listed call (guarded row' call) conduct status).1
              generalize row'.status = next at advances
              cases advances
              rfl
            · rw [← named] at status
              have advances := (current.advances listed call (guarded row' call) conduct status).1
              generalize row'.status = next at advances
              cases advances
              rfl
          rw [failed] at now
          exact Or.inr now
    · rcases updated_event new with ⟨before, after, rfl⟩
      have running := guarded row rfl (Or.inr announced)
      have status := updated_status admitted
      change sagaStatus before row.id = some .running at running
      rw [running, announced] at status
      exact Or.inl status
  · intro position other saga found created untouched
    have known : (∃ old : Routine, threads[position]? = some old ∧ createdSaga old.log = some saga ∧
          (footprint old.log).updateCalls = []) ∨
        sagaStatus event.after saga.id = some .pending := by
      rcases System.getElem?_set_cases listed found with ⟨rfl, rfl⟩ | ⟨_, found⟩
      · rcases createdSaga_cons created with earlier | ⟨_, before, after, rfl⟩
        · exact Or.inl ⟨thread, listed, earlier, (List.append_eq_nil_iff.mp untouched).1⟩
        · have status := (created_status admitted).2
          rw [created_pending conduct created] at status
          exact Or.inr status
      · exact Or.inl ⟨other, found, created, untouched⟩
    rcases known with ⟨old, found', created', untouched'⟩ | new
    · have status := current.pending position old saga found' created' untouched'
      cases statusChange admitted saga.id with
      | unchanged same => exact same.trans status
      | inserted row call named fresh now =>
          rw [fresh] at status
          cases status
      | updated row call named present now =>
          rw [← named] at status
          rcases current.advances listed call (guarded row call) conduct status with ⟨advances, first⟩
          have running : row.status = .running := by
            generalize row.status = next at advances
            cases advances
            rfl
          rcases first running with ⟨own, owns, same, _⟩
          have here : index = position :=
            owned.apart index position thread old own saga listed found' owns created' (same.trans named)
          subst here
          rcases System.getElem?_set_cases listed found with ⟨_, rfl⟩ | ⟨impossible, _⟩
          · have calls := (update_footprint call thread.log).1
            change (footprint (event :: thread.log)).updateCalls = [] at untouched
            rw [untouched] at calls
            exact absurd (congrArg List.length calls) (by simp)
          · exact absurd rfl impossible
    · exact new

theorem Current.of_logs {next : Running} (current : Current config) (shared : next.shared = config.shared)
    (logs : ∀ (position : Nat) (thread : Routine), next.threads[position]? = some thread →
      (∃ old : Routine, config.threads[position]? = some old ∧ old.log = thread.log) ∨ thread.log = []) :
    Current next := by
  constructor
  · intro position thread row found member announced
    rw [shared]
    rcases logs position thread found with ⟨old, listed, same⟩ | empty
    · exact current.compensating position old row listed (same ▸ member) announced
    · rw [empty] at member
      cases member
  · intro position thread saga found created untouched
    rw [shared]
    rcases logs position thread found with ⟨old, listed, same⟩ | empty
    · exact current.pending position old saga listed (same ▸ created) (same ▸ untouched)
    · rw [empty] at created
      cases created

end Machine

/-! ## Runs -/

section Runs

variable {platform : Platform} {world : World} {config : Running} {index : Nat} {choice : Choice}
  {thread : Routine}

/-- What `copiesCurrent` says about a pending update. -/
theorem copiesCurrent_update {row : SagaInstance}
    {resume : Except JsError (ports.Reply (.updateSaga row)) → Service Outcome}
    (guarded : copiesCurrent config (.advance index choice) = true)
    (listed : config.threads[index]? = some thread) (pending : thread.code = .await (.updateSaga row) resume)
    (guards : row.status = .completed ∨ row.status = .compensating) :
    sagaStatus config.shared row.id = some .running := by
  simp only [copiesCurrent, listed, pending, decide_eq_true_eq] at guarded
  rcases guarded with ⟨other, other'⟩ | running
  · rcases guards with status | status
    · exact absurd status other
    · exact absurd status other'
  · exact running

theorem reaches_current {Legal : Running → Move Task Choice → Prop}
    (guards : ∀ config move, Legal config move → copiesCurrent config move = true)
    (reached : (orderly platform).Reaches Legal { shared := world } config) : Current config := by
  refine reached.induct ?_ ?_
  · constructor <;> intros <;> contradiction
  · intro config move next earlier legal stepped current
    cases move with
    | advance index choice =>
        cases stepped with
        | idle => exact current
        | answered index choice thread call resume listed pending live =>
            have keeping := reaches_keeping earlier thread (List.mem_of_getElem? listed)
            have conduct := Keeping.conduct (keeping.answered pending config.shared choice).2
            refine current.answered (reaches_owned earlier) listed rfl ⟨choice, rfl⟩ conduct ?_
            rintro row rfl
            exact copiesCurrent_update (guards config _ legal) listed pending
    | start task =>
        rcases stepped.logs (fun _ _ same => by cases same) with ⟨shared, logs⟩
        exact current.of_logs shared logs
    | stop index =>
        rcases stepped.logs (fun _ _ same => by cases same) with ⟨shared, logs⟩
        exact current.of_logs shared logs

/-- One legal move leaves a terminal status alone. -/
theorem terminal_step {Legal : Running → Move Task Choice → Prop} {move : Move Task Choice} {next : Running}
    {id : Uuid} {status : SagaStatus}
    (guards : ∀ config move, Legal config move → copiesCurrent config move = true)
    (reached : (orderly platform).Reaches Legal { shared := world } config) (legal : Legal config move)
    (stepped : (orderly platform).Stepped config move next) (terminal : status.Terminal)
    (persisted : sagaStatus config.shared id = some status) : sagaStatus next.shared id = some status := by
  have current := reaches_current guards reached
  cases stepped with
  | idle => exact persisted
  | started task => exact persisted
  | stopped index => exact persisted
  | answered index choice thread call resume listed pending live =>
      have keeping := reaches_keeping reached thread (List.mem_of_getElem? listed)
      have conduct := Keeping.conduct (keeping.answered pending config.shared choice).2
      have change : StatusChange ((orderly platform).answer config.shared call choice) id :=
        statusChange ⟨choice, rfl⟩ id
      cases change with
      | unchanged same => exact same.trans persisted
      | inserted row call' named fresh now =>
          change sagaStatus config.shared id = none at fresh
          rw [persisted] at fresh
          cases fresh
      | updated row call' named present now =>
          cases call'
          subst named
          have advances := (current.advances listed rfl
            (copiesCurrent_update (guards config _ legal) listed pending) conduct persisted).1
          rw [advances.terminal terminal] at now
          exact now

/-- Only the first routine is a saga run. -/
theorem runs_first {Legal : Running → Move Task Choice → Prop}
    (single : ∀ config move, Legal config move → oneRun config move = true)
    (reached : (orderly platform).Reaches Legal { shared := world } config) :
    ∀ (index : Nat) (thread : Routine), config.threads[index]? = some thread →
      index = 0 ∨ ∃ id, thread.task = .compensateSaga id := by
  refine reached.induct ?_ ?_
  · intro index thread found
    cases found
  · intro config move next earlier legal stepped first
    have allowed := single config move legal
    cases stepped with
    | idle => exact first
    | started task =>
        intro index thread found
        rcases Nat.lt_or_ge index config.threads.length with inside | outside
        · rw [List.getElem?_append_left inside] at found
          exact first index thread found
        · rw [List.getElem?_append_right outside] at found
          rw [List.mem_singleton.mp (List.mem_of_getElem? found)]
          cases task with
          | startSaga context =>
              have bound := (List.getElem?_eq_some_iff.mp found).1
              rw [List.length_singleton, List.length_eq_zero_iff.mpr (List.isEmpty_iff.mp allowed)] at bound
              exact Or.inl (by omega)
          | sagaJob job => cases allowed
          | compensateSaga id => exact Or.inr ⟨id, rfl⟩
    | stopped index =>
        intro position thread found
        rw [List.getElem?_modify] at found
        cases old : config.threads[position]? with
        | none => simp [old] at found
        | some old' =>
            by_cases here : index = position
            · simp only [old, if_pos here, Option.map_eq_map, Option.map_some, Option.some.injEq] at found
              rw [← found]
              exact first position old' old
            · simp only [old, if_neg here, Option.map_eq_map, Option.map_some, Option.some.injEq] at found
              rw [← found]
              exact first position old' old
    | answered index choice thread call resume listed pending live =>
        intro position other found
        rcases System.getElem?_set_cases listed found with ⟨rfl, rfl⟩ | ⟨_, found⟩
        · exact first position thread listed
        · exact first position other found

/-- What the first routine has created it keeps. -/
theorem created_step {move : Move Task Choice} {next : Running} {saga : SagaInstance}
    (stepped : (orderly platform).Stepped config move next) (listed : config.threads[index]? = some thread)
    (created : createdSaga thread.log = some saga) :
    ∃ thread', next.threads[index]? = some thread' ∧ createdSaga thread'.log = some saga := by
  cases stepped with
  | idle => exact ⟨thread, listed, created⟩
  | started task =>
      have inside := (List.getElem?_eq_some_iff.mp listed).1
      exact ⟨thread, (List.getElem?_append_left inside).trans listed, created⟩
  | stopped position =>
      rw [List.getElem?_modify, listed]
      by_cases here : position = index
      · exact ⟨{ thread with stopped := true }, by simp [here], created⟩
      · exact ⟨thread, by simp [here], created⟩
  | answered position choice other call resume listed' pending live =>
      by_cases here : position = index
      · subst here
        rw [listed] at listed'
        cases listed'
        have inside := (List.getElem?_eq_some_iff.mp listed).1
        refine ⟨_, List.getElem?_set_self inside, ?_⟩
        change ((footprint thread.log).created ++ _).head? = some saga
        rw [List.head?_append]
        unfold createdSaga at created
        rw [created]
        rfl
      · exact ⟨thread, (List.getElem?_set_ne here).trans listed, created⟩

end Runs

/-- Terminal states are final in every run whose terminal-bound writes find the
persisted status their copy has. -/
theorem terminal_final (platform : Platform) (world : World) :
    TerminalIsFinal (fun config move => (oneRun config move && copiesCurrent config move) = true)
      platform world := by
  have single : ∀ config move, (oneRun config move && copiesCurrent config move) = true →
      oneRun config move = true := fun _ _ legal => (Bool.and_eq_true_iff.mp legal).1
  have guards : ∀ config move, (oneRun config move && copiesCurrent config move) = true →
      copiesCurrent config move = true := fun _ _ legal => (Bool.and_eq_true_iff.mp legal).2
  intro first reached thread member saga created status terminal persisted later further
  have own : ∃ thread, first.threads[0]? = some thread ∧ createdSaga thread.log = some saga := by
    rcases List.mem_iff_getElem?.mp member with ⟨index, listed⟩
    rcases runs_first single reached index thread listed with rfl | ⟨id, request⟩
    · exact ⟨thread, listed, created⟩
    · have conduct := (reaches_keeping reached thread member).conduct
      rw [request] at conduct
      unfold createdSaga at created
      rw [(handling_updates conduct).1] at created
      cases created
  have kept : sagaStatus later.shared saga.id = some status ∧
      ∃ thread, later.threads[0]? = some thread ∧ createdSaga thread.log = some saga := by
    refine further.induct ⟨persisted, own⟩ ?_
    rintro config move next earlier legal stepped ⟨persisted, thread, listed, created⟩
    exact ⟨terminal_step guards (reached.trans earlier) legal stepped terminal persisted,
      created_step stepped listed created⟩
  rcases kept with ⟨persisted, run, running, created⟩
  refine ⟨persisted, ?_⟩
  rintro rfl move legal unpaid paid
  have reached := reached.trans further
  have stepped := (orderly platform).step_stepped later move
  generalize (orderly platform).step later move = next at paid stepped
  cases stepped with
  | idle => exact unpaid paid
  | started task => exact unpaid paid
  | stopped index => exact unpaid paid
  | answered index choice thread call resume listed pending live =>
      have conduct := Keeping.conduct
        ((reaches_keeping reached thread (List.mem_of_getElem? listed)).answered pending later.shared choice).2
      have change : OrderChange platform ((orderly platform).answer later.shared call choice) saga.orderId :=
        orderChange ⟨choice, rfl⟩ conduct saga.orderId
      cases change with
      | unchanged same => exact unpaid (same.symm.trans paid)
      | committed context transaction set call' shape outcome takes present now =>
          cases call'
          have sets : set = .paid := Option.some.inj (now.symm.trans paid)
          subst sets
          rcases runs_first single reached index thread listed with rfl | ⟨id, request⟩
          · -- the only saga run, whose copy is RUNNING
            rw [running] at listed
            cases listed
            have guarded := guards later _ legal
            simp only [copiesCurrent, running, pending, outcome, created, decide_eq_true_eq] at guarded
            rw [persisted] at guarded
            cases guarded
          · change Conduct platform thread.task _ at conduct
            rw [request] at conduct
            rcases handling_commits conduct (commit_listed rfl thread.log) with ⟨context, eventId, rfl⟩
            have cancels : OrderStatus.cancelled = .paid := congrArg Prod.snd (Option.some.inj outcome)
            cases cancels

example : sagaStatus ((orderly postgresJs).run { shared := smallShop 5 }
    (.start (.startSaga (orderOf 0 5)) :: serve 0 36)).shared 100 = some .completed := by decide +kernel

/-- An admin request for a saga that has completed. -/
theorem terminal_final_completed :
    sagaStatus ((orderly postgresJs).run { shared := smallShop 5 }
      (.start (.startSaga (orderOf 0 5)) :: serve 0 36 ++ .start (.compensateSaga 100) :: serve 1 40)).shared 100 =
        some .completed := by
  have first : (orderly postgresJs).Reaches
      (fun config move => (oneRun config move && copiesCurrent config move) = true) { shared := smallShop 5 }
      ((orderly postgresJs).run { shared := smallShop 5 } (.start (.startSaga (orderOf 0 5)) :: serve 0 36)) :=
    System.reaches_run (by decide +kernel)
  have later : (orderly postgresJs).Reaches
      (fun config move => (oneRun config move && copiesCurrent config move) = true)
      ((orderly postgresJs).run { shared := smallShop 5 } (.start (.startSaga (orderOf 0 5)) :: serve 0 36))
      ((orderly postgresJs).run
        ((orderly postgresJs).run { shared := smallShop 5 } (.start (.startSaga (orderOf 0 5)) :: serve 0 36))
        (.start (.compensateSaga 100) :: serve 1 40)) :=
    System.reaches_run (by decide +kernel)
  have created : (((orderly postgresJs).run { shared := smallShop 5 }
      (.start (.startSaga (orderOf 0 5)) :: serve 0 36)).threads[0]?).any
        (fun thread => (createdSaga thread.log).any fun saga => saga.id = 100) = true := by
    decide +kernel
  rcases Option.any_eq_true _ _ |>.mp created with ⟨thread, listed, known⟩
  rcases Option.any_eq_true _ _ |>.mp known with ⟨saga, owns, named⟩
  have completed : sagaStatus ((orderly postgresJs).run { shared := smallShop 5 }
      (.start (.startSaga (orderOf 0 5)) :: serve 0 36)).shared saga.id = some .completed := by
    rw [of_decide_eq_true named]
    decide +kernel
  have kept := (terminal_final postgresJs (smallShop 5) _ first thread (List.mem_of_getElem? listed) saga owns
    .completed (Or.inl rfl) completed _ later).1
  rw [of_decide_eq_true named] at kept
  simpa only [System.run, List.foldl_append] using kept

/-- A request compensates the saga to its end while the run is about to commit.
The run then pays the order and completes the saga. -/
theorem terminal_overwritten : ¬ TerminalIsFinal (fun config move => oneRun config move = true)
    postgresJs (smallShop 5) := by
  intro claimed
  have first : (orderly postgresJs).Reaches (fun config move => oneRun config move = true)
      { shared := smallShop 5 }
      ((orderly postgresJs).run { shared := smallShop 5 }
        (.start (.startSaga (orderOf 0 5)) :: serve 0 29 ++ .start (.compensateSaga 100) :: serve 1 40)) :=
    System.reaches_run (by decide +kernel)
  have later : (orderly postgresJs).Reaches (fun config move => oneRun config move = true)
      ((orderly postgresJs).run { shared := smallShop 5 }
        (.start (.startSaga (orderOf 0 5)) :: serve 0 29 ++ .start (.compensateSaga 100) :: serve 1 40))
      ((orderly postgresJs).run
        ((orderly postgresJs).run { shared := smallShop 5 }
          (.start (.startSaga (orderOf 0 5)) :: serve 0 29 ++ .start (.compensateSaga 100) :: serve 1 40))
        (serve 0 7)) :=
    System.reaches_run (by decide +kernel)
  have created : (((orderly postgresJs).run { shared := smallShop 5 }
      (.start (.startSaga (orderOf 0 5)) :: serve 0 29 ++ .start (.compensateSaga 100) :: serve 1 40)).threads[0]?).any
        (fun thread => (createdSaga thread.log).any fun saga => saga.id = 100) = true := by
    decide +kernel
  rcases Option.any_eq_true _ _ |>.mp created with ⟨thread, listed, known⟩
  rcases Option.any_eq_true _ _ |>.mp known with ⟨saga, owns, named⟩
  have failed : sagaStatus ((orderly postgresJs).run { shared := smallShop 5 }
      (.start (.startSaga (orderOf 0 5)) :: serve 0 29 ++ .start (.compensateSaga 100) :: serve 1 40)).shared
        saga.id = some .failed := by
    rw [of_decide_eq_true named]
    decide +kernel
  have kept := (claimed _ first thread (List.mem_of_getElem? listed) saga owns
    .failed (Or.inr rfl) failed _ later).1
  rw [of_decide_eq_true named] at kept
  revert kept
  decide +kernel

end Orderly
