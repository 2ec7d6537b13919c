import Orderly.Fulfilment.SagaRows

/-!
# Sagas that nobody takes up again

A stopped process leaves its saga in the status that was written last.  A job
that is tried again runs a new saga, and an admin's request turns away every saga
that is not RUNNING.  So an abandoned saga that is PENDING or COMPENSATING stays so,
as does one that has ended.
-/

namespace Orderly

open Process (Program System)

/-- The request has read a RUNNING saga. -/
def ReadsRunning (id : Uuid) (log : CallLog) : Prop :=
  ∃ saga before after, (⟨.findSagaById id, .ok (some saga), before, after⟩ : CallEvent) ∈ log ∧ saga.status = .running

/-- An admin's request writes saga rows only after that. -/
def WritesRead (task : Task) (log : CallLog) (call : Call) : Prop :=
  ∀ id, task = .compensateSaga id → call.area = .sagas → ReadsRunning id log

section Contracts

variable {platform : Platform} {log : CallLog}

theorem compensateSaga_reads (platform : Platform) (id : Uuid) :
    (AdminSagas.compensateSaga platform id).Meets (orderly platform).Admits
      (fun log call => call.area = .sagas → ReadsRunning id log) (fun _ _ => True) (fun _ _ => True) [] := by
  unfold AdminSagas.compensateSaga
  refine Program.Meets.call_bind (fun area => by cases area) (fun _ _ _ _ => trivial) ?_
  intro (found : Option SagaInstance) before after _
  rcases found with _ | saga
  · trivial
  simp only
  split
  · trivial
  next running =>
    have reads : ReadsRunning id [(⟨.findSagaById id, .ok (some saga), before, after⟩ : CallEvent)] :=
      ⟨saga, before, after, List.mem_singleton_self _, Classical.not_not.mp running⟩
    have kept : ∀ (log : CallLog) (event : CallEvent), True → (orderly platform).Admits log event → ReadsRunning id log →
        ReadsRunning id (event :: log) := by
      rintro log event _ _ ⟨saga, before, after, member, running⟩
      exact ⟨saga, before, after, List.mem_cons_of_mem _ member, running⟩
    refine Program.Meets.widen (fun _ _ allowed _ => allowed.2)
      ((Program.Meets.guarding (Program.Meets.anything _ _) reads kept).weaken ?_ ?_)
    · exact fun _ _ _ => trivial
    · exact fun _ _ _ => trivial

theorem task_reads (task : Task) :
    (task.program platform).Meets (orderly platform).Admits (WritesRead task) (fun _ _ => True) (fun _ _ => True) [] := by
  have others : (∀ id, task ≠ .compensateSaga id) → (task.program platform).Meets (orderly platform).Admits
      (WritesRead task) (fun _ _ => True) (fun _ _ => True) [] :=
    fun other => Program.Meets.widen (fun _ _ _ id same => absurd same (other id)) (Program.Meets.anything _ _)
  cases task with
  | startSaga context => exact others fun _ same => by cases same
  | sagaJob job => exact others fun _ same => by cases same
  | compensateSaga id =>
      refine Program.Meets.bind (Program.Meets.widen ?_ (compensateSaga_reads platform id)) fun _ _ _ => trivial
      intro log call reads other same
      cases same
      exact reads

end Contracts

/-! ## All runs -/

/-- The saga is as it was left, and no routine knows otherwise. -/
structure Abandoned (id : Uuid) (status : SagaStatus) (config : Running) : Prop where
  kept : sagaStatus config.shared id = some status
  read : ∀ thread ∈ config.threads, ∀ saga before after,
    (⟨.findSagaById id, .ok (some saga), before, after⟩ : CallEvent) ∈ thread.log → saga.status = status
  apart : ∀ thread ∈ config.threads, ∀ saga ∈ (footprint thread.log).created, saga.id ≠ id

section Runs

variable {platform : Platform} {Legal : Running → Process.Move Task Choice → Prop} {start : World} {config next : Running}
  {id : Uuid} {status : SagaStatus}

theorem Abandoned.unmoved (abandoned : Abandoned id status config) (unmoved : System.Unmoved config next) :
    Abandoned id status next where
  kept := by
    rw [unmoved.shared]
    exact abandoned.kept
  read thread member saga before after listed := by
    rcases unmoved.mem member with ⟨old, earlier, _, same⟩ | nothing
    · exact abandoned.read old earlier saga before after (same ▸ listed)
    · rw [nothing] at listed
      cases listed
  apart thread member saga created := by
    rcases unmoved.mem member with ⟨old, earlier, _, same⟩ | nothing
    · exact abandoned.apart old earlier saga (same ▸ created)
    · rw [nothing] at created
      cases created

/-- Who writes a saga row has created it, or has read it as RUNNING. -/
theorem update_known {thread : Routine} {event : CallEvent} {row : SagaInstance}
    (conduct : Conduct platform thread.task (footprint (event :: thread.log)))
    (reads : WritesRead thread.task thread.log event.call) (call : event.call = .updateSaga row) :
    (∃ saga ∈ (footprint thread.log).created, saga.id = row.id) ∨ ReadsRunning row.id thread.log := by
  rcases update_footprint call thread.log with ⟨calls, created, _⟩
  have listed : row ∈ (footprint (event :: thread.log)).updateCalls := by
    rw [calls]
    exact List.mem_append_right _ (List.mem_singleton_self _)
  have run : ∀ {context}, Fulfilling platform context (footprint (event :: thread.log)) →
      ∃ saga ∈ (footprint thread.log).created, saga.id = row.id := by
    intro context fulfilling
    rcases fulfilling_updates fulfilling with ⟨_, none⟩ | ⟨saga, _, own, updates⟩
    · rw [none] at listed
      cases listed
    · rw [← created, own]
      exact ⟨saga, List.mem_singleton_self _, (updates row listed).symm⟩
  rcases thread with ⟨task, code, log, stopped⟩
  cases task with
  | startSaga context => exact Or.inl (run conduct)
  | sagaJob job => exact Or.inl (run conduct)
  | compensateSaga id =>
      right
      rw [((handling_updates conduct).2 row listed).1]
      exact reads id rfl (by rw [call]; rfl)

theorem Abandoned.moved {index : Nat} {thread : Routine} {event : CallEvent} (rest : Service Outcome)
    (other : status ≠ .running) (abandoned : Abandoned id status config)
    (listed : config.threads[index]? = some thread) (start : event.before = config.shared)
    (admitted : (orderly platform).Admits [] event)
    (conduct : Conduct platform thread.task (footprint (event :: thread.log)))
    (reads : WritesRead thread.task thread.log event.call) :
    Abandoned id status { shared := event.after, threads := config.threads.set index (thread.answered event rest) } := by
  have member := List.mem_of_getElem? listed
  have before := abandoned.kept
  rw [← start] at before
  constructor
  · cases statusChange admitted id with
    | unchanged same => exact same.trans before
    | inserted row call named fresh now => cases fresh.symm.trans before
    | updated row call named present now =>
        exfalso
        rcases update_known conduct reads call with ⟨saga, created, same⟩ | ⟨saga, first, last, read, running⟩
        · exact abandoned.apart thread member saga created (same.trans named)
        · rw [named] at read
          exact other ((abandoned.read thread member saga first last read).symm.trans running)
  · intro answered among saga first last found
    rcases List.mem_or_eq_of_mem_set among with earlier | rfl
    · exact abandoned.read answered earlier saga first last found
    · rcases List.mem_cons.mp found with rfl | earlier
      · rcases admits_iff.mp admitted with ⟨choice, performed⟩
        rcases Option.map_eq_some_iff.mp (World.findSagaById_answered performed).1.symm with ⟨row, looked, same⟩
        replace before : sagaStatus first id = some status := before
        unfold sagaStatus at before
        rw [looked] at before
        rw [← same]
        exact Option.some.inj before
      · exact abandoned.read thread member saga first last earlier
  · intro answered among saga created
    rcases List.mem_or_eq_of_mem_set among with earlier | rfl
    · exact abandoned.apart answered earlier saga created
    · rcases List.mem_append.mp created with earlier | latest
      · exact abandoned.apart thread member saga earlier
      · rcases created_event latest with ⟨first, last, rfl⟩
        intro same
        have fresh := (created_status admitted).1
        rw [same] at fresh
        cases fresh.symm.trans before

/-- Whatever jobs and admin requests run, in whatever order and with whatever failures:
a saga that has been left in any status but RUNNING keeps it. -/
theorem abandoned_for_good (left : sagaStatus start id = some status) (other : status ≠ .running)
    (reached : (orderly platform).Reaches Legal { shared := start } config) :
    sagaStatus config.shared id = some status := by
  have abandoned : Abandoned id status config := by
    refine reached.moving ?_ ?_ ?_
    · refine ⟨left, ?_, ?_⟩
      all_goals
        intro thread member
        cases member
    · exact fun earlier next unmoved abandoned => abandoned.unmoved unmoved
    · intro earlier index choice thread call resume reached' _ listed pending abandoned
      have member := List.mem_of_getElem? listed
      have keeping := ((reaches_keeping reached' thread member).answered pending earlier.shared choice).2
      have reads := (reached'.contract (fun thread member => by cases member)
        (fun config task _ => task_reads task) thread member).answered pending earlier.shared choice
      exact abandoned.moved _ other listed rfl ⟨choice, rfl⟩ (Keeping.conduct keeping) reads.1
  exact abandoned.kept

/-- A saga whose compensation has been stopped behind its first write. -/
def abandonedShop : World := { chargedShop with db := chargedShop.db.updateSaga postgresJs chargedSaga.compensating }

/-- An admin asks for it to be compensated, and its job is tried again. -/
def takenUpRun : Running :=
  (orderly postgresJs).run { shared := abandonedShop }
    (.start (.compensateSaga 7) :: .advance 0 .serve :: .start (.sagaJob (orderOf 0 5)) ::
      List.replicate 36 (.advance 1 .serve))

theorem abandoned_compensating : sagaStatus takenUpRun.shared 7 = some .compensating := by
  have left : sagaStatus abandonedShop 7 = some .compensating := by decide
  exact abandoned_for_good left (fun same => by cases same) (System.run_reaches _ _)

end Runs

end Orderly
