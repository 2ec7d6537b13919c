import Orderly.Fulfilment.Fulfilling

/-!
# The conduct of every routine

Each task has its footprints, and in every reachable configuration each routine
keeps to those of its task, whatever the others do in between.
-/

namespace Orderly

open Process (Program System)

/-- The footprints of a task. -/
def Conduct (platform : Platform) : Task → Footprint → Prop
  | .startSaga context => Fulfilling platform context
  | .sagaJob job => Fulfilling platform job
  | .compensateSaga id => Handling platform id

/-- The footprints with which a task returns an outcome. -/
def Returned (platform : Platform) : Task → Outcome → Footprint → Prop
  | .startSaga context, .saga row => Fulfilled platform context row
  | .startSaga _, _ => fun _ => False
  | .sagaJob job, _ => fun done => ∃ row, Fulfilled platform job row done
  | .compensateSaga id, _ => Handling platform id

/-- The footprints with which a task throws. -/
def Thrown (platform : Platform) : Task → Footprint → Prop
  | .startSaga context => Interrupted platform context
  | .sagaJob job => Interrupted platform job
  | .compensateSaga id => Handling platform id

variable {platform : Platform}

theorem fulfilled_fulfilling {context : SagaContext} {row : SagaInstance} {done : Footprint}
    (fulfilled : Fulfilled platform context row done) : Fulfilling platform context done := by
  cases fulfilled with
  | completed new money same asked => exact .completing _ _ new money (List.prefix_refl _) asked
  | failed new called answered compensated asked =>
      rcases compensated with ⟨_, steps, undone, undoing, _, rfl⟩
      exact .compensating new called answered (.undoing rfl undoing) asked

theorem returned_conduct {task : Task} {outcome : Outcome} {done : Footprint}
    (returned : Returned platform task outcome done) : Conduct platform task done := by
  cases task with
  | startSaga context =>
      cases outcome with
      | saga row => exact fulfilled_fulfilling returned
      | jobCompleted => exact returned.elim
      | reply _ => exact returned.elim
  | sagaJob job =>
      rcases returned with ⟨row, fulfilled⟩
      exact fulfilled_fulfilling fulfilled
  | compensateSaga id => exact returned

theorem thrown_conduct {task : Task} {done : Footprint} (thrown : Thrown platform task done) :
    Conduct platform task done := by
  cases task with
  | startSaga context => exact thrown.1
  | sagaJob job => exact thrown.1
  | compensateSaga id => exact thrown

/-- The processor returns where the saga does, and throws what it throws. -/
theorem processSagaJob_follows (platform : Platform) (job : SagaContext) :
    Follows platform (fun _ => True) (Fulfilling platform job)
      (fun _ done => ∃ row, Fulfilled platform job row done) (Interrupted platform job)
      (processSagaJob platform job) [] := by
  refine Follows.tryCatch (Interrupted platform job) ?_ ?_
  · refine Follows.bind (startSaga_follows platform _ job) ?_
    intro row log fulfilled
    exact Follows.pure rfl ⟨row, fulfilled⟩
  · intro error log interrupted
    exact Follows.thrown rfl interrupted

/-- The contract of each task. -/
theorem task_follows (platform : Platform) (task : Task) :
    Follows platform (fun _ => True) (Conduct platform task) (Returned platform task)
      (Thrown platform task) (task.program platform) [] := by
  cases task with
  | startSaga context =>
      refine Follows.bind (startSaga_follows platform _ context) ?_
      intro row log fulfilled
      exact Follows.pure rfl fulfilled
  | sagaJob job =>
      refine Follows.bind (processSagaJob_follows platform job) ?_
      intro _ log fulfilled
      exact Follows.pure rfl fulfilled
  | compensateSaga id =>
      refine Follows.bind (compensateSaga_follows platform id) ?_
      intro reply log handling
      exact Follows.pure rfl handling

/-- A routine that keeps its contract. -/
abbrev Keeping (platform : Platform) (thread : Routine) : Prop :=
  (orderly platform).Keeps (fun task log _ => Conduct platform task (footprint log))
    (fun task outcome log => Returned platform task outcome (footprint log))
    (fun task _ log => Thrown platform task (footprint log)) thread

namespace Keeping

variable {thread : Routine}

/-- What a routine has done so far is among the footprints of its task. -/
theorem conduct (keeping : Keeping platform thread) :
    Conduct platform thread.task (footprint thread.log) := by
  have ahead := keeping.ahead
  cases code : thread.code with
  | done outcome =>
      rw [code] at ahead
      exact returned_conduct ahead
  | thrown error =>
      rw [code] at ahead
      exact thrown_conduct ahead
  | await call resume =>
      rw [code] at ahead
      exact ahead.1

end Keeping

/-- Every routine of a run keeps its contract. -/
theorem reaches_keeping {Legal : Running → Process.Move Task Choice → Prop} {world : World}
    {config : Running} (reached : (orderly platform).Reaches Legal { shared := world } config) :
    ∀ thread ∈ config.threads, Keeping platform thread := by
  refine reached.contract ?_ ?_
  · intro thread member
    cases member
  · intro config task _
    refine Program.Meets.narrow ?_ (task_follows platform task)
    exact fun log event admitted => ⟨admitted, trivial⟩

end Orderly
