import Orderly.Process.Contract
import Mathlib.Algebra.BigOperators.Group.List.Basic
import Mathlib.Algebra.Order.Ring.Int

/-!
# Routines interleaved over one shared state

A system runs any number of routines against a shared state.  A schedule
starts a routine, lets one routine have its next call answered, or stops a
routine for good, in any order.  An answer and its effect on the shared state
are decided by `perform` from the state and one choice of the environment, so
a schedule together with its choices determines the run, and a run can be
evaluated.

`Reaches` adds a side condition on the schedule.  A condition on the state a
step starts from is a side condition too.  `Reaches.induct` is the invariant
rule, and `Reaches.contract` says that every routine keeps the contract its
program meets, whatever the others do in between.
-/

namespace Orderly
namespace Process

variable {S : Signature} {Err State Task Choice α : Type}

/-- A started routine: what was asked for, what is left to run, what it did. -/
structure Thread (S : Signature) (Err State Task α : Type) where
  task : Task
  code : Program S Err α
  log : Log S Err State := []
  stopped : Bool := false

structure Config (S : Signature) (Err State Task α : Type) where
  shared : State
  threads : List (Thread S Err State Task α) := []

/-- One scheduling decision. -/
inductive Move (Task Choice : Type) where
  | start (task : Task)
  | advance (index : Nat) (choice : Choice)
  | stop (index : Nat)

/-- What the tasks run, and how the shared state answers their calls. -/
structure System (S : Signature) (Err State Task Choice α : Type) where
  program : Task → Program S Err α
  perform : State → (call : S.Call) → Choice → Except Err (S.Reply call) × State

namespace Thread

/-- The routine after its pending call has been answered. -/
def answered (thread : Thread S Err State Task α) (event : Event S Err State)
    (rest : Program S Err α) : Thread S Err State Task α :=
  { thread with code := rest, log := event :: thread.log }

end Thread

namespace System

variable (system : System S Err State Task Choice α)

/-- Answer one call in a state. -/
def answer (shared : State) (call : S.Call) (choice : Choice) : Event S Err State :=
  ⟨call, (system.perform shared call choice).1, shared, (system.perform shared call choice).2⟩

/-- A move that names no routine able to take it leaves the configuration
unchanged. -/
def step (config : Config S Err State Task α) :
    Move Task Choice → Config S Err State Task α
  | .start task =>
      { config with threads := config.threads ++ [{ task, code := system.program task }] }
  | .stop index =>
      { config with threads := config.threads.modify index ({ · with stopped := true }) }
  | .advance index choice =>
      match config.threads[index]? with
      | some { task, code := .await call resume, log, stopped := false } =>
          let event := system.answer config.shared call choice
          { shared := event.after
            threads := config.threads.set index
              { task, code := resume (system.perform config.shared call choice).1
                log := event :: log } }
      | _ => config

/-- Follow a whole schedule. -/
def run (config : Config S Err State Task α) (moves : List (Move Task Choice)) :
    Config S Err State Task α :=
  moves.foldl system.step config

/-- Every move of a schedule is legal where it is taken. -/
def legitimate (Legal : Config S Err State Task α → Move Task Choice → Bool) :
    Config S Err State Task α → List (Move Task Choice) → Bool
  | _, [] => true
  | config, move :: moves => Legal config move && legitimate Legal (system.step config move) moves

/-- What one move can do. -/
inductive Stepped (config : Config S Err State Task α) :
    Move Task Choice → Config S Err State Task α → Prop where
  | idle (move : Move Task Choice) : Stepped config move config
  | started (task : Task) :
      Stepped config (.start task)
        { config with threads := config.threads ++ [{ task, code := system.program task }] }
  | stopped (index : Nat) :
      Stepped config (.stop index)
        { config with threads := config.threads.modify index ({ · with stopped := true }) }
  | answered (index : Nat) (choice : Choice) (thread : Thread S Err State Task α)
      (call : S.Call) (resume : Except Err (S.Reply call) → Program S Err α)
      (listed : config.threads[index]? = some thread)
      (pending : thread.code = .await call resume) (live : thread.stopped = false) :
      Stepped config (.advance index choice)
        { shared := (system.answer config.shared call choice).after
          threads := config.threads.set index
            (thread.answered (system.answer config.shared call choice)
              (resume (system.perform config.shared call choice).1)) }

theorem step_stepped (config : Config S Err State Task α) (move : Move Task Choice) :
    system.Stepped config move (system.step config move) := by
  cases move with
  | start task => exact .started task
  | stop index => exact .stopped index
  | advance index choice =>
      simp only [step]
      split
      · next task call resume log listed =>
          exact .answered index choice _ call resume listed rfl rfl
      · exact .idle _

/-- The configurations reached by schedules all of whose moves are legal. -/
inductive Reaches (Legal : Config S Err State Task α → Move Task Choice → Prop)
    (start : Config S Err State Task α) : Config S Err State Task α → Prop where
  | refl : Reaches Legal start start
  | step {config : Config S Err State Task α} (move : Move Task Choice) :
      Reaches Legal start config → Legal config move → Reaches Legal start (system.step config move)

variable {system} {Legal : Config S Err State Task α → Move Task Choice → Prop}
  {start config : Config S Err State Task α}

namespace Reaches

/-- An invariant of the initial configuration and of every legal move holds
in every reachable configuration. -/
@[elab_as_elim] theorem induct {Invariant : Config S Err State Task α → Prop}
    (reached : system.Reaches Legal start config) (initial : Invariant start)
    (preserved : ∀ config move next, system.Reaches Legal start config → Legal config move →
      system.Stepped config move next → Invariant config → Invariant next) :
    Invariant config := by
  induction reached with
  | refl => exact initial
  | step move earlier legal inductionHypothesis =>
      exact preserved _ move _ earlier legal (system.step_stepped _ move) inductionHypothesis

theorem trans {middle final : Config S Err State Task α}
    (first : system.Reaches Legal start middle) (second : system.Reaches Legal middle final) :
    system.Reaches Legal start final := by
  induction second with
  | refl => exact first
  | step move _ legal inductionHypothesis => exact .step move inductionHypothesis legal

/-- Fewer legal schedules reach fewer configurations. -/
theorem weaken {Wider : Config S Err State Task α → Move Task Choice → Prop}
    (wider : ∀ config move, Legal config move → Wider config move)
    (reached : system.Reaches Legal start config) : system.Reaches Wider start config := by
  induction reached with
  | refl => exact .refl
  | step move _ legal inductionHypothesis => exact .step move inductionHypothesis (wider _ _ legal)

end Reaches

/-- A legitimate schedule can be followed to its end. -/
theorem reaches_run {Legal : Config S Err State Task α → Move Task Choice → Bool}
    {config : Config S Err State Task α} {moves : List (Move Task Choice)}
    (legal : system.legitimate Legal config moves = true) :
    system.Reaches (fun config move => Legal config move = true) config (system.run config moves) := by
  induction moves generalizing config with
  | nil => exact .refl
  | cons move moves inductionHypothesis =>
      have parts := Bool.and_eq_true_iff.mp legal
      exact Reaches.trans (.step move .refl parts.1) (inductionHypothesis parts.2)

/-- Any schedule can be followed when every move is legal. -/
theorem run_reaches (config : Config S Err State Task α) (moves : List (Move Task Choice)) :
    system.Reaches (fun _ _ => True) config (system.run config moves) := by
  induction moves generalizing config with
  | nil => exact .refl
  | cons move moves inductionHypothesis =>
      exact Reaches.trans (.step move .refl trivial) (inductionHypothesis (system.step config move))

/-- Every answer a call can receive in some shared state: the log extensions
possible when other routines run in between. -/
def Admits (system : System S Err State Task Choice α) (_ : Log S Err State)
    (event : Event S Err State) : Prop :=
  ∃ choice, event = system.answer event.before event.call choice

theorem admits_iff {system : System S Err State Task Choice α} {log : Log S Err State} {call : S.Call}
    {reply : Except Err (S.Reply call)} {before after : State} :
    system.Admits log ⟨call, reply, before, after⟩ ↔
      ∃ choice, system.perform before call choice = (reply, after) := by
  constructor
  · rintro ⟨choice, same⟩
    injection same with _ replies _ afters
    exact ⟨choice, Prod.ext replies.symm afters.symm⟩
  · rintro ⟨choice, performed⟩
    refine ⟨choice, ?_⟩
    simp only [answer]
    rw [performed]

/-- A log all of whose calls were allowed when they were issued. -/
def Lawful (Admits : Log S Err State → Event S Err State → Prop)
    (Allowed : Log S Err State → S.Call → Prop) : Log S Err State → Prop
  | [] => True
  | event :: log => Allowed log event.call ∧ Admits log event ∧ Lawful Admits Allowed log

namespace Lawful

variable {Admits : Log S Err State → Event S Err State → Prop}
  {Allowed : Log S Err State → S.Call → Prop} {log : Log S Err State}

/-- Each event of a lawful log was admitted after the events before it. -/
theorem admitted (lawful : Lawful Admits Allowed log) {event : Event S Err State}
    (member : event ∈ log) : ∃ since earlier, log = since ++ event :: earlier ∧
      Allowed earlier event.call ∧ Admits earlier event := by
  induction log with
  | nil => cases member
  | cons head log inductionHypothesis =>
      rcases List.mem_cons.mp member with rfl | later
      · exact ⟨[], log, rfl, lawful.1, lawful.2.1⟩
      · rcases inductionHypothesis lawful.2.2 later with ⟨since, earlier, rfl, found⟩
        exact ⟨head :: since, earlier, rfl, found⟩

/-- The beginning of a lawful log is lawful. -/
theorem earlier {since : Log S Err State} (lawful : Lawful Admits Allowed (since ++ log)) : Lawful Admits Allowed log := by
  induction since with
  | nil => exact lawful
  | cons event since inductionHypothesis => exact inductionHypothesis lawful.2.2

/-- What every allowed call keeps holds of every lawful log. -/
theorem invariant {Invariant : Log S Err State → Prop} (lawful : Lawful Admits Allowed log) (initial : Invariant [])
    (preserved : ∀ log event, Allowed log event.call → Admits log event → Invariant log → Invariant (event :: log)) :
    Invariant log := by
  induction log with
  | nil => exact initial
  | cons event log inductionHypothesis =>
      rcases lawful with ⟨allowed, admitted, earlier⟩
      exact preserved log event allowed admitted (inductionHypothesis earlier)

end Lawful

/-- The contract of a routine that has got as far as its log says. -/
structure Keeps (system : System S Err State Task Choice α)
    (Allowed : Task → Log S Err State → S.Call → Prop)
    (Returns : Task → α → Log S Err State → Prop) (Throws : Task → Err → Log S Err State → Prop)
    (thread : Thread S Err State Task α) : Prop where
  ahead : thread.code.Meets system.Admits (Allowed thread.task) (Returns thread.task)
    (Throws thread.task) thread.log
  behind : Lawful system.Admits (Allowed thread.task) thread.log

variable {Allowed : Task → Log S Err State → S.Call → Prop}
  {Returns : Task → α → Log S Err State → Prop} {Throws : Task → Err → Log S Err State → Prop}

/-- The pending call of a routine is allowed, and its answer keeps the contract. -/
theorem Keeps.answered {thread : Thread S Err State Task α} {call : S.Call}
    {resume : Except Err (S.Reply call) → Program S Err α}
    (keeps : system.Keeps Allowed Returns Throws thread) (pending : thread.code = .await call resume)
    (shared : State) (choice : Choice) :
    Allowed thread.task thread.log call ∧
      system.Keeps Allowed Returns Throws
        (thread.answered (system.answer shared call choice) (resume (system.perform shared call choice).1)) := by
  have ahead := keeps.ahead
  rw [pending] at ahead
  refine ⟨ahead.1, ?_, ahead.1, ⟨choice, rfl⟩, keeps.behind⟩
  exact ahead.2 _ _ _ ⟨choice, rfl⟩

/-- What a contract asks for before each call and at both ends holds wherever a
routine stands. -/
theorem Keeps.standing {Holds : Task → Log S Err State → Prop} {thread : Thread S Err State Task α}
    (keeps : system.Keeps (fun task log _ => Holds task log) (fun task _ => Holds task) (fun task _ => Holds task)
      thread) : Holds thread.task thread.log := by
  have ahead := keeps.ahead
  cases code : thread.code with
  | done value =>
      rw [code] at ahead
      exact ahead
  | thrown error =>
      rw [code] at ahead
      exact ahead
  | await call resume =>
      rw [code] at ahead
      exact ahead.1

theorem mem_modify_stop {threads : List (Thread S Err State Task α)} {index : Nat}
    {thread : Thread S Err State Task α}
    (listed : thread ∈ threads.modify index ({ · with stopped := true })) :
    thread ∈ threads ∨ ∃ old ∈ threads, thread = { old with stopped := true } := by
  obtain ⟨position, found⟩ := List.mem_iff_getElem?.mp listed
  rw [List.getElem?_modify] at found
  cases old : threads[position]? with
  | none => simp [old] at found
  | some old' =>
      have member := List.mem_of_getElem? old
      by_cases same : index = position
      · simp only [old, if_pos same, Option.map_eq_map, Option.map_some, Option.some.injEq] at found
        exact Or.inr ⟨old', member, found.symm⟩
      · simp only [old, if_neg same, Option.map_eq_map, Option.map_some, Option.some.injEq] at found
        exact Or.inl (found ▸ member)

/-- A property of single routines that survives their own steps holds of every
routine in every reachable configuration. -/
theorem Reaches.eachThread {Property : Thread S Err State Task α → Prop}
    (reached : system.Reaches Legal start config)
    (initial : ∀ thread ∈ start.threads, Property thread)
    (started : ∀ config task, Legal config (.start task) →
      Property { task, code := system.program task })
    (stopped : ∀ thread, Property thread → Property { thread with stopped := true })
    (answered : ∀ config index choice (thread : Thread S Err State Task α) call resume,
      Legal config (.advance index choice) → thread ∈ config.threads → thread.code = .await call resume →
      Property thread →
      Property (thread.answered (system.answer config.shared call choice)
        (resume (system.perform config.shared call choice).1))) :
    ∀ thread ∈ config.threads, Property thread := by
  refine reached.induct initial ?_
  intro config move next _ legal stepped holds
  cases stepped with
  | idle => exact holds
  | started task =>
      intro thread listed
      rcases List.mem_append.mp listed with earlier | fresh
      · exact holds thread earlier
      · exact List.mem_singleton.mp fresh ▸ started config task legal
  | stopped index =>
      intro thread listed
      rcases mem_modify_stop listed with earlier | ⟨old, earlier, rfl⟩
      · exact holds thread earlier
      · exact stopped old (holds old earlier)
  | answered index choice thread call resume found pending live =>
      intro other listed
      rcases List.mem_or_eq_of_mem_set listed with earlier | rfl
      · exact holds other earlier
      · have member := List.mem_of_getElem? found
        exact answered config index choice thread call resume legal member pending (holds thread member)

/-- Routines keep the contracts their programs meet, under any interference. -/
theorem Reaches.contract (reached : system.Reaches Legal start config)
    (initial : ∀ thread ∈ start.threads, system.Keeps Allowed Returns Throws thread)
    (meets : ∀ config task, Legal config (.start task) →
      (system.program task).Meets system.Admits (Allowed task) (Returns task) (Throws task) []) :
    ∀ thread ∈ config.threads, system.Keeps Allowed Returns Throws thread := by
  refine reached.eachThread ?_ ?_ ?_ ?_
  · exact initial
  · exact fun config task legal => ⟨meets config task legal, trivial⟩
  · exact fun thread keeps => ⟨keeps.ahead, keeps.behind⟩
  · intro config index choice thread call resume _ _ pending keeps
    exact (keeps.answered pending config.shared choice).2

/-- An entry of a list with one entry replaced. -/
theorem getElem?_set_cases {X : Type} {items : List X} {index position : Nat} {old new item : X}
    (listed : items[index]? = some old) (found : (items.set index new)[position]? = some item) :
    (position = index ∧ item = new) ∨ (position ≠ index ∧ items[position]? = some item) := by
  have bound : index < items.length := (List.getElem?_eq_some_iff.mp listed).1
  by_cases same : index = position
  · subst same
    rw [List.getElem?_set_self bound] at found
    exact Or.inl ⟨rfl, (Option.some.inj found).symm⟩
  · rw [List.getElem?_set_ne same] at found
    exact Or.inr ⟨Ne.symm same, found⟩

/-- A routine's entry after some routine has been stopped. -/
theorem getElem?_stop {threads : List (Thread S Err State Task α)} {position : Nat}
    {thread : Thread S Err State Task α} (index : Nat) (found : threads[position]? = some thread) :
    (threads.modify index ({ · with stopped := true }))[position]? =
      some (if index = position then { thread with stopped := true } else thread) := by
  rw [List.getElem?_modify, found]
  rfl

/-- A routine's entry before some routine was stopped. -/
theorem getElem?_of_stop {threads : List (Thread S Err State Task α)} {index position : Nat}
    {thread : Thread S Err State Task α}
    (found : (threads.modify index ({ · with stopped := true }))[position]? = some thread) :
    ∃ old, threads[position]? = some old ∧ (thread = old ∨ thread = { old with stopped := true }) := by
  cases earlier : threads[position]? with
  | none =>
      rw [List.getElem?_modify, earlier] at found
      cases found
  | some old =>
      rw [getElem?_stop index earlier] at found
      refine ⟨old, rfl, ?_⟩
      cases found
      split
      · exact Or.inr rfl
      · exact Or.inl rfl

/-- The routine that moves stays at its place, and the others stay as they are. -/
theorem getElem?_moved {threads : List (Thread S Err State Task α)} {index position : Nat}
    {thread old : Thread S Err State Task α} (event : Event S Err State) (rest : Program S Err α)
    (listed : threads[index]? = some thread) (found : threads[position]? = some old) :
    ∃ later, (threads.set index (thread.answered event rest))[position]? = some later ∧ later.task = old.task ∧
      old.log <:+ later.log := by
  by_cases same : index = position
  · subst same
    cases listed.symm.trans found
    have bound : index < threads.length := (List.getElem?_eq_some_iff.mp found).1
    exact ⟨_, List.getElem?_set_self bound, rfl, List.suffix_cons _ _⟩
  · refine ⟨old, ?_, rfl, List.suffix_refl _⟩
    rw [List.getElem?_set_ne same, found]

/-- A routine stays at its place and its log loses no event. -/
theorem Stepped.kept {system : System S Err State Task Choice α} {config : Config S Err State Task α}
    {move : Move Task Choice} {next : Config S Err State Task α} (stepped : system.Stepped config move next)
    {position : Nat} {thread : Thread S Err State Task α} (found : config.threads[position]? = some thread) :
    ∃ later, next.threads[position]? = some later ∧ later.task = thread.task ∧ thread.log <:+ later.log := by
  cases stepped with
  | idle => exact ⟨thread, found, rfl, List.suffix_refl _⟩
  | started task =>
      have bound : position < config.threads.length := (List.getElem?_eq_some_iff.mp found).1
      exact ⟨thread, (List.getElem?_append_left bound).trans found, rfl, List.suffix_refl _⟩
  | stopped index =>
      refine ⟨_, getElem?_stop index found, ?_⟩
      split
      · exact ⟨rfl, List.suffix_refl _⟩
      · exact ⟨rfl, List.suffix_refl _⟩
  | answered index choice current call resume listed pending live => exact getElem?_moved _ _ listed found

theorem Reaches.kept (reached : system.Reaches Legal start config) {position : Nat}
    {thread : Thread S Err State Task α} (found : start.threads[position]? = some thread) :
    ∃ later, config.threads[position]? = some later ∧ later.task = thread.task ∧ thread.log <:+ later.log := by
  induction reached with
  | refl => exact ⟨thread, found, rfl, List.suffix_refl _⟩
  | step move _ _ inductionHypothesis =>
      rcases inductionHypothesis with ⟨middle, listed, task, grown⟩
      rcases (system.step_stepped _ move).kept listed with ⟨later, listed', task', grown'⟩
      exact ⟨later, listed', task'.trans task, grown.trans grown'⟩

/-- No routine is dropped and no log loses an event. -/
theorem Stepped.logs_grow {system : System S Err State Task Choice α} {config : Config S Err State Task α}
    {move : Move Task Choice} {next : Config S Err State Task α} (stepped : system.Stepped config move next) :
    ∀ thread ∈ config.threads, ∃ later ∈ next.threads, thread.log <:+ later.log := by
  intro thread member
  rcases List.mem_iff_getElem?.mp member with ⟨position, found⟩
  rcases stepped.kept found with ⟨later, listed, _, grown⟩
  exact ⟨later, List.mem_of_getElem? listed, grown⟩

/-- Every routine has done what a routine of the same task at its place had done
before, or nothing at all, and the shared state is the same. -/
structure Unmoved (config next : Config S Err State Task α) : Prop where
  shared : next.shared = config.shared
  threads : ∀ (position : Nat) (thread : Thread S Err State Task α), next.threads[position]? = some thread →
    (∃ old, config.threads[position]? = some old ∧ old.task = thread.task ∧ old.log = thread.log) ∨ thread.log = []
  kept : ∀ (position : Nat) (thread : Thread S Err State Task α), config.threads[position]? = some thread →
    ∃ later, next.threads[position]? = some later ∧ later.task = thread.task ∧ later.log = thread.log

/-- The same of a routine wherever it stands. -/
theorem Unmoved.mem {config next : Config S Err State Task α} (unmoved : Unmoved config next)
    {thread : Thread S Err State Task α} (member : thread ∈ next.threads) :
    (∃ old ∈ config.threads, old.task = thread.task ∧ old.log = thread.log) ∨ thread.log = [] := by
  rcases List.mem_iff_getElem?.mp member with ⟨position, found⟩
  rcases unmoved.threads position thread found with ⟨old, earlier, task, same⟩ | nothing
  · exact Or.inl ⟨old, List.mem_of_getElem? earlier, task, same⟩
  · exact Or.inr nothing

theorem Unmoved.refl (config : Config S Err State Task α) : Unmoved config config :=
  ⟨rfl, fun _ thread found => Or.inl ⟨thread, found, rfl, rfl⟩, fun _ thread found => ⟨thread, found, rfl, rfl⟩⟩

/-- Only an answer moves a routine. -/
theorem Stepped.unmoved {system : System S Err State Task Choice α} {config : Config S Err State Task α}
    {move : Move Task Choice} {next : Config S Err State Task α} (stepped : system.Stepped config move next)
    (other : ∀ index choice, move ≠ .advance index choice) : Unmoved config next := by
  cases stepped with
  | idle => exact .refl config
  | started task =>
      refine ⟨rfl, fun position thread found => ?_, fun position thread found => ?_⟩
      · rcases Nat.lt_or_ge position config.threads.length with inside | outside
        · rw [List.getElem?_append_left inside] at found
          exact Or.inl ⟨thread, found, rfl, rfl⟩
        · rw [List.getElem?_append_right outside] at found
          rw [List.mem_singleton.mp (List.mem_of_getElem? found)]
          exact Or.inr rfl
      · have bound : position < config.threads.length := (List.getElem?_eq_some_iff.mp found).1
        exact ⟨thread, (List.getElem?_append_left bound).trans found, rfl, rfl⟩
  | stopped index =>
      refine ⟨rfl, fun position thread found => ?_, fun position thread found => ?_⟩
      · rcases getElem?_of_stop found with ⟨old, earlier, rfl | rfl⟩
        · exact Or.inl ⟨_, earlier, rfl, rfl⟩
        · exact Or.inl ⟨old, earlier, rfl, rfl⟩
      · refine ⟨_, getElem?_stop index found, ?_⟩
        split
        · exact ⟨rfl, rfl⟩
        · exact ⟨rfl, rfl⟩
  | answered index choice => exact absurd rfl (other index choice)

/-- A routine of a configuration after a start or a stop has an earlier log, or
none yet. -/
theorem Stepped.logs {system : System S Err State Task Choice α} {config : Config S Err State Task α}
    {move : Move Task Choice} {next : Config S Err State Task α} (stepped : system.Stepped config move next)
    (other : ∀ index choice, move ≠ .advance index choice) :
    next.shared = config.shared ∧ ∀ (position : Nat) (thread : Thread S Err State Task α),
      next.threads[position]? = some thread →
      (∃ old, config.threads[position]? = some old ∧ old.log = thread.log) ∨ thread.log = [] := by
  have unmoved := stepped.unmoved other
  refine ⟨unmoved.shared, fun position thread found => ?_⟩
  rcases unmoved.threads position thread found with ⟨old, earlier, _, same⟩ | nothing
  · exact Or.inl ⟨old, earlier, same⟩
  · exact Or.inr nothing

/-- An invariant of the shared state and of what each routine has done needs only
one step for a routine that moves. -/
theorem Reaches.moving {Invariant : Config S Err State Task α → Prop}
    (reached : system.Reaches Legal start config) (initial : Invariant start)
    (unmoved : ∀ config next, Unmoved config next → Invariant config → Invariant next)
    (moved : ∀ config index choice (thread : Thread S Err State Task α) (call : S.Call)
      (resume : Except Err (S.Reply call) → Program S Err α), system.Reaches Legal start config →
      Legal config (.advance index choice) → config.threads[index]? = some thread →
      thread.code = .await call resume → Invariant config →
      Invariant
        { shared := (system.answer config.shared call choice).after
          threads := config.threads.set index
            (thread.answered (system.answer config.shared call choice)
              (resume (system.perform config.shared call choice).1)) }) :
    Invariant config := by
  refine reached.induct initial ?_
  intro config move next earlier legal stepped holds
  cases move with
  | start task => exact unmoved config next (stepped.unmoved (fun _ _ same => by cases same)) holds
  | stop index => exact unmoved config next (stepped.unmoved (fun _ _ same => by cases same)) holds
  | advance index choice =>
      cases stepped with
      | idle => exact holds
      | answered index choice thread call resume listed pending live =>
          exact moved config index choice thread call resume earlier legal listed pending holds

end System

/-! ## Sums over the running routines -/

/-- Replacing one entry changes a sum by the difference of the two entries. -/
theorem sum_map_set {X : Type} (items : List X) (index : Nat) (old new : X) (value : X → Int)
    (found : items[index]? = some old) :
    ((items.set index new).map value).sum = (items.map value).sum + (value new - value old) := by
  obtain ⟨bound, rfl⟩ := List.getElem?_eq_some_iff.mp found
  rw [List.map_set, List.sum_set', dif_pos (by simpa using bound), List.getElem_map]
  omega

end Process
end Orderly
