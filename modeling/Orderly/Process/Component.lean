import Orderly.Process.Embedding

/-!
# A component of a larger system

What a component sees of a system is a configuration of its own: the part of
the shared state that is its own, and of each log the events that it sees.  The
others then act on that state between its steps.  An invariant of the component
that survives them holds in the larger system.
-/

namespace Orderly
namespace Process

variable {S T : Signature} {Err Narrow Wide Task Task' Choice α β : Type}

/-- What a component sees of a routine.  The code is not its own. -/
def Thread.seen (view : View S T Err Narrow Wide) (task : Task → Task') (idle : Program S Err β)
    (thread : Thread T Err Wide Task α) : Thread S Err Narrow Task' β where
  task := task thread.task
  code := idle
  log := thread.log.filterMap view
  stopped := thread.stopped

/-- What a component sees of a configuration. -/
def Config.seen (part : Wide → Narrow) (view : View S T Err Narrow Wide) (task : Task → Task') (idle : Program S Err β)
    (config : Config T Err Wide Task α) : Config S Err Narrow Task' β where
  shared := part config.shared
  threads := config.threads.map (Thread.seen view task idle)

namespace System

variable {part : Wide → Narrow} {view : View S T Err Narrow Wide} {task : Task → Task'} {idle : Program S Err β}

theorem getElem?_seen {config : Config T Err Wide Task α} {index : Nat} {thread : Thread T Err Wide Task α}
    (listed : config.threads[index]? = some thread) :
    (config.seen part view task idle).threads[index]? = some (thread.seen view task idle) := by
  simp only [Config.seen, List.getElem?_map, listed, Option.map_some]

/-- What no routine has moved is not moved in the component. -/
theorem Unmoved.seen {config next : Config T Err Wide Task α} (unmoved : Unmoved config next) :
    Unmoved (config.seen part view task idle) (next.seen part view task idle) := by
  refine ⟨congrArg part unmoved.shared, fun position thread found => ?_, fun position thread found => ?_⟩
  · simp only [Config.seen, List.getElem?_map, Option.map_eq_some_iff] at found
    rcases found with ⟨wide, listed, rfl⟩
    rcases unmoved.threads position wide listed with ⟨old, earlier, same, log⟩ | nothing
    · left
      refine ⟨old.seen view task idle, getElem?_seen earlier, ?_, ?_⟩
      · exact congrArg task same
      · exact congrArg (List.filterMap view) log
    · right
      simp only [Thread.seen, nothing, List.filterMap_nil]
  · simp only [Config.seen, List.getElem?_map, Option.map_eq_some_iff] at found
    rcases found with ⟨wide, listed, rfl⟩
    rcases unmoved.kept position wide listed with ⟨later, there, same, log⟩
    refine ⟨later.seen view task idle, getElem?_seen there, ?_, ?_⟩
    · exact congrArg task same
    · exact congrArg (List.filterMap view) log

/-- A step that the component sees is a step of the component. -/
theorem seen_moved {config : Config T Err Wide Task α} {index : Nat} {thread : Thread T Err Wide Task α}
    {event : Event T Err Wide} {own : Event S Err Narrow} (rest : Program T Err α) (viewed : view event = some own) :
    Config.seen part view task idle
        { shared := event.after, threads := config.threads.set index (thread.answered event rest) } =
      { shared := part event.after
        threads := (config.seen part view task idle).threads.set index
          ((thread.seen view task idle).answered own idle) } := by
  simp only [Config.seen, List.map_set, Thread.seen, Thread.answered, List.filterMap_cons_some viewed]

/-- Any other step changes at most the component's part of the state. -/
theorem seen_aside {config : Config T Err Wide Task α} {index : Nat} {thread : Thread T Err Wide Task α}
    {event : Event T Err Wide} (rest : Program T Err α) (listed : config.threads[index]? = some thread)
    (unseen : view event = none) :
    Config.seen part view task idle
        { shared := event.after, threads := config.threads.set index (thread.answered event rest) } =
      { shared := part event.after, threads := (config.seen part view task idle).threads } := by
  have same : (thread.answered event rest).seen view task idle = thread.seen view task idle := by
    simp only [Thread.seen, Thread.answered, List.filterMap_cons_none unseen]
  have kept : (config.seen part view task idle).threads.set index (thread.seen view task idle) =
      (config.seen part view task idle).threads := by
    rcases List.getElem?_eq_some_iff.mp (getElem?_seen listed) with ⟨bound, found⟩
    exact (congrArg (List.set _ index) found.symm).trans (List.set_getElem_self bound)
  simp only [Config.seen, List.map_set, same]
  exact congrArg (Config.mk (part event.after)) kept

variable {system : System T Err Wide Task Choice α} {Legal : Config T Err Wide Task α → Move Task Choice → Prop}
  {start config : Config T Err Wide Task α}

/-- An invariant of a component holds in the larger system where its own steps keep
it and what the others do to its state keeps it. -/
theorem Reaches.component {Invariant : Config S Err Narrow Task' β → Prop}
    (reached : system.Reaches Legal start config) (initial : Invariant (start.seen part view task idle))
    (unmoved : ∀ config next, Unmoved config next → Invariant config → Invariant next)
    (moved : ∀ config (index : Nat) choice (thread : Thread T Err Wide Task α) (call : T.Call)
      (resume : Except Err (T.Reply call) → Program T Err α) own, system.Reaches Legal start config →
      config.threads[index]? = some thread → thread.code = .await call resume →
      view (system.answer config.shared call choice) = some own → Invariant (config.seen part view task idle) →
      Invariant
        { shared := part (system.answer config.shared call choice).after
          threads := (config.seen part view task idle).threads.set index
            ((thread.seen view task idle).answered own idle) })
    (aside : ∀ config (index : Nat) choice (thread : Thread T Err Wide Task α) (call : T.Call)
      (resume : Except Err (T.Reply call) → Program T Err α), system.Reaches Legal start config →
      config.threads[index]? = some thread → thread.code = .await call resume →
      view (system.answer config.shared call choice) = none → Invariant (config.seen part view task idle) →
      Invariant
        { shared := part (system.answer config.shared call choice).after
          threads := (config.seen part view task idle).threads }) :
    Invariant (config.seen part view task idle) := by
  apply reached.moving
  · exact initial
  · exact fun config next same holds => unmoved _ _ same.seen holds
  · intro config index choice thread call resume reached' _ listed pending holds
    cases viewed : view (system.answer config.shared call choice) with
    | some own =>
        rw [seen_moved _ viewed]
        exact moved config index choice thread call resume own reached' listed pending viewed holds
    | none =>
        rw [seen_aside _ listed viewed]
        exact aside config index choice thread call resume reached' listed pending viewed holds

end System

end Process
end Orderly
