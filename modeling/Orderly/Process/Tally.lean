import Orderly.Process.System

/-!
# Counting routines

The number of routines of which something holds, by their task and by what they
have done.  Starting and stopping routines does not change it.
-/

namespace Orderly
namespace Process

/-- A change that a property does not notice. -/
theorem countP_modify {X : Type} (items : List X) (index : Nat) (change : X → X) (property : X → Bool)
    (same : ∀ item, property (change item) = property item) :
    (items.modify index change).countP property = items.countP property := by
  induction items generalizing index with
  | nil => rw [List.modify_nil]
  | cons head tail inductionHypothesis =>
      cases index with
      | zero => rw [List.modify_zero_cons, List.countP_cons, List.countP_cons, same]
      | succ index => rw [List.modify_succ_cons, List.countP_cons, List.countP_cons, inductionHypothesis]

/-- Of three properties the first holds as often as the other two. -/
theorem countP_split {X : Type} (items : List X) {property first second : X → Bool}
    (split : ∀ item, (property item).toNat = (first item).toNat + (second item).toNat) :
    items.countP property = items.countP first + items.countP second := by
  have bit : ∀ value : Bool, (if value = true then 1 else 0) = value.toNat := fun value => by cases value <;> rfl
  induction items with
  | nil => rfl
  | cons head tail inductionHypothesis =>
      rw [List.countP_cons, List.countP_cons, List.countP_cons, inductionHypothesis, bit, bit, bit, split]
      omega

namespace System

variable {S : Signature} {Err State Task Choice α : Type} {system : System S Err State Task Choice α}
  {config next : Config S Err State Task α}

/-- The number of routines whose task and log have a property. -/
def tally (counts : Task → Log S Err State → Bool) (config : Config S Err State Task α) : Nat :=
  config.threads.countP fun thread => counts thread.task thread.log

variable {counts : Task → Log S Err State → Bool}

theorem tally_start (none : ∀ task, counts task [] = false) (task : Task) :
    tally counts { config with threads := config.threads ++ [{ task, code := system.program task }] } =
      tally counts config := by
  unfold tally
  rw [List.countP_append, List.countP_singleton, none]
  rfl

theorem tally_stop (index : Nat) :
    tally counts { config with threads := config.threads.modify index ({ · with stopped := true }) } =
      tally counts config :=
  countP_modify _ index _ _ fun _ => rfl

/-- Only an answer changes a count. -/
theorem Stepped.tally_unmoved {move : Move Task Choice} (stepped : system.Stepped config move next)
    (other : ∀ index choice, move ≠ .advance index choice) (none : ∀ task, counts task [] = false) :
    tally counts next = tally counts config := by
  cases stepped with
  | idle => rfl
  | started task => exact tally_start none task
  | stopped index => exact tally_stop index
  | answered index choice => exact absurd rfl (other index choice)

/-- A routine that moves is counted by its new log in the place of the old one. -/
theorem tally_answer {index : Nat} {thread : Thread S Err State Task α} (event : Event S Err State)
    (rest : Program S Err α) (shared : State) (listed : config.threads[index]? = some thread) :
    tally counts { shared, threads := config.threads.set index (thread.answered event rest) } +
        (counts thread.task thread.log).toNat =
      tally counts config + (counts thread.task (event :: thread.log)).toNat := by
  rcases List.getElem?_eq_some_iff.mp listed with ⟨bound, rfl⟩
  have bit : ∀ value : Bool, (if value = true then 1 else 0) = value.toNat := fun value => by cases value <;> rfl
  have present : counts config.threads[index].task config.threads[index].log = true →
      0 < config.threads.countP fun thread => counts thread.task thread.log := by
    intro counted
    exact List.countP_pos_iff.mpr ⟨_, List.getElem_mem bound, counted⟩
  unfold tally
  rw [List.countP_set bound, bit, bit]
  change _ + (counts config.threads[index].task (event :: config.threads[index].log)).toNat + _ = _
  cases before : counts config.threads[index].task config.threads[index].log with
  | false => rfl
  | true =>
      have some := present before
      simp only [Bool.toNat_true]
      omega

/-- Where only the counted routines have anything of a kind, and so many at most, there is
no more of it than so many for each that is counted. -/
theorem length_le_tally {X : Type} (most : Nat) (of : Thread S Err State Task α → List X)
    (each : ∀ thread ∈ config.threads, (of thread).length ≤ most * (counts thread.task thread.log).toNat) :
    (config.threads.flatMap of).length ≤ most * tally counts config := by
  have bit : ∀ value : Bool, (if value = true then 1 else 0) = value.toNat := fun value => by cases value <;> rfl
  unfold tally
  generalize config.threads = threads at each ⊢
  induction threads with
  | nil => exact Nat.le_refl _
  | cons thread threads inductionHypothesis =>
      rw [List.flatMap_cons, List.length_append, List.countP_cons, bit, Nat.add_comm, Nat.mul_add]
      exact Nat.add_le_add (inductionHypothesis fun other member => each other (List.mem_cons_of_mem _ member))
        (each thread List.mem_cons_self)

theorem tally_split {first second : Task → Log S Err State → Bool}
    (split : ∀ task log, (counts task log).toNat = (first task log).toNat + (second task log).toNat) :
    tally counts config = tally first config + tally second config :=
  countP_split config.threads fun thread => split thread.task thread.log

end System
end Process
end Orderly
