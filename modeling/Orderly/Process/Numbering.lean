import Orderly.Process.System

/-!
# Numbers that routines draw

Routines draw numbers from a supply in the shared state that never goes back.
No two routines then have the same number, and each number lies between what
the supply was at the start and what it is now.
-/

namespace Orderly
namespace Process
namespace System

variable {S : Signature} {Err State Task Choice α : Type} {system : System S Err State Task Choice α}

/-- An event draws the number that is next, or the routine keeps the one it has. -/
structure Draws (number : Log S Err State → Option Nat) (supply : State → Nat) (log : Log S Err State)
    (event : Event S Err State) : Prop where
  grows : supply event.before ≤ supply event.after
  next : ∀ drawn, number (event :: log) = some drawn →
    number log = some drawn ∨ drawn = supply event.before ∧ drawn < supply event.after

/-- Routines with numbers of their own. -/
structure Distinct (number : Log S Err State → Option Nat) (supply : State → Nat) (floor : Nat)
    (config : Config S Err State Task α) : Prop where
  floor_le : floor ≤ supply config.shared
  bounds : ∀ (position : Nat) (thread : Thread S Err State Task α), config.threads[position]? = some thread →
    ∀ drawn, number thread.log = some drawn → floor ≤ drawn ∧ drawn < supply config.shared
  apart : ∀ (position other : Nat) (thread thread' : Thread S Err State Task α),
    config.threads[position]? = some thread → config.threads[other]? = some thread' → position ≠ other →
    ∀ drawn, number thread.log = some drawn → number thread'.log ≠ some drawn

namespace Distinct

variable {number : Log S Err State → Option Nat} {supply : State → Nat} {floor : Nat}
  {config next : Config S Err State Task α}

theorem unmoved (distinct : Distinct number supply floor config) (blank : number [] = none)
    (unmoved : Unmoved config next) : Distinct number supply floor next where
  floor_le := by
    rw [unmoved.shared]
    exact distinct.floor_le
  bounds position thread found drawn numbered := by
    rw [unmoved.shared]
    rcases unmoved.threads position thread found with ⟨old, earlier, _, same⟩ | nothing
    · exact distinct.bounds position old earlier drawn (same ▸ numbered)
    · cases blank.symm.trans (nothing ▸ numbered)
  apart position other thread thread' found found' different drawn numbered numbered' := by
    rcases unmoved.threads position thread found with ⟨old, earlier, _, same⟩ | nothing
    · rcases unmoved.threads other thread' found' with ⟨old', earlier', _, same'⟩ | nothing
      · exact distinct.apart position other old old' earlier earlier' different drawn (same ▸ numbered)
          (same' ▸ numbered')
      · cases blank.symm.trans (nothing ▸ numbered')
    · cases blank.symm.trans (nothing ▸ numbered)

theorem moved {index : Nat} {thread : Thread S Err State Task α} {event : Event S Err State} (rest : Program S Err α)
    (distinct : Distinct number supply floor config) (listed : config.threads[index]? = some thread)
    (start : event.before = config.shared) (draws : Draws number supply thread.log event) :
    Distinct number supply floor
      { shared := event.after, threads := config.threads.set index (thread.answered event rest) } := by
  have grows := draws.grows
  have next := draws.next
  rw [start] at grows next
  constructor
  · exact Nat.le_trans distinct.floor_le grows
  · intro position other found drawn numbered
    change floor ≤ drawn ∧ drawn < supply event.after
    rcases getElem?_set_cases listed found with ⟨_, rfl⟩ | ⟨_, found⟩
    · rcases next drawn numbered with known | ⟨rfl, below⟩
      · have bounds := distinct.bounds index thread listed drawn known
        exact ⟨bounds.1, Nat.lt_of_lt_of_le bounds.2 grows⟩
      · exact ⟨distinct.floor_le, below⟩
    · have bounds := distinct.bounds position other found drawn numbered
      exact ⟨bounds.1, Nat.lt_of_lt_of_le bounds.2 grows⟩
  · intro position other first second found found' different drawn numbered numbered'
    rcases getElem?_set_cases listed found with ⟨rfl, rfl⟩ | ⟨_, earlier⟩
    · rcases getElem?_set_cases listed found' with ⟨same, _⟩ | ⟨_, earlier'⟩
      · exact different same.symm
      · rcases next drawn numbered with known | ⟨rfl, _⟩
        · exact distinct.apart position other thread second listed earlier' different drawn known numbered'
        · exact absurd (distinct.bounds other second earlier' _ numbered').2 (Nat.lt_irrefl _)
    · rcases getElem?_set_cases listed found' with ⟨rfl, rfl⟩ | ⟨_, earlier'⟩
      · rcases next drawn numbered' with known | ⟨rfl, _⟩
        · exact distinct.apart position other first thread earlier listed different drawn numbered known
        · exact absurd (distinct.bounds position first earlier _ numbered).2 (Nat.lt_irrefl _)
      · exact distinct.apart position other first second earlier earlier' different drawn numbered numbered'

end Distinct

/-- Routines whose events draw numbers have numbers of their own. -/
theorem Reaches.distinct {Legal : Config S Err State Task α → Move Task Choice → Prop} {shared : State}
    {config : Config S Err State Task α} {number : Log S Err State → Option Nat} {supply : State → Nat}
    (reached : system.Reaches Legal { shared } config) (blank : number [] = none)
    (draws : ∀ log event, system.Admits log event → Draws number supply log event) :
    Distinct number supply (supply shared) config := by
  refine reached.moving ?_ ?_ ?_
  · constructor
    · exact Nat.le_refl _
    all_goals
      intros
      contradiction
  · intro earlier next unmoved distinct
    exact distinct.unmoved blank unmoved
  · intro earlier index choice thread call resume _ _ listed _ distinct
    exact distinct.moved _ listed rfl (draws _ _ ⟨choice, rfl⟩)

end System
end Process
end Orderly
