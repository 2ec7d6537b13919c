import Mathlib.Algebra.BigOperators.Group.List.Basic
import Mathlib.Algebra.Order.Ring.Int

/-!
# A pool of interchangeable units

Holders join, take free units and give back units they hold.  That free and
held units always add up to the capacity is part of the type.  No operation can
be stated for a holder that gives back more than it holds, and this is the
only obligation a user of the pool has.
-/

namespace Orderly
namespace Store

/-- Replacing an entry changes a sum by the difference. -/
theorem sum_set_add {items : List Nat} {index old : Nat} (new : Nat) (found : items[index]? = some old) :
    (items.set index new).sum + old = items.sum + new := by
  induction items generalizing index with
  | nil => simp at found
  | cons head tail inductionHypothesis =>
      cases index with
      | zero =>
          simp only [List.getElem?_cons_zero, Option.some.injEq] at found
          subst found
          simp only [List.set_cons_zero, List.sum_cons]
          omega
      | succ index =>
          have later := inductionHypothesis (by simpa using found)
          simp only [List.set_cons_succ, List.sum_cons]
          omega

/-- Entries that are bounded one by one are bounded in sum. -/
theorem sum_le_sum_of_entries {items bounds : List Nat}
    (bounded : ∀ (index item : Nat), items[index]? = some item →
      ∃ bound, bounds[index]? = some bound ∧ item ≤ bound) :
    items.sum ≤ bounds.sum := by
  induction items generalizing bounds with
  | nil => simp
  | cons head tail inductionHypothesis =>
      rcases bounded 0 head (by simp) with ⟨bound, first, least⟩
      cases bounds with
      | nil => simp at first
      | cons bound' bounds =>
          simp only [List.getElem?_cons_zero, Option.some.injEq] at first
          have rest := inductionHypothesis fun index item found => bounded (index + 1) item (by simpa using found)
          simp only [List.sum_cons]
          omega

/-- Free units, and the units of each holder in the order they joined. -/
structure Pool (capacity : Nat) where
  free : Nat
  held : List Nat
  balanced : free + held.sum = capacity

namespace Pool

variable {capacity : Nat}

/-- Everything free, nobody there. -/
def full (capacity : Nat) : Pool capacity := ⟨capacity, [], by simp⟩

/-- A new holder, with nothing yet. -/
def join (pool : Pool capacity) : Pool capacity where
  free := pool.free
  held := pool.held ++ [0]
  balanced := by simpa using pool.balanced

variable (pool : Pool capacity) {holder own : Nat} (units : Nat)

/-- Move free units to a holder. -/
def take (known : pool.held[holder]? = some own) (enough : units ≤ pool.free) : Pool capacity where
  free := pool.free - units
  held := pool.held.set holder (own + units)
  balanced := by
    have moved := sum_set_add (own + units) known
    have balanced := pool.balanced
    omega

/-- Move a holder's units back. -/
def giveBack (known : pool.held[holder]? = some own) (owned : units ≤ own) : Pool capacity where
  free := pool.free + units
  held := pool.held.set holder (own - units)
  balanced := by
    have moved := sum_set_add (own - units) known
    have balanced := pool.balanced
    omega

/-- What the holders are owed, if nobody is owed more than it holds, fits into
the capacity. -/
theorem owed_le {owed : List Nat}
    (backed : ∀ (index units : Nat), owed[index]? = some units →
      ∃ own, pool.held[index]? = some own ∧ units ≤ own) :
    owed.sum ≤ capacity := by
  have fits := sum_le_sum_of_entries backed
  have balanced := pool.balanced
  omega

end Pool

end Store
end Orderly
