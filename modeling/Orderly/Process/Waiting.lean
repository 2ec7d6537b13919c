import Mathlib.Data.ZMod.Defs

/-!
# Cycles of waiting

Parties hold resources and ask for more.  Where every party asks in one common
order, and no two hold the same resource, nobody waits for itself around a
cycle: the order makes all resources of the cycle equal, and exclusion makes
all of its parties equal.
-/

namespace Orderly
namespace Process

variable {Party Resource : Type} {Holds Asks : Party → Resource → Prop} {Before : Resource → Resource → Prop}
  {length : Nat}

/-- Two or more parties, each of which holds what the next one asks for. -/
structure WaitCycle (Holds Asks : Party → Resource → Prop) (party : Fin (length + 2) → Party) : Prop where
  distinct : Function.Injective party
  waits : ∀ position, ∃ resource, Holds (party position) resource ∧ Asks (party (position + 1)) resource

open Fin.CommRing in
/-- What descends around a cycle is the same all the way. -/
theorem descends_cycle {value : Fin (length + 2) → Resource} (refl : ∀ resource, Before resource resource)
    (trans : ∀ first second third, Before first second → Before second third → Before first third)
    (descends : ∀ position, Before (value (position + 1)) (value position)) (position : Fin (length + 2)) :
    Before (value position) (value (position + 1)) := by
  have further : ∀ (steps : Nat) (from' : Fin (length + 2)), Before (value (from' + steps)) (value from') := by
    intro steps
    induction steps with
    | zero =>
        intro from'
        rw [Nat.cast_zero, add_zero]
        exact refl _
    | succ steps inductionHypothesis =>
        intro from'
        rw [Nat.cast_succ, ← add_assoc]
        exact trans _ _ _ (descends (from' + steps)) (inductionHypothesis from')
  have around : position + 1 + ((length + 1 : Nat) : Fin (length + 2)) = position := by
    have whole : ((length + 1 : Nat) : Fin (length + 2)) + 1 = 0 := by
      rw [← Nat.cast_succ]
      exact Fin.natCast_self (length + 2)
    have behind : 1 + ((length + 1 : Nat) : Fin (length + 2)) = 0 := (add_comm _ _).trans whole
    rw [add_assoc, behind, add_zero]
  have back := further (length + 1) (position + 1)
  rwa [around] at back

/-- Asking in a common order for resources that nobody shares leaves no cycle. -/
theorem no_waitCycle (refl : ∀ resource, Before resource resource)
    (trans : ∀ first second third, Before first second → Before second third → Before first third)
    (antisymm : ∀ first second, Before first second → Before second first → first = second)
    (ordered : ∀ party held asked, Holds party held → Asks party asked → Before held asked)
    (exclusive : ∀ party other resource, Holds party resource → Holds other resource → party = other)
    (party : Fin (length + 2) → Party) : ¬ WaitCycle Holds Asks party := by
  intro cycle
  choose value holds asks using cycle.waits
  have descends : ∀ position, Before (value (position + 1)) (value position) := by
    intro position
    exact ordered _ _ _ (holds (position + 1)) (asks position)
  have same : value 0 = value (0 + 1) := antisymm _ _ (descends_cycle refl trans descends 0) (descends 0)
  have one : party 0 = party (0 + 1) := exclusive _ _ _ (holds 0) (same ▸ holds (0 + 1))
  have impossible := congrArg Fin.val (cycle.distinct one)
  cases impossible

end Process
end Orderly
