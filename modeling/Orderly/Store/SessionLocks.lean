import Mathlib.Logic.Function.Basic

/-!
# Locks owned by sessions

A lock table has one entry for each locked key: the session that holds it, and
how often that session has taken it beyond the first time.  That two sessions
never hold one key is a matter of the representation.  A session may take a key
it holds again, and gives back one acquisition at a time; what another session
does to the key has no effect.

Who asks for the session's locks is not part of the table.
-/

namespace Orderly
namespace Store

/-- For each locked key its holder and the number of further acquisitions. -/
structure SessionLocks (Session Key : Type) where
  entry : Key → Option (Session × Nat)

namespace SessionLocks

variable {Session Key : Type}

def empty : SessionLocks Session Key := ⟨fun _ => none⟩

/-- How often a key is held, by whichever session. -/
def depth (locks : SessionLocks Session Key) (key : Key) : Nat :=
  ((locks.entry key).map fun held => held.2 + 1).getD 0

/-- How often a session holds a key. -/
def count [DecidableEq Session] (locks : SessionLocks Session Key) (session : Session) (key : Key) : Nat :=
  match locks.entry key with
  | some (holder, further) => if holder = session then further + 1 else 0
  | none => 0

section Keys

variable [DecidableEq Key]

def put (locks : SessionLocks Session Key) (key : Key) (held : Option (Session × Nat)) : SessionLocks Session Key :=
  ⟨Function.update locks.entry key held⟩

theorem depth_put (locks : SessionLocks Session Key) (key other : Key) (held : Option (Session × Nat)) :
    (locks.put key held).depth other =
      if other = key then (held.map fun held => held.2 + 1).getD 0 else locks.depth other := by
  by_cases same : other = key
  · simp [depth, put, same]
  · simp [depth, put, same]

end Keys

variable [DecidableEq Session] {locks : SessionLocks Session Key} {session : Session} {key : Key}

theorem count_le_depth : locks.count session key ≤ locks.depth key := by
  unfold count depth
  cases locks.entry key with
  | none => exact Nat.le_refl 0
  | some held =>
      dsimp only
      split
      · exact Nat.le_refl _
      · exact Nat.zero_le _

/-- A key is held as often as somebody holds it. -/
theorem depth_eq_zero_iff : locks.depth key = 0 ↔ ∀ session, locks.count session key = 0 := by
  constructor
  · intro free session
    exact Nat.le_zero.mp (free ▸ count_le_depth)
  · intro free
    cases held : locks.entry key with
    | none => simp [depth, held]
    | some entry =>
        have none := free entry.1
        simp [count, held] at none

variable [DecidableEq Key]

/-- Taken unless another session holds the key. -/
def tryLock (locks : SessionLocks Session Key) (session : Session) (key : Key) : Bool × SessionLocks Session Key :=
  match locks.entry key with
  | none => (true, locks.put key (some (session, 0)))
  | some (holder, further) =>
      if holder = session then (true, locks.put key (some (holder, further + 1))) else (false, locks)

/-- One acquisition of this session is given back. -/
def unlock (locks : SessionLocks Session Key) (session : Session) (key : Key) : Bool × SessionLocks Session Key :=
  match locks.entry key with
  | none => (false, locks)
  | some (holder, further) =>
      if holder = session then
        (true, locks.put key (if further = 0 then none else some (holder, further - 1)))
      else (false, locks)

/-- What can come of a request. -/
theorem tryLock_cases (locks : SessionLocks Session Key) (session : Session) (key : Key) :
    ((locks.tryLock session key).1 = true ∧ (locks.depth key = 0 ∨ 0 < locks.count session key) ∧
      ∀ other, (locks.tryLock session key).2.depth other = locks.depth other + if other = key then 1 else 0) ∨
    ((locks.tryLock session key) = (false, locks) ∧ 0 < locks.depth key) := by
  unfold tryLock
  cases held : locks.entry key with
  | none =>
      refine Or.inl ⟨rfl, Or.inl (by simp [depth, held]), ?_⟩
      intro other
      rw [depth_put]
      split
      · next same => simp [same, depth, held]
      · rfl
  | some entry =>
      rcases entry with ⟨holder, further⟩
      by_cases own : holder = session
      · simp only [own, if_true]
        refine Or.inl ⟨trivial, Or.inr (by simp [count, held, own]), ?_⟩
        intro other
        rw [depth_put]
        split
        · next same => simp [same, depth, held]
        · rfl
      · simp only [own, if_false]
        exact Or.inr ⟨trivial, by simp [depth, held]⟩

/-- A free key is granted to whoever asks. -/
theorem tryLock_free (free : locks.depth key = 0) : (locks.tryLock session key).1 = true := by
  rcases locks.tryLock_cases session key with ⟨granted, _⟩ | ⟨_, held⟩
  · exact granted
  · exact absurd free (Nat.ne_of_gt held)

/-- One acquisition goes if the session holds the key, and none otherwise. -/
theorem unlock_depth (locks : SessionLocks Session Key) (session : Session) (key other : Key) :
    (locks.unlock session key).2.depth other =
      locks.depth other - if other = key ∧ 0 < locks.count session key then 1 else 0 := by
  unfold unlock
  cases held : locks.entry key with
  | none => simp [count, held]
  | some entry =>
      rcases entry with ⟨holder, further⟩
      by_cases own : holder = session
      · have holds : 0 < locks.count session key := by simp [count, held, own]
        simp only [own, if_true, depth_put, holds, and_true]
        by_cases same : other = key
        · cases further with
          | zero => simp [same, depth, held]
          | succ further => simp [same, depth, held]
        · simp [same]
      · have none : locks.count session key = 0 := by simp [count, held, own]
        simp [own, none]

end SessionLocks

end Store
end Orderly
