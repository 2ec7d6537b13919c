import Mathlib.Algebra.BigOperators.Group.Multiset.Basic
import Orderly.Infrastructure.Effects

/-!
# A ledger of inventory statements

`InventoryRepository.reserve` and `release` as single statements, sent by any
callers in any order.  A release gives back one earlier reservation that
returned true, and no two releases give back the same one.  Then the reserved
quantity of a row is what it was, plus the reservations not yet given back, so
nothing is clamped and nothing is lost.

The `version` column counts the statements on a row.  It is an `INT` like the
quantities, and a statement that would push it past the largest `INT` fails.
-/

namespace Orderly

open Store (Table)

/-- A statement of `InventoryRepository`. -/
inductive StockStatement where
  | reserve (sku : String) (quantity : Nat)
  | release (sku : String) (quantity : Nat)
  deriving DecidableEq, Repr

/-- One executed statement, with the database around it. -/
structure Executed where
  statement : StockStatement
  reply : Except JsError Bool
  before : Database
  after : Database

namespace StockStatement

def sku : StockStatement → String
  | reserve sku _ => sku
  | release sku _ => sku

def run (db : Database) : StockStatement → Except JsError (Bool × Database)
  | reserve sku quantity => db.reserve sku quantity
  | release sku quantity => db.release sku quantity

/-- A statement that fails leaves the database as it was. -/
def execute (db : Database) (statement : StockStatement) : Executed :=
  match statement.run db with
  | .ok (answer, after) => ⟨statement, .ok answer, db, after⟩
  | .error error => ⟨statement, .error error, db, db⟩

end StockStatement

/-! ## The account of a history -/

/-- The reservations that returned true. -/
def grantedLines : List Executed → Multiset (String × Nat)
  | [] => 0
  | ⟨.reserve sku quantity, .ok true, _, _⟩ :: log => (sku, quantity) ::ₘ grantedLines log
  | _ :: log => grantedLines log

/-- The releases that were sent. -/
def sentLines : List Executed → Multiset (String × Nat)
  | [] => 0
  | ⟨.release sku quantity, _, _, _⟩ :: log => (sku, quantity) ::ₘ sentLines log
  | _ :: log => sentLines log

/-- The releases that returned true. -/
def releasedLines : List Executed → Multiset (String × Nat)
  | [] => 0
  | ⟨.release sku quantity, .ok true, _, _⟩ :: log => (sku, quantity) ::ₘ releasedLines log
  | _ :: log => releasedLines log

/-- The successful statements on a row. -/
def successes (log : List Executed) (sku : String) : Nat :=
  (log.filter fun event => event.statement.sku = sku ∧ event.reply matches .ok true).length

/-- The units of one SKU. -/
def unitsOf (lines : Multiset (String × Nat)) (sku : String) : Nat :=
  ((lines.filter fun line => line.1 = sku).map Prod.snd).sum

/-- Each release sent so far, this one included, has a reservation of its own. -/
def Matched (log : List Executed) : StockStatement → Prop
  | .reserve _ _ => True
  | .release sku quantity => (sku, quantity) ::ₘ sentLines log ≤ grantedLines log

/-- Statements of any callers, one after another, newest first. -/
inductive History (start : Database) : List Executed → Database → Prop where
  | begun : History start [] start
  | executed {log : List Executed} {db : Database} (statement : StockStatement) :
      History start log db → Matched log statement →
      History start (statement.execute db :: log) (statement.execute db).after

/-! ## Units -/

@[simp] theorem unitsOf_cons (line : String × Nat) (lines : Multiset (String × Nat)) (sku : String) :
    unitsOf (line ::ₘ lines) sku = (if line.1 = sku then line.2 else 0) + unitsOf lines sku := by
  unfold unitsOf
  by_cases same : line.1 = sku
  · simp [same]
  · simp [same]

theorem unitsOf_add (first second : Multiset (String × Nat)) (sku : String) :
    unitsOf (first + second) sku = unitsOf first sku + unitsOf second sku := by
  simp [unitsOf]

theorem unitsOf_le {first second : Multiset (String × Nat)} (part : first ≤ second) (sku : String) :
    unitsOf first sku ≤ unitsOf second sku := by
  rcases Multiset.le_iff_exists_add.mp part with ⟨rest, rfl⟩
  rw [unitsOf_add]
  exact Nat.le_add_right _ _

/-! ## The invariant -/

/-- A row, given the one it started as and the statements since. -/
structure Balanced (log : List Executed) (first row : InventoryRecord) : Prop where
  available : row.available + unitsOf (grantedLines log) first.sku =
    first.available + unitsOf (releasedLines log) first.sku
  reserved : row.reserved + unitsOf (releasedLines log) first.sku = first.reserved + unitsOf (grantedLines log) first.sku
  version : row.version = first.version + successes log first.sku

/-- Every row is balanced, and none is added or dropped. -/
def Ledgered (start : Database) (log : List Executed) (db : Database) : Prop :=
  ∀ sku, (start.inventory.lookup sku = none ∧ db.inventory.lookup sku = none) ∨
    ∃ first row, start.inventory.lookup sku = some first ∧ db.inventory.lookup sku = some row ∧ Balanced log first row

/-! ## One statement -/

section Step

variable {start db : Database} {log : List Executed} {statement : StockStatement}

/-- What a successful statement makes of its row. -/
def StockStatement.change : StockStatement → InventoryRecord → InventoryRecord
  | .reserve _ quantity => Database.reserveRow quantity
  | .release _ quantity => Database.releaseRow quantity

/-- The rows after an update of one that is there. -/
theorem lookup_changed {table changed : Table InventoryRecord String InventoryRecord.sku} {sku : String}
    {row : InventoryRecord} {change : InventoryRecord → InventoryRecord} {keeps : ∀ row, (change row).sku = row.sku}
    (found : table.lookup sku = some row) (update : changed = table.update sku change keeps) (other : String) :
    changed.lookup other = if other = sku then some (change row) else table.lookup other := by
  rw [update, Table.lookup_update]
  by_cases same : other = sku
  · rw [if_pos same, if_pos same, same, found]
    rfl
  · rw [if_neg same, if_neg same]

/-- A statement changes its own row and answers true, or changes nothing. -/
theorem execute_cases (db : Database) (statement : StockStatement) :
    ((statement.execute db).reply ≠ .ok true ∧ (statement.execute db).after = db) ∨
      ((statement.execute db).reply = .ok true ∧ ∃ row, db.inventory.lookup statement.sku = some row ∧
        (∀ sku quantity, statement = .reserve sku quantity → quantity ≤ row.available) ∧
        ∀ other, (statement.execute db).after.inventory.lookup other =
          if other = statement.sku then some (statement.change row) else db.inventory.lookup other) := by
  unfold StockStatement.execute
  rcases ran : statement.run db with error | ⟨answer, after⟩
  · exact Or.inl ⟨(fun same => by cases same), rfl⟩
  · cases statement with
    | reserve sku quantity =>
        rcases (Database.reserve_ok ran).2 with ⟨rfl, rfl⟩ | ⟨rfl, row, found, enough, update⟩
        · exact Or.inl ⟨(fun same => by cases same), rfl⟩
        · refine Or.inr ⟨rfl, row, found, ?_, lookup_changed found update⟩
          intro _ _ same
          cases same
          exact enough
    | release sku quantity =>
        rcases (Database.release_ok ran).2 with ⟨rfl, rfl⟩ | ⟨rfl, row, found, update⟩
        · exact Or.inl ⟨(fun same => by cases same), rfl⟩
        · refine Or.inr ⟨rfl, row, found, ?_, lookup_changed found update⟩
          intro _ _ same
          cases same

@[simp] theorem execute_statement (db : Database) (statement : StockStatement) :
    (statement.execute db).statement = statement := by
  unfold StockStatement.execute
  split <;> rfl

@[simp] theorem execute_before (db : Database) (statement : StockStatement) :
    (statement.execute db).before = db := by
  unfold StockStatement.execute
  split <;> rfl

/-- A statement that did not succeed is not in the account. -/
theorem failed_aside {event : Executed} (failed : event.reply ≠ .ok true) (log : List Executed) :
    grantedLines (event :: log) = grantedLines log ∧ releasedLines (event :: log) = releasedLines log ∧
      ∀ sku, successes (event :: log) sku = successes log sku := by
  rcases event with ⟨statement, error | (_ | _), before, after⟩
  · cases statement with
    | reserve sku quantity => exact ⟨rfl, rfl, fun other => by simp [successes]⟩
    | release sku quantity => exact ⟨rfl, rfl, fun other => by simp [successes]⟩
  · cases statement with
    | reserve sku quantity => exact ⟨rfl, rfl, fun other => by simp [successes]⟩
    | release sku quantity => exact ⟨rfl, rfl, fun other => by simp [successes]⟩
  · exact absurd rfl failed

/-- What returned true was sent. -/
theorem released_le_sent (log : List Executed) : releasedLines log ≤ sentLines log := by
  induction log with
  | nil => exact le_refl 0
  | cons event log inductionHypothesis =>
      rcases event with ⟨statement, error | (_ | _), before, after⟩
      · cases statement with
        | reserve sku quantity => exact inductionHypothesis
        | release sku quantity => exact inductionHypothesis.trans (Multiset.le_cons_self _ _)
      · cases statement with
        | reserve sku quantity => exact inductionHypothesis
        | release sku quantity => exact inductionHypothesis.trans (Multiset.le_cons_self _ _)
      · cases statement with
        | reserve sku quantity => exact inductionHypothesis
        | release sku quantity => exact Multiset.cons_le_cons _ inductionHypothesis

/-- A matched release finds its units among those reserved on the row. -/
theorem Balanced.unclamped {first row : InventoryRecord} {quantity : Nat} (balanced : Balanced log first row)
    (matched : Matched log (.release first.sku quantity)) : quantity ≤ row.reserved := by
  have own := unitsOf_le matched first.sku
  rw [unitsOf_cons, if_pos rfl] at own
  have returned := unitsOf_le (released_le_sent log) first.sku
  have account := balanced.reserved
  omega

/-- A row whose statement succeeds stays balanced. -/
theorem Balanced.changed {first row : InventoryRecord} {event : Executed} (balanced : Balanced log first row)
    (matched : Matched log event.statement) (succeeded : event.reply = .ok true) (own : event.statement.sku = first.sku)
    (enough : ∀ sku quantity, event.statement = .reserve sku quantity → quantity ≤ row.available) :
    Balanced (event :: log) first (event.statement.change row) := by
  rcases event with ⟨statement, reply, before, after⟩
  cases succeeded
  cases statement with
  | reserve sku quantity =>
      cases own
      have units := enough _ quantity rfl
      refine ⟨?_, ?_, ?_⟩
      · have account := balanced.available
        simp only [StockStatement.change, Database.reserveRow, grantedLines, releasedLines, unitsOf_cons, if_true]
        omega
      · have account := balanced.reserved
        simp only [StockStatement.change, Database.reserveRow, grantedLines, releasedLines, unitsOf_cons, if_true]
        omega
      · have account := balanced.version
        simp [StockStatement.change, Database.reserveRow, successes, StockStatement.sku] at account ⊢
        omega
  | release sku quantity =>
      cases own
      have units := balanced.unclamped matched
      refine ⟨?_, ?_, ?_⟩
      · have account := balanced.available
        simp only [StockStatement.change, Database.releaseRow, grantedLines, releasedLines, unitsOf_cons, if_true]
        omega
      · have account := balanced.reserved
        simp only [StockStatement.change, Database.releaseRow, grantedLines, releasedLines, unitsOf_cons, if_true]
        omega
      · have account := balanced.version
        simp [StockStatement.change, Database.releaseRow, successes, StockStatement.sku] at account ⊢
        omega

/-- A statement on another row. -/
theorem Balanced.elsewhere {first row : InventoryRecord} {event : Executed} (balanced : Balanced log first row)
    (other : event.statement.sku ≠ first.sku) : Balanced (event :: log) first row := by
  rcases event with ⟨statement, reply, before, after⟩
  have same :
      unitsOf (grantedLines (⟨statement, reply, before, after⟩ :: log)) first.sku =
        unitsOf (grantedLines log) first.sku ∧
      unitsOf (releasedLines (⟨statement, reply, before, after⟩ :: log)) first.sku =
        unitsOf (releasedLines log) first.sku := by
    rcases reply with error | (_ | _) <;> cases statement with
    | reserve sku quantity => simp_all [grantedLines, releasedLines, StockStatement.sku]
    | release sku quantity => simp_all [grantedLines, releasedLines, StockStatement.sku]
  refine ⟨?_, ?_, ?_⟩
  · rw [same.1, same.2]
    exact balanced.available
  · rw [same.1, same.2]
    exact balanced.reserved
  · have account := balanced.version
    simpa [successes, other] using account

/-- A failed statement keeps every row balanced. -/
theorem Balanced.failed {first row : InventoryRecord} {event : Executed} (balanced : Balanced log first row)
    (failed : event.reply ≠ .ok true) : Balanced (event :: log) first row := by
  rcases failed_aside failed log with ⟨grants, returns, counts⟩
  refine ⟨?_, ?_, ?_⟩
  · rw [grants, returns]
    exact balanced.available
  · rw [grants, returns]
    exact balanced.reserved
  · rw [counts]
    exact balanced.version

/-- Every statement keeps the ledger. -/
theorem Ledgered.step (ledgered : Ledgered start log db) (matched : Matched log statement) :
    Ledgered start (statement.execute db :: log) (statement.execute db).after := by
  intro sku
  rcases execute_cases db statement with ⟨failed, same⟩ | ⟨succeeded, row, found, enough, lookups⟩
  · rw [same]
    rcases ledgered sku with missing | ⟨first, row, known, found, balanced⟩
    · exact Or.inl missing
    · exact Or.inr ⟨first, row, known, found, balanced.failed failed⟩
  · rw [lookups]
    by_cases own : sku = statement.sku
    · subst own
      rw [if_pos rfl]
      rcases ledgered statement.sku with ⟨_, missing⟩ | ⟨first, old, known, present, balanced⟩
      · rw [missing] at found
        cases found
      · rw [present] at found
        cases found
        have named : first.sku = statement.sku := Table.lookup_key known
        have changed : Balanced (statement.execute db :: log) first ((statement.execute db).statement.change row) :=
          balanced.changed (by rwa [execute_statement]) succeeded (by rw [execute_statement, named])
            (by rwa [execute_statement])
        rw [execute_statement] at changed
        exact Or.inr ⟨first, _, known, rfl, changed⟩
    · rw [if_neg own]
      rcases ledgered sku with missing | ⟨first, row, known, present, balanced⟩
      · exact Or.inl missing
      · refine Or.inr ⟨first, row, known, present, balanced.elsewhere ?_⟩
        rw [execute_statement, Table.lookup_key known]
        exact Ne.symm own

end Step

/-! ## Histories -/

/-- What a statement does, seen from the row it is about. -/
structure Executed.Sound (event : Executed) : Prop where
  /-- No subtraction of `quantity_available` goes below zero. -/
  nonneg : ∀ sku quantity row, event.statement = .reserve sku quantity → event.reply = .ok true →
    event.before.inventory.lookup sku = some row → 0 ≤ (row.available : Int) - quantity
  /-- `GREATEST` never takes the zero for a negative number. -/
  unclamped : ∀ sku quantity row, event.statement = .release sku quantity →
    event.before.inventory.lookup sku = some row → 0 ≤ (row.reserved : Int) - quantity
  /-- `reserve` returns true exactly when the row has the units, and `version`
  is not at its largest value. -/
  answers : ∀ sku quantity, event.statement = .reserve sku quantity →
    (event.reply = .ok true ↔ ∃ row, event.before.inventory.lookup sku = some row ∧ quantity ≤ row.available ∧
      row.version < intMax)

/-- What a history conserves. -/
structure Conserved (start : Database) (log : List Executed) (db : Database) : Prop where
  sound : ∀ event ∈ log, event.Sound
  total : ∀ sku, (db.inventory.lookup sku).map (fun row => row.available + row.reserved) =
    (start.inventory.lookup sku).map fun row => row.available + row.reserved
  version : ∀ sku, (db.inventory.lookup sku).map InventoryRecord.version =
    (start.inventory.lookup sku).map fun row => row.version + successes log sku
  restored : releasedLines log = grantedLines log → ∀ sku,
    (db.inventory.lookup sku).map (fun row => (row.available, row.reserved)) =
      (start.inventory.lookup sku).map fun row => (row.available, row.reserved)

section Histories

variable {start db : Database} {log : List Executed}

theorem History.ledgered (history : History start log db) : Ledgered start log db := by
  induction history with
  | begun =>
      intro sku
      cases first : start.inventory.lookup sku with
      | none => exact Or.inl ⟨rfl, rfl⟩
      | some head => exact Or.inr ⟨head, head, rfl, rfl, rfl, rfl, rfl⟩
  | executed statement _ matched inductionHypothesis => exact inductionHypothesis.step matched

/-- A row keeps the sum it started with. -/
theorem Ledgered.fits (ledgered : Ledgered start log db)
    (fits : ∀ row ∈ start.inventory.rows, row.available + row.reserved ≤ intMax) {sku : String} {row : InventoryRecord}
    (found : db.inventory.lookup sku = some row) : row.available + row.reserved ≤ intMax := by
  rcases ledgered sku with ⟨_, missing⟩ | ⟨first, row, known, present, balanced⟩
  · rw [missing] at found
    cases found
  · rw [present] at found
    cases found
    have bound := fits first (Table.mem_of_lookup known)
    have available := balanced.available
    have reserved := balanced.reserved
    omega

/-- Where the sum of a row fits an `INT`, only `version` can overflow. -/
theorem reserve_true_iff {sku : String} {quantity : Nat}
    (fits : ∀ row, db.inventory.lookup sku = some row → row.available + row.reserved ≤ intMax) :
    ((StockStatement.reserve sku quantity).execute db).reply = .ok true ↔
      ∃ row, db.inventory.lookup sku = some row ∧ quantity ≤ row.available ∧ row.version < intMax := by
  unfold StockStatement.execute StockStatement.run Database.reserve
  cases found : db.inventory.lookup sku with
  | none =>
      by_cases large : intMax < quantity
      · simp [large]
      · simp [found, large]
  | some row =>
      have bound := fits row found
      by_cases enough : quantity ≤ row.available
      · have small : ¬ intMax < quantity := by omega
        have long : ¬ row.available < quantity := by omega
        have room : ¬ intMax < row.reserved + quantity := by omega
        by_cases counted : row.version < intMax
        · have next : ¬ intMax < row.version + 1 := by omega
          simp [found, small, enough, long, room, next, counted]
        · have next : intMax < row.version + 1 := by omega
          simp [found, small, enough, long, next, counted]
      · by_cases large : intMax < quantity
        · simp [large, enough]
        · have short : row.available < quantity := by omega
          simp [found, large, short, enough]

/-- A matched statement in a balanced ledger is sound. -/
theorem Ledgered.sound (ledgered : Ledgered start log db)
    (fits : ∀ row ∈ start.inventory.rows, row.available + row.reserved ≤ intMax) {statement : StockStatement}
    (matched : Matched log statement) : (statement.execute db).Sound where
  nonneg := by
    intro sku quantity row same succeeded found
    rw [execute_statement] at same
    rw [execute_before] at found
    subst same
    rcases (reserve_true_iff fun _ => ledgered.fits fits).mp succeeded with ⟨row', known, enough, _⟩
    rw [known] at found
    cases found
    omega
  unclamped := by
    intro sku quantity row same found
    rw [execute_statement] at same
    rw [execute_before] at found
    subst same
    rcases ledgered sku with ⟨_, missing⟩ | ⟨first, row, known, present, balanced⟩
    · rw [missing] at found
      cases found
    · rw [present] at found
      cases found
      cases Table.lookup_key known
      have units := balanced.unclamped matched
      omega
  answers := by
    intro sku quantity same
    rw [execute_statement] at same
    subst same
    rw [execute_before]
    exact reserve_true_iff fun _ => ledgered.fits fits

/-- Histories in which each release gives back a reservation of its own conserve the stock. -/
theorem matched_conserves (fits : ∀ row ∈ start.inventory.rows, row.available + row.reserved ≤ intMax)
    (history : History start log db) : Conserved start log db where
  sound := by
    induction history with
    | begun =>
        intro event member
        cases member
    | executed statement earlier matched inductionHypothesis =>
        intro event member
        rcases List.mem_cons.mp member with rfl | known
        · exact earlier.ledgered.sound fits matched
        · exact inductionHypothesis event known
  total := by
    intro sku
    rcases history.ledgered sku with ⟨missing, still⟩ | ⟨first, row, known, present, balanced⟩
    · rw [missing, still]
    · have available := balanced.available
      have reserved := balanced.reserved
      rw [known, present, Option.map_some, Option.map_some]
      congr 1
      omega
  version := by
    intro sku
    rcases history.ledgered sku with ⟨missing, still⟩ | ⟨first, row, known, present, balanced⟩
    · rw [missing, still]
      rfl
    · cases Table.lookup_key known
      rw [known, present, Option.map_some, Option.map_some, balanced.version]
  restored := by
    intro returned sku
    rcases history.ledgered sku with ⟨missing, still⟩ | ⟨first, row, known, present, balanced⟩
    · rw [missing, still]
    · have available := balanced.available
      have reserved := balanced.reserved
      rw [returned] at available reserved
      rw [known, present, Option.map_some, Option.map_some]
      congr 2
      · omega
      · omega

end Histories

/-! ## The version column -/

/-- A table with one row. -/
def oneRow (row : InventoryRecord) : Database where
  orders := .empty
  inventory := ⟨[row], List.nodup_singleton _⟩
  sagas := .empty
  steps := .empty
  outbox := .empty
  sagas_order := Database.noSagas_order
  steps_saga := Database.noSteps_saga

/-- Two of three units are reserved and given back. -/
theorem matched_conserves_returned : ∃ log db, Conserved (oneRow ⟨"X", 3, 0, 1⟩) log db ∧ log.length = 2 :=
  ⟨_, _, matched_conserves (by decide)
    (.executed (.release "X" 2) (.executed (.reserve "X" 2) .begun trivial) (le_of_eq rfl)), rfl⟩

/-- One unit is stocked, but the row's version is the largest `INT`: a
reservation of that unit fails. -/
theorem version_overflows : ¬ ∀ start : Database,
    (∀ row ∈ start.inventory.rows, row.available + row.reserved ≤ intMax) → ∀ log db, History start log db →
      ∀ event ∈ log, ∀ sku quantity, event.statement = .reserve sku quantity →
        (event.reply = .ok true ↔
          ∃ row, event.before.inventory.lookup sku = some row ∧ quantity ≤ row.available) := by
  intro claimed
  have exactly := claimed (oneRow ⟨"X", 1, 0, intMax⟩) (by decide) _ _ (.executed (.reserve "X" 1) .begun trivial) _
    List.mem_cons_self "X" 1 (execute_statement _ _)
  rw [execute_before] at exactly
  have succeeded := exactly.mpr ⟨⟨"X", 1, 0, intMax⟩, rfl, Nat.le_refl 1⟩
  cases succeeded

end Orderly
