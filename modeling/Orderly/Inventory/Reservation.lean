import Orderly.Process.Execution
import Orderly.Fulfilment.Stock
import Orderly.Inventory.Locks

/-!
# All-or-nothing reservation

`reserveInventory` updates the rows of an order one after another and never
takes an update back.  A line that cannot be reserved therefore leaves the
lines before it reserved, although the call reports that nothing was.

The call runs alone here, against an environment that grants or refuses each
lock and serves, loses or rejects each statement.  It is all or nothing exactly
when its first line already fails to take units, or every line succeeds.
-/

namespace Orderly

open Process (Program System)

/-- An environment chooses each answer by what the call has done so far. -/
abbrev Environment := CallLog → ports.Call → Choice

/-! ## What the environment decides about a line -/

namespace Choice

/-- A lock request is granted. -/
def grants : Choice → Bool
  | .serve => true
  | .answer _ => true
  | _ => false

/-- The answer arrives. -/
def answers : Choice → Bool
  | .lose _ => false
  | .reject _ => false
  | _ => true

/-- The call takes effect. -/
def lands : Choice → Bool
  | .reject _ => false
  | _ => true

theorem lands_of_answers {choice : Choice} (answered : choice.answers = true) : choice.lands = true := by
  cases choice with
  | reject error => cases answered
  | _ => rfl

end Choice

/-- The table after the line's own update, if that finds its row with enough units. -/
def takes (db : Database) (item : InventoryReservation) : Option Database :=
  match db.reserve item.sku item.quantity with
  | .ok (true, after) => some after
  | _ => none

namespace World

variable {platform : Platform} {world : World} {choice : Choice}

theorem acquire_granted (granted : choice.grants = true) (resourceId : String) (ttlMs : Nat) :
    world.perform platform (.acquire resourceId ttlMs) choice =
      (.ok (some ⟨world.nextUuid, resourceId⟩), { world with nextUuid := world.nextUuid + 1 }) := by
  cases choice with
  | serve => rfl
  | answer result => rfl
  | _ => cases granted

theorem acquire_denied (denied : choice.grants = false) (resourceId : String) (ttlMs : Nat) :
    ((world.perform platform (.acquire resourceId ttlMs) choice).1 = .ok none ∨
        ∃ error, (world.perform platform (.acquire resourceId ttlMs) choice).1 = .error error) ∧
      (world.perform platform (.acquire resourceId ttlMs) choice).2.db = world.db := by
  cases choice with
  | refuse => exact ⟨Or.inl rfl, rfl⟩
  | lose error => exact ⟨Or.inr ⟨error, rfl⟩, rfl⟩
  | reject error => exact ⟨Or.inr ⟨error, rfl⟩, rfl⟩
  | serve => cases denied
  | answer result => cases denied

theorem findBySku_served (served : choice.answers = true) (sku : String) :
    world.perform platform (.findBySku sku) choice = (.ok (world.db.inventory.lookup sku), world) := by
  cases choice with
  | lose error => cases served
  | reject error => cases served
  | _ => rfl

theorem findBySku_failed (failed : choice.answers = false) (sku : String) :
    ∃ error, world.perform platform (.findBySku sku) choice = (.error error, world) := by
  cases choice with
  | lose error => exact ⟨error, rfl⟩
  | reject error => exact ⟨error, rfl⟩
  | _ => cases failed

/-- An update that passed the check fails when the table cannot serve it. -/
theorem reserve_untaken {item : InventoryReservation} (untaken : takes world.db item = none)
    (enough : InventoryService.insufficient (world.db.inventory.lookup item.sku) item = false) :
    ∃ error after, world.perform platform (.reserve item.sku item.quantity) choice = (.error error, after) ∧
      after.db = world.db := by
  have rejected : ∃ error, world.db.reserve item.sku item.quantity = .error error := by
    unfold takes at untaken
    rcases result : world.db.reserve item.sku item.quantity with error | ⟨answer, after⟩
    · exact ⟨error, rfl⟩
    · exfalso
      cases answer with
      | true => simp [result] at untaken
      | false =>
          unfold Database.reserve at result
          unfold InventoryService.insufficient at enough
          split at result
          · cases result
          · split at result
            · next missing => simp [missing] at enough
            · next row found =>
                simp only [found, decide_eq_false_iff_not] at enough
                rw [if_neg enough] at result
                split at result <;> cases result
  rcases rejected with ⟨failure, rejected⟩
  have performed : world.effect platform (.reserve item.sku item.quantity) choice = (.error failure, world) := by
    simp [effect, rejected, settle]
  cases choice with
  | reject error => exact ⟨error, world, rfl, rfl⟩
  | lose error => exact ⟨error, world, by simp [perform, effect, Call.isLocal, rejected, settle], rfl⟩
  | serve => exact ⟨failure, world, performed, rfl⟩
  | refuse => exact ⟨failure, world, performed, rfl⟩
  | answer result => exact ⟨failure, world, performed, rfl⟩

/-- An update that the table can serve is rejected, loses its answer, or succeeds. -/
theorem reserve_taken (platform : Platform) (choice : Choice) {item : InventoryReservation} {db : Database}
    (taken : takes world.db item = some db) :
    (choice.lands = false ∧
        ∃ error, world.perform platform (.reserve item.sku item.quantity) choice = (.error error, world)) ∨
      ((choice.lands = true ∧ choice.answers = false) ∧
        ∃ error, world.perform platform (.reserve item.sku item.quantity) choice =
          (.error error, { world with db })) ∨
      (choice.answers = true ∧
        world.perform platform (.reserve item.sku item.quantity) choice = (.ok true, { world with db })) := by
  have result : world.db.reserve item.sku item.quantity = .ok (true, db) := by
    unfold takes at taken
    split at taken
    · next found =>
        cases taken
        exact found
    · cases taken
  have performed : world.effect platform (.reserve item.sku item.quantity) choice = (.ok true, { world with db }) := by
    simp [effect, result, settle]
  cases choice with
  | reject error => exact Or.inl ⟨rfl, error, rfl⟩
  | lose error =>
      exact Or.inr (Or.inl ⟨⟨rfl, rfl⟩, error, by simp [perform, effect, Call.isLocal, result, settle]⟩)
  | serve => exact Or.inr (Or.inr ⟨rfl, performed⟩)
  | refuse => exact Or.inr (Or.inr ⟨rfl, performed⟩)
  | answer reply => exact Or.inr (Or.inr ⟨rfl, performed⟩)

end World

/-- A line that the table can serve has its row with enough units. -/
theorem takes_sufficient {db after : Database} {item : InventoryReservation} (taken : takes db item = some after) :
    InventoryService.insufficient (db.inventory.lookup item.sku) item = false ∧ ∀ sku,
      after.quantityAvailable sku + (if sku = item.sku then item.quantity else 0) = db.quantityAvailable sku ∧
        after.quantityReserved sku = db.quantityReserved sku + (if sku = item.sku then item.quantity else 0) := by
  unfold takes at taken
  split at taken
  · next result =>
      cases taken
      rcases (Database.reserve_ok result).2 with ⟨impossible, _⟩ | ⟨_, row, found, enough, update⟩
      · cases impossible
      · refine ⟨by simpa [InventoryService.insufficient, found] using enough, fun sku => ?_⟩
        rcases Database.reserve_quantities found update sku with ⟨available, reserved⟩
        refine ⟨?_, reserved⟩
        rw [available]
        split
        · next same =>
            subst same
            have stock : db.quantityAvailable item.sku = row.available := by simp [Database.quantityAvailable, found]
            omega
        · rfl
  · cases taken

/-! ## One line -/

section Line

variable {platform : Platform} {strategy : Environment} {item : InventoryReservation}
  {rest : List InventoryReservation} {releases : List LockRelease} {world : World} {log : CallLog}
  {lock read update : Choice}

/-- The line's update takes units. -/
def landsLine (db : Database) (item : InventoryReservation) (lock read update : Choice) : Bool :=
  lock.grants && read.answers && update.lands && (takes db item).isSome

/-- How the loop goes on from one line, when its calls are answered in this way. -/
inductive LineGoes (platform : Platform) (strategy : Environment) (item : InventoryReservation)
    (rest : List InventoryReservation) (releases : List LockRelease) (db : Database) (log : CallLog)
    (lock read update : Choice) :
    Except JsError (List LockRelease × Except JsError Bool) × World × CallLog → Prop where
  /-- The loop ends before the line has taken units. -/
  | spared (releases' : List LockRelease) (outcome : Except JsError Bool) (after : World) (log' : CallLog)
      (failed : outcome ≠ .ok true) (same : after.db = db)
      (untaken : landsLine db item lock read update = false)
      (reason : lock.grants = false ∨ InventoryService.insufficient (db.inventory.lookup item.sku) item = true ∨
        ∃ event ∈ log', ∃ error, event.reply = .error error) :
      LineGoes platform strategy item rest releases db log lock read update
        (.ok (releases', outcome), after, log')
  /-- The units are taken, but the answer is lost. -/
  | lost (releases' : List LockRelease) (outcome : Except JsError Bool) (after : World) (log' : CallLog)
      (failed : outcome ≠ .ok true) (taken : takes db item = some after.db)
      (landed : lock.grants = true ∧ read.answers = true ∧ update.lands = true) (unanswered : update.answers = false)
      (reason : ∃ event ∈ log', ∃ error, event.reply = .error error) :
      LineGoes platform strategy item rest releases db log lock read update
        (.ok (releases', outcome), after, log')
  /-- The line is reserved and the loop continues. -/
  | reserved (release : LockRelease) (after : World) (log' : CallLog) (taken : takes db item = some after.db)
      (answered : lock.grants = true ∧ read.answers = true ∧ update.answers = true)
      (calls : log'.length = log.length + 3)
      (locks : obtained log' = obtained log ++ [("inventory:" ++ item.sku, release)])
      (kept : unlocked log' = unlocked log) :
      LineGoes platform strategy item rest releases db log lock read update
        ((orderly platform).play strategy (InventoryService.reserveLoop rest (releases ++ [release])) after log')

/-- One line of the loop of `reserveInventory`. -/
theorem reserveLoop_line {ended : Except JsError (List LockRelease × Except JsError Bool) × World × CallLog}
    (played : ended =
      (orderly platform).play strategy (InventoryService.reserveLoop (item :: rest) releases) world log)
    (first : strategy log (.acquire ("inventory:" ++ item.sku) InventoryService.lockTtlMs) = lock)
    (second : ∀ event, strategy (event :: log) (.findBySku item.sku) = read)
    (third : ∀ event earlier, strategy (event :: earlier :: log) (.reserve item.sku item.quantity) = update) :
    LineGoes platform strategy item rest releases world.db log lock read update ended := by
  rcases granted : lock.grants with _ | _
  · rcases World.acquire_denied granted ("inventory:" ++ item.sku) InventoryService.lockTtlMs with ⟨reply, same⟩
    rcases performed : world.perform platform (.acquire ("inventory:" ++ item.sku) InventoryService.lockTtlMs) lock with
      ⟨answer, after⟩
    rw [performed] at reply same
    have acquired := played.trans (System.play_attempt_call (first ▸ performed))
    have untaken : landsLine world.db item lock read update = false := by simp [landsLine, granted]
    rcases reply with rfl | ⟨error, rfl⟩
    · subst acquired
      exact .spared _ _ _ _ (fun same => by cases same) same untaken (Or.inl granted)
    · subst acquired
      exact .spared _ _ _ _ (fun same => by cases same) same untaken (Or.inl granted)
  · have performed : world.perform platform (.acquire ("inventory:" ++ item.sku) InventoryService.lockTtlMs) lock = _ :=
      World.acquire_granted granted _ _
    have acquired := played.trans (System.play_attempt_call (first ▸ performed))
    generalize locked : { world with nextUuid := world.nextUuid + 1 } = after at acquired performed
    have sameDb : after.db = world.db := by rw [← locked]
    rw [← sameDb]
    rcases served : read.answers with _ | _
    · have failing : ∃ error, after.perform platform (.findBySku item.sku) read = (.error error, after) :=
        World.findBySku_failed served item.sku
      rcases failing with ⟨error, failed⟩
      have ended := acquired.trans (System.play_attempt_call (second _ ▸ failed))
      subst ended
      refine .spared _ _ _ _ (fun same => by cases same) rfl ?_ ?_
      · simp [landsLine, served]
      · exact Or.inr (Or.inr ⟨_, List.mem_cons_self, error, rfl⟩)
    · have found : after.perform platform (.findBySku item.sku) read = _ := World.findBySku_served served item.sku
      have seen := acquired.trans (System.play_attempt_call (second _ ▸ found))
      cases short : InventoryService.insufficient (after.db.inventory.lookup item.sku) item with
      | true =>
          have ended := seen.trans (by
            change System.play _ _ (if _ then _ else _) _ _ = _
            rw [if_pos short])
          subst ended
          refine .spared _ _ _ _ (fun same => by cases same) rfl ?_ (Or.inr (Or.inl short))
          cases taken : takes after.db item with
          | none => simp [landsLine, taken]
          | some db =>
              rw [(takes_sufficient taken).1] at short
              cases short
      | false =>
          have asked := seen.trans (by
            change System.play _ _ (if _ then _ else _) _ _ = _
            rw [if_neg (Bool.not_eq_true _ ▸ short)])
          cases taken : takes after.db item with
          | none =>
              have failing : ∃ error later,
                  after.perform platform (.reserve item.sku item.quantity) update = (.error error, later) ∧
                    later.db = after.db := World.reserve_untaken taken short
              rcases failing with ⟨error, later, failed, same⟩
              have ended := asked.trans (System.play_attempt_call (third _ _ ▸ failed))
              subst ended
              refine .spared _ _ _ _ (fun same => by cases same) same ?_ ?_
              · simp [landsLine, taken]
              · exact Or.inr (Or.inr ⟨_, List.mem_cons_self, error, rfl⟩)
          | some db =>
              rcases World.reserve_taken platform update taken with
                ⟨rejected, error, failed⟩ | ⟨landed, error, failed⟩ | ⟨answered, done⟩
              · have ended := asked.trans (System.play_attempt_call (third _ _ ▸ failed))
                subst ended
                refine .spared _ _ _ _ (fun same => by cases same) rfl ?_ ?_
                · simp [landsLine, rejected]
                · exact Or.inr (Or.inr ⟨_, List.mem_cons_self, error, rfl⟩)
              · have ended := asked.trans (System.play_attempt_call (third _ _ ▸ failed))
                subst ended
                exact .lost _ _ _ _ (fun same => by cases same) taken ⟨granted, served, landed.1⟩ landed.2
                  ⟨_, List.mem_cons_self, error, rfl⟩
              · have ended := asked.trans (System.play_attempt_call (third _ _ ▸ done))
                subst ended
                exact .reserved _ _ _ taken ⟨granted, served, answered⟩ rfl (by simp [obtained, acquisition])
                  (by simp [unlocked])

end Line

/-! ## The whole loop -/

/-- The units of some lines have moved from available to reserved. -/
def Moved (before after : Database) (items : List InventoryReservation) : Prop :=
  ∀ sku, after.quantityAvailable sku + quantityOf items sku = before.quantityAvailable sku ∧
    after.quantityReserved sku = before.quantityReserved sku + quantityOf items sku

/-- The inventory table has the quantities it had. -/
def SameQuantities (before after : Database) : Prop :=
  ∀ sku, after.quantityAvailable sku = before.quantityAvailable sku ∧
    after.quantityReserved sku = before.quantityReserved sku

/-- What the doc comment of `reserveInventory` promises of a call that settles. -/
def AllOrNothing (items : List InventoryReservation) (before after : Database) : Except JsError Bool → Prop
  | .ok true => Moved before after items
  | _ => SameQuantities before after

/-- From a given call on, every lock is granted, every statement is answered,
and line after line the table has the units. -/
def secured (answers : Nat → Choice) : Nat → List InventoryReservation → Database → Bool
  | _, [], _ => true
  | call, item :: rest, db =>
      (answers call).grants && (answers (call + 1)).answers && (answers (call + 2)).answers &&
        match takes db item with
        | some after => secured answers (call + 3) rest after
        | none => false

/-- The first line takes no units. -/
def spared (answers : Nat → Choice) : List InventoryReservation → Database → Bool
  | [], _ => true
  | item :: _, db => !landsLine db item (answers 0) (answers 1) (answers 2)


/-- A call whose lines all succeed takes the first line's units. -/
theorem landsLine_of_secured {answers : Nat → Choice} {call : Nat} {item : InventoryReservation}
    {rest : List InventoryReservation} {db : Database} (secure : secured answers call (item :: rest) db = true) :
    landsLine db item (answers call) (answers (call + 1)) (answers (call + 2)) = true := by
  simp only [secured, Bool.and_eq_true] at secure
  rcases secure with ⟨⟨⟨granted, read⟩, updated⟩, taken⟩
  have landed := Choice.lands_of_answers updated
  cases found : takes db item with
  | none => simp [found] at taken
  | some after => simp [landsLine, granted, read, landed, found]

theorem Moved.refl (db : Database) : Moved db db [] := fun _ => ⟨rfl, rfl⟩

theorem Moved.cons {before middle after : Database} {item : InventoryReservation}
    {items : List InventoryReservation} (first : takes before item = some middle) (later : Moved middle after items) :
    Moved before after (item :: items) := by
  intro sku
  have moved := (takes_sufficient first).2 sku
  have rest := later sku
  simp only [quantityOf_cons, eq_comm] at moved ⊢
  omega

theorem Moved.of_same {before after : Database} (same : after = before) : Moved before after [] := by
  rw [same]
  exact Moved.refl before

/-- Lines with positive quantities that have moved nothing are no lines. -/
theorem Moved.same_iff {before after : Database} {items : List InventoryReservation}
    (moved : Moved before after items) (positive : ∀ item ∈ items, 0 < item.quantity) :
    SameQuantities before after ↔ items = [] := by
  constructor
  · intro same
    cases items with
    | nil => rfl
    | cons item rest =>
        exfalso
        have units := positive item List.mem_cons_self
        have here := (moved item.sku).1
        have unchanged := (same item.sku).1
        simp only [quantityOf_cons, if_true] at here
        omega
  · rintro rfl sku
    exact ⟨by simpa using (moved sku).1, by simpa using (moved sku).2⟩

/-- How the loop ends, from a certain call on. -/
structure LoopEnds (answers : Nat → Choice) (call : Nat) (items : List InventoryReservation) (before : Database)
    (outcome : Except JsError Bool) (after : Database) : Prop where
  succeeds : outcome = .ok true ↔ secured answers call items before = true
  partly : ∃ taken, taken <+: items ∧ Moved before after taken ∧ (outcome = .ok true → taken = items) ∧
    (taken = [] ↔ ∀ item ∈ items.head?,
      landsLine before item (answers call) (answers (call + 1)) (answers (call + 2)) = false)

/-- Against an environment that answers the calls in turn, the loop has taken a
prefix of its lines. -/
theorem reserveLoop_ends (platform : Platform) (answers : Nat → Choice) (items : List InventoryReservation)
    (releases : List LockRelease) (world : World) (log : CallLog) :
    ∃ releases' outcome after log',
      (orderly platform).play (fun log _ => answers log.length) (InventoryService.reserveLoop items releases) world log =
          (.ok (releases', outcome), after, log') ∧
        LoopEnds answers log.length items world.db outcome after.db := by
  induction items generalizing releases world log with
  | nil =>
      refine ⟨releases, .ok true, world, log, rfl, by simp [secured], [], List.nil_prefix, Moved.refl _, ?_, ?_⟩
      · exact fun _ => rfl
      · simp
  | cons item rest inductionHypothesis =>
      generalize ended : (orderly platform).play (fun log _ => answers log.length)
        (InventoryService.reserveLoop (item :: rest) releases) world log = result
      have goes : LineGoes platform (fun log _ => answers log.length) item rest releases world.db log
          (answers log.length) (answers (log.length + 1)) (answers (log.length + 2)) result :=
        reserveLoop_line ended.symm rfl (fun _ => rfl) (fun _ _ => rfl)
      cases goes with
      | spared releases' outcome after log' failed same untaken reason =>
          refine ⟨releases', outcome, after, log', rfl, ⟨?_, [], List.nil_prefix, Moved.of_same same, ?_, ?_⟩⟩
          · refine ⟨fun succeeded => absurd succeeded failed, fun secure => ?_⟩
            exfalso
            rw [landsLine_of_secured secure] at untaken
            cases untaken
          · exact fun succeeded => absurd succeeded failed
          · simpa using untaken
      | lost releases' outcome after log' failed taken landed unanswered reason =>
          refine ⟨releases', outcome, after, log', rfl, ⟨?_, [item], ?_, Moved.cons taken (Moved.refl _), ?_, ?_⟩⟩
          · refine ⟨fun succeeded => absurd succeeded failed, fun secure => ?_⟩
            simp [secured, unanswered] at secure
          · simp
          · exact fun succeeded => absurd succeeded failed
          · simp [landsLine, landed, taken]
      | reserved release after log' taken answered calls locks kept =>
          rcases inductionHypothesis (releases ++ [release]) after log' with
            ⟨releases', outcome, final, log'', played, succeeds, lines, initial, moved, all, _⟩
          refine ⟨releases', outcome, final, log'', played, ⟨?_, item :: lines, ?_, Moved.cons taken moved, ?_, ?_⟩⟩
          · rw [succeeds, calls]
            simp [secured, answered, taken]
          · exact (List.prefix_cons_inj item).mpr initial
          · intro succeeded
            rw [all succeeded]
          · have landed := Choice.lands_of_answers answered.2.2
            simp [landsLine, answered, landed, taken]

/-- Calls that give locks back leave the tables as they are. -/
theorem allSettled_play (platform : Platform) (strategy : Environment) (releases : List LockRelease) (world : World)
    (log : CallLog) : ∃ log', (orderly platform).play strategy (LockManager.allSettled releases) world log =
      (.ok (), world, log') ∧ ∀ event ∈ log, event ∈ log' := by
  induction releases generalizing log with
  | nil => exact ⟨log, rfl, fun _ member => member⟩
  | cons release rest inductionHypothesis =>
      have performed : ∃ reply, world.perform platform (.unlock release) (strategy log (.unlock release)) =
          (reply, world) := by
        cases strategy log (.unlock release) with
        | lose error => exact ⟨.error error, rfl⟩
        | reject error => exact ⟨.error error, rfl⟩
        | _ => exact ⟨.ok (), rfl⟩
      rcases performed with ⟨reply, performed⟩
      have called : (orderly platform).play strategy (LockManager.allSettled (release :: rest)) world log = _ :=
        System.play_attempt_call performed
      rcases inductionHypothesis (⟨.unlock release, reply, world, world⟩ :: log) with ⟨log', played, later⟩
      exact ⟨log', called.trans played, fun event member => later event (List.mem_cons_of_mem _ member)⟩

/-- The `finally` block hands on what the loop has decided. -/
theorem reserveInventory_play {platform : Platform} {strategy : Environment} {items : List InventoryReservation}
    {world after : World} {releases : List LockRelease} {outcome : Except JsError Bool} {log : CallLog}
    (looped : (orderly platform).play strategy
        (InventoryService.reserveLoop (InventoryService.sortItems platform items) []) world [] =
      (.ok (releases, outcome), after, log)) :
    ∃ log', (orderly platform).play strategy (InventoryService.reserveInventory platform items) world [] =
      (outcome, after, log') ∧ ∀ event ∈ log, event ∈ log' := by
  rcases allSettled_play platform strategy releases after log with ⟨log', settled, later⟩
  refine ⟨log', ?_, later⟩
  unfold InventoryService.reserveInventory
  rw [System.play_bind, looped]
  simp only
  rw [System.play_bind, settled]
  exact System.play_ofExcept outcome

/-- A call of `reserveInventory` that runs alone, with its calls answered in turn. -/
def reservation (platform : Platform) (world : World) (items : List InventoryReservation) (answers : Nat → Choice) :
    Except JsError Bool × World × CallLog :=
  (orderly platform).play (fun log _ => answers log.length) (InventoryService.reserveInventory platform items) world []

/-- `reserveInventory` is all or nothing exactly when its first line takes no
units or every line succeeds. -/
theorem reservation_all_or_nothing_iff (platform : Platform) (world : World) (items : List InventoryReservation)
    (positive : ∀ item ∈ items, 0 < item.quantity) (answers : Nat → Choice) :
    AllOrNothing items world.db (reservation platform world items answers).2.1.db
        (reservation platform world items answers).1 ↔
      (spared answers (InventoryService.sortItems platform items) world.db ||
        secured answers 0 (InventoryService.sortItems platform items) world.db) = true := by
  rcases reserveLoop_ends platform answers (InventoryService.sortItems platform items) [] world [] with
    ⟨releases, outcome, after, log, looped, ends⟩
  rcases reserveInventory_play looped with ⟨log', played, _⟩
  have settled : reservation platform world items answers = (outcome, after, log') := played
  rw [settled]
  rcases ends.partly with ⟨taken, initial, moved, all, nothing⟩
  have positiveTaken : ∀ item ∈ taken, 0 < item.quantity := fun item member =>
    positive item ((InventoryService.sortItems_perm platform items).mem_iff.mp (initial.subset member))
  have sparedIff : spared answers (InventoryService.sortItems platform items) world.db = true ↔ taken = [] := by
    rw [nothing]
    cases InventoryService.sortItems platform items with
    | nil => simp [spared]
    | cons item rest => simp [spared]
  by_cases succeeded : outcome = .ok true
  · have secure := ends.succeeds.mp succeeded
    rw [List.length_nil] at secure
    rw [succeeded, secure, Bool.or_true]
    refine ⟨fun _ => rfl, fun _ sku => ?_⟩
    have here := moved sku
    rw [all succeeded, quantityOf_sortItems] at here
    exact here
  · have insecure : secured answers 0 (InventoryService.sortItems platform items) world.db = false := by
      rw [← Bool.not_eq_true]
      exact fun secure => succeeded (ends.succeeds.mpr secure)
    have failed : AllOrNothing items world.db after.db outcome ↔ SameQuantities world.db after.db := by
      rcases outcome with error | (_ | _)
      · exact Iff.rfl
      · exact Iff.rfl
      · exact absurd rfl succeeded
    rw [insecure, Bool.or_false, sparedIff]
    exact failed.trans (moved.same_iff positiveTaken)

/-- The rule applied to an order that takes two of three units. -/
theorem reservation_all_or_nothing_served :
    AllOrNothing [⟨"X", 2⟩] (smallShop 3).db (reservation postgresJs (smallShop 3) [⟨"X", 2⟩] fun _ => .serve).2.1.db
      (reservation postgresJs (smallShop 3) [⟨"X", 2⟩] fun _ => .serve).1 :=
  (reservation_all_or_nothing_iff postgresJs (smallShop 3) [⟨"X", 2⟩] (by decide) fun _ => .serve).mpr
    (by decide +kernel)

/-- One unit of one SKU is stocked and none of another.  An order of both
reports `false` and keeps the unit it has taken. -/
theorem reserves_partly : ¬ ∀ items : List InventoryReservation, (∀ item ∈ items, 0 < item.quantity) →
    ∀ answers, AllOrNothing items (smallShop 1).db (reservation postgresJs (smallShop 1) items answers).2.1.db
      (reservation postgresJs (smallShop 1) items answers).1 := by
  intro claimed
  have promised := claimed [⟨"X", 1⟩, ⟨"Y", 1⟩] (by decide) fun _ => .serve
  have refused : (reservation postgresJs (smallShop 1) [⟨"X", 1⟩, ⟨"Y", 1⟩] fun _ => .serve).1 = .ok false := rfl
  rw [refused] at promised
  have kept := (promised "X").1
  revert kept
  decide +kernel

end Orderly
