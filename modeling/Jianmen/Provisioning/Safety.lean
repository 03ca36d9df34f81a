import Jianmen.Provisioning.Discipline

/-!
# The programs keep to the discipline

Each step of a program is safe where the program stands, and so is each program.  A request that
returns an account ends with a row of the operation it names, and a request is answered with a
conflict exactly if it has found another request under its key.
-/

namespace Jianmen.Provisioning

open Discipline

/-! ## Single calls -/

/-- The worker waits for nothing, and its last call was not to insert an operation in vain. -/
structure Stance.Idle (stance : Stance) : Prop where
  waits : stance.standing.waits = false
  sure : stance.lost = false

/-- The worker is idle, still knows its rows, and has found no more. -/
structure Stance.Rests (stance before : Stance) : Prop where
  idle : stance.Idle
  rows : before.rows ⊆ stance.rows
  found : stance.found = before.found

variable {steady : Bool} {stance before next : Stance} {operation row : Operation}
  {move : Transition} {α : Type}

variable {standing : Standing} {ending : Bool → Stance → Prop} {actorId key hash accountId : String}
  {codec : Codec}

theorem Standing.waits_weaken (idle : standing.waits = false) : standing.weaken.waits = false := by
  cases standing with
  | sent => cases idle
  | free | creator | started | holder | absent => rfl

theorem Standing.waits_wrote (row : Operation) (idle : standing.waits = false) :
    (standing.wrote row).waits = false := by
  have weaker := Standing.waits_weaken idle
  simp only [Standing.wrote]
  split
  · rfl
  · exact weaker

theorem Standing.waits_moved (id : String) (stage : Stage) (idle : standing.waits = false) :
    (standing.moved id stage).waits = false := by
  have weaker := Standing.waits_weaken idle
  simp only [Standing.moved]
  split
  · split
    · rfl
    · rfl
  · exact weaker

theorem Standing.waits_renewed (row : Operation) (idle : standing.waits = false) :
    (standing.renewed row).waits = false := by
  have wrote := Standing.waits_wrote row idle
  simp only [Standing.renewed]
  split
  · split
    · rfl
    · rfl
  · exact wrote

theorem Stance.Idle.rests (idle : stance.Idle) : stance.Rests stance :=
  ⟨idle, fun _ member => member, rfl⟩

theorem Stance.Rests.trans (later : next.Rests stance) (rests : stance.Rests before) :
    next.Rests before :=
  ⟨later.idle, fun _ member => later.rows (rests.rows member), later.found.trans rests.found⟩

theorem Stance.Idle.weaken (idle : stance.Idle) : stance.weaken.Rests stance :=
  ⟨⟨Standing.waits_weaken idle.waits, idle.sure⟩, fun _ member => member, rfl⟩

theorem Stance.Idle.moved (idle : stance.Idle) (id : String) (stage : Stage) :
    (stance.moved id stage).Rests stance :=
  ⟨⟨Standing.waits_moved id stage idle.waits, idle.sure⟩, fun _ member => member, rfl⟩

theorem Stance.Idle.wrote (idle : stance.Idle) (row : Operation) :
    (stance.write row (stance.standing.wrote row)).Rests stance :=
  ⟨⟨Standing.waits_wrote row idle.waits, idle.sure⟩, fun _ member => .tail _ member, rfl⟩

theorem Stance.Idle.renewed (idle : stance.Idle) (row : Operation) :
    (stance.write row (stance.standing.renewed row)).Rests stance :=
  ⟨⟨Standing.waits_renewed row idle.waits, idle.sure⟩, fun _ member => .tail _ member, rfl⟩

/-- Only lookups find rows, and only insertions fail. -/
theorem Stance.after_eq {action : Action} {reply : Reply action} (sure : stance.lost = false)
    (finds : action.finds reply = none) (fails : action.fails reply = false) :
    stance.after action reply = stance.step action reply := by
  have kept : (stance.step action reply).found = stance.found ∧
      (stance.step action reply).lost = stance.lost := by
    cases action with
    | create | transition | operation | claim | renew | beginDeprovision | createResult
    | dropAccount =>
      simp only [Stance.step]
      split <;> exact ⟨rfl, rfl⟩
    | _ => exact ⟨rfl, rfl⟩
  rw [Stance.after, finds, fails, Option.toList_none, List.nil_append, ← kept.1, ← sure, ← kept.2]

/-- A call that is neither a lookup nor an insertion. -/
theorem safe_ask {action : Action} {ending : Reply action → Stance → Prop}
    (sure : stance.lost = false) (permitted : stance.permits steady action)
    (plain : ∀ reply, action.finds reply = none ∧ action.fails reply = false)
    (done : ∀ reply, stance.possible steady action reply →
      ending reply (stance.step action reply)) :
    (discipline steady).Safe stance (Job.ask action) ending := by
  refine ⟨permitted, fun reply possible => ?_⟩
  change ending reply (stance.after action reply)
  rw [Stance.after_eq sure (plain reply).1 (plain reply).2]
  exact done reply possible

/-- A row of the same operation. -/
structure Operation.Follows (row operation : Operation) : Prop where
  id : row.id = operation.id
  origin : row.origin = operation.origin

theorem Operation.Follows.trans {later : Operation} (follows : later.Follows row)
    (earlier : row.Follows operation) : later.Follows operation :=
  ⟨follows.id.trans earlier.id, follows.origin.trans earlier.origin⟩

/-- A transition that leaves the stages in which the account is asked for. -/
theorem safe_transition {ending : Option Operation → Stance → Prop} (idle : stance.Idle)
    (member : operation ∈ stance.rows) (later : move.stage.past)
    (giving_up : steady = true → move.stage = .notCreated →
      stance.standing = .absent operation ∨ operation.stage = .reserved)
    (done : ∀ row next, next.Rests stance → row ∈ next.rows → row.Follows operation →
      row.stage.past → ending (some row) next)
    (failed : ∀ next, next.Rests stance → ending none next) :
    (discipline steady).Safe stance (Job.transitionDetached operation move) ending := by
  refine .bind (safe_ask idle.sure ⟨idle.waits, operation, member, rfl, giving_up⟩
    (fun _ => ⟨rfl, rfl⟩) fun reply _ => ?_)
  cases reply with
  | false => exact failed _ idle.weaken
  | true =>
    have moved := idle.moved operation.id move.stage
    have past : operation.id ∈ (stance.moved operation.id move.stage).past := by
      simp [Stance.moved, later]
    refine safe_ask moved.idle.sure ⟨moved.idle.waits, .inl past⟩ (fun _ => ⟨rfl, rfl⟩)
      fun reply possible => ?_
    cases reply with
    | none => exact failed _ moved
    | some row =>
      obtain ⟨id, origin, stage, -⟩ := possible row rfl
      exact done row _ ((moved.idle.wrote row).trans moved) (.head _)
        ⟨id, origin operation member rfl⟩ (stage past)

/-- The transition after which the account is asked for. -/
theorem safe_start {ending : Option Operation → Stance → Prop} (idle : stance.Idle)
    (made : stance.standing = .creator operation) (member : operation ∈ stance.rows)
    (starting : move.stage = .createStarted)
    (done : ∀ row next, next.Rests stance → row ∈ next.rows → next.standing = .creator row →
      row.Follows operation → (steady = true → row.stage = .createStarted) → ending (some row) next)
    (failed : ∀ next, next.Rests stance → ending none next) :
    (discipline steady).Safe stance (Job.transitionDetached operation move) ending := by
  refine .bind (safe_ask idle.sure ⟨idle.waits, operation, member, rfl, fun _ given_up => ?_⟩
    (fun _ => ⟨rfl, rfl⟩) fun reply _ => ?_)
  · rw [starting] at given_up
    cases given_up
  cases reply with
  | false => exact failed _ idle.weaken
  | true =>
    have moved := idle.moved operation.id move.stage
    have started : (stance.moved operation.id move.stage).standing = .started operation := by
      simp [Stance.moved, Standing.moved, made, Standing.weaken, starting]
    refine safe_ask moved.idle.sure ⟨moved.idle.waits, .inr ⟨operation, started, rfl⟩⟩
      (fun _ => ⟨rfl, rfl⟩) fun reply possible => ?_
    cases reply with
    | none => exact failed _ moved
    | some row =>
      obtain ⟨id, origin, -, stage⟩ := possible row rfl
      refine done row _ ((moved.idle.wrote row).trans moved) (.head _) ?_
        ⟨id, origin operation member rfl⟩ fun steadily => stage steadily operation started rfl
      change (stance.moved operation.id move.stage).standing.wrote row = .creator row
      rw [started]
      have same : row.id = operation.id := id
      simp only [Standing.wrote, Standing.weaken, if_pos same]

/-- A transition whose outcome does not matter. -/
theorem safe_note {ending : Unit → Stance → Prop} (later : move.stage.past)
    (other : move.stage ≠ .notCreated) (idle : stance.Idle) (member : operation ∈ stance.rows)
    (rests : ∀ next, next.Rests stance → ending () next) :
    (discipline steady).Safe stance (do let _ ← Job.transitionDetached operation move) ending :=
  .bind (safe_transition idle member later (fun _ given_up => absurd given_up other)
    (fun _ next rested _ _ _ => rests next rested) rests)

theorem safe_proceed (idle : stance.Idle) (either : ∀ answer, ending answer stance) :
    (discipline steady).Safe stance Job.proceed ending :=
  safe_ask idle.sure idle.waits (fun _ => ⟨rfl, rfl⟩) fun reply _ => either reply

theorem safe_account {ending : Option Account → Stance → Prop} {id : String} (idle : stance.Idle)
    (either : ∀ answer, ending answer stance) :
    (discipline steady).Safe stance (Job.provisionedDatabaseAccountByOperation id) ending :=
  safe_ask idle.sure idle.waits (fun _ => ⟨rfl, rfl⟩) fun reply _ => either reply

theorem safe_administrator {ending : Option (Instance × Account) → Stance → Prop}
    {instanceId adminAccountId : String} (idle : stance.Idle)
    (either : ∀ answer, ending answer stance) :
    (discipline steady).Safe stance (Job.databaseProvisioningAdmin instanceId adminAccountId)
      ending :=
  safe_ask idle.sure idle.waits (fun _ => ⟨rfl, rfl⟩) fun reply _ => either reply

theorem safe_random {ending : Option String → Stance → Prop} (idle : stance.Idle)
    (either : ∀ answer, ending answer stance) :
    (discipline steady).Safe stance Job.random ending :=
  safe_ask idle.sure idle.waits (fun _ => ⟨rfl, rfl⟩) fun reply _ => either reply

theorem safe_drop (idle : stance.Idle) (member : operation ∈ stance.rows)
    (past : operation.stage.past)
    (dropped : ending true { stance with standing := .absent operation })
    (failed : ending false stance) :
    (discipline steady).Safe stance (Job.dropAccount operation) ending := by
  refine safe_ask idle.sure ⟨idle.waits, member, past⟩ (fun _ => ⟨rfl, rfl⟩) fun reply _ => ?_
  cases reply with
  | false => exact failed
  | true => exact dropped

theorem safe_activate {ending : Option Account → Stance → Prop} (idle : stance.Idle)
    (member : operation ∈ stance.rows)
    (either : ∀ answer next, next.Rests stance → ending answer next) :
    (discipline steady).Safe stance (Service.activateDetached operation) ending := by
  have once : ∀ {stance : Stance} {ending : Option Account → Stance → Prop}, stance.Idle →
      operation ∈ stance.rows → (∀ answer, ending answer stance.weaken) →
      (discipline steady).Safe stance (Job.activateDatabaseProvisioningOperation operation.fence)
        ending :=
    fun idle member either => safe_ask idle.sure ⟨idle.waits, operation, member, rfl⟩
      (fun _ => ⟨rfl, rfl⟩) fun reply _ => either reply
  refine .bind (once idle member fun answer => ?_)
  cases answer with
  | some => exact either _ _ idle.weaken
  | none =>
    exact once idle.weaken.idle member fun answer =>
      either answer _ (idle.weaken.idle.weaken.trans idle.weaken)

/-! ## Renewals -/

variable {s : Service}

/-- A call ends before the lease does. -/
theorem sideEffectTimeout_lt {window : LeaseWindow} {timeout : Duration}
    (found : s.sideEffectTimeout window = some timeout) : timeout < window.remaining := by
  unfold Service.sideEffectTimeout at found
  split at found
  · cases found
  extract_lets margin left bounded at found
  split at found
  · cases found
  split at found
  · rename_i inside
    rw [← Option.some.inj found]
    exact inside.2.1
  · cases found

theorem safe_renew {ending : Option (Operation × Time) → Stance → Prop} (idle : stance.Idle)
    (member : operation ∈ stance.rows)
    (done : ∀ row next deadline, next.Rests stance → row ∈ next.rows →
      next.standing = stance.standing.renewed row → row.Follows operation →
      row.stage = operation.stage →
      (∃ expiry, row.leaseExpiresAt = some expiry ∧ deadline < expiry) →
      ending (some (row, deadline)) next)
    (failed : ∀ next, next.Rests stance → ending none next) :
    (discipline steady).Safe stance (s.renewForSideEffect operation) ending := by
  refine .bind (safe_proceed idle fun answer => ?_)
  split
  · exact failed _ idle.rests
  refine .bind (safe_ask idle.sure ⟨idle.waits, operation, member, rfl⟩ (fun _ => ⟨rfl, rfl⟩)
    fun reply possible => ?_)
  cases reply with
  | none => exact failed _ idle.weaken
  | some reply =>
    obtain ⟨started, row, window⟩ := reply
    obtain ⟨stage, id, origin, expiry, leased, left⟩ := possible started row window rfl
    have rests := idle.renewed row
    change (discipline steady).Safe (stance.write row (stance.standing.renewed row)) _ ending
    dsimp only
    cases found : s.sideEffectTimeout window with
    | none => exact failed _ rests
    | some =>
      refine .bind (safe_proceed rests.idle fun answer => ?_)
      split
      · refine done row _ _ rests (.head _) rfl ⟨id, origin operation member rfl⟩ stage
          ⟨expiry, leased, ?_⟩
        exact Nat.lt_of_lt_of_le (Nat.add_lt_add_left (sideEffectTimeout_lt found) _) left
      · exact failed _ rests

/-! ## Cleaning up -/

theorem safe_cleanup {reason : LastError} {ending : ProvisioningError → Stance → Prop}
    (idle : stance.Idle) (member : operation ∈ stance.rows)
    (either : ∀ error next, error ≠ .idempotencyConflict → next.Rests stance → ending error next) :
    (discipline steady).Safe stance (s.cleanupOperation operation reason) ending := by
  have unclean : ∀ next, next.Rests stance → ending .cleanupRequired next :=
    fun next rests => either _ next (by decide) rests
  unfold Service.cleanupOperation
  split
  · exact unclean _ idle.rests
  refine .bind (safe_transition idle member rfl (fun _ given_up => nomatch given_up) ?_ unclean)
  intro required next first required_mem _ _
  refine .bind (safe_transition first.idle required_mem rfl (fun _ given_up => nomatch given_up) ?_
    fun _ rests => unclean _ (rests.trans first))
  intro cleaning next second cleaning_mem _ cleaning_past
  replace second := second.trans first
  refine .bind
    (safe_renew second.idle cleaning_mem ?_ fun _ rests => unclean _ (rests.trans second))
  intro updated next deadline third updated_mem _ _ same _
  replace third := third.trans second
  refine .bind (safe_proceed third.idle fun answer => ?_)
  split
  · exact unclean _ third
  refine .bind (safe_drop third.idle updated_mem (same ▸ cleaning_past) ?_ ?_)
  · have dropped : Stance.Rests { next with standing := .absent updated } stance :=
      ⟨⟨rfl, third.idle.sure⟩, third.rows, third.found⟩
    refine .bind (safe_transition dropped.idle updated_mem rfl (fun _ _ => .inl rfl) ?_
      fun _ rests => unclean _ (rests.trans dropped))
    exact fun _ _ rests _ _ _ => either _ _ (by decide) (rests.trans dropped)
  · exact .bind (safe_note rfl (by decide) third.idle updated_mem fun _ rests =>
      unclean _ (rests.trans third))

theorem safe_cleanupUncertain {ending : ProvisioningError → Stance → Prop} (idle : stance.Idle)
    (member : operation ∈ stance.rows)
    (either : ∀ error next, error ≠ .idempotencyConflict → next.Rests stance → ending error next) :
    (discipline steady).Safe stance (s.cleanupUncertainCreate operation) ending := by
  refine .bind (safe_transition idle member rfl (fun _ given_up => nomatch given_up) ?_
    fun _ rests => either _ _ (by decide) rests)
  intro uncertain next first uncertain_mem _ _
  exact safe_cleanup first.idle uncertain_mem fun error next known rests =>
    either error next known (rests.trans first)

/-! ## Provisioning -/

/-- Answers that say something about an operation. -/
def Answers : Except ProvisioningError Provisioned → Bool
  | .ok _ | .error .cleanupRequired | .error .inProgress => true
  | .error _ => false

/-- The result is not a conflict, and what it says is about the operation. -/
structure Shows (before : Stance) (operation : Operation)
    (result : Except ProvisioningError Provisioned) (stance : Stance) : Prop where
  sure : stance.lost = false
  found : stance.found = before.found
  accepted : result ≠ .error .idempotencyConflict
  about : Answers result = true → ∃ row, (row ∈ stance.rows ∨ row ∈ stance.found) ∧
    row.origin = operation.origin ∧
    ∀ provisioned, result = .ok provisioned → row.id = provisioned.operationId

theorem Shows.error {error : ProvisioningError} (member : operation ∈ before.rows)
    (known : error ≠ .idempotencyConflict) (rests : stance.Rests before) :
    Shows before operation (.error error) stance where
  sure := rests.idle.sure
  found := rests.found
  accepted := fun same => known (Except.error.inj same)
  about := fun _ => ⟨operation, .inl (rests.rows member), rfl, fun _ ok => nomatch ok⟩

/-- What is shown of a later row is shown of an earlier one. -/
theorem Shows.earlier {result : Except ProvisioningError Provisioned}
    (shows : Shows before row result stance) (rests : before.Rests next)
    (follows : row.Follows operation) : Shows next operation result stance where
  sure := shows.sure
  found := shows.found.trans rests.found
  accepted := shows.accepted
  about := follows.origin ▸ shows.about

theorem safe_grantAndActivate (idle : stance.Idle) (member : operation ∈ stance.rows) :
    (discipline steady).Safe stance (s.grantAndActivate operation) (Shows stance operation) := by
  have unclean : ∀ next, next.Rests stance →
      Shows stance operation (.error .cleanupRequired) next :=
    fun _ rests => .error member (by decide) rests
  have failed : ∀ next, next.Rests stance → Shows stance operation (.error .failed) next :=
    fun _ rests => .error member (by decide) rests
  refine .bind (safe_transition idle member rfl (fun _ given_up => nomatch given_up) ?_ unclean)
  intro created next first created_mem created_follows _
  refine .bind (safe_transition first.idle created_mem rfl (fun _ given_up => nomatch given_up) ?_
    fun _ rests => unclean _ (rests.trans first))
  intro granting next second granting_mem granting_follows _
  replace second := second.trans first
  refine .bind (safe_renew second.idle granting_mem ?_ fun next rests => ?_)
  · intro renewed next deadline third renewed_mem _ renewed_follows _ _
    replace third := third.trans second
    refine .bind (safe_proceed third.idle fun answer => ?_)
    split
    · exact .bind (safe_note rfl (by decide) third.idle renewed_mem fun _ rests =>
        failed _ (rests.trans third))
    refine .bind (safe_ask third.idle.sure third.idle.waits (fun _ => ⟨rfl, rfl⟩)
      fun granted _ => ?_)
    change (discipline steady).Safe next (if _ then _ else _) _
    split
    · exact .bind (safe_cleanup third.idle renewed_mem fun _ _ known rests =>
        .error member known (rests.trans third))
    refine .bind (safe_transition third.idle renewed_mem rfl (fun _ given_up => nomatch given_up) ?_
      fun _ rests => failed _ (rests.trans third))
    intro pending next fourth pending_mem pending_follows _
    replace fourth := fourth.trans third
    refine .bind (safe_activate fourth.idle pending_mem fun answer next rests => ?_)
    have last := rests.trans fourth
    cases answer with
    | none =>
      exact .bind (safe_note rfl (by decide) rests.idle (rests.rows pending_mem) fun _ later =>
        failed _ (later.trans last))
    | some =>
      have follows := ((pending_follows.trans renewed_follows).trans granting_follows).trans
        created_follows
      refine ⟨last.idle.sure, last.found, fun error => (nomatch error), fun _ =>
        ⟨pending, .inl (rests.rows pending_mem), follows.origin, ?_⟩⟩
      rintro provisioned ⟨⟩
      rfl
  · exact .bind (safe_note rfl (by decide) rests.idle (rests.rows granting_mem) fun _ last =>
      failed _ (last.trans (rests.trans second)))

theorem safe_createUpstream (idle : stance.Idle) (made : stance.standing = .creator operation)
    (member : operation ∈ stance.rows) (reserved : operation.stage = .reserved) :
    (discipline steady).Safe stance (s.createUpstream operation) (Shows stance operation) := by
  have failed : ∀ next, next.Rests stance → Shows stance operation (.error .failed) next :=
    fun _ rests => .error member (by decide) rests
  refine .bind (safe_proceed idle fun answer => ?_)
  split
  · exact .bind (.bind (safe_transition idle member rfl (fun _ _ => .inr reserved)
      (fun _ next rests _ _ _ => failed next rests) failed))
  refine .bind (safe_start idle made member rfl ?_ failed)
  intro started next first started_mem still started_follows stage
  refine .bind (safe_renew first.idle started_mem ?_ fun _ rests => failed _ (rests.trans first))
  intro renewed next deadline second renewed_mem stands renewed_follows same leased
  replace second := second.trans first
  have holder : next.standing = .holder renewed := by
    rw [stands, still]
    simp [Standing.renewed, Standing.wrote, Standing.weaken, if_pos renewed_follows.id]
  refine .bind (safe_proceed second.idle fun answer => ?_)
  split
  · exact failed _ second
  refine .bind (.bind (safe_ask second.idle.sure
    ⟨holder, fun steadily => same.trans (stage steadily), leased⟩ (fun _ => ⟨rfl, rfl⟩)
    fun _ _ => safe_ask second.idle.sure rfl (fun _ => ⟨rfl, rfl⟩) fun reply _ => ?_))
  obtain ⟨disposition, succeeded⟩ := reply
  have landed : ∀ {standing : Standing}, standing.waits = false →
      Stance.Rests { next with standing := standing } stance :=
    fun free => ⟨⟨free, second.idle.sure⟩, second.rows, second.found⟩
  have follows := renewed_follows.trans started_follows
  have uncertain : (discipline steady).Safe { next with standing := .free }
      (do return .error (← s.cleanupUncertainCreate renewed)) (Shows stance operation) :=
    .bind (safe_cleanupUncertain (landed rfl).idle renewed_mem fun _ _ known rests =>
      .error member known (rests.trans (landed rfl)))
  cases disposition with
  | notSent | notCreated =>
    exact .bind (.bind (safe_transition (landed rfl).idle renewed_mem rfl (fun _ _ => .inl rfl)
      (fun _ _ rests _ _ _ => failed _ (rests.trans (landed rfl)))
      fun _ rests => failed _ (rests.trans (landed rfl))))
  | mayBeApplied => exact uncertain
  | applied =>
    cases succeeded with
    | false => exact uncertain
    | true =>
      change (discipline steady).Safe { next with standing := .free } (s.grantAndActivate renewed)
        (Shows stance operation)
      exact Safe.mono (safe_grantAndActivate (landed rfl).idle renewed_mem) fun _ _ shows =>
        shows.earlier (landed rfl) follows

/-- The operation that is known already. -/
theorem safe_idempotent (idle : stance.Idle) (member : operation ∈ stance.found) :
    (discipline steady).Safe stance (Service.idempotentProvisioningResult operation)
      (Shows stance operation) := by
  have shows : ∀ error, error ≠ .idempotencyConflict →
      Shows stance operation (.error error) stance :=
    fun error known => ⟨idle.sure, rfl, fun same => known (Except.error.inj same),
      fun _ => ⟨operation, .inr member, rfl, fun _ ok => nomatch ok⟩⟩
  unfold Service.idempotentProvisioningResult
  split
  · refine .bind (safe_account idle fun answer => ?_)
    cases answer with
    | none => exact shows _ (by decide)
    | some =>
      refine ⟨idle.sure, rfl, fun error => (nomatch error),
        fun _ => ⟨operation, .inr member, rfl, ?_⟩⟩
      rintro provisioned ⟨⟩
      rfl
  all_goals exact shows _ (by decide)

/-- The operation is the one an actor asks for with a key and a request. -/
structure Operation.Asked (operation : Operation) (actorId key hash : String) : Prop where
  actor : operation.actorId = trimSpace actorId
  key : operation.idempotencyKey = some key
  hash : trimSpace operation.requestHash = trimSpace hash

theorem Operation.Asked.of_origin (asked : operation.Asked actorId key hash)
    (same : row.origin = operation.origin) : row.Asked actorId key hash := by
  have actor : row.actorId = operation.actorId := congrArg Origin.actorId same
  have keys : row.idempotencyKey = operation.idempotencyKey := congrArg Origin.idempotencyKey same
  have hashes : row.requestHash = operation.requestHash := congrArg Origin.requestHash same
  constructor
  · rw [actor, asked.actor]
  · rw [keys, asked.key]
  · rw [hashes, asked.hash]

/-- The operation is for a key of an actor. -/
def Operation.Keyed (operation : Operation) (actorId key : String) : Prop :=
  operation.actorId = trimSpace actorId ∧ operation.idempotencyKey = some key

theorem safe_lookup {ending : Option (Option Operation) → Stance → Prop}
    (trimmed : trimSpace key = key) (waits : stance.standing.waits = false)
    (missed : ∀ reply, reply.join = none → ending reply { stance with lost := false })
    (met : ∀ row, row.Keyed actorId key →
      ending (some (some row)) { stance with found := row :: stance.found, lost := false }) :
    (discipline steady).Safe stance (Job.databaseProvisioningOperationByIdempotency actorId key)
      ending := by
  refine ⟨waits, fun reply possible => ?_⟩
  cases reply with
  | none => exact missed none rfl
  | some found =>
    cases found with
    | none => exact missed (some none) rfl
    | some row =>
      obtain ⟨actor, keyed⟩ := possible row rfl
      exact met row ⟨actor, trimmed ▸ keyed⟩

theorem safe_createOrGet {input : Database.OperationInput} (trimmed : trimSpace key = key)
    (named : key ≠ "") (keyed : input.idempotencyKey = key) (idle : stance.Idle)
    {ending : Except ProvisioningError (Operation × Bool) → Stance → Prop}
    (new : ∀ operation next, next.Rests stance → next.standing = .creator operation →
      operation ∈ next.rows → operation.Asked input.actorId key input.requestHash →
      operation.stage = .reserved → ending (.ok (operation, true)) next)
    (known : ∀ operation next, next.Idle → next.found = operation :: stance.found →
      operation.Keyed input.actorId key → operation.requestHash = input.requestHash →
      ending (.ok (operation, false)) next)
    (failed : ∀ next, next.Rests stance → ending (.error .failed) next)
    (conflict : ∀ operation next, next.Idle → next.found = operation :: stance.found →
      operation.Keyed input.actorId key → operation.requestHash ≠ input.requestHash →
      ending (.error .idempotencyConflict) next) :
    (discipline steady).Safe stance (Service.createOrGetDatabaseProvisioningOperation input)
      ending := by
  obtain rfl := keyed
  unfold Service.createOrGetDatabaseProvisioningOperation
  split
  · exact failed _ idle.rests
  have met : ∀ (next : Stance) operation, next.Idle → next.found = operation :: stance.found →
      operation.Keyed input.actorId input.idempotencyKey → (discipline steady).Safe next
        (if operation.requestHash ≠ input.requestHash then pure (.error .idempotencyConflict)
          else pure (.ok (operation, false))) ending := by
    intro next operation resting found keyed
    split
    · rename_i other
      exact conflict operation next resting found keyed other
    · rename_i same
      exact known operation next resting found keyed (not_not.mp same)
  refine .bind (safe_lookup trimmed idle.waits (fun reply missing => ?_) fun row keyed =>
    met _ row ⟨idle.waits, rfl⟩ rfl keyed)
  have rests : Stance.Rests { stance with lost := false } stance :=
    ⟨⟨idle.waits, rfl⟩, fun _ member => member, rfl⟩
  cases reply with
  | none => exact failed _ rests
  | some found =>
    obtain rfl : found = none := missing
    refine .bind ⟨idle.waits, fun reply created => ?_⟩
    cases reply with
    | some operation =>
      obtain ⟨_, _, rfl⟩ := created operation rfl
      refine new _ _ ⟨⟨rfl, rfl⟩, fun _ member => .tail _ member, rfl⟩ rfl (.head _) ⟨rfl, ?_, ?_⟩ rfl
      · simp [Database.OperationInput.row, trimmed, if_neg named]
      · simp [Database.OperationInput.row, trimmed, if_neg named, trimSpace_idem]
    | none =>
      have waits := idle.weaken.idle.waits
      refine .bind (safe_lookup trimmed waits (fun reply missing => ?_) fun row keyed =>
        met _ row ⟨waits, rfl⟩ rfl keyed)
      cases reply with
      | none => exact failed _ ⟨⟨waits, rfl⟩, fun _ member => member, rfl⟩
      | some found =>
        obtain rfl : found = none := missing
        exact failed _ ⟨⟨waits, rfl⟩, fun _ member => member, rfl⟩

/-- The result is a conflict exactly if another request was found under the key, and what it says is
about an operation that was asked for with the key. -/
structure Provides (actorId key hash : String) (result : Except ProvisioningError Provisioned)
    (stance : Stance) : Prop where
  sure : stance.lost = false
  keyed : ∀ row ∈ stance.found, row.Keyed actorId key
  conflict : result = .error .idempotencyConflict ↔ ∃ row ∈ stance.found, row.requestHash ≠ hash
  about : Answers result = true → ∃ row, (row ∈ stance.rows ∨ row ∈ stance.found) ∧
    row.Asked actorId key hash ∧
    ∀ provisioned, result = .ok provisioned → row.id = provisioned.operationId

theorem Shows.provides {result : Except ProvisioningError Provisioned}
    (shows : Shows before operation result stance) (asked : operation.Asked actorId key hash)
    (found : ∀ row ∈ before.found, row.Keyed actorId key ∧ row.requestHash = hash) :
    Provides actorId key hash result stance where
  sure := shows.sure
  keyed := fun row member => (found row (shows.found ▸ member)).1
  conflict := by
    refine ⟨fun conflict => absurd conflict shows.accepted, fun ⟨row, member, other⟩ => ?_⟩
    exact absurd (found row (shows.found ▸ member)).2 other
  about := fun answers => by
    obtain ⟨row, known, origin, same⟩ := shows.about answers
    exact ⟨row, known, asked.of_origin origin, same⟩

/-- Errors of requests that have found nothing. -/
theorem Provides.error {error : ProvisioningError} (silent : Answers (.error error) = false)
    (other : error ≠ .idempotencyConflict) (sure : stance.lost = false)
    (nothing : stance.found = []) : Provides actorId key hash (.error error) stance where
  sure := sure
  keyed := by simp [nothing]
  conflict := by simp [nothing, other]
  about := fun answers => nomatch silent.symm.trans answers

/-- A request that has found another one under its key is refused. -/
theorem Provides.refused (sure : stance.lost = false) (found : stance.found = [operation])
    (keyed : operation.Keyed actorId key) (other : operation.requestHash ≠ hash) :
    Provides actorId key hash (.error .idempotencyConflict) stance where
  sure := sure
  keyed := by simpa [found] using keyed
  conflict := by simpa [found] using other
  about := fun answers => nomatch answers

theorem Operation.Keyed.asked (keyed : operation.Keyed actorId key)
    (same : operation.requestHash = hash) : operation.Asked actorId key hash :=
  ⟨keyed.1, keyed.2, by rw [same]⟩

/-- The answer to a request whose operation is known already. -/
theorem safe_known (idle : stance.Idle) (found : stance.found = [operation])
    (keyed : operation.Keyed actorId key) (same : operation.requestHash = hash) :
    (discipline steady).Safe stance (Service.idempotentProvisioningResult operation)
      (Provides actorId key hash) := by
  have member : operation ∈ stance.found := by simp [found]
  refine Safe.mono (safe_idempotent idle member) fun _ _ shows => ?_
  refine shows.provides (keyed.asked same) fun row row_mem => ?_
  rw [found, List.mem_singleton] at row_mem
  exact row_mem ▸ ⟨keyed, same⟩

theorem safe_provisionNew {request : Request} (trimmed : trimSpace key = key) (idle : stance.Idle)
    (nothing : stance.found = []) :
    (discipline steady).Safe stance (s.provisionNew codec request key hash) fun result next =>
      key ≠ "" → Provides request.actorId key hash result next := by
  have failed : ∀ next : Stance, next.Rests stance → key ≠ "" →
      Provides request.actorId key hash (.error .failed) next :=
    fun _ rests _ => .error rfl (by decide) rests.idle.sure (rests.found.trans nothing)
  refine .bind (safe_administrator idle fun answer => ?_)
  cases answer with
  | none => exact failed _ idle.rests
  | some found =>
    obtain ⟨_, _⟩ := found
    refine .bind (safe_ask idle.sure idle.waits (fun _ => ⟨rfl, rfl⟩) fun now _ => ?_)
    change (discipline steady).Safe stance (if _ then _ else _) _
    split
    · exact failed _ idle.rests
    refine .bind (safe_proceed idle fun answer => ?_)
    split
    · exact failed _ idle.rests
    refine .bind (safe_ask idle.sure idle.waits (fun _ => ⟨rfl, rfl⟩) fun host _ => ?_)
    refine .bind (safe_random idle fun token => ?_)
    refine .bind (safe_random idle fun password => ?_)
    refine .bind (safe_random idle fun leaseToken => ?_)
    cases host with
    | none => exact failed _ idle.rests
    | some host =>
    cases token with
    | none => exact failed _ idle.rests
    | some token =>
    cases password with
    | none => exact failed _ idle.rests
    | some password =>
    cases leaseToken with
    | none => exact failed _ idle.rests
    | some leaseToken =>
    dsimp only
    split
    · exact fun _ => .error rfl (by decide) idle.sure nothing
    split
    · rename_i unnamed
      refine .bind ⟨idle.waits, fun reply created => ?_⟩
      cases reply with
      | none => exact fun named => absurd unnamed named
      | some operation =>
        obtain ⟨now, _, rfl⟩ := created operation rfl
        change (discipline steady).Safe _ (s.createUpstream _) _
        exact Safe.mono (safe_createUpstream ⟨rfl, rfl⟩ rfl (.head _) rfl) fun _ _ _ named =>
          absurd unnamed named
    · rename_i named
      refine .bind (safe_createOrGet trimmed named rfl idle ?_ ?_ failed ?_)
      · intro operation next rests made member asked reserved
        refine Safe.mono (safe_createUpstream rests.idle made member reserved) fun _ _ shows _ => ?_
        refine shows.provides asked fun row row_mem => ?_
        rw [rests.found, nothing] at row_mem
        cases row_mem
      · intro operation next resting found keyed same
        exact Safe.mono (safe_known resting (nothing ▸ found) keyed same)
          fun _ _ provides _ => provides
      · intro operation next resting found keyed other _
        exact .refused resting.sure (nothing ▸ found) keyed other

/-- A key that is accepted has no space around it. -/
theorem normalize_trimmed {value key : String}
    (accepted : normalizeDatabaseProvisioningIdempotencyKey value = some key) :
    trimSpace key = key := by
  simp only [normalizeDatabaseProvisioningIdempotencyKey,
    validateDatabaseProvisioningIdempotencyKey] at accepted
  split at accepted
  · rename_i blank
    cases accepted
    rw [← blank, trimSpace_idem]
  split at accepted
  · cases accepted
  split at accepted
  · cases accepted
    exact trimSpace_idem _
  · cases accepted

/-- A request ends with an answer about the operation of its own key. -/
theorem safe_provision {request : Request} (idle : stance.Idle) (nothing : stance.found = []) :
    (discipline steady).Safe stance (s.provision codec request) fun result stance =>
      ∀ key, normalizeDatabaseProvisioningIdempotencyKey request.idempotencyKey = some key →
        key ≠ "" → Provides request.actorId key (codec.requestHash request) result stance := by
  unfold Service.provision
  split
  · rename_i rejected
    intro key accepted
    cases rejected.symm.trans accepted
  rename_i key accepted
  have trimmed := normalize_trimmed accepted
  have only : ∀ {result : Except ProvisioningError Provisioned} {next : Stance},
      (key ≠ "" → Provides request.actorId key (codec.requestHash request) result next) → ∀ other,
      normalizeDatabaseProvisioningIdempotencyKey request.idempotencyKey = some other →
      other ≠ "" → Provides request.actorId other (codec.requestHash request) result next := by
    intro result next provides other same
    cases accepted.symm.trans same
    exact provides
  split
  · rename_i unnamed
    exact Safe.mono (safe_provisionNew trimmed idle nothing) fun _ _ _ =>
      only fun named => absurd unnamed named
  split
  · exact only fun _ => .error rfl (by decide) idle.sure nothing
  refine .bind (safe_lookup trimmed idle.waits (fun reply missing => ?_) fun operation keyed => ?_)
  · cases reply with
    | none => exact only fun _ => .error rfl (by decide) rfl nothing
    | some found =>
      obtain rfl : found = none := missing
      change (discipline steady).Safe _ (s.provisionNew codec _ key _) _
      exact Safe.mono (safe_provisionNew trimmed ⟨idle.waits, rfl⟩ nothing) fun _ _ => only
  · have found : operation :: stance.found = [operation] := by rw [nothing]
    change (discipline steady).Safe _ (if _ then _ else _) _
    split
    · rename_i other
      exact only fun _ => .refused rfl found keyed other
    · rename_i same
      exact Safe.mono (safe_known ⟨idle.waits, rfl⟩ found keyed (not_not.mp same))
        fun _ _ provides => only fun _ => provides

/-! ## Deprovisioning -/

variable {validHost : String → Bool}

theorem safe_deferDrop {error : Option DeprovisionError}
    {ending : Option DeprovisionError → Stance → Prop} (idle : stance.Idle)
    (member : operation ∈ stance.rows) (either : ∀ error next, next.Idle → ending error next) :
    (discipline steady).Safe stance (do Service.deferDropUncertain operation; return error) ending :=
  .bind (safe_note rfl (by decide) idle member fun _ rests => either _ _ rests.idle)

/-- The account of an operation that is being deprovisioned is dropped. -/
theorem safe_dropStarted {ending : Option DeprovisionError → Stance → Prop} (idle : stance.Idle)
    (member : operation ∈ stance.rows) (past : operation.stage.past)
    (either : ∀ error next, next.Idle → ending error next) :
    (discipline steady).Safe stance (do
      match ← s.renewForSideEffect operation with
      | none =>
        Service.deferDropUncertain operation
        return some .failed
      | some (renewed, _) =>
        if !(← Job.dropAccount renewed) then
          Service.deferDropUncertain renewed
          return some .failed
        if !(← Job.completeDatabaseDeprovision renewed.fence accountId) then
          Service.deferDropUncertain renewed
          return some .failed
        return none) ending := by
  refine .bind (safe_renew idle member ?_ fun _ rests =>
    safe_deferDrop rests.idle (rests.rows member) either)
  intro renewed next deadline rests renewed_mem _ _ same _
  have dropped : Stance.Idle { next with standing := .absent renewed } := ⟨rfl, rests.idle.sure⟩
  refine .bind (safe_drop rests.idle renewed_mem (same ▸ past) ?_
    (safe_deferDrop rests.idle renewed_mem either))
  refine .bind (safe_ask rests.idle.sure ⟨renewed, renewed_mem, rfl, rfl⟩ (fun _ => ⟨rfl, rfl⟩)
    fun completed _ => ?_)
  change (discipline steady).Safe _ (if _ then _ else _) _
  split
  · exact safe_deferDrop dropped renewed_mem either
  · exact either _ _ dropped

theorem safe_runDeprovision {account : Account} {ending : Option DeprovisionError → Stance → Prop}
    (idle : stance.Idle) (member : operation ∈ stance.rows)
    (either : ∀ error next, next.Idle → ending error next) :
    (discipline steady).Safe stance (s.runDeprovision accountId account operation validHost)
      ending := by
  unfold Service.runDeprovision
  split
  · exact either _ _ idle
  refine .bind (safe_administrator idle fun usable => ?_)
  split
  · exact safe_deferDrop idle member either
  split
  · refine .bind (safe_transition idle member rfl (fun _ given_up => by cases given_up) ?_ ?_)
    · intro dropping next rests dropping_mem _ past
      exact safe_dropStarted rests.idle dropping_mem past either
    · exact fun _ rests => either _ _ rests.idle
  rename_i started
  split
  · exact either _ _ idle
  · refine safe_dropStarted idle member ?_ either
    rw [not_not.mp started]
    rfl

theorem safe_deprovision {ending : Option DeprovisionError → Stance → Prop} (idle : stance.Idle)
    (either : ∀ error next, ending error next) :
    (discipline steady).Safe stance (s.deprovision validHost accountId) ending := by
  refine .bind (safe_random idle fun token => ?_)
  cases token with
  | none => exact either _ _
  | some token =>
    refine .bind (safe_ask idle.sure idle.waits (fun _ => ⟨rfl, rfl⟩) fun reply _ => ?_)
    cases reply with
    | none => exact either _ _
    | some found =>
      obtain ⟨found, managed⟩ := found
      cases managed with
      | false => exact either _ _
      | true =>
        cases found with
        | none => exact either _ _
        | some operation =>
          have rests := idle.wrote operation
          refine .bind (safe_account rests.idle fun answer => ?_)
          cases answer with
          | none => exact either _ _
          | some =>
            dsimp only
            split
            · exact either _ _
            split
            · exact either _ _
            exact safe_runDeprovision rests.idle (.head _) fun _ _ _ => either _ _

/-! ## Reconciling -/

theorem safe_reconcileCleanup (idle : stance.Idle) (member : operation ∈ stance.rows)
    (either : ∀ finished next, next.Idle → ending finished next) :
    (discipline steady).Safe stance (s.reconcileCleanup operation) ending := by
  have persist : ∀ {next : Stance} {row : Operation}, next.Idle → row ∈ next.rows →
      (discipline steady).Safe next (do Service.persistCleanupFailure row; return false) ending :=
    fun idle member =>
      .bind (safe_note rfl (by decide) idle member fun _ rests => either _ _ rests.idle)
  unfold Service.reconcileCleanup
  split
  · exact persist idle member
  refine .bind (safe_administrator idle fun usable => ?_)
  split
  · exact persist idle member
  refine .bind (safe_proceed idle fun answer => ?_)
  split
  · exact persist idle member
  refine .bind (safe_transition idle member rfl (fun _ given_up => nomatch given_up) ?_
    fun _ rests => either _ _ rests.idle)
  intro cleaning next first cleaning_mem _ past
  refine .bind (safe_renew first.idle cleaning_mem ?_ fun _ rests => either _ _ rests.idle)
  intro renewed next deadline second renewed_mem _ _ same _
  refine .bind (safe_proceed second.idle fun answer => ?_)
  split
  · exact either _ _ second.idle
  have dropped : Stance.Idle { next with standing := .absent renewed } := ⟨rfl, second.idle.sure⟩
  refine .bind (safe_drop second.idle renewed_mem (same ▸ past) ?_
    (persist second.idle renewed_mem))
  refine .bind (.bind (safe_transition dropped renewed_mem rfl (fun _ _ => .inl rfl) ?_ ?_))
  · exact fun _ _ rests _ _ _ => either _ _ rests.idle
  · exact fun _ rests => persist rests.idle (rests.rows renewed_mem)

theorem safe_reconcileClaimed (idle : stance.Idle) (member : operation ∈ stance.rows)
    (either : ∀ finished next, next.Idle → ending finished next) :
    (discipline steady).Safe stance (s.reconcileClaimed validHost operation) ending := by
  have release : ∀ {next : Stance} {row : Operation}, next.Idle → row ∈ next.rows →
      (discipline steady).Safe next (do Service.releaseActivationForReconcile row; return false)
        ending :=
    fun idle member =>
      .bind (safe_note rfl (by decide) idle member fun _ rests => either _ _ rests.idle)
  have deprovision : (discipline steady).Safe stance (s.reconcileDeprovision validHost operation)
      ending := by
    refine .bind (safe_account idle fun answer => ?_)
    cases answer with
    | none => exact either _ _ idle
    | some account =>
      dsimp only
      split
      · exact either _ _ idle
      · exact .bind (safe_runDeprovision idle member fun _ _ idle => either _ _ idle)
  unfold Service.reconcileClaimed
  split
  · rename_i reserved
    refine .bind (safe_transition idle member rfl (fun _ _ => .inr reserved) ?_ ?_)
    · exact fun _ _ rests _ _ _ => either _ _ rests.idle
    · exact fun _ rests => either _ _ rests.idle
  · refine .bind (safe_activate idle member fun answer next rests => ?_)
    cases answer with
    | none => exact release rests.idle (rests.rows member)
    | some account =>
      dsimp only
      split
      · exact release rests.idle (rests.rows member)
      · exact either _ _ rests.idle
  · exact deprovision
  · exact deprovision
  · exact deprovision
  · split
    · exact either _ _ idle
    · exact safe_reconcileCleanup idle member either

theorem safe_reconcileEach {operations : List Operation} {ending : ℕ → Stance → Prop}
    (idle : stance.Idle) (either : ∀ finished next, next.Idle → ending finished next) :
    (discipline steady).Safe stance (s.reconcileEach validHost operations) ending := by
  induction operations generalizing stance ending with
  | nil => exact either _ _ idle
  | cons _ rest ih =>
    have others : ∀ {next : Stance} (finished : Bool), next.Idle →
        (discipline steady).Safe next (do
          let others ← s.reconcileEach validHost rest
          return (if finished then others + 1 else others)) ending :=
      fun finished idle => .bind (ih idle fun _ _ idle => either _ _ idle)
    refine .bind (safe_proceed idle fun answer => ?_)
    split
    · exact either _ _ idle
    refine .bind (.bind (safe_random idle fun token => ?_))
    cases token with
    | none => exact others false idle
    | some token =>
      refine safe_ask idle.sure idle.waits (fun _ => ⟨rfl, rfl⟩) fun reply _ => ?_
      cases reply with
      | none => exact others false idle.weaken.idle
      | some claimed =>
        have rests := idle.wrote claimed
        exact .bind (safe_reconcileClaimed rests.idle (.head _) fun finished _ idle =>
          others finished idle)

theorem safe_reconcile {limit : ℕ} {ending : ℕ → Stance → Prop} (idle : stance.Idle)
    (either : ∀ finished next, ending finished next) :
    (discipline steady).Safe stance (s.reconcile validHost limit) ending := by
  refine .bind (safe_ask idle.sure idle.waits (fun _ => ⟨rfl, rfl⟩) fun reply _ => ?_)
  cases reply with
  | none => exact either _ _
  | some => exact safe_reconcileEach idle fun _ _ _ => either _ _

/-! ## All programs -/

/-- How a program ends. -/
def Concludes (codec : Codec) (outcome : Outcome) (stance : Stance) : Prop :=
  ∀ request result key, outcome = .provision request result →
    normalizeDatabaseProvisioningIdempotencyKey request.idempotencyKey = some key → key ≠ "" →
    Provides request.actorId key (codec.requestHash request) result stance

theorem started_safe {program : Job Outcome} (started : Started codec validHost program) :
    (discipline steady).Safe {} program (Concludes codec) := by
  have idle : Stance.Idle {} := ⟨rfl, rfl⟩
  cases started with
  | provision s =>
    refine .bind (Safe.mono (safe_provision idle rfl) fun result stance provides => ?_)
    rintro _ _ key ⟨⟩ accepted
    exact provides key accepted
  | deprovision s =>
    exact .bind (safe_deprovision idle fun _ _ _ _ _ other => nomatch other)
  | reconcile s =>
    exact .bind (safe_reconcile idle fun _ _ _ _ _ other => nomatch other)

end Jianmen.Provisioning
