import Jianmen.AuditStore.Leases

/-!
# What leases guarantee

A session is inserted once, so it passes from its creation to the set of one store and out of it at
most once.  A heartbeat renews what is in the set, because nothing leaves the set while it reads.
As long as a session is in a set, its lease runs from the time that the last committed write of it
carries.
-/

namespace Jianmen.AuditStore

open List Table World Option
namespace Task

variable {ι : Type}

/-- The session that a call is about to track. -/
def pending : Task ι → List (ι × String)
  | .track store id => [(store, id)]
  | _ => []

/-- What a call relies on. -/
def Sound (duration : ι → ℕ) (tracked : List (ι × String)) (clock : ℕ) : Task ι → Prop
  | .insert store session => session.state = .started → ∃ time,
      session.heartbeatAt = some time ∧ session.leaseExpiresAt = some (time + duration store)
  | .renew store _ ids _ _ => ∀ id ∈ ids, (store, id) ∈ tracked
  | .recover now => now ≤ clock
  | _ => True

end Task

namespace World

variable {ι : Type} {owner : ι → String} {duration : ι → ℕ} {w w' : World ι}

/-! ## Steps of calls -/

section

variable [DecidableEq ι]

/-- Updates that end sessions start none. -/
theorem keeps_of_ends {update : Update} (ends : ∀ session, (update.change session).state = .ended)
    (session : AuditSession) (_ : update.condition session)
    (started : (update.change session).state = .started) :
    session.state = .started ∧ (update.change session).leaseExpiresAt = session.leaseExpiresAt := by
  rw [ends session] at started
  cases started

/-- What the next step of a call can do. -/
inductive Advances (owner : ι → String) (duration : ι → ℕ) (w : World ι) :
    Task ι → World ι → Task ι → Prop where
  | idle {task next : Task ι} (before : task.pending = []) (after : next.pending = [])
      (own : next.Sound duration w.tracked w.clock) : Advances owner duration w task w next
  | update {task next : Task ι} {update : Update} (before : task.pending = [])
      (after : next.pending = []) (own : next.Sound duration w.tracked w.clock)
      (ends : update.KeepsEnds)
      (leases : ∀ session, update.condition session = true →
        (update.change session).state = .started → session.state = .started ∧
          (update.change session).leaseExpiresAt = session.leaseExpiresAt) :
      Advances owner duration w task { w with sessions := update.apply w.sessions } next
  | insert {store : ι} {session : AuditSession} {sessions : Sessions} {next : Task ι}
      (inserted : w.sessions.insert? session = some sessions)
      (after : (∃ result, next = .returned result) ∨
        session.state = .started ∧ next = .track store session.id) :
      Advances owner duration w (.insert store session) (w.withSession session sessions) next
  | track {store : ι} {id : String} :
      Advances owner duration w (.track store id)
        { w with tracked := w.tracked.insert (store, id) } (.returned .ok)
  | extend {store : ι} {heartbeatAt active renewed : ℕ} {ids : List String} {next : Task ι}
      (after : next.pending = [])
      (own : (∀ id ∈ ids, (store, id) ∈ w.tracked) → next.Sound duration w.tracked w.clock) :
      Advances owner duration w (.renew store heartbeatAt ids active renewed)
        (w.extended owner duration store (ids.take maxAuditLeaseHeartbeatBatch) heartbeatAt) next
  | untrack {store : ι} {id : String} {finish : Option Update.Finish} {next : Task ι}
      (unread : w.reading store = false) (after : next.pending = [])
      (own : ∀ tracked, next.Sound duration tracked w.clock) :
      Advances owner duration w (.untrack store id finish) (w.untrackAuditSessionLease store id)
        next
  | recover {now : ℕ} {result : Result} :
      Advances owner duration w (.recover now) (w.recovered now) (.returned result)

/-- A statement that was not applied leaves everything as it was. -/
private theorem Advances.statement {task next : Task ι} {update : Update} {reply : Reply}
    (before : task.pending = []) (after : next.pending = [])
    (own : next.Sound duration w.tracked w.clock) (ends : update.KeepsEnds)
    (leases : ∀ session, update.condition session →
      (update.change session).state = .started → session.state = .started ∧
        (update.change session).leaseExpiresAt = session.leaseExpiresAt) :
    Advances owner duration w task (w.update update reply) next := by
  unfold World.update
  split
  · exact .update before after own ends leases
  · exact .idle before after own

theorem advance_inv {order : List String} {reply : Reply} {task : Task ι}
    {advanced : World ι × Task ι}
    (advances : w.advance owner duration order reply task = some advanced) :
    Advances owner duration w task advanced.1 advanced.2 := by
  cases task with
  | insert store session =>
    cases advances
    unfold insertSession
    cases inserted : w.sessions.insert? session with
    | none => exact .idle rfl rfl trivial
    | some sessions =>
      cases reply with
      | ok =>
        refine .insert inserted ?_
        dsimp only
        split
        · next created => exact .inr ⟨created.1, rfl⟩
        · exact .inl ⟨_, rfl⟩
      | failed applied =>
        cases applied with
        | false => exact .idle rfl rfl trivial
        | true => exact .insert inserted (.inl ⟨_, rfl⟩)
  | track store id =>
    simp only [advance] at advances
    split at advances
    · cases advances
    · cases advances
      exact .track
  | heartbeat store heartbeatAt =>
    simp only [advance] at advances
    split at advances
    · rename_i permuted
      cases advances
      split
      · exact .idle rfl rfl trivial
      refine .idle rfl rfl fun id listed => ?_
      have active := (isPerm_iff.mp permuted).mem_iff.mp listed
      obtain ⟨_, mem, rfl⟩ := mem_map.mp active
      obtain ⟨tracked, same⟩ := mem_filter.mp mem
      rw [← eq_of_beq same]
      exact tracked
    · cases advances
  | renew store heartbeatAt _ active =>
    cases advances
    unfold renewBatch
    cases reply with
    | ok =>
      dsimp only [Reply.applied]
      simp only [if_true]
      split
      · exact .extend rfl fun reads id mem => reads id (mem_of_mem_drop mem)
      · split
        · exact .extend rfl fun _ => trivial
        · exact .extend rfl fun _ => trivial
    | failed applied =>
      cases applied with
      | false => exact .idle rfl rfl trivial
      | true => exact .extend rfl fun _ => trivial
  | untrack store id finish =>
    simp only [advance] at advances
    split at advances
    · cases advances
    rename_i unread
    cases advances
    rw [Bool.not_eq_true] at unread
    cases finish with
    | none => exact .untrack unread rfl fun _ => trivial
    | some finish => exact .untrack unread rfl fun _ => trivial
  | endSession store id now =>
    cases advances
    dsimp only
    split
    all_goals
      exact .statement rfl rfl trivial (Update.endSession_keepsEnds _ _ _)
        (keeps_of_ends fun _ => rfl)
  | finish store id finish =>
    cases advances
    dsimp only
    repeat' split
    all_goals
      exact .statement rfl rfl trivial (Update.finishSession_keepsEnds _ _ _)
        (keeps_of_ends fun _ => rfl)
  | finishEnded id finish =>
    cases advances
    dsimp only
    repeat' split
    all_goals
      exact .statement rfl rfl trivial (Update.finishEnded_keepsEnds _ _)
        fun _ _ started => ⟨started, rfl⟩
  | verify id finish =>
    cases advances
    split
    all_goals exact .idle rfl rfl trivial
  | recover now =>
    cases advances
    cases reply with
    | ok => exact .recover
    | failed applied =>
      cases applied with
      | false => exact .idle rfl rfl trivial
      | true => exact .recover
  | returned => cases advances

/-- A step lets time pass, begins a call or advances one. -/
theorem step_inv {action : Action ι} (steps : w.step owner duration action = some w') :
    (∃ time, w' = { w with clock := w.clock + time }) ∨
      (∃ store call, w' = { w with tasks := w.tasks ++ [w.begin owner duration store call] }) ∨
      ∃ position task changed next, w.tasks[position]? = some task ∧
        Advances owner duration w task changed next ∧
        w' = { changed with tasks := w.tasks.set position next } := by
  cases action with
  | tick time => exact .inl ⟨time, (some.inj steps).symm⟩
  | call store call => exact .inr (.inl ⟨store, call, (some.inj steps).symm⟩)
  | advance position =>
    simp only [step] at steps
    split at steps
    · cases steps
    · rename_i task found
      obtain ⟨_, advances, rfl⟩ := map_eq_some_iff.mp steps
      exact .inr (.inr ⟨position, task, _, _, found, advance_inv advances, rfl⟩)

end

/-! ## Ended sessions -/

/-- The session under the identifier has ended as a given one. -/
def HasEnded (session : AuditSession) (sessions : Sessions) : Prop :=
  ∃ later, sessions.get? session.id = some later ∧ session.EndedAs later

variable {session : AuditSession} {sessions : Sessions} {ids : List String}
  {heartbeatAt clock position : ℕ} {commits : List LeaseCommit} {pair : ι × String} {store : ι}
  {id : String} {task next : Task ι} {changed : World ι} {action : Action ι}

theorem HasEnded.apply {update : Update} (ended : HasEnded session sessions)
    (keeps : update.KeepsEnds) : HasEnded session (update.apply sessions) := by
  obtain ⟨later, present, same⟩ := ended
  rw [HasEnded, update.get?_apply, present]
  cases met : update.condition later with
  | false => exact ⟨later, by simp [met], same⟩
  | true => exact ⟨update.change later, by simp [met], same.trans (keeps later same.ended met)⟩

theorem HasEnded.insert {session inserted : AuditSession} {sessions next : Sessions}
    (ended : HasEnded session sessions) (succeeds : sessions.insert? inserted = some next) :
    HasEnded session next := by
  obtain ⟨later, present, same⟩ := ended
  refine ⟨later, ?_, same⟩
  rw [get?_insert? succeeds, if_neg, present]
  intro equal
  have fresh := insert?_fresh succeeds
  rw [equal, present] at fresh
  cases fresh

section

variable [DecidableEq ι]

theorem HasEnded.step {session : AuditSession} {action : Action ι}
    (ended : HasEnded session w.sessions) (steps : w.step owner duration action = some w') :
    HasEnded session w'.sessions := by
  obtain ⟨_, rfl⟩ | ⟨_, _, rfl⟩ | ⟨_, _, _, _, -, advances, rfl⟩ :=
    step_inv steps
  · exact ended
  · exact ended
  · cases advances with
    | idle => exact ended
    | update _ _ _ ends => exact ended.apply ends
    | insert inserted => exact ended.insert inserted
    | track => exact ended
    | extend => exact ended.apply (Update.heartbeat_keepsEnds _ _ _ _)
    | untrack =>
      dsimp only [untrackAuditSessionLease]
      split
      · exact ended
      · exact ended
    | recover => exact ended.apply (Update.recoverExpired_keepsEnds _)

end

/-! ## Leases of tracked sessions -/

/-- Every session that was created for a store: to be tracked, tracked, or not any more. -/
def ledger (w : World ι) : List (ι × String) :=
  w.tasks.flatMap Task.pending ++ (w.tracked ++ w.untracked)

/-- The last committed write of a lease. -/
def lastCommit (commits : List LeaseCommit) (id : String) : Option LeaseCommit :=
  commits.find? (·.id == id)

/-- If the session is still started, its lease runs from its last committed write. -/
def Leased (duration : ι → ℕ) (sessions : Sessions) (commits : List LeaseCommit)
    (pair : ι × String) : Prop :=
  ∃ session, sessions.get? pair.2 = some session ∧
    (session.state = .started → ∃ commit, lastCommit commits pair.2 = some commit ∧
      session.leaseExpiresAt = some (commit.time + duration pair.1))

structure Sound (duration : ι → ℕ) (w : World ι) : Prop where
  distinct : (w.ledger.map (·.2)).Nodup
  leased : ∀ pair ∈ w.ledger, Leased duration w.sessions w.commits pair
  tasks : ∀ task ∈ w.tasks, task.Sound duration w.tracked w.clock

theorem lastCommit_append (id : String) :
    lastCommit (ids.map (fun id => ⟨id, heartbeatAt, clock⟩) ++ commits) id =
      if id ∈ ids then some ⟨id, heartbeatAt, clock⟩ else lastCommit commits id := by
  induction ids with
  | nil => rfl
  | cons first ids ih =>
    simp only [lastCommit, map_cons, cons_append, find?_cons] at ih ⊢
    by_cases same : first = id
    · simp [same]
    · rw [show (first == id) = false by simpa using same]
      simp [ih, Ne.symm same]

/-- An update that starts no session and touches no lease. -/
theorem Leased.apply {update : Update} (leased : Leased duration sessions commits pair)
    (keeps : ∀ session, update.condition session → (update.change session).state = .started →
      session.state = .started ∧ (update.change session).leaseExpiresAt = session.leaseExpiresAt) :
    Leased duration (update.apply sessions) commits pair := by
  obtain ⟨session, present, runs⟩ := leased
  rw [Leased, update.get?_apply, present]
  cases met : update.condition session with
  | false => exact ⟨session, by simp [met], runs⟩
  | true =>
    refine ⟨update.change session, by simp [met], fun started => ?_⟩
    obtain ⟨before, same⟩ := keeps session met started
    rw [same]
    exact runs before

theorem Leased.insert {sessions next : Sessions} {commits early : List LeaseCommit}
    (leased : Leased duration sessions commits pair)
    (inserted : sessions.insert? session = some next)
    (own : ∀ commit ∈ early, commit.id = session.id) :
    Leased duration next (early ++ commits) pair := by
  obtain ⟨old, present, runs⟩ := leased
  have other : session.id ≠ pair.2 := by
    intro same
    have fresh := insert?_fresh inserted
    rw [same, present] at fresh
    cases fresh
  refine ⟨old, ?_, fun started => ?_⟩
  · rw [get?_insert? inserted, if_neg other]
    exact present
  · obtain ⟨commit, last, expires⟩ := runs started
    refine ⟨commit, ?_, expires⟩
    rw [lastCommit, find?_append, find?_eq_none.mpr]
    · exact last
    · intro commit mem
      rw [own commit mem]
      simpa using other

/-- A batch of the store that tracks the session extends its lease; other batches leave it. -/
theorem Leased.heartbeat {batch : List String} (leased : Leased duration sessions commits pair)
    (own : pair.2 ∈ batch → pair.1 = store) :
    let update := Update.heartbeat (owner store) batch heartbeatAt (heartbeatAt + duration store)
    Leased duration (update.apply sessions)
      (((update.affects sessions).map (·.id)).map (fun id => ⟨id, heartbeatAt, clock⟩) ++ commits)
      pair := by
  intro update
  obtain ⟨session, present, runs⟩ := leased
  rw [Leased, update.get?_apply, present, lastCommit_append]
  cases met : update.condition session with
  | true =>
    have affected : pair.2 ∈ (update.affects sessions).map (·.id) :=
      mem_map.mpr ⟨session, mem_filter.mpr ⟨get?_mem present, met⟩, get?_key present⟩
    have batched : pair.2 ∈ batch := by
      simp only [update, Update.heartbeat, Bool.and_eq_true, contains_iff_mem] at met
      rw [← get?_key present]
      exact met.1.1
    refine ⟨update.change session, by simp [met], fun _ => ⟨_, if_pos affected, ?_⟩⟩
    rw [own batched]
    rfl
  | false =>
    have spared : pair.2 ∉ (update.affects sessions).map (·.id) := by
      intro affected
      obtain ⟨_, mem, same⟩ := mem_map.mp affected
      obtain ⟨stored, condition⟩ := mem_filter.mp mem
      have equal := eq_of_key stored (get?_mem present) (same.trans (get?_key present).symm)
      rw [equal, met] at condition
      cases condition
    rw [if_neg spared]
    exact ⟨session, by simp [met], runs⟩

/-- A session has one entry in the ledger. -/
theorem Sound.unique (sound : Sound duration w) {first second : ι × String}
    (first_mem : first ∈ w.ledger) (second_mem : second ∈ w.ledger) (same : first.2 = second.2) :
    first = second :=
  inj_on_of_nodup_map sound.distinct first_mem second_mem same

theorem mem_ledger_of_tracked (tracked : pair ∈ w.tracked) : pair ∈ w.ledger :=
  mem_append_right _ (mem_append_left _ tracked)

/-- Wherever the session is tracked, the lease of its last committed write has not expired. -/
def Timely (duration : ι → ℕ) (id : String) (w : World ι) : Prop :=
  ∀ pair ∈ w.tracked, pair.2 = id →
    ((lastCommit w.commits id).any fun commit =>
      decide (w.clock < commit.time + duration pair.1)) = true

instance (duration : ι → ℕ) (id : String) (w : World ι) : Decidable (Timely duration id w) :=
  inferInstanceAs (Decidable (∀ pair ∈ w.tracked, pair.2 = id → _ = true))

/-- Recovery does not end a session that is tracked and timely. -/
theorem Sound.recovered_lapsed (sound : Sound duration w) {now : ℕ}
    (timely : Timely duration id w) (kept : id ∉ w.lapsed) (past : now ≤ w.clock) :
    id ∉ (w.recovered now).lapsed := by
  intro mem
  rcases mem_append.mp mem with old | new
  · exact kept old
  · obtain ⟨session, chosen, rfl⟩ := mem_map.mp new
    obtain ⟨affected, tracked⟩ := mem_filter.mp chosen
    obtain ⟨stored, expired⟩ := mem_filter.mp affected
    obtain ⟨pair, tracked, same⟩ := any_eq_true.mp tracked
    have same : pair.2 = session.id := eq_of_beq same
    obtain ⟨_, present, runs⟩ := sound.leased pair (mem_ledger_of_tracked tracked)
    rw [same, get?_of_mem stored] at present
    cases present
    simp only [Update.recoverExpired, AuditSession.leaseExpired, Bool.and_eq_true, beq_iff_eq]
      at expired
    obtain ⟨_, last, expires⟩ := runs expired.1.1
    have early := timely pair tracked same
    rw [same] at last
    rw [last, any_some, decide_eq_true_eq] at early
    have late := expired.2
    rw [expires] at late
    split at late
    · rename_i at_eq
      cases at_eq
      rw [Bool.and_eq_true, decide_eq_true_eq, decide_eq_true_eq] at late
      omega
    · cases late

theorem start_sound (clock : ℕ) (sessions : Sessions) :
    Sound duration (start clock sessions : World ι) :=
  ⟨nodup_nil, by simp [ledger, start], by simp [start]⟩

/-! ## Steps -/

variable [DecidableEq ι]

/-- A call goes on: the ledger gains fresh sessions at most, and everything else stays sound. -/
theorem Sound.set {fresh : List (ι × String)} (sound : Sound duration w)
    (found : w.tasks[position]? = some task)
    (ledger : (next.pending ++ (changed.tracked ++ changed.untracked)).Perm
      (fresh ++ (task.pending ++ (w.tracked ++ w.untracked))))
    (distinct : (fresh.map (·.2)).Nodup) (apart : ∀ pair ∈ fresh, w.sessions.get? pair.2 = none)
    (leased : ∀ pair, pair ∈ fresh ∨ pair ∈ w.ledger →
      Leased duration changed.sessions changed.commits pair)
    (own : next.Sound duration changed.tracked changed.clock)
    (others : ∀ other ∈ w.tasks, other.Sound duration w.tracked w.clock →
      other.Sound duration changed.tracked changed.clock) :
    Sound duration { changed with tasks := w.tasks.set position next } := by
  obtain ⟨inside, here⟩ := List.getElem?_eq_some_iff.mp found
  have split : w.tasks = w.tasks.take position ++ task :: w.tasks.drop (position + 1) := by
    rw [← here, getElem_cons_drop, take_append_drop]
  have together : (World.ledger { changed with tasks := w.tasks.set position next }).Perm
      (fresh ++ w.ledger) := by
    rw [perm_iff_count] at ledger ⊢
    intro pair
    have counted := ledger pair
    have tasks := congrArg (fun tasks => (tasks.flatMap Task.pending).count pair) split
    rw [World.ledger, World.ledger, set_eq_take_append_cons_drop, if_pos inside]
    simp only [flatMap_append, flatMap_cons, count_append] at counted tasks ⊢
    omega
  refine ⟨?_, fun pair mem => leased pair (mem_append.mp (together.mem_iff.mp mem)), ?_⟩
  · apply (together.map _).nodup_iff.mpr
    rw [map_append]
    refine nodup_append.mpr ⟨distinct, sound.distinct, ?_⟩
    rintro id new old stored rfl
    obtain ⟨first, first_mem, rfl⟩ := mem_map.mp new
    obtain ⟨second, second_mem, same⟩ := mem_map.mp stored
    obtain ⟨_, present, -⟩ := sound.leased second second_mem
    rw [same, apart first first_mem] at present
    cases present
  · intro other mem
    rcases mem_or_eq_of_mem_set mem with old | rfl
    · exact others other old (sound.tasks other old)
    · exact own

/-- A call goes on and leaves the sets of the stores. -/
theorem Sound.setQuiet (sound : Sound duration w) (found : w.tasks[position]? = some task)
    (before : task.pending = []) (after : next.pending = [])
    (tracked : changed.tracked = w.tracked) (untracked : changed.untracked = w.untracked)
    (clock : changed.clock = w.clock)
    (leased : ∀ pair ∈ w.ledger, Leased duration changed.sessions changed.commits pair)
    (own : next.Sound duration w.tracked w.clock) :
    Sound duration { changed with tasks := w.tasks.set position next } := by
  refine @Sound.set ι duration w position task next changed _ [] sound found ?_ nodup_nil
    (by simp) (fun pair mem => ?_) ?_ ?_
  · rw [before, after, tracked, untracked]
    exact .refl _
  · exact leased pair (mem.resolve_left (not_mem_nil))
  · rw [tracked, clock]
    exact own
  · rw [tracked, clock]
    exact fun _ _ => id

theorem Sound.insert (sound : Sound duration w)
    (found : w.tasks[position]? = some (.insert store session))
    (inserted : w.sessions.insert? session = some sessions)
    (after : (∃ result, next = .returned result) ∨
      session.state = .started ∧ next = .track store session.id) :
    Sound duration { w.withSession session sessions with tasks := w.tasks.set position next } := by
  have others : ∀ pair ∈ w.ledger,
      Leased duration sessions (w.withSession session sessions).commits pair := by
    intro pair mem
    refine (sound.leased pair mem).insert inserted fun commit written => ?_
    obtain ⟨time, -, rfl⟩ := map_eq_some_iff.mp (mem_toList.mp written)
    rfl
  rcases after with ⟨result, rfl⟩ | ⟨started, rfl⟩
  · exact @Sound.setQuiet ι duration w position _ _ (w.withSession session sessions) _
      sound found rfl rfl rfl rfl rfl others trivial
  · have prepared : session.state = .started → ∃ time, session.heartbeatAt = some time ∧
        session.leaseExpiresAt = some (time + duration store) :=
      sound.tasks _ (mem_of_getElem? found)
    obtain ⟨time, heartbeatAt, expires⟩ := prepared started
    refine @Sound.set ι duration w position _ _ (w.withSession session sessions) _
      [(store, session.id)] sound found (.refl _) (nodup_singleton _) ?_ ?_ trivial
      fun _ _ => id
    · rintro pair mem
      obtain rfl := mem_singleton.mp mem
      exact insert?_fresh inserted
    · rintro pair (new | old)
      · obtain rfl := mem_singleton.mp new
        refine ⟨session, ?_, fun _ => ⟨⟨session.id, time, w.clock⟩, ?_, expires⟩⟩
        · exact (get?_insert? inserted _).trans (if_pos rfl)
        · simp [lastCommit, withSession, heartbeatAt]
      · exact others pair old

theorem Sound.extend {heartbeatAt active renewed : ℕ} (sound : Sound duration w)
    (found : w.tasks[position]? = some (.renew store heartbeatAt ids active renewed))
    (after : next.pending = [])
    (own : (∀ id ∈ ids, (store, id) ∈ w.tracked) → next.Sound duration w.tracked w.clock) :
    Sound duration
      { w.extended owner duration store (ids.take maxAuditLeaseHeartbeatBatch) heartbeatAt with
        tasks := w.tasks.set position next } := by
  have reads : ∀ id ∈ ids, (store, id) ∈ w.tracked :=
    sound.tasks _ (mem_of_getElem? found)
  refine @Sound.setQuiet ι duration w position _ _
    (w.extended owner duration store (ids.take maxAuditLeaseHeartbeatBatch) heartbeatAt) _
    sound found rfl after rfl rfl rfl (fun pair mem => ?_) (own reads)
  refine (sound.leased pair mem).heartbeat fun batched => ?_
  have tracked := mem_ledger_of_tracked (reads _ (mem_of_mem_take batched))
  exact congrArg Prod.fst (sound.unique mem tracked rfl)

theorem Sound.track (sound : Sound duration w)
    (found : w.tasks[position]? = some (.track store id)) :
    Sound duration { w with
      tracked := w.tracked.insert (store, id)
      tasks := w.tasks.set position (.returned .ok) } := by
  have waiting : (store, id) ∈ w.tasks.flatMap Task.pending :=
    mem_flatMap.mpr ⟨_, mem_of_getElem? found, .head _⟩
  have absent : (store, id) ∉ w.tracked := by
    intro tracked
    have distinct := nodup_append.mp sound.distinct.of_map
    exact distinct.2.2 _ waiting _ (mem_append_left _ tracked) rfl
  refine @Sound.set ι duration w position _ _ { w with tracked := w.tracked.insert (store, id) }
    _ [] sound found ?_ nodup_nil (by simp) (fun pair mem => ?_) trivial ?_
  · rw [insert_of_not_mem absent]
    exact .refl _
  · exact sound.leased pair (mem.resolve_left not_mem_nil)
  · intro other _ holds
    cases other with
    | renew =>
      exact fun id mem => mem_insert_of_mem (holds id mem)
    | _ => exact holds

theorem reading_of_mem {heartbeatAt active renewed : ℕ}
    (mem : .renew store heartbeatAt ids active renewed ∈ w.tasks) : w.reading store :=
  any_eq_true.mpr ⟨_, mem, beq_self_eq_true store⟩

theorem Sound.untrack {finish : Option Update.Finish} (sound : Sound duration w)
    (found : w.tasks[position]? = some (.untrack store id finish))
    (unread : w.reading store = false) (after : next.pending = [])
    (own : ∀ tracked, next.Sound duration tracked w.clock) :
    Sound duration { w.untrackAuditSessionLease store id with
      tasks := w.tasks.set position next } := by
  by_cases tracked : (store, trimSpace id) ∈ w.tracked
  · have removed : w.untrackAuditSessionLease store id = { w with
        tracked := w.tracked.erase (store, trimSpace id)
        untracked := (store, trimSpace id) :: w.untracked } := if_pos tracked
    rw [removed]
    refine @Sound.set ι duration w position _ _ { w with
      tracked := w.tracked.erase (store, trimSpace id)
      untracked := (store, trimSpace id) :: w.untracked } _ [] sound found ?_ nodup_nil
      (by simp) (fun pair mem => ?_) (own _) ?_
    · rw [after]
      apply perm_middle.trans
      exact ((perm_cons_erase tracked).symm.append_right w.untracked)
    · exact sound.leased pair (mem.resolve_left not_mem_nil)
    · intro other mem holds
      cases other with
      | renew reader =>
        intro id' listed
        have different : reader ≠ store := by
          rintro rfl
          rw [reading_of_mem mem] at unread
          cases unread
        exact (mem_erase_of_ne fun same => different (congrArg Prod.fst same)).mpr
          (holds id' listed)
      | _ => exact holds
  · rw [show w.untrackAuditSessionLease store id = w from if_neg tracked]
    exact sound.setQuiet found rfl after rfl rfl rfl sound.leased (own _)

theorem Sound.advance (sound : Sound duration w) (found : w.tasks[position]? = some task)
    (advances : Advances owner duration w task changed next) :
    Sound duration { changed with tasks := w.tasks.set position next } := by
  cases advances with
  | idle before after own =>
    exact sound.setQuiet found before after rfl rfl rfl sound.leased own
  | @update _ _ update before after own ends leases =>
    exact @Sound.setQuiet ι duration w position task next
      { w with sessions := update.apply w.sessions } _ sound found before after rfl rfl rfl
      (fun pair mem => (sound.leased pair mem).apply leases) own
  | insert inserted after => exact sound.insert found inserted after
  | track => exact sound.track found
  | extend after own => exact sound.extend found after own
  | untrack unread after own => exact sound.untrack found unread after own
  | @recover now result =>
    exact @Sound.setQuiet ι duration w position _ _ (w.recovered now) _ sound found rfl rfl
      rfl rfl rfl (fun pair mem => (sound.leased pair mem).apply (keeps_of_ends fun _ => rfl))
      trivial

theorem Sound.step (sound : Sound duration w) (steps : w.step owner duration action = some w') :
    Sound duration w' := by
  obtain ⟨_, rfl⟩ | ⟨store, call, rfl⟩ |
    ⟨position, task, changed, next, found, advances, rfl⟩ := step_inv steps
  · refine { sound with tasks := fun task mem => ?_ }
    have holds := sound.tasks task mem
    cases task with
    | recover => exact Nat.le_trans holds (Nat.le_add_right _ _)
    | _ => exact holds
  · have none : (w.begin owner duration store call).pending = [] := by
      cases call with
      | _ => rfl
    have ready : (w.begin owner duration store call).Sound duration w.tracked w.clock := by
      cases call with
      | create session =>
        intro started
        cases state : session.state with
        | started => simp [prepareAuditSessionLease, state]
        | ended => simp [prepareAuditSessionLease, state] at started
      | recoverExpired => exact Nat.le_refl _
      | _ => trivial
    have same : ledger { w with tasks := w.tasks ++ [w.begin owner duration store call] } =
        w.ledger := by
      simp [ledger, none]
    exact ⟨by rw [same]; exact sound.distinct, by rw [same]; exact sound.leased,
      forall_mem_append.mpr ⟨sound.tasks, forall_mem_singleton.mpr ready⟩⟩
  · exact sound.advance found advances

/-! ## Traces -/

/-- A session that left the set of a store is not renewed by it. -/
theorem Sound.extended_count (sound : Sound duration w) (untracked : pair ∈ w.untracked)
    (reads : ∀ id ∈ ids, (store, id) ∈ w.tracked) :
    (w.extended owner duration store (ids.take maxAuditLeaseHeartbeatBatch)
      heartbeatAt).renewals.count pair = w.renewals.count pair := by
  have apart : pair ∉ w.tracked := by
    intro tracked
    have distinct := nodup_append.mp (nodup_append.mp sound.distinct.of_map).2.1
    exact distinct.2.2 _ tracked _ untracked rfl
  dsimp only [extended]
  rw [count_append, Nat.add_eq_left, count_eq_zero]
  intro renewed
  obtain ⟨id, affected, rfl⟩ := mem_map.mp renewed
  obtain ⟨_, mem, rfl⟩ := mem_map.mp affected
  have met := (mem_filter.mp mem).2
  simp only [Update.heartbeat, Bool.and_eq_true, contains_iff_mem] at met
  exact apart (reads _ (mem_of_mem_take met.1.1))

theorem Sound.step_untracked (sound : Sound duration w) (untracked : pair ∈ w.untracked)
    (steps : w.step owner duration action = some w') :
    pair ∈ w'.untracked ∧ w'.renewals.count pair = w.renewals.count pair := by
  obtain ⟨_, rfl⟩ | ⟨_, _, rfl⟩ |
    ⟨position, task, changed, next, found, advances, rfl⟩ := step_inv steps
  · exact ⟨untracked, rfl⟩
  · exact ⟨untracked, rfl⟩
  · cases advances with
    | extend =>
      exact ⟨untracked, sound.extended_count untracked (sound.tasks _ (mem_of_getElem? found))⟩
    | untrack =>
      dsimp only [untrackAuditSessionLease]
      split
      · exact ⟨mem_cons_of_mem _ untracked, rfl⟩
      · exact ⟨untracked, rfl⟩
    | idle | update | insert | track | recover => exact ⟨untracked, rfl⟩

theorem Sound.step_lapsed (sound : Sound duration w) (timely : Timely duration id w)
    (kept : id ∉ w.lapsed) (steps : w.step owner duration action = some w') : id ∉ w'.lapsed := by
  obtain ⟨_, rfl⟩ | ⟨_, _, rfl⟩ |
    ⟨position, task, changed, next, found, advances, rfl⟩ := step_inv steps
  · exact kept
  · exact kept
  · cases advances with
    | @recover now result =>
      have past : now ≤ w.clock := sound.tasks _ (mem_of_getElem? found)
      exact sound.recovered_lapsed timely kept past
    | untrack =>
      dsimp only [untrackAuditSessionLease]
      split
      · exact kept
      · exact kept
    | idle | update | insert | track | extend => exact kept

/-! ## Runs -/

theorem run_sound {actions : List (Action ι)}
    (reached : run owner duration (start clock sessions) actions = some w) : Sound duration w :=
  Actions.run_keeps (fun _ _ _ sound steps => sound.step steps) (start_sound clock sessions) reached

/-- After every run: an ended session keeps its end and failure; a session that left the set of a
store is not renewed by that store; and a session is not ended by recovery while it is tracked, if
at every step its last committed heartbeat carries a time less than a lease duration ago. -/
theorem leases_hold (owner : ι → String) (duration : ι → ℕ) {clock : ℕ} {sessions : Sessions}
    {actions : List (Action ι)} {w : World ι}
    (reached : run owner duration (start clock sessions) actions = some w) :
    (∀ more later, run owner duration w more = some later →
      (∀ session ∈ w.sessions.rows, session.state = .ended →
        ∃ row ∈ later.sessions.rows, session.EndedAs row) ∧
      ∀ pair ∈ w.untracked, later.renewals.count pair = w.renewals.count pair) ∧
    ∀ id, Actions.Permitted (step owner duration) (fun w _ => Timely duration id w)
      (start clock sessions) actions → id ∉ w.lapsed := by
  refine ⟨fun more later continues => ⟨fun session mem ended => ?_, fun pair untracked => ?_⟩,
    fun id timely => ?_⟩
  · have stored : HasEnded session w.sessions := ⟨session, Table.get?_of_mem mem, .refl ended⟩
    obtain ⟨row, present, same⟩ := @Actions.run_keeps _ _ (step owner duration)
      (fun w => HasEnded session w.sessions) (fun _ _ _ ended steps => ended.step steps) _ _ _
      stored continues
    exact ⟨row, Table.get?_mem present, same⟩
  · have kept := @Actions.run_keeps _ _ (step owner duration)
      (fun later => Sound duration later ∧ pair ∈ later.untracked ∧
        later.renewals.count pair = w.renewals.count pair)
      (fun _ _ _ before steps => by
        obtain ⟨sound, untracked, count⟩ := before
        obtain ⟨still, same⟩ := sound.step_untracked untracked steps
        exact ⟨sound.step steps, still, same.trans count⟩)
      _ _ _ ⟨run_sound reached, untracked, rfl⟩ continues
    exact kept.2.2
  · have kept := @Actions.run_invariant _ _ (step owner duration) (fun w _ => Timely duration id w)
      (fun w => Sound duration w ∧ id ∉ w.lapsed)
      (fun _ _ _ before timely steps =>
        ⟨before.1.step steps, before.1.step_lapsed timely before.2 steps⟩)
      _ _ _ ⟨start_sound clock sessions, by simp [start]⟩ timely reached
    exact kept.2

/-- Two stores with a session each.  The first one renews its lease and ends its session; the second
one recovers, and ends its own session. -/
def renewedAndExpired : List (Action Bool) :=
  [.call false (.create { id := "s", state := .started }), .advance 0 [] .ok, .advance 0 [] .ok,
    .call true (.create { id := "t", state := .started }), .advance 1 [] .ok, .advance 1 [] .ok,
    .tick 6, .call false .heartbeat, .advance 2 ["s"] .ok, .advance 2 [] .ok, .tick 6,
    .call true .recoverExpired, .advance 3 [] .ok, .call false (.endSession "s"),
    .advance 4 [] .ok, .advance 4 [] .ok]

theorem leases_hold_recovered :
    ∃ w, run (cond · "b" "a") (fun _ => 10) (start 0 Table.empty) renewedAndExpired = some w ∧
      "t" ∈ w.lapsed ∧ "s" ∉ w.lapsed ∧ w.untracked = [(false, "s")] ∧
      ∀ more later, run (cond · "b" "a") (fun _ => 10) w more = some later →
        (∀ session ∈ w.sessions.rows, session.state = .ended →
          ∃ row ∈ later.sessions.rows, session.EndedAs row) ∧
        later.renewals.count (false, "s") = w.renewals.count (false, "s") := by
  have ended : (run (cond · "b" "a") (fun _ => 10) (start 0 Table.empty) renewedAndExpired).map
      (fun w => (w.lapsed, w.untracked)) = some (["t"], [(false, "s")]) := by
    decide +kernel
  obtain ⟨w, reached, parts⟩ := Option.map_eq_some_iff.mp ended
  obtain ⟨lapsed, untracked⟩ := Prod.mk.inj parts
  obtain ⟨lasting, timely⟩ := leases_hold (cond · "b" "a") (fun _ => 10) reached
  refine ⟨w, reached, ?_, timely "s" (by decide +kernel), untracked, fun more later continues => ?_⟩
  · rw [lapsed]
    exact .head _
  · obtain ⟨ends, renewals⟩ := lasting more later continues
    exact ⟨ends, renewals _ (untracked ▸ .head _)⟩

/-! ## Delayed heartbeats -/

/-- Two heartbeats of a store with leases of ten units; the first one takes nine units to commit,
the second one is on its way when the lease expires. -/
def delayedHeartbeats : List (Action Unit) :=
  [.call () (.create { id := "s", state := .started }), .advance 0 [] .ok, .advance 0 [] .ok,
    .call () .heartbeat, .tick 9, .advance 1 ["s"] .ok, .advance 1 [] .ok, .call () .heartbeat,
    .tick 2, .call () .recoverExpired, .advance 3 [] .ok]

/-- Wherever the session is tracked, the last write of its lease was committed less than a lease
duration ago. -/
def Prompt (duration : ι → ℕ) (id : String) (w : World ι) : Prop :=
  ∀ pair ∈ w.tracked, pair.2 = id →
    ((lastCommit w.commits id).any fun commit =>
      decide (w.clock < commit.committed + duration pair.1)) = true

instance (duration : ι → ℕ) (id : String) (w : World ι) : Decidable (Prompt duration id w) :=
  inferInstanceAs (Decidable (∀ pair ∈ w.tracked, pair.2 = id → _ = true))

/-- Recovery ends a tracked session though its heartbeats are committed less than a lease duration
apart. -/
theorem prompt_session_lapses :
    Actions.Permitted (step (fun _ => "owner") fun _ => 10) (fun w _ => Prompt (fun _ => 10) "s" w)
      (start 0 Table.empty) delayedHeartbeats ∧
    (run (fun _ => "owner") (fun _ => 10) (start 0 Table.empty) delayedHeartbeats).map (·.lapsed) =
      some ["s"] := by
  decide +kernel

end World
end Jianmen.AuditStore
