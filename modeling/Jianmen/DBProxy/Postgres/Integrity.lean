import Jianmen.DBProxy.Postgres.World

/-!
# What an Execute is announced as

The backend binds a portal to the statement that its own last Parse made.  The observer resolves
the names against its queue, as if everything in it were going to succeed.  The two agree on every
Execute whose Bind and Parse, as the observer resolved them, were carried out; they part when one of
them was cut off by an error.
-/

namespace Jianmen.DBProxy

open Postgres Pipeline List

/-- The message makes the statement of a name. -/
def FrontendMessage.parses (name : Bytes) : FrontendMessage → Bool
  | .parse known _ => known == name
  | _ => false

/-- The message makes the portal of a name. -/
def FrontendMessage.binds (portal : Bytes) : FrontendMessage → Bool
  | .bind known _ => known == portal
  | _ => false

/-- The message asks for a query to be run. -/
def FrontendMessage.isAudited : FrontendMessage → Bool
  | .query _ | .execute _ => true
  | _ => false

/-- A query is started for the operation. -/
def AcceptedOperation.isStarted (entry : AcceptedOperation) : Bool :=
  entry.operation == .query || entry.operation == .execute

/-! ## The names of the backend -/

variable {entry : Handled} {message : FrontendMessage} {i k : ℕ} {frames' : List Bytes}

namespace Backend

/-- Message number `i` was carried out. -/
def CarriedOut (b : Backend) (i : ℕ) : Prop :=
  ∃ handled, b.handled[i]? = some handled ∧ handled.fate = .carriedOut

/-- Message number `i` is the last one before number `k` that was carried out and makes
something. -/
structure LastCarried (b : Backend) (makes : FrontendMessage → Bool) (i k : ℕ) : Prop where
  before : i < k
  made : ∃ handled, b.handled[i]? = some handled ∧ handled.fate = .carriedOut ∧
    makes handled.message = true
  last : ∀ m handled, i < m → m < k → b.handled[m]? = some handled →
    handled.fate = .carriedOut → makes handled.message = false

variable {b b' : Backend} {makes : FrontendMessage → Bool} {i k : ℕ}

theorem LastCarried.within (last : b.LastCarried makes i k) : i < b.handled.length := by
  obtain ⟨handled, found, -⟩ := last.made
  exact (List.getElem?_eq_some_iff.mp found).1

theorem LastCarried.append (last : b.LastCarried makes i k) (bound : k ≤ b.handled.length)
    (logged : b'.handled = b.handled ++ [entry]) : b'.LastCarried makes i k := by
  obtain ⟨handled, _, carried, made⟩ := last.made
  refine ⟨last.before, ⟨handled, ?_, carried, made⟩, ?_⟩
  · rwa [logged, getElem?_append_left last.within]
  · intro m next above below listed
    rw [logged, getElem?_append_left (by omega)] at listed
    exact last.last m next above below listed

/-- A message that makes something else, or nothing, leaves the last one the last. -/
theorem LastCarried.next (last : b.LastCarried makes i b.handled.length)
    (logged : b'.handled = b.handled ++ [entry])
    (silent : entry.fate = .carriedOut → makes entry.message = false) :
    b'.LastCarried makes i b'.handled.length := by
  have kept := last.append (Nat.le_refl _) logged
  refine ⟨by simp only [logged, length_append]; have := last.before; omega, kept.made, ?_⟩
  intro m next above below listed carried
  rw [logged, length_append] at below
  rcases Nat.lt_succ_iff_lt_or_eq.mp below with earlier | rfl
  · exact kept.last m next above earlier listed carried
  · rw [logged, getElem?_concat_length] at listed
    cases listed
    exact silent carried

theorem LastCarried.new (logged : b'.handled = b.handled ++ [entry])
    (carried : entry.fate = .carriedOut) (made : makes entry.message) :
    b'.LastCarried makes b.handled.length b'.handled.length := by
  refine ⟨by simp [logged], ⟨entry, by simp [logged], carried, made⟩, ?_⟩
  intro m next above below
  rw [logged, length_append, length_singleton] at below
  omega

/-- A portal made by message number `bind` is bound to the statement made by number `parse`. -/
structure BoundBy (b : Backend) (portal : Bytes) (bind parse k : ℕ) : Prop where
  bound : b.LastCarried (FrontendMessage.binds portal) bind k
  parsed : ∃ handled statement, b.handled[bind]? = some handled ∧
    handled.message = .bind portal statement ∧
    b.LastCarried (FrontendMessage.parses statement) parse bind

theorem BoundBy.append {portal : Bytes} {bind parse : ℕ} (bound : b.BoundBy portal bind parse k)
    (within : k ≤ b.handled.length) (logged : b'.handled = b.handled ++ [entry]) :
    b'.BoundBy portal bind parse k := by
  obtain ⟨handled, statement, _, message, parsed⟩ := bound.parsed
  have inside := bound.bound.within
  refine ⟨bound.bound.append within logged, handled, statement, ?_, message,
    parsed.append (by omega) logged⟩
  rwa [logged, getElem?_append_left inside]

/-- A message that makes another portal, or none, leaves the portal bound. -/
theorem BoundBy.next {portal : Bytes} {bind parse : ℕ}
    (bound : b.BoundBy portal bind parse b.handled.length)
    (logged : b'.handled = b.handled ++ [entry])
    (silent : entry.fate = .carriedOut → entry.message.binds portal = false) :
    b'.BoundBy portal bind parse b'.handled.length :=
  ⟨bound.bound.next logged silent, (bound.append (Nat.le_refl _) logged).parsed⟩

/-- The backend knows a statement by its last Parse and a portal by its last Bind, and ran what it
knew. -/
structure Known (b : Backend) : Prop where
  statements : ∀ name parse, b.statements name = some parse →
    b.LastCarried (FrontendMessage.parses name) parse b.handled.length
  portals : ∀ portal bind parse, b.portals portal = some (bind, parse) →
    b.BoundBy portal bind parse b.handled.length
  ran : ∀ run ∈ b.ran, ∃ handled portal, b.handled[run.execute]? = some handled ∧
    handled.message = .execute portal ∧ b.BoundBy portal run.bind run.parse run.execute

/-- What was run before stays as it was run. -/
private theorem Known.ran_before (known : b.Known) (logged : b'.handled = b.handled ++ [entry])
    {run : PortalRun} (before : run ∈ b.ran) :
    ∃ handled portal, b'.handled[run.execute]? = some handled ∧
      handled.message = .execute portal ∧ b'.BoundBy portal run.bind run.parse run.execute := by
  obtain ⟨handled, portal, found, message, bound⟩ := known.ran run before
  have within := (List.getElem?_eq_some_iff.mp found).1
  refine ⟨handled, portal, ?_, message, bound.append (by omega) logged⟩
  rwa [logged, getElem?_append_left within]

/-- Working off a message that makes no statement and no portal. -/
private theorem Known.keep (known : b.Known) (logged : b'.handled = b.handled ++ [entry])
    (silent : entry.fate = .carriedOut → ∀ name, entry.message.parses name = false ∧
      entry.message.binds name = false)
    (statements : ∀ name, b'.statements name = none ∨ b'.statements name = b.statements name)
    (portals : ∀ name, b'.portals name = none ∨ b'.portals name = b.portals name)
    (ran : ∀ run ∈ b'.ran, run ∈ b.ran ∨ ∃ portal, run.execute = b.handled.length ∧
      entry.message = .execute portal ∧ b.portals portal = some (run.bind, run.parse)) :
    b'.Known := by
  refine ⟨?_, ?_, ?_⟩
  · intro name parse present
    rcases statements name with gone | same
    · simp [gone] at present
    · exact (known.statements name parse (same ▸ present)).next logged
        fun carried => (silent carried name).1
  · intro portal bind parse present
    rcases portals portal with gone | same
    · simp [gone] at present
    · exact (known.portals portal bind parse (same ▸ present)).next logged
        fun carried => (silent carried portal).2
  · intro run member
    rcases ran run member with before | ⟨portal, last, message, present⟩
    · exact known.ran_before logged before
    · refine ⟨entry, portal, by simp [logged, last], message, ?_⟩
      rw [last]
      exact (known.portals portal _ _ present).append (Nat.le_refl _) logged

theorem Known.handle (known : b.Known) {answer : List Bytes}
    (handles : b.Handles message answer b') : b'.Known := by
  cases handles with
  | discard =>
    exact known.keep rfl nofun (fun _ => .inr rfl) (fun _ => .inr rfl) fun _ => .inl
  | reject =>
    exact known.keep rfl nofun (fun _ => .inr rfl) (fun _ => .inr rfl) fun _ => .inl
  | sync | query | describe =>
    exact known.keep rfl (fun _ _ => ⟨rfl, rfl⟩) (fun _ => .inr rfl) (fun _ => .inr rfl)
      fun _ => .inl
  | @close target name =>
    refine known.keep rfl (fun _ _ => ⟨rfl, rfl⟩) (fun known => ?_) (fun known => ?_) fun _ => .inl
    · split
      · by_cases same : known = name
        · exact .inl (by simp [same])
        · exact .inr (Function.update_of_ne same _ _)
      · exact .inr rfl
    · dsimp only
      split
      · by_cases same : known = name
        · exact .inl (by simp [same])
        · exact .inr (Function.update_of_ne same _ _)
      · exact .inr rfl
  | @execute portal bind parse answer fate going present runs answers =>
    refine known.keep rfl (fun _ _ => ⟨rfl, rfl⟩) (fun _ => .inr rfl) (fun _ => .inr rfl) ?_
    intro run member
    rcases mem_append.mp member with before | new
    · exact .inl before
    · obtain rfl := mem_singleton.mp new
      exact .inr ⟨portal, rfl, rfl, present⟩
  | @parse name sql answer going answers =>
    have logged : ({ b.log (.parse name sql) .carriedOut answer with
        statements := Function.update b.statements name (some b.handled.length) } :
        Backend).handled = b.handled ++ [⟨.parse name sql, .carriedOut, answer⟩] := rfl
    refine ⟨?_, ?_, fun _ => known.ran_before logged⟩
    · intro other parse present
      by_cases same : other = name
      · subst same
        obtain rfl : b.handled.length = parse := by simpa using present
        exact .new logged rfl (by simp [FrontendMessage.parses])
      · refine (known.statements other parse ?_).next logged fun _ => ?_
        · simpa [Function.update_of_ne same] using present
        · simpa [FrontendMessage.parses] using fun equal => same equal.symm
    · intro portal bind parse present
      exact (known.portals portal bind parse present).next logged fun _ => rfl
  | @bind portal statement parse answer going present answers =>
    have logged : ({ b.log (.bind portal statement) .carriedOut answer with
        portals := Function.update b.portals portal (some (b.handled.length, parse)) } :
        Backend).handled = b.handled ++ [⟨.bind portal statement, .carriedOut, answer⟩] := rfl
    refine ⟨?_, ?_, fun _ => known.ran_before logged⟩
    · intro name parse listed
      exact (known.statements name parse listed).next logged fun _ => rfl
    · intro other bind parsed listed
      by_cases same : other = portal
      · subst same
        obtain ⟨rfl, rfl⟩ : b.handled.length = bind ∧ parse = parsed := by simpa using listed
        refine ⟨.new logged rfl (by simp [FrontendMessage.binds]),
          ⟨.bind other statement, .carriedOut, answer⟩, statement, ?_, rfl,
          (known.statements statement parse present).append (Nat.le_refl _) logged⟩
        rw [logged, getElem?_concat_length]
      · refine (known.portals other bind parsed ?_).next logged fun _ => ?_
        · simpa [Function.update_of_ne same] using listed
        · simpa [FrontendMessage.binds] using fun equal => same equal.symm

theorem Known.forget (known : b.Known) (forgets : b.Forgets b') : b'.Known := by
  have same : ∀ {makes : FrontendMessage → Bool} {i k : ℕ}, b.LastCarried makes i k →
      b'.LastCarried makes i k := by
    intro makes i k last
    exact ⟨last.before, forgets.handled ▸ last.made, forgets.handled ▸ last.last⟩
  have bound : ∀ {portal : Bytes} {bind parse k : ℕ}, b.BoundBy portal bind parse k →
      b'.BoundBy portal bind parse k := by
    intro portal bind parse k bound
    obtain ⟨handled, statement, found, message, parsed⟩ := bound.parsed
    exact ⟨same bound.bound, handled, statement, forgets.handled ▸ found, message, same parsed⟩
  refine ⟨?_, ?_, ?_⟩
  · intro name parse present
    rcases forgets.statements name with gone | kept
    · simp [gone] at present
    · rw [forgets.handled]
      exact same (known.statements name parse (kept ▸ present))
  · intro portal bind parse present
    rcases forgets.portals portal with gone | kept
    · simp [gone] at present
    · rw [forgets.handled]
      exact bound (known.portals portal bind parse (kept ▸ present))
  · intro run member
    rw [forgets.ran] at member
    obtain ⟨handled, portal, found, message, made⟩ := known.ran run member
    exact ⟨handled, portal, forgets.handled ▸ found, message, bound made⟩

end Backend

/-! ## The names of the observer -/

/-- Whatever messages between numbers `i` and `k` make the same thing, they are dead. -/
def Backend.Passed (b : Backend) (messages : List FrontendMessage)
    (makes : FrontendMessage → Bool) (i k : ℕ) : Prop :=
  ∀ m message, i < m → m < k → messages[m]? = some message → makes message = true →
    b.DeadAt messages m

/-- What is dead stays dead, from one stage of a run to a later one. -/
def DeadKept (b : Backend) (messages : List FrontendMessage) (b' : Backend)
    (messages' : List FrontendMessage) : Prop :=
  messages <+: messages' ∧ ∀ i, b.DeadAt messages i → b'.DeadAt messages' i

theorem DeadKept.refl (b : Backend) (messages : List FrontendMessage) :
    DeadKept b messages b messages :=
  ⟨prefix_rfl, fun _ => id⟩

theorem DeadKept.arrive (b : Backend) (messages more : List FrontendMessage) :
    DeadKept b messages b (messages ++ more) :=
  ⟨prefix_append _ _, fun _ dead => Dead.arrive dead more⟩

variable {b b' : Backend} {messages : List FrontendMessage} {makes : FrontendMessage → Bool}

theorem DeadKept.handle {answer : List Bytes} (next : messages[b.handled.length]? = some message)
    (handles : b.Handles message answer b') : DeadKept b messages b' messages :=
  ⟨prefix_rfl, fun _ dead => dead.handle next handles⟩

theorem DeadKept.forget (messages : List FrontendMessage) (forgets : b.Forgets b') :
    DeadKept b messages b' messages := by
  refine ⟨prefix_rfl, fun i dead => ?_⟩
  unfold Backend.DeadAt Backend.fates
  rw [forgets.handled, forgets.skipping]
  exact dead

theorem Backend.Passed.kept {messages messages' : List FrontendMessage}
    (passed : b.Passed messages makes i k) (within : k ≤ messages.length)
    (kept : DeadKept b messages b' messages') : b'.Passed messages' makes i k := by
  intro m message above below listed made
  refine kept.2 m (passed m message above below ?_ made)
  obtain ⟨_, rfl⟩ := kept.1
  rwa [getElem?_append_left (by omega)] at listed

/-- A message that makes something else, or a dead one, can be passed. -/
theorem Backend.Passed.next (passed : b.Passed messages makes i k)
    (silent : ∀ message, messages[k]? = some message → makes message → b.DeadAt messages k) :
    b.Passed messages makes i (k + 1) := by
  intro m message above below listed made
  rcases Nat.lt_succ_iff_lt_or_eq.mp below with earlier | rfl
  · exact passed m message above earlier listed made
  · exact silent message listed made

/-- The backend and the observer each take a message for the last one that made something: the
observer is right exactly if its message was carried out. -/
theorem Backend.Passed.carriedOut_iff {i j k : ℕ} (coherent : b.Coherent messages)
    (passed : b.Passed messages makes j k) (last : b.LastCarried makes i k) (before : j < k)
    (made : ∃ message, messages[j]? = some message ∧ makes message) :
    b.CarriedOut j ↔ j = i := by
  obtain ⟨message, listed, makes_it⟩ := made
  obtain ⟨handled, found, carried, made⟩ := last.made
  constructor
  · rintro ⟨resolved, present, done⟩
    rcases Nat.lt_trichotomy j i with earlier | same | later
    · have dead := passed i handled.message earlier last.before (coherent.message_at found) made
      exact absurd carried (dead.not_carriedOut (Backend.fates_get found))
    · exact same
    · rw [coherent.message_at present] at listed
      cases listed
      simp [last.last j resolved later before present done] at makes_it
  · rintro rfl
    exact ⟨handled, found, carried⟩

namespace PostgresObserver

/-- A name the observer knows at position `n` stands for the last operation in front of it that
made the name, unless a later one is dead. -/
structure Names (b : Backend) (messages : List FrontendMessage)
    (accepted : List AcceptedOperation) (state : PreparedStatements × Portals) (n : ℕ) :
    Prop where
  statements : ∀ name prepared, state.1.lookup name = some prepared → prepared.pointer < n ∧
    accepted[prepared.pointer]? = some ⟨.parse name prepared, none⟩ ∧
    b.Passed messages (FrontendMessage.parses name) prepared.pointer n
  portals : ∀ portal binding, state.2.lookup portal = some binding → binding.pointer < n ∧
    accepted[binding.pointer]? = some ⟨.bind portal binding, none⟩ ∧
    b.Passed messages (FrontendMessage.binds portal) binding.pointer n

/-- How the observer resolved message number `k` when it accepted it as an operation. -/
def Resolved (sink : QuerySink) (b : Backend) (messages : List FrontendMessage)
    (accepted : List AcceptedOperation) (k : ℕ) :
    FrontendMessage → AcceptedOperation → Prop
  | .parse name sql, entry =>
    ∃ prepared, entry = ⟨.parse name prepared, none⟩ ∧ prepared.pointer = k ∧
      IsAuditText sink sql prepared.audit.text
  | .bind portal statement, entry =>
    ∃ binding, entry = ⟨.bind portal binding, none⟩ ∧ binding.pointer = k ∧
      binding.statement = statement ∧ binding.prepared.pointer < k ∧
      accepted[binding.prepared.pointer]? = some ⟨.parse statement binding.prepared, none⟩ ∧
      b.Passed messages (FrontendMessage.parses statement) binding.prepared.pointer k
  | .execute portal, entry =>
    ∃ binding, entry = ⟨.execute, some binding⟩ ∧ binding.pointer < k ∧
      accepted[binding.pointer]? = some ⟨.bind portal binding, none⟩ ∧
      b.Passed messages (FrontendMessage.binds portal) binding.pointer k
  | message, entry => Matches message entry.operation

/-- The operations ever queued are those of the messages, as they were resolved. -/
structure History (sink : QuerySink) (b : Backend) (messages : List FrontendMessage)
    (accepted : List AcceptedOperation) : Prop where
  length : messages.length = accepted.length
  resolved : ∀ k message entry, messages[k]? = some message → accepted[k]? = some entry →
    Resolved sink b messages accepted k message entry

section Resolution

variable {sink : QuerySink} {b b' : Backend} {messages messages' : List FrontendMessage}
  {accepted : List AcceptedOperation} {state : PreparedStatements × Portals} {n : ℕ}
  {accepted' : List AcceptedOperation} {name : Bytes}

theorem Names.empty : Names b messages accepted (∅, ∅) n :=
  ⟨by simp, by simp⟩

theorem Names.kept (names : Names b messages accepted state n) (within : n ≤ messages.length)
    (kept : DeadKept b messages b' messages')
    (longer : accepted <+: accepted') : Names b' messages' accepted' state n := by
  obtain ⟨_, rfl⟩ := longer
  refine ⟨fun name prepared present => ?_, fun portal binding present => ?_⟩
  · obtain ⟨before, made, passed⟩ := names.statements name prepared present
    refine ⟨before, ?_, passed.kept within kept⟩
    rwa [List.getElem?_append_left (List.getElem?_eq_some_iff.mp made).1]
  · obtain ⟨before, made, passed⟩ := names.portals portal binding present
    refine ⟨before, ?_, passed.kept within kept⟩
    rwa [List.getElem?_append_left (List.getElem?_eq_some_iff.mp made).1]

/-- Dead operations change no names. -/
theorem Names.skip (names : Names b messages accepted state n) {n' : ℕ} (order : n ≤ n')
    (dead : ∀ i, n ≤ i → i < n' → b.DeadAt messages i) : Names b messages accepted state n' := by
  have passed : ∀ {makes : FrontendMessage → Bool} {i : ℕ}, b.Passed messages makes i n →
      b.Passed messages makes i n' := by
    intro makes i passed m message above below listed made
    rcases Nat.lt_or_ge m n with earlier | later
    · exact passed m message above earlier listed made
    · exact dead m later below
  refine ⟨fun name prepared present => ?_, fun portal binding present => ?_⟩
  · obtain ⟨before, made, earlier⟩ := names.statements name prepared present
    exact ⟨by omega, made, passed earlier⟩
  · obtain ⟨before, made, earlier⟩ := names.portals portal binding present
    exact ⟨by omega, made, passed earlier⟩

variable {message : FrontendMessage} {entry : AcceptedOperation}

theorem Resolved.kept (resolved : Resolved sink b messages accepted k message entry)
    (within : k ≤ messages.length) (kept : DeadKept b messages b' messages')
    (longer : accepted <+: accepted') : Resolved sink b' messages' accepted' k message entry := by
  obtain ⟨_, rfl⟩ := longer
  cases message with
  | bind portal =>
    obtain ⟨binding, same, pointer, named, before, made, passed⟩ := resolved
    refine ⟨binding, same, pointer, named, before, ?_, passed.kept within kept⟩
    rwa [List.getElem?_append_left (List.getElem?_eq_some_iff.mp made).1]
  | execute portal =>
    obtain ⟨binding, same, before, made, passed⟩ := resolved
    refine ⟨binding, same, before, ?_, passed.kept within kept⟩
    rwa [List.getElem?_append_left (List.getElem?_eq_some_iff.mp made).1]
  | query | parse | close | describe | sync | other => exact resolved

theorem History.kept (history : History sink b messages accepted)
    (kept : DeadKept b messages b' messages) : History sink b' messages accepted :=
  ⟨history.length, fun k message entry listed queued =>
    (history.resolved k message entry listed queued).kept
      (Nat.le_of_lt (List.getElem?_eq_some_iff.mp listed).1) kept List.prefix_rfl⟩

theorem History.accept (history : History sink b messages accepted)
    (resolved : Resolved sink b messages accepted messages.length message entry) :
    History sink b (messages ++ [message]) (accepted ++ [entry]) := by
  have kept := DeadKept.arrive b messages [message]
  refine ⟨by simp [history.length], fun k asked queued listed present => ?_⟩
  by_cases earlier : k < messages.length
  · rw [getElem?_append_left earlier] at listed
    rw [getElem?_append_left (history.length ▸ earlier)] at present
    exact (history.resolved k asked queued listed present).kept (Nat.le_of_lt earlier) kept
      (prefix_append _ _)
  have bound := (List.getElem?_eq_some_iff.mp listed).1
  rw [length_append, length_singleton] at bound
  obtain rfl : k = messages.length := by omega
  rw [getElem?_concat_length] at listed
  rw [history.length, getElem?_concat_length] at present
  cases listed
  cases present
  exact resolved.kept (Nat.le_refl _) kept (prefix_append _ _)

/-- The operation queued under a number. -/
theorem History.message_at (history : History sink b messages accepted)
    (present : accepted[n]? = some entry) :
    ∃ message, messages[n]? = some message ∧ Resolved sink b messages accepted n message entry := by
  have within : n < messages.length :=
    history.length ▸ (List.getElem?_eq_some_iff.mp present).1
  exact ⟨_, getElem?_eq_getElem within,
    history.resolved n _ entry (getElem?_eq_getElem within) present⟩

theorem History.entry_at (history : History sink b messages accepted)
    (listed : messages[n]? = some message) :
    ∃ entry, accepted[n]? = some entry ∧ Resolved sink b messages accepted n message entry := by
  have within : n < accepted.length :=
    history.length ▸ (List.getElem?_eq_some_iff.mp listed).1
  exact ⟨_, getElem?_eq_getElem within,
    history.resolved n message _ listed (getElem?_eq_getElem within)⟩

theorem Resolved.parses {prepared : PostgresPreparedStatement}
    (resolved : Resolved sink b messages accepted n message ⟨.parse name prepared, none⟩) :
    message.parses name := by
  cases message <;> simp_all [Resolved, Matches, FrontendMessage.parses]

theorem Resolved.binds {portal : Bytes} {binding : PostgresPortal}
    (resolved : Resolved sink b messages accepted n message ⟨.bind portal binding, none⟩) :
    message.binds portal := by
  cases message <;> simp_all [Resolved, Matches, FrontendMessage.binds]

theorem Resolved.of_parse {prepared : PostgresPreparedStatement}
    (resolved : Resolved sink b messages accepted n message entry)
    (made : entry.operation = .parse name prepared) :
    prepared.pointer = n ∧ entry = ⟨.parse name prepared, none⟩ := by
  obtain ⟨operation, portal⟩ := entry
  cases message <;> simp_all [Resolved, Matches]

theorem Resolved.of_bind {binding : PostgresPortal}
    (resolved : Resolved sink b messages accepted n message entry)
    (made : entry.operation = .bind name binding) :
    binding.pointer = n ∧ entry = ⟨.bind name binding, none⟩ := by
  obtain ⟨operation, portal⟩ := entry
  cases message <;> simp_all [Resolved, Matches]

theorem Resolved.parse_of (resolved : Resolved sink b messages accepted n message entry)
    (makes : message.parses name) : ∃ prepared, entry.operation = .parse name prepared := by
  cases message <;> simp_all [Resolved, FrontendMessage.parses]
  obtain ⟨prepared, rfl, -⟩ := resolved
  exact ⟨prepared, rfl⟩

theorem Resolved.bind_of (resolved : Resolved sink b messages accepted n message entry)
    (makes : message.binds name) : ∃ binding, entry.operation = .bind name binding := by
  cases message <;> simp_all [Resolved, FrontendMessage.binds]
  obtain ⟨binding, rfl, -⟩ := resolved
  exact ⟨binding, rfl⟩

theorem Resolved.isStarted (resolved : Resolved sink b messages accepted n message entry) :
    entry.isStarted = message.isAudited := by
  obtain ⟨operation, _⟩ := entry
  cases message with
  | parse name =>
    obtain ⟨_, same, -⟩ := resolved
    rw [same]
    rfl
  | bind name =>
    obtain ⟨binding, same, -⟩ := resolved
    rw [same]
    rfl
  | execute name =>
    obtain ⟨binding, same, -⟩ := resolved
    rw [same]
    rfl
  | query | close | describe | sync | other =>
    cases operation <;> first | rfl | exact (resolved : False).elim

/-- Completing an operation moves the names one position on. -/
theorem Names.apply (history : History sink b messages accepted)
    (names : Names b messages accepted state n) (present : accepted[n]? = some entry) :
    Names b messages accepted (applyPostgresStateOperation state entry.operation) (n + 1) := by
  obtain ⟨message, listed, resolved⟩ := history.message_at present
  have behind : ∀ makes, b.Passed messages makes n (n + 1) :=
    fun makes m _ above below => by omega
  refine ⟨fun name prepared found => ?_, fun portal binding found => ?_⟩
  · obtain made | ⟨known, other⟩ := apply_statements found
    · obtain ⟨rfl, same⟩ := resolved.of_parse made
      exact ⟨Nat.lt_succ_self _, same ▸ present, behind _⟩
    · obtain ⟨before, made, passed⟩ := names.statements name prepared known
      refine ⟨by omega, made, passed.next fun asked same makes => ?_⟩
      rw [listed] at same
      cases same
      obtain ⟨again, equal⟩ := resolved.parse_of makes
      exact absurd equal (other again)
  · obtain made | ⟨known, other⟩ := apply_portals found
    · obtain ⟨rfl, same⟩ := resolved.of_bind made
      exact ⟨Nat.lt_succ_self _, same ▸ present, behind _⟩
    · obtain ⟨before, made, passed⟩ := names.portals portal binding known
      refine ⟨by omega, made, passed.next fun asked same makes => ?_⟩
      rw [listed] at same
      cases same
      obtain ⟨again, equal⟩ := resolved.bind_of makes
      exact absurd equal (other again)

/-- The projection over a queue of operations is what is known behind the queue. -/
theorem Names.project (history : History sink b messages accepted)
    (names : Names b messages accepted state n) {operations : List PostgresFrontendOperation}
    (queued : operations = (accepted.drop n).map AcceptedOperation.operation) :
    Names b messages accepted (operations.foldl applyPostgresStateOperation state)
      (n + operations.length) := by
  induction operations generalizing state n with
  | nil => exact names
  | cons operation _ ih =>
    cases behind : accepted.drop n with
    | nil => simp [behind] at queued
    | cons entry others =>
      rw [behind] at queued
      obtain ⟨rfl, tail⟩ := cons.inj queued
      have present : accepted[n]? = some entry := by
        rw [← head?_drop, behind]
        rfl
      have next : accepted.drop (n + 1) = others := by
        rw [← drop_drop, behind]
        rfl
      have moved := ih (names.apply history present) (next ▸ tail)
      rwa [length_cons, ← Nat.add_assoc, Nat.add_right_comm]

end Resolution

/-! ## Following a connection -/

section Following

variable {sink : QuerySink} {b b' : Backend} {messages : List FrontendMessage}
  {o o' : PostgresObserver} {frames : List Bytes} {message : FrontendMessage}

/-- The queue is in step with the answers, and the names with the queue. -/
structure Following (sink : QuerySink) (b : Backend) (messages : List FrontendMessage)
    (o : PostgresObserver) (frames : List Bytes) : Prop where
  flight : InFlight b messages o frames
  names : Names b messages o.accepted (o.preparedStatements, o.portals) o.answered
  history : History sink b messages o.accepted

section

variable (following : Following sink b messages o frames)
include following

theorem Following.of_same (flight : InFlight b messages o' frames') (kept : ProtocolKept o o')
    (accepted : o'.accepted = o.accepted) : Following sink b messages o' frames' := by
  have answered : o'.answered = o.answered := by
    simp [answered, kept.operations, accepted]
  refine ⟨flight, ?_, ?_⟩
  · rw [accepted, kept.preparedStatements, kept.portals, answered]
    exact following.names
  · rw [accepted]
    exact following.history

theorem Following.within : o.answered ≤ messages.length := by
  have order := following.flight.answered_le
  have lengths := following.history.length
  omega

/-- The names behind the queue. -/
theorem Following.projected :
    Names b messages o.accepted o.projectedPostgresState messages.length := by
  have behind := following.names.project following.history following.flight.queued
  rwa [following.flight.answered_le, ← following.history.length] at behind

theorem Following.progress (flight : InFlight b messages o' frames')
    (progress : Progress b messages o o') (accepted : o'.accepted = o.accepted) :
    Following sink b messages o' frames' := by
  cases progress with
  | same kept => exact following.of_same flight kept accepted
  | @completed operation rest handled queue present carried operations statements portals =>
    refine ⟨flight, ?_, accepted ▸ following.history⟩
    have order := following.flight.answered_le
    have answered : o'.answered = o.answered + 1 := by
      rw [queue, length_cons] at order
      rw [answered, operations, accepted]
      omega
    have within : o.answered < o.accepted.length := by
      rw [queue, length_cons] at order
      omega
    obtain ⟨entry, listed, rfl⟩ : ∃ entry, o.accepted[o.answered]? = some entry ∧
        entry.operation = operation := by
      have queued := following.flight.queued
      rw [queue, drop_eq_getElem_cons within] at queued
      exact ⟨_, getElem?_eq_getElem within, (cons.inj queued).1.symm⟩
    have moved := following.names.apply following.history listed
    rw [answered, accepted, statements]
    rcases portals with same | cleared
    · rw [same]
      exact moved
    · rw [cleared]
      exact ⟨moved.statements, by simp⟩
  | rejected operations statements portals answered dead =>
    refine ⟨flight, ?_, accepted ▸ following.history⟩
    rw [accepted, statements, portals, answered]
    exact following.names.skip (Nat.le_add_right _ _) dead

end

theorem following_frames (coherent : b.Coherent messages) :
    FrameInvariant sink (Following sink b messages) where
  answer _ following unfailed := by
    obtain ⟨flight, progress⟩ := following.flight.observe coherent unfailed
    exact following.progress flight progress (observePostgresServerMessage_unfailed unfailed).accepted
  skip neutral following :=
    following.of_same (following.flight.of_same rfl rfl (significant_cons_neutral neutral _).symm)
      (.refl _) rfl
  buffer _ _ _ following :=
    following.of_same (following.flight.of_same rfl rfl rfl) ⟨rfl, rfl, rfl⟩ rfl

theorem Following.kept (following : Following sink b messages o frames)
    (flight : InFlight b' messages o frames') (kept : DeadKept b messages b' messages) :
    Following sink b' messages o frames' :=
  ⟨flight, following.names.kept following.within kept prefix_rfl, following.history.kept kept⟩

/-- What was started for an operation: an Execute under the audit copy of the statement its portal
was bound to. -/
def StartedAs (start : AuditedCommand × Bytes × QueryRecord) (entry : AcceptedOperation) : Prop :=
  match entry.portal with
  | some binding => start.1 = .postgresExecute ∧ start.2.1 = binding.prepared.audit.text
  | none => start.1 = .postgresQuery

/-- What outlives a failure: the backend's names, the resolutions, and the starts. -/
structure Recorded (sink : QuerySink) (b : Backend) (messages : List FrontendMessage)
    (o : PostgresObserver) : Prop where
  known : b.Known
  history : History sink b messages o.accepted
  started : List.Forall₂ StartedAs (allowedStarts o.calls)
    (o.accepted.filter AcceptedOperation.isStarted)

/-- Accepting a message: how it is resolved, and what is started for it. -/
theorem Accepts.resolved (following : Following sink b messages o frames)
    (accepts : Accepts sink message o o') (tracked : message ≠ .other) :
    ∃ entry, o'.accepted = o.accepted ++ [entry] ∧
      o'.operations = o.operations ++ [entry.operation] ∧
      Matches message entry.operation ∧
      Resolved sink b messages o.accepted messages.length message entry ∧
      ∃ starts, allowedStarts o'.calls = allowedStarts o.calls ++ starts ∧
        List.Forall₂ StartedAs starts ([entry].filter AcceptedOperation.isStarted) := by
  have projected := following.projected
  have started : ∀ {audit : DatabaseSQLAudit} {command : AuditedCommand}
      {parameters : Option DatabaseAuditArtifact} {record : QueryRecord}
      {decision : QueryDecision}, decision.allowed →
      allowedStarts (o.calls ++ [startCall audit command parameters record decision]) =
        allowedStarts o.calls ++ [(command, audit.text, record)] := by
    intro audit command parameters record decision allowed
    simp [startCall, allowed]
  have silent : allowedStarts o.calls = allowedStarts o.calls ++ [] := (append_nil _).symm
  cases accepts with
  | query text allows =>
    exact ⟨⟨.query, none⟩, rfl, rfl, trivial, trivial, _, started allows.allowed, .cons rfl .nil⟩
  | @parse _ name sql audit text fresh =>
    exact ⟨⟨.parse name ⟨o.accepted.length, audit⟩, none⟩, rfl, rfl, rfl,
      ⟨_, rfl, following.history.length.symm, text⟩, [], silent, .nil⟩
  | @bind _ portal statement artifact prepared fresh known =>
    obtain ⟨before, made, passed⟩ := projected.statements statement prepared known
    exact ⟨⟨.bind portal ⟨o.accepted.length, statement, prepared, artifact⟩, none⟩, rfl, rfl,
      ⟨rfl, rfl⟩, ⟨_, rfl, following.history.length.symm, rfl, before, made, passed⟩, [], silent,
      .nil⟩
  | @execute _ portal binding record decision known allows =>
    obtain ⟨before, made, passed⟩ := projected.portals portal binding known
    exact ⟨⟨.execute, some binding⟩, rfl, rfl, trivial, ⟨binding, rfl, before, made, passed⟩, _,
      started allows.allowed, .cons ⟨rfl, rfl⟩ .nil⟩
  | @close _ target name =>
    exact ⟨⟨.close target name, none⟩, rfl, rfl, ⟨rfl, rfl⟩, ⟨rfl, rfl⟩, [], silent, .nil⟩
  | describe => exact ⟨⟨.describe, none⟩, rfl, rfl, trivial, trivial, [], silent, .nil⟩
  | sync => exact ⟨⟨.sync, none⟩, rfl, rfl, trivial, trivial, [], silent, .nil⟩
  | other => exact absurd rfl tracked

/-- The client may send anything, except a Query as the first message after an error was observed
and before the Sync that ends the skip. -/
def QueryAfterSync (b : Backend) (o : PostgresObserver) (earlier : List FrontendMessage)
    (message : FrontendMessage) : Prop :=
  o.operations = [] → earlier = [] → b.skipping = true → ∀ sql, message ≠ .query sql

theorem Since.empty {start : PostgresObserver} {new : List FrontendMessage}
    (since : Since start new o) (none_left : o.operations = []) :
    start.operations = [] ∧ new = [] := by
  obtain ⟨_, -, operations, same⟩ := since.queued
  rw [none_left] at operations
  obtain ⟨first, rest⟩ := append_eq_nil_iff.mp operations.symm
  obtain rfl := map_eq_nil_iff.mp rest
  cases same
  exact ⟨first, rfl⟩

theorem Following.accept (coherent : b.Coherent messages)
    (following : Following sink b messages o frames) (recorded : Recorded sink b messages o)
    (accepts : Accepts sink message o o') (tracked : message ≠ .other)
    (permitted : o.operations = [] → b.skipping → ∀ sql, message ≠ .query sql) :
    Following sink b (messages ++ [message]) o' frames ∧
      Recorded sink b (messages ++ [message]) o' := by
  obtain ⟨entry, accepted, operations, same, resolved, _, calls, begun⟩ :=
    accepts.resolved following tracked
  obtain ⟨statements, portals, -⟩ := accepts.names
  have flight := following.flight.accept coherent same accepted operations fun none_left skips => by
    cases message <;> cases operation : entry.operation <;> simp_all [Matches]
  have answered : o'.answered = o.answered := by
    simp only [answered, accepted, operations, length_append, length_singleton]
    omega
  have history := following.history.accept resolved
  rw [← accepted] at history
  refine ⟨⟨flight, ?_, history⟩, recorded.known, history, ?_⟩
  · rw [statements, portals, answered, accepted]
    exact following.names.kept following.within (.arrive b messages [message]) (prefix_append _ _)
  · rw [calls, accepted, filter_append]
    exact rel_append recorded.started begun

theorem following_tracking : Tracking sink QueryAfterSync (Following sink) (Recorded sink) where
  frames := following_frames
  idle idle following := following.of_same
    (following.flight.of_same idle.operations idle.accepted rfl)
    { idle with } idle.accepted
  accept coherent since _ permitted tracked accepts following recorded :=
    following.accept coherent recorded accepts tracked fun none_left skips =>
      have none_before := since.empty none_left
      permitted none_before.1 none_before.2 skips
  handle _ next handles following :=
    following.kept (following.flight.handle next handles) (.handle next handles)
  notice neutral following := following.kept (following.flight.notice neutral) (.refl _ _)
  forget forgets following :=
    following.kept (following.flight.forget forgets) (.forget _ forgets)
  trace trace recorded :=
    ⟨recorded.known, trace.accepted ▸ recorded.history,
      trace.accepted ▸ trace.starts ▸ recorded.started⟩
  handle_settled _ next handles recorded :=
    ⟨recorded.known.handle handles, recorded.history.kept (.handle next handles), recorded.started⟩
  forget_settled forgets recorded :=
    ⟨recorded.known.forget forgets, recorded.history.kept (.forget _ forgets), recorded.started⟩

end Following
end PostgresObserver

/-! ## The start of an Execute -/

private theorem getElem?_filter {α : Type} {p : α → Bool} {entries : List α} {entry : α}
    (present : entries[k]? = some entry) (chosen : p entry) :
    (entries.filter p)[(entries.take k).countP p]? = some entry := by
  induction entries generalizing k with
  | nil => simp at present
  | cons first _ ih =>
    cases k with
    | zero =>
      obtain rfl : first = entry := by simpa using present
      simp [chosen]
    | succ k =>
      have found := ih present
      cases kept : p first <;> simp [kept, found]

namespace World

open PostgresObserver

/-- The allowed start for message number `k`, if it asks for a query to be run: the starts are in
the order of these messages. -/
def startOf (w : World) (k : ℕ) : Option (AuditedCommand × Bytes × QueryRecord) :=
  (allowedStarts w.observer.calls)[(w.messages.take k).countP FrontendMessage.isAudited]?

/-- The Bind and the Parse that the observer's projected state held under the names, when an
Execute was accepted and when its portal was bound, are carried out by the backend. -/
def CarriesOut (w : World) (k : ℕ) : Prop :=
  ∀ binding, w.observer.accepted[k]? = some ⟨.execute, some binding⟩ →
    w.backend.CarriedOut binding.pointer ∧ w.backend.CarriedOut binding.prepared.pointer

section Integrity

variable {sink : QuerySink} {budget : Option ObserverMemoryBudget} {w : World} {b : Backend}

theorem new_recorded (maxClientMessageBytes : Int) :
    Recorded sink {} [] (PostgresObserver.new maxClientMessageBytes) :=
  ⟨⟨by simp, by simp, by simp⟩, ⟨rfl, by simp⟩, .nil⟩

theorem new_following (maxClientMessageBytes : Int) :
    Following sink {} [] (PostgresObserver.new maxClientMessageBytes) [] :=
  ⟨⟨rfl, .nil, by simp [PostgresObserver.answered, PostgresObserver.new], by simp, [], rfl,
    .inl rfl⟩, .empty, rfl, by simp⟩

/-- An Execute the backend ran, as the observer resolved it: it is the portal and the statement the
backend used exactly if both were carried out. -/
private theorem resolution_iff {messages : List FrontendMessage}
    {o : PostgresObserver} (coherent : b.Coherent messages) (recorded : Recorded sink b messages o)
    {ran : PortalRun} (member : ran ∈ b.ran) :
    ∃ binding statement sql prepared, o.accepted[ran.execute]? = some ⟨.execute, some binding⟩ ∧
      messages[ran.parse]? = some (.parse statement sql) ∧
      o.accepted[ran.parse]? = some ⟨.parse statement prepared, none⟩ ∧
      IsAuditText sink sql prepared.audit.text ∧
      (binding.pointer = ran.bind ∧ binding.prepared = prepared ↔
        b.CarriedOut binding.pointer ∧ b.CarriedOut binding.prepared.pointer) := by
  have history := recorded.history
  obtain ⟨_, _, found, asks, bound⟩ := recorded.known.ran ran member
  have listed := asks ▸ coherent.message_at found
  obtain ⟨entry, present, binding, rfl, before, made, passed⟩ := history.entry_at listed
  obtain ⟨_, statement, opened, binds, parsed⟩ := bound.parsed
  have bind_listed := binds ▸ coherent.message_at opened
  obtain ⟨parse, parse_found, _, parses⟩ := parsed.made
  obtain ⟨sql, parse_asks⟩ : ∃ sql, parse.message = .parse statement sql := by
    cases asked : parse.message <;> simp_all [FrontendMessage.parses]
  have parse_listed := parse_asks ▸ coherent.message_at parse_found
  obtain ⟨entry, parse_present, prepared, rfl, numbered, text⟩ := history.entry_at parse_listed
  have same_bind := passed.carriedOut_iff coherent bound.bound before (by
    obtain ⟨message, bind_asked, resolved⟩ := history.message_at made
    exact ⟨message, bind_asked, resolved.binds⟩)
  refine ⟨binding, statement, sql, prepared, present, parse_listed, parse_present, text, ?_⟩
  rw [same_bind]
  refine and_congr_right fun same => ?_
  obtain ⟨entry, bind_present, resolved, rfl, -, rfl, earlier, parse_made, passed_parse⟩ :=
    history.entry_at bind_listed
  rw [same, bind_present] at made
  obtain rfl : resolved = binding := by simpa using made
  have same_parse := passed_parse.carriedOut_iff coherent parsed earlier (by
    obtain ⟨message, parse_asked, resolved⟩ := history.message_at parse_made
    exact ⟨message, parse_asked, resolved.parses⟩)
  rw [same_parse]
  constructor
  · rintro rfl
    exact numbered
  · intro equal
    rw [equal, parse_present] at parse_made
    simpa using parse_made.symm

/-- The start for an accepted Execute. -/
private theorem startOf_execute (recorded : Recorded sink b w.messages w.observer)
    {binding : PostgresPortal} (present : w.observer.accepted[k]? = some ⟨.execute, some binding⟩) :
    ∃ start, w.startOf k = some start ∧ start.1 = .postgresExecute ∧
      start.2.1 = binding.prepared.audit.text := by
  have kinds : w.observer.accepted.map AcceptedOperation.isStarted = w.messages.map
    FrontendMessage.isAudited := by
    refine ext_getElem (by simp [recorded.history.length]) fun k within bound => ?_
    simp only [length_map] at within bound
    have resolved := recorded.history.resolved k _ _ (getElem?_eq_getElem bound)
      (getElem?_eq_getElem within)
    rw [getElem_map, getElem_map]
    exact resolved.isStarted
  have counts : (w.observer.accepted.take k).countP AcceptedOperation.isStarted =
      (w.messages.take k).countP FrontendMessage.isAudited := by
    have taken := congrArg (fun kinds => (kinds.take k).countP id) kinds
    simpa [← map_take] using taken
  have entry := getElem?_filter present (rfl : AcceptedOperation.isStarted _)
  rw [counts] at entry
  obtain ⟨within, same⟩ := List.getElem?_eq_some_iff.mp entry
  have lengths := recorded.started.length_eq
  refine ⟨_, getElem?_eq_getElem (by omega), ?_⟩
  have started := (forall₂_iff_get.mp recorded.started).2 _ (by omega) within
  rw [get_eq_getElem, get_eq_getElem, same] at started
  exact started

/-- In every run in which no Query is the first message behind an observed error and in front of
its Sync, every Execute the backend ran had its start.  It was announced as the very statement its
portal was bound to exactly if the Bind and the Parse the observer had resolved it to were carried
out, and then its text is an audit text of the Parse that made that statement. -/
theorem execute_announced_as_bound {maxClientMessageBytes : Int}
    (run : Run sink budget QueryAfterSync (World.new maxClientMessageBytes) w) {ran : PortalRun}
    (member : ran ∈ w.backend.ran) :
    ∃ binding start statement sql prepared,
      w.observer.accepted[ran.execute]? = some ⟨.execute, some binding⟩ ∧
      w.startOf ran.execute = some start ∧ start.1 = .postgresExecute ∧
      w.messages[ran.parse]? = some (.parse statement sql) ∧
      w.observer.accepted[ran.parse]? = some ⟨.parse statement prepared, none⟩ ∧
      IsAuditText sink sql prepared.audit.text ∧
      (binding.pointer = ran.bind ∧ binding.prepared = prepared ↔ w.CarriesOut ran.execute) ∧
      (w.CarriesOut ran.execute → start.2.1 = prepared.audit.text) := by
  have tracked := run.tracked following_tracking (new_recorded _) (new_following _)
  have recorded := tracked.settled
  rw [← tracked.messages] at recorded
  obtain ⟨binding, statement, sql, prepared, present, listed, parsed, text, same⟩ :=
    resolution_iff (tracked.messages ▸ tracked.coherent) recorded member
  obtain ⟨start, found, command, announced⟩ := startOf_execute recorded present
  have carries : binding.pointer = ran.bind ∧ binding.prepared = prepared ↔
      w.CarriesOut ran.execute := by
    rw [same]
    constructor
    · intro both other equal
      rw [present] at equal
      obtain rfl : binding = other := by simpa using equal
      exact both
    · exact fun carries => carries binding present
  refine ⟨binding, start, statement, sql, prepared, present, found, command, listed, parsed, text,
    carries, fun carried => ?_⟩
  rw [announced, (carries.mpr carried).2]

end Integrity

/-! ## A statement that the audit shows as another -/

/-- A Parse of `A` under the name `s`, and a Sync. -/
def firstBatch : Bytes :=
  [80, 0, 0, 0, 10, 115, 0, 65, 0, 0, 0, 83, 0, 0, 0, 4]

/-- A Parse that is going to fail, a Close of `s`, a Parse of `B` under the name `s` and a Sync;
then a Bind of `s`, an Execute and a Sync. -/
def secondBatch : Bytes :=
  [80, 0, 0, 0, 10, 116, 0, 88, 0, 0, 0, 67, 0, 0, 0, 7, 83, 115, 0,
    80, 0, 0, 0, 10, 115, 0, 66, 0, 0, 0, 83, 0, 0, 0, 4,
    66, 0, 0, 0, 13, 0, 115, 0, 0, 0, 0, 0, 0, 0, 69, 0, 0, 0, 9, 0, 0, 0, 0, 0,
    83, 0, 0, 0, 4]

def parseComplete : Bytes := [49, 0, 0, 0, 4]
def bindComplete : Bytes := [50, 0, 0, 0, 4]
def readyForQuery : Bytes := [90, 0, 0, 0, 5, 73]
def errorResponse : Bytes := [69, 0, 0, 0, 5, 0]
def commandComplete : Bytes := [67, 0, 0, 0, 5, 0]

variable {frame : Bytes}

theorem carriedOut_single (completes : message.completedBy (frameType frame)) :
    IsAnswer message .carriedOut [frame] :=
  @IsAnswer.carriedOut message [] [] frame (by simp) completes (by simp)

theorem rejected_single (fails : frameType frame = errorType) :
    IsAnswer message .rejected [frame] :=
  @IsAnswer.rejected message [] [] frame (by simp) fails (by simp)

/-- The world after a client chunk. -/
def afterClient (w : World) (data : Bytes) : World :=
  { w with
    session := w.session.act (PostgresObserver.relay countingSink none) (.client data)
    stopped := (observeClientRelayBytes countingSink none w.observer data).decision.isSome }

/-- The world after everything on its way back has arrived. -/
def afterServer (w : World) : World :=
  { w with
    session := w.session.act (PostgresObserver.relay countingSink none) (.server w.outbox)
    outbox := [] }

/-- The world after the backend is done with a message. -/
def afterBackend (w : World) (b : Backend) (answer : List Bytes) : World :=
  { w with backend := b, outbox := w.outbox ++ answer.flatten }

/-- Worlds a fresh connection can come to. -/
abbrev Reached : World → Prop :=
  Relation.ReflTransGen (Step countingSink none) (World.new 0)

private theorem Reached.handle {w : World} (reached : Reached w) (message : FrontendMessage)
    (answer : List Bytes) {b : Backend} (handles : w.backend.Handles message answer b)
    (next : w.messages[w.backend.handled.length]? = some message)
    (proper : ∀ frame ∈ answer, IsFrame frame) : Reached (w.afterBackend b answer) :=
  reached.tail (.handle next handles proper)

/-- The backend rejects a Parse and discards the Close and the Parse behind it, so it binds and runs
`A`.  The observer had resolved the names before the error came back, and announced `B`. -/
theorem execute_announced_as_discarded_parse : ∃ w ran, Reached w ∧ ran ∈ w.backend.ran ∧
      w.messages[ran.parse]? = some (.parse [115] [65]) ∧
      (w.startOf ran.execute).map (fun start => start.2.1) = some [66] := by
  have sent : Reached ((World.new 0).afterClient firstBatch) := .single (.client firstBatch rfl)
  have parsed := sent.handle (.parse [115] [65]) [parseComplete]
    (.parse rfl (carriedOut_single (by decide))) (by decide +kernel) (by decide)
  have synced := parsed.handle .sync [readyForQuery] (.sync (carriedOut_single (by decide)))
    (by decide +kernel) (by decide)
  have confirmed : Reached (afterServer _) := synced.tail (.server (List.append_nil _).symm)
  have pipelined : Reached (afterClient _ secondBatch) :=
    confirmed.tail (.client secondBatch (by decide +kernel))
  have rejected := pipelined.handle (.parse [116] [88]) [errorResponse]
    (.reject rfl rfl (rejected_single rfl)) (by decide +kernel) (by decide)
  have unclosed := rejected.handle (.close statementTarget [115]) []
    (.discard rfl rfl (.discarded (by simp))) (by decide +kernel) (by simp)
  have unparsed := unclosed.handle (.parse [115] [66]) []
    (.discard rfl rfl (.discarded (by simp))) (by decide +kernel) (by simp)
  have resynced := unparsed.handle .sync [readyForQuery] (.sync (carriedOut_single (by decide)))
    (by decide +kernel) (by decide)
  have bound := resynced.handle (.bind [] [115]) [bindComplete]
    (.bind rfl (by decide +kernel : _ = some 0) (carriedOut_single (by decide)))
    (by decide +kernel) (by decide)
  have ran := bound.handle (.execute []) [commandComplete]
    (.execute rfl (by decide +kernel : _ = some (6, 0)) (.inl rfl) (carriedOut_single (by decide)))
    (by decide +kernel) (by decide)
  exact ⟨_, ⟨7, 6, 0⟩, ran, by decide +kernel, by decide +kernel, by decide +kernel⟩

/-- A Parse, a Bind and an Execute under empty names, and a Sync. -/
def plainBatch : Bytes :=
  [80, 0, 0, 0, 9, 0, 65, 0, 0, 0, 66, 0, 0, 0, 12, 0, 0, 0, 0, 0, 0, 0, 0,
    69, 0, 0, 0, 9, 0, 0, 0, 0, 0, 83, 0, 0, 0, 4]

private theorem plainBatch_run :
    ∃ w, Run countingSink none QueryAfterSync (World.new 0) w ∧ w.backend.ran = [⟨2, 1, 0⟩] ∧
      w.messages[0]? = some (.parse [] [65]) ∧ w.backend.CarriedOut 0 ∧ w.backend.CarriedOut 1 ∧
      (w.observer.accepted[2]?.bind AcceptedOperation.portal).map
        (fun binding => (binding.pointer, binding.prepared.pointer)) = some (1, 0) := by
  have follows : ∀ {w w' : World}, w.backend.skipping = false → Follows QueryAfterSync w w' := by
    intro w w' going earlier message later _ _ _ skips
    simp [going] at skips
  have sent : Run countingSink none QueryAfterSync (World.new 0)
      ((World.new 0).afterClient plainBatch) := .single ⟨.client plainBatch rfl, follows rfl⟩
  have parsed : Run countingSink none QueryAfterSync (World.new 0) (afterBackend _ _ _) :=
    sent.tail ⟨.handle (by decide +kernel : _ = some (.parse [] [65]))
      (.parse rfl (carriedOut_single (by decide : _)))
      (by decide : ∀ frame ∈ [parseComplete], IsFrame frame), follows rfl⟩
  have bound : Run countingSink none QueryAfterSync (World.new 0) (afterBackend _ _ _) :=
    parsed.tail ⟨.handle (by decide +kernel : _ = some (.bind [] []))
      (.bind rfl (by decide +kernel : _ = some 0) (carriedOut_single (by decide : _)))
      (by decide : ∀ frame ∈ [bindComplete], IsFrame frame), follows rfl⟩
  have ran : Run countingSink none QueryAfterSync (World.new 0) (afterBackend _ _ _) :=
    bound.tail ⟨.handle (by decide +kernel : _ = some (.execute []))
      (.execute rfl (by decide +kernel : _ = some (1, 0)) (.inl rfl)
        (carriedOut_single (by decide : _)))
      (by decide : ∀ frame ∈ [commandComplete], IsFrame frame), follows rfl⟩
  exact ⟨_, ran, rfl, by decide +kernel, ⟨_, rfl, rfl⟩, ⟨_, rfl, rfl⟩, by decide +kernel⟩

theorem execute_announced_as_bound_plainBatch :
    ∃ w start, Run countingSink none QueryAfterSync (World.new 0) w ∧
      w.backend.ran = [⟨2, 1, 0⟩] ∧ w.CarriesOut 2 ∧ w.startOf 2 = some start ∧
      IsAuditText countingSink [65] start.2.1 := by
  obtain ⟨w, run, ran, parse, first, second, numbers⟩ := plainBatch_run
  obtain ⟨binding, start, statement, sql, prepared, accepted, found, -, listed, -, text, -,
    announced⟩ := execute_announced_as_bound run (by simp [ran] : ⟨2, 1, 0⟩ ∈ w.backend.ran)
  have carries : w.CarriesOut 2 := by
    intro binding accepted
    obtain ⟨bind, parse⟩ : binding.pointer = 1 ∧ binding.prepared.pointer = 0 := by
      simpa [accepted] using numbers
    rw [bind, parse]
    exact ⟨second, first⟩
  rw [parse] at listed
  obtain ⟨-, rfl⟩ : [] = statement ∧ [65] = sql := by simpa using listed
  exact ⟨w, start, run, ran, carries, found, announced carries ▸ text⟩

end World
end Jianmen.DBProxy
