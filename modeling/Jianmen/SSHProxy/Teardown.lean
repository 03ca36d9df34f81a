import Jianmen.SSHProxy.Connection

/-!
# Recording until the end

What a session writes to the target was recorded before, and the command of every exec request that
it delivers is recorded afterwards, provided that the recorder is closed only when no session can
reach the target any more and no delivered command is still to be recorded, that exec payloads hold
nothing but their command, and that the SFTP proxy, which records no input, is not used.
-/

namespace Jianmen.SSHProxy

open DBProxy (Bytes ascii)
open Recording (AuditRedactor SessionRecorder CommandEvent)
open Interleaving List

/-! ## Exec payloads -/

/-- The command string at the start of a payload, unless it is blank. -/
def commandAtStart (payload : Bytes) : Option Bytes :=
  match parseString payload with
  | none => none
  | some (command, _) => if Utf8.trimSpace command = [] then none else some command

/-- Nothing follows the command string of a payload. -/
def Whole (payload : Bytes) : Prop :=
  ∀ parts ∈ parseString payload, parts.2 = []

instance (payload : Bytes) : Decidable (Whole payload) :=
  inferInstanceAs (Decidable (∀ parts ∈ parseString payload, parts.2 = []))

/-- The command that is recorded for a payload. -/
def loggedCommand (payload : Bytes) : Option Bytes :=
  (parseExecRequest payload).filter fun command => Utf8.trimSpace command ≠ []

theorem loggedCommand_of_whole {payload : Bytes} (whole : Whole payload) :
    loggedCommand payload = commandAtStart payload := by
  unfold loggedCommand commandAtStart parseExecRequest unmarshalString
  cases parsed : parseString payload with
  | none => rfl
  | some parts =>
    obtain ⟨command, rest⟩ := parts
    obtain rfl : rest = [] := whole _ parsed
    by_cases blank : Utf8.trimSpace command = []
    · simp [blank]
    · simp [blank]

/-! ## What a session leaves behind -/

/-- The input of a session that was recorded, the payloads it delivered, and its recorded
commands. -/
structure Books where
  processed : Bytes := []
  delivered : List Bytes := []
  logged : List Bytes := []

/-- What an effect adds; a recorder that does not listen records nothing. -/
def Books.enter (books : Books) (listening : Bool) : Effect → Books
  | .silent | .recordOutput _ => books
  | .recordInput data =>
    if listening then { books with processed := books.processed ++ data } else books
  | .recordCommand payload =>
    if listening then { books with logged := books.logged ++ (loggedCommand payload).toList }
    else books
  | .deliver payload => { books with delivered := books.delivered ++ [payload] }

namespace Session

variable {access : Access} {listening connected : Bool} {books : Books} {s s' : Session}
  {action : SessionAction} {effect : Effect} {processed : Bytes} {request : Request}

/-- The payload of the exec request that is being handled. -/
def execPayload (s : Session) : Option Bytes :=
  match s.handler with
  | .forwarding request | .awaitingReply request =>
    if request.type = .exec then some request.payload else none
  | .recording payload _ => some payload
  | _ => none

/-- The payload that was delivered and whose command is still to be recorded. -/
def pending (s : Session) : List Bytes :=
  match s.handler with
  | .awaitingReply request => if request.type = .exec then [request.payload] else []
  | .recording payload true => [payload]
  | _ => []

/-- The session can not reach the target any more. -/
def Severed (s : Session) : Prop :=
  s.target = .closed ∨ s.target = .unopened ∧ s.handler = .ended

instance (s : Session) : Decidable s.Severed :=
  inferInstanceAs (Decidable (_ ∨ _))

/-- What is written is what was recorded, up to the chunk that is being written. -/
def Aligned (s : Session) (processed : Bytes) : Prop :=
  match s.copy with
  | .idle | .reading | .recording _ => s.written = processed
  | .writing rest => s.written ++ rest = processed
  | .stopped => True

/-! ### Steps -/

theorem startCopy_same (s : Session) :
    s.startCopy.handler = s.handler ∧ s.startCopy.target = s.target ∧
      s.startCopy.written = s.written := by
  unfold startCopy
  split
  · exact ⟨rfl, rfl, rfl⟩
  · exact ⟨rfl, rfl, rfl⟩

theorem Aligned.startCopy (aligned : s.Aligned processed) : s.startCopy.Aligned processed := by
  unfold Session.startCopy
  split
  · rename_i idle
    rw [Aligned, idle] at aligned
    exact aligned
  · exact aligned

/-- After a request was forwarded, the goroutine waits or records a command, and the other one may
have started. -/
theorem forwarded_eq (s : Session) (request : Request) (delivered ok : Bool) :
    ∃ started : Session, (started = s ∨ started = s.startCopy) ∧ s.forwarded request delivered ok =
        { started with
          handler := if request.type = .exec then .recording request.payload delivered
            else .waiting } := by
  unfold forwarded
  cases type : request.type <;> cases ok <;> simp

/-- The request hands the session over to the SFTP proxy. -/
def ServesSFTP (access : Access) (request : Request) : Prop :=
  request.type = .subsystem ∧ parseSubsystemName request.payload = ascii "sftp" ∧ access.sftp = true

instance (access : Access) (request : Request) : Decidable (ServesSFTP access request) :=
  inferInstanceAs (Decidable (_ ∧ _))

theorem handleRequest_eq (s : Session) (request : Request) : s.handleRequest access request = s ∨
      ServesSFTP access request ∧
        s.handleRequest access request = { s with handler := .serving } ∨
      s.handleRequest access request = { s with handler := .forwarding request } := by
  unfold handleRequest ServesSFTP
  by_cases subsystem : request.type = .subsystem
  · by_cases named : parseSubsystemName request.payload = ascii "sftp"
    · cases allowed : access.sftp
      all_goals simp [subsystem, named, Access.allows, allowed]
    · cases allowed : access.ssh
      all_goals simp [subsystem, named, Access.allows, allowed]
  · simp only [subsystem, false_and, if_false]
    split
    · exact .inl rfl
    · exact .inr (.inr rfl)

/-- The steps of a session, with what each of them requires. -/
inductive Moves (access : Access) (connected : Bool) (s : Session) :
    SessionAction → Session → Effect → Prop where
  | receive {request : Request} (waits : s.handler = .waiting) :
      Moves access connected s (.receive request) (s.handleRequest access request) .silent
  | openTarget {request : Request} (forwards : s.handler = .forwarding request)
      (unopened : s.target = .unopened) :
      Moves access connected s .openTarget { s with target := .opened } .silent
  | send {request : Request} (forwards : s.handler = .forwarding request)
      (opened : s.target = .opened) (reachable : connected = true)
      (replies : request.replies = true) :
      Moves access connected s .send { s with handler := .awaitingReply request }
        (if request.type = .exec then .deliver request.payload else .silent)
  | sendOnly {request : Request} (forwards : s.handler = .forwarding request)
      (replies : request.replies = false) :
      Moves access connected s .send (s.forwarded request true true) .silent
  | forwardError {request : Request} (forwards : s.handler = .forwarding request) :
      Moves access connected s .forwardError (s.forwarded request false false) .silent
  | reply {request : Request} {ok : Bool} (awaits : s.handler = .awaitingReply request) :
      Moves access connected s (.reply ok) (s.forwarded request true ok) .silent
  | recordCommand {payload : Bytes} {delivered : Bool}
      (records : s.handler = .recording payload delivered) :
      Moves access connected s .recordCommand { s with handler := .waiting }
        (.recordCommand payload)
  | serve {data : Bytes} (serves : s.handler = .serving) :
      Moves access connected s (.serve data) { s with written := s.written ++ data } .silent
  | endServe (idle : s.handler = .waiting ∨ s.handler = .serving) :
      Moves access connected s .endServe (closeTarget { s with handler := .ended }) .silent
  | read {data : Bytes} (reads : s.copy = .reading) :
      Moves access connected s (.read data) { s with copy := .recording data } .silent
  | recordInput {data : Bytes} (records : s.copy = .recording data) :
      Moves access connected s .recordInput { s with copy := .writing data } (.recordInput data)
  | write {rest : Bytes} {count : ℕ} (writes : s.copy = .writing rest)
      (opened : s.target = .opened) (reachable : connected = true) :
      Moves access connected s (.write count)
        { s with
          copy := if rest.length ≤ count then .reading else .writing (rest.drop count)
          written := s.written ++ rest.take count } .silent
  | stopCopy : Moves access connected s .stopCopy { s with copy := .stopped } .silent
  | output {data : Bytes} : Moves access connected s (.output data) s (.recordOutput data)
  | close : Moves access connected s .close s.closeTarget .silent

theorem exec_replies (replies : request.replies = false) : request.type ≠ .exec := by
  intro exec
  rw [Request.replies, exec] at replies
  cases replies

theorem step_moves (taken : s.step access connected action = some (s', effect)) :
    Moves access connected s action s' effect := by
  cases action with
  | receive request =>
    simp only [step] at taken
    split at taken
    · rename_i waits
      cases taken
      exact .receive waits
    · cases taken
  | openTarget =>
    simp only [step] at taken
    split at taken
    · rename_i forwards unopened
      split at taken
      · cases taken
        exact .openTarget forwards unopened
      · cases taken
    · cases taken
  | send =>
    simp only [step] at taken
    split at taken
    · rename_i request forwards opened
      split at taken
      · rename_i reachable
        cases replies : request.replies with
        | true =>
          rw [replies] at taken
          cases taken
          exact .send forwards opened reachable replies
        | false =>
          rw [replies, if_neg (exec_replies replies)] at taken
          cases taken
          exact .sendOnly forwards replies
      · cases taken
    · cases taken
  | forwardError =>
    simp only [step] at taken
    split at taken
    · rename_i forwards
      cases taken
      exact .forwardError forwards
    · cases taken
  | reply =>
    simp only [step] at taken
    split at taken
    · rename_i awaits
      cases taken
      exact .reply awaits
    · cases taken
  | recordCommand =>
    simp only [step] at taken
    split at taken
    · rename_i records
      cases taken
      exact .recordCommand records
    · cases taken
  | serve =>
    simp only [step] at taken
    split at taken
    · rename_i serves
      split at taken
      · cases taken
        exact .serve serves
      · cases taken
    · cases taken
  | endServe =>
    simp only [step] at taken
    split at taken
    · rename_i waits
      cases taken
      exact .endServe (.inl waits)
    · rename_i serves
      cases taken
      exact .endServe (.inr serves)
    · cases taken
  | read data =>
    simp only [step] at taken
    split at taken
    · rename_i reads
      split at taken
      · cases taken
      · cases taken
        exact .read reads
    · cases taken
  | recordInput =>
    simp only [step] at taken
    split at taken
    · rename_i records
      cases taken
      exact .recordInput records
    · cases taken
  | write =>
    simp only [step] at taken
    split at taken
    · rename_i writes opened
      split at taken
      · rename_i reachable
        cases taken
        exact .write writes opened reachable
      · cases taken
    · cases taken
  | stopCopy =>
    simp only [step] at taken
    split at taken
    · cases taken
      exact .stopCopy
    · cases taken
      exact .stopCopy
    · cases taken
  | output data =>
    simp only [step] at taken
    split at taken
    · cases taken
    · cases taken
      exact .output
  | close =>
    simp only [step] at taken
    split at taken
    · cases taken
    · cases taken
      exact .close

theorem forwarded_same (s : Session) (request : Request) (delivered ok : Bool) :
    (s.forwarded request delivered ok).target = s.target ∧
      (s.forwarded request delivered ok).written = s.written := by
  obtain ⟨_, origin, same⟩ := s.forwarded_eq request delivered ok
  obtain ⟨-, target, written⟩ := startCopy_same s
  rw [same]
  rcases origin with rfl | rfl
  · exact ⟨rfl, rfl⟩
  · exact ⟨target, written⟩

theorem forwarded_handler (s : Session) (request : Request) (delivered ok : Bool) :
    (s.forwarded request delivered ok).handler =
      if request.type = .exec then .recording request.payload delivered else .waiting := by
  obtain ⟨_, -, same⟩ := s.forwarded_eq request delivered ok
  rw [same]

theorem forwarded_pending (s : Session) (request : Request) (delivered ok : Bool) :
    (s.forwarded request delivered ok).pending =
      if request.type = .exec ∧ delivered then [request.payload] else [] := by
  rw [pending, forwarded_handler]
  by_cases exec : request.type = .exec
  · cases delivered with
    | true => simp [exec]
    | false => simp [exec]
  · simp [exec]

theorem Aligned.forwarded (aligned : s.Aligned processed) (request : Request)
    (delivered ok : Bool) : (s.forwarded request delivered ok).Aligned processed := by
  obtain ⟨_, origin, same⟩ := s.forwarded_eq request delivered ok
  rw [same]
  rcases origin with rfl | rfl
  · exact aligned
  · exact aligned.startCopy

/-! ### After the recorder was closed -/

/-- Nothing is left to be recorded, and the session can not reach the target. -/
def CutOff (connected : Bool) (s : Session) : Prop :=
  s.pending = [] ∧ (connected = false ∨ s.Severed)

instance (connected : Bool) (s : Session) : Decidable (s.CutOff connected) :=
  inferInstanceAs (Decidable (_ ∧ _))

theorem CutOff.unreachable (cut : s.CutOff connected) (opened : s.target = .opened)
    (reachable : connected) : False := by
  rcases cut.2 with lost | closed | ⟨unopened, -⟩
  · exact Bool.false_ne_true (lost.symm.trans reachable)
  · cases opened.symm.trans closed
  · cases opened.symm.trans unopened

/-- A session stays severed as long as its goroutine goes on and its channel is the same. -/
theorem CutOff.going (cut : s.CutOff connected) (going : s.handler ≠ .ended)
    (target : s'.target = s.target) (pending : s'.pending = []) : s'.CutOff connected := by
  refine ⟨pending, cut.2.imp_right ?_⟩
  rintro (closed | ⟨-, ended⟩)
  · exact .inl (target.trans closed)
  · exact absurd ended going

theorem CutOff.moves (cut : s.CutOff connected) (unserved : s.handler ≠ .serving)
    (moves : Moves access connected s action s' effect) :
    s'.CutOff connected ∧ s'.written = s.written ∧ ∀ payload, effect ≠ .deliver payload := by
  cases moves with
  | @receive request waits =>
    have going : s.handler ≠ .ended := by simp [waits]
    refine ⟨?_, ?_, by simp⟩
    · rcases s.handleRequest_eq request with same | ⟨-, same⟩ | same
      all_goals rw [same]
      · exact cut
      · exact cut.going going rfl rfl
      · exact cut.going going rfl rfl
    · rcases s.handleRequest_eq request with same | ⟨-, same⟩ | same
      all_goals rw [same]
  | serve serves => exact absurd serves unserved
  | openTarget forwards unopened =>
    refine ⟨⟨?_, ?_⟩, rfl, by simp⟩
    · simp [pending, forwards]
    · rcases cut.2 with lost | closed | ⟨-, ended⟩
      · exact .inl lost
      · cases unopened.symm.trans closed
      · cases forwards.symm.trans ended
  | send forwards opened reachable replies => exact (cut.unreachable opened reachable).elim
  | @sendOnly request forwards replies =>
    obtain ⟨target, written⟩ := s.forwarded_same request true true
    refine ⟨cut.going (by simp [forwards]) target ?_, written, by simp⟩
    rw [forwarded_pending, if_neg fun both => exec_replies replies both.1]
  | @forwardError request forwards =>
    obtain ⟨target, written⟩ := s.forwarded_same request false false
    refine ⟨cut.going (by simp [forwards]) target ?_, written, by simp⟩
    rw [forwarded_pending, if_neg fun both => Bool.false_ne_true both.2]
  | @reply request ok awaits =>
    obtain ⟨target, written⟩ := s.forwarded_same request true ok
    refine ⟨cut.going (by simp [awaits]) target ?_, written, by simp⟩
    have other : request.type ≠ .exec := by
      intro exec
      have left := cut.1
      rw [pending, awaits] at left
      simp [exec] at left
    rw [forwarded_pending, if_neg fun both => other both.1]
  | recordCommand records => exact ⟨cut.going (by simp [records]) rfl rfl, rfl, by simp⟩
  | endServe =>
    refine ⟨⟨rfl, cut.2.imp_right fun _ => ?_⟩, rfl, by simp⟩
    cases s.target with
    | unopened => exact .inr ⟨rfl, rfl⟩
    | opened => exact .inl rfl
    | closed => exact .inl rfl
  | read => exact ⟨cut, rfl, by simp⟩
  | recordInput records => exact ⟨cut, rfl, by simp⟩
  | write _ opened reachable => exact (cut.unreachable opened reachable).elim
  | stopCopy => exact ⟨cut, rfl, by simp⟩
  | output => exact ⟨cut, rfl, by simp⟩
  | close =>
    refine ⟨⟨cut.1, cut.2.imp_right ?_⟩, rfl, by simp⟩
    unfold Severed closeTarget
    rintro (closed | ⟨unopened, ended⟩)
    · simp [closed]
    · simp [unopened, ended]

/-! ### While the recorder listens -/

/-- An exec request holds nothing but its command, and the SFTP proxy is not asked for. -/
def Admits (access : Access) : SessionAction → Prop
  | .receive request =>
    (request.type = .exec → Whole request.payload) ∧ ¬ServesSFTP access request
  | _ => True

instance (access : Access) : DecidablePred (Admits access)
  | .receive _ => inferInstanceAs (Decidable (_ ∧ _))
  | .openTarget | .send | .forwardError | .reply _ | .recordCommand | .serve _ | .endServe | .read _
  | .recordInput | .write _ | .stopCopy | .output _ | .close => .isTrue trivial

theorem forwarded_execPayload {delivered ok : Bool} {payload : Bytes}
    (payload_eq : (s.forwarded request delivered ok).execPayload = some payload) :
    request.type = .exec ∧ payload = request.payload := by
  rw [execPayload, forwarded_handler] at payload_eq
  by_cases exec : request.type = .exec
  · rw [if_pos exec] at payload_eq
    cases payload_eq
    exact ⟨exec, rfl⟩
  · rw [if_neg exec] at payload_eq
    cases payload_eq

/-- The SFTP proxy does not take over. -/
theorem Moves.unserved (moves : Moves access connected s action s' effect)
    (admits : Admits access action) (unserved : s.handler ≠ .serving) : s'.handler ≠ .serving := by
  cases moves with
  | @receive request waits =>
    rcases s.handleRequest_eq request with same | ⟨serves, -⟩ | same
    · rw [same]
      exact unserved
    · exact absurd serves admits.2
    · rw [same]
      nofun
  | sendOnly | forwardError | reply =>
    rw [forwarded_handler]
    split
    · nofun
    · nofun
  | openTarget | read | recordInput | write | stopCopy | output | close | serve => exact unserved
  | send | recordCommand | endServe => nofun

theorem Moves.whole (moves : Moves access connected s action s' effect)
    (admits : Admits access action)
    (whole : ∀ payload, s.execPayload = some payload → Whole payload) :
    ∀ payload, s'.execPayload = some payload → Whole payload := by
  intro payload present
  cases moves with
  | @receive request waits =>
    rcases s.handleRequest_eq request with same | ⟨-, same⟩ | same
    all_goals rw [same] at present
    · exact whole payload present
    · cases present
    · simp only [execPayload] at present
      split at present
      · rename_i exec
        cases present
        exact admits.1 exec
      · cases present
  | openTarget forwards => exact whole payload present
  | send forwards opened reachable replies =>
    apply whole payload
    rw [execPayload, forwards]
    exact present
  | @sendOnly request forwards replies =>
    exact absurd (forwarded_execPayload present).1 (exec_replies replies)
  | @forwardError request forwards =>
    obtain ⟨exec, rfl⟩ := forwarded_execPayload present
    exact whole _ (by simp [execPayload, forwards, exec])
  | @reply request ok awaits =>
    obtain ⟨exec, rfl⟩ := forwarded_execPayload present
    exact whole _ (by simp [execPayload, awaits, exec])
  | recordCommand records => cases present
  | serve => exact whole payload present
  | endServe => cases present
  | read => exact whole payload present
  | recordInput records => exact whole payload present
  | write _ opened reachable => exact whole payload present
  | stopCopy => exact whole payload present
  | output => exact whole payload present
  | close => exact whole payload present

/-- Data is written after it was recorded. -/
theorem Moves.data (moves : Moves access connected s action s' effect)
    (unserved : s.handler ≠ .serving) (aligned : s.Aligned books.processed)
    (written : s.written <+: books.processed) :
    s'.Aligned (books.enter true effect).processed ∧
      s'.written <+: (books.enter true effect).processed := by
  cases moves with
  | @receive request waits =>
    rcases s.handleRequest_eq request with same | ⟨-, same⟩ | same
    all_goals rw [same]
    all_goals exact ⟨aligned, written⟩
  | serve serves => exact absurd serves unserved
  | openTarget forwards => exact ⟨aligned, written⟩
  | @send request forwards opened reachable replies =>
    have same : (books.enter true
        (if request.type = .exec then .deliver request.payload else .silent)).processed =
          books.processed := by
      split
      · rfl
      · rfl
    rw [same]
    exact ⟨aligned, written⟩
  | @sendOnly request forwards replies =>
    exact ⟨aligned.forwarded request true true, by rwa [(s.forwarded_same request true true).2]⟩
  | @forwardError request forwards =>
    exact ⟨aligned.forwarded request false false,
      by rwa [(s.forwarded_same request false false).2]⟩
  | @reply request ok awaits =>
    exact ⟨aligned.forwarded request true ok, by rwa [(s.forwarded_same request true ok).2]⟩
  | recordCommand records => exact ⟨aligned, written⟩
  | endServe => exact ⟨aligned, written⟩
  | read reads =>
    rw [Aligned, reads] at aligned
    exact ⟨aligned, written⟩
  | @recordInput data records =>
    rw [Aligned, records] at aligned
    constructor
    · exact congrArg (· ++ data) aligned
    · exact written.trans (prefix_append _ _)
  | @write rest count writes opened reachable =>
    rw [Aligned, writes] at aligned
    have split : s.written ++ rest.take count ++ rest.drop count = books.processed := by
      rw [append_assoc, take_append_drop]
      exact aligned
    refine ⟨?_, ⟨rest.drop count, split⟩⟩
    by_cases all : rest.length ≤ count
    · rw [drop_eq_nil_of_le all] at split
      simpa [Aligned, if_pos all, Books.enter] using split
    · simpa [Aligned, if_neg all, Books.enter] using split
  | stopCopy => exact ⟨trivial, written⟩
  | output => exact ⟨aligned, written⟩
  | close => exact ⟨aligned, written⟩

/-- The commands of the delivered requests are recorded, the last one perhaps later. -/
def Accounted (books : Books) (s : Session) : Prop :=
  (books.delivered.filterMap commandAtStart).Sublist
    (books.logged ++ s.pending.filterMap commandAtStart)

theorem Accounted.idle (accounted : s.Accounted books) (nothing : s.pending = []) :
    s'.Accounted books := by
  unfold Accounted at accounted ⊢
  rw [nothing, filterMap_nil, append_nil] at accounted
  exact accounted.trans (sublist_append_left _ _)

theorem Accounted.same (accounted : s.Accounted books) (same : s'.pending = s.pending) :
    s'.Accounted books := by
  unfold Accounted
  rw [same]
  exact accounted

theorem Moves.commands (moves : Moves access connected s action s' effect)
    (whole : ∀ payload, s.execPayload = some payload → Whole payload)
    (accounted : s.Accounted books) : s'.Accounted (books.enter true effect) := by
  cases moves with
  | receive waits => exact accounted.idle (by simp [pending, waits])
  | openTarget forwards => exact accounted.idle (by simp [pending, forwards])
  | @send request forwards opened reachable replies =>
    by_cases exec : request.type = .exec
    · have before : (books.delivered.filterMap commandAtStart).Sublist books.logged := by
        simpa [Accounted, pending, forwards] using accounted
      have longer := before.append (List.Sublist.refl ([request.payload].filterMap commandAtStart))
      simpa [Accounted, pending, exec, Books.enter] using longer
    · rw [if_neg exec]
      exact accounted.idle (by simp [pending, forwards])
  | sendOnly forwards replies => exact accounted.idle (by simp [pending, forwards])
  | forwardError forwards => exact accounted.idle (by simp [pending, forwards])
  | @reply request ok awaits =>
    apply accounted.same
    rw [forwarded_pending, pending, awaits]
    simp
  | @recordCommand payload delivered records =>
    have known : loggedCommand payload = commandAtStart payload :=
      loggedCommand_of_whole (whole payload (by simp [execPayload, records]))
    have covered : (s.pending.filterMap commandAtStart).Sublist (loggedCommand payload).toList := by
      rw [known, pending, records]
      cases delivered with
      | true =>
        cases start : commandAtStart payload with
        | none => simp [start]
        | some => simp [start]
      | false => simp
    have longer := accounted.trans ((List.Sublist.refl books.logged).append covered)
    simpa [Accounted, Books.enter, pending] using longer
  | serve => exact accounted.same rfl
  | endServe idle =>
    apply accounted.idle
    rcases idle with waits | serves
    · simp [pending, waits]
    · simp [pending, serves]
  | read => exact accounted.same rfl
  | recordInput records => exact accounted.same rfl
  | write _ opened reachable => exact accounted.same rfl
  | stopCopy => exact accounted.same rfl
  | output => exact accounted
  | close => exact accounted.same rfl

/-! ### What a session keeps -/

structure Kept (listening connected : Bool) (books : Books) (s : Session) : Prop where
  unserved : s.handler ≠ .serving
  whole : ∀ payload, s.execPayload = some payload → Whole payload
  written : s.written <+: books.processed
  accounted : s.Accounted books
  aligned : listening = true → s.Aligned books.processed
  cut : listening = false → s.CutOff connected

theorem Kept.moves (kept : s.Kept listening connected books)
    (moves : Moves access connected s action s' effect) (admits : Admits access action) :
    s'.Kept listening connected (books.enter listening effect) := by
  have whole := moves.whole admits kept.whole
  have unserved := moves.unserved admits kept.unserved
  cases listening with
  | true =>
    obtain ⟨aligned, written⟩ := moves.data kept.unserved (kept.aligned rfl) kept.written
    exact ⟨unserved, whole, written, moves.commands kept.whole kept.accounted, fun _ => aligned,
      nofun⟩
  | false =>
    obtain ⟨cut, same, undelivered⟩ := (kept.cut rfl).moves kept.unserved moves
    have books_same : books.enter false effect = books := by
      cases effect with
      | deliver payload => exact absurd rfl (undelivered payload)
      | silent => rfl
      | recordInput data => rfl
      | recordOutput data => rfl
      | recordCommand payload => rfl
    rw [books_same]
    exact ⟨unserved, whole, same ▸ kept.written, kept.accounted.idle (kept.cut rfl).1, nofun,
      fun _ => cut⟩

end Session

/-! ## Connections -/

namespace Connection

variable {redactor : AuditRedactor} {c c' : Connection} {effect : Effect} {number : ℕ}

/-- What a session has left behind. -/
def books (c : Connection) (number : ℕ) : Books where
  processed := (own number c.processed).flatten
  delivered := own number c.delivered
  logged := own number c.logged

theorem recordExec_logged (payload : Bytes) : (c.recordExec redactor number payload).logged =
      c.logged ++
        if c.recorder.closed then [] else (loggedCommand payload).toList.map (number, ·) := by
  unfold recordExec loggedCommand
  cases parseExecRequest payload with
  | none => simp
  | some command =>
    by_cases blank : Utf8.trimSpace command = []
    · simp [blank]
    · cases c.recorder.closed with
      | true => simp
      | false => simp [blank, Option.filter_some]

/-- An effect of a session concerns its own books only. -/
theorem books_apply (other : ℕ) : (c.apply redactor number effect).books other =
      if number = other then (c.books other).enter (!c.recorder.closed) effect
      else c.books other := by
  cases effect with
  | silent => simp [apply, Books.enter]
  | recordOutput data => simp [apply, Books.enter, books]
  | recordInput data =>
    cases closed : c.recorder.closed with
    | true => simp [apply, Books.enter, books, closed]
    | false =>
      by_cases same : number = other
      · simp [apply, Books.enter, books, closed, own_concat, same]
      · simp [apply, books, closed, own_concat, same]
  | deliver payload =>
    by_cases same : number = other
    · simp [apply, Books.enter, books, own_concat, same]
    · simp [apply, books, own_concat, same]
  | recordCommand payload =>
    have rest : (c.recordExec redactor number payload).processed = c.processed ∧
        (c.recordExec redactor number payload).delivered = c.delivered := by
      unfold recordExec
      split
      · exact ⟨rfl, rfl⟩
      · exact ⟨rfl, rfl⟩
    rw [books, apply, recordExec_logged, rest.1, rest.2]
    cases closed : c.recorder.closed with
    | true => simp [Books.enter, books]
    | false =>
      cases found : loggedCommand payload with
      | none => simp [Books.enter, books, found]
      | some =>
        by_cases same : number = other
        · simp [Books.enter, books, own_concat, same, found]
        · simp [books, own_concat, same]

theorem apply_same : (c.apply redactor number effect).sessions = c.sessions ∧
    (c.apply redactor number effect).connected = c.connected ∧
    (c.apply redactor number effect).stage = c.stage := by
  cases effect with
  | recordCommand payload =>
    unfold apply recordExec
    dsimp only
    split
    · exact ⟨rfl, rfl, rfl⟩
    · exact ⟨rfl, rfl, rfl⟩
  | silent => exact ⟨rfl, rfl, rfl⟩
  | recordInput data => exact ⟨rfl, rfl, rfl⟩
  | recordOutput data => exact ⟨rfl, rfl, rfl⟩
  | deliver payload => exact ⟨rfl, rfl, rfl⟩

/-! ### The recorder -/

/-- The texts the recorder shows for commands. -/
def loggedTexts (redactor : AuditRedactor) (c : Connection) : List Bytes :=
  c.logged.map fun entry => redactor.redact .command (Utf8.trimSpace entry.2)

/-- The recorder records commands, and it has all those that were given to it. -/
structure Recorded (redactor : AuditRedactor) (c : Connection) : Prop where
  recordCommands : c.recorder.recordCommands = true
  texts : (c.loggedTexts redactor).Sublist c.recorder.commands.commandTexts

theorem recordExec_closed (closed : c.recorder.closed) (payload : Bytes) :
    (c.recordExec redactor number payload).recorder = c.recorder := by
  unfold recordExec
  split
  · rfl
  · simp [SessionRecorder.recordCommand, closed]

theorem apply_closed (closed : c.recorder.closed) :
    (c.apply redactor number effect).recorder = c.recorder ∧
      (c.apply redactor number effect).logged = c.logged := by
  cases effect with
  | silent => exact ⟨rfl, rfl⟩
  | deliver payload => exact ⟨rfl, rfl⟩
  | recordInput data => simp [apply, SessionRecorder.recordInputBytes, closed]
  | recordOutput data => simp [apply, SessionRecorder.recordOutput, closed]
  | recordCommand payload =>
    refine ⟨recordExec_closed closed payload, ?_⟩
    rw [apply, recordExec_logged, closed]
    simp

theorem recordExec_open (logging : c.recorder.Logging) (payload : Bytes) :
    (c.recordExec redactor number payload).recorder.Logging ∧
      (c.recordExec redactor number payload).recorder.commands.commandTexts =
        c.recorder.commands.commandTexts ++ (loggedCommand payload).toList.map fun command =>
          redactor.redact .command (Utf8.trimSpace command) := by
  unfold recordExec loggedCommand
  cases parseExecRequest payload with
  | none => exact ⟨logging, by simp⟩
  | some command =>
    obtain ⟨texts, still⟩ := SessionRecorder.recordCommand_texts redactor logging command
    refine ⟨still, ?_⟩
    by_cases blank : Utf8.trimSpace command = []
    · simp [texts, blank]
    · simp [texts, blank, Option.filter_some]

theorem Recorded.apply_open (recorded : c.Recorded redactor) (logging : c.recorder.Logging) :
    (c.apply redactor number effect).Recorded redactor ∧
      (c.apply redactor number effect).recorder.closed = false := by
  cases effect with
  | silent => exact ⟨recorded, logging.going⟩
  | deliver payload => exact ⟨{ recorded with }, logging.going⟩
  | recordInput data =>
    obtain ⟨advances, still⟩ := SessionRecorder.recordInputBytes_advances redactor logging data
    refine ⟨⟨still.recordCommands, ?_⟩, still.going⟩
    simp only [apply, advances.commands]
    exact recorded.texts.trans (sublist_append_left _ _)
  | recordOutput data =>
    obtain ⟨advances, still⟩ := SessionRecorder.recordOutput_advances redactor logging data
    refine ⟨⟨still.recordCommands, ?_⟩, still.going⟩
    simp only [apply, advances.commands]
    exact recorded.texts.trans (sublist_append_left _ _)
  | recordCommand payload =>
    obtain ⟨still, texts⟩ := @recordExec_open redactor c number logging payload
    refine ⟨⟨still.recordCommands, ?_⟩, still.going⟩
    have longer := recorded.texts.append (List.Sublist.refl ((loggedCommand payload).toList.map
      fun command => redactor.redact .command (Utf8.trimSpace command)))
    simpa [apply, texts, loggedTexts, recordExec_logged, logging.going, Function.comp_def] using
      longer

/-! ### Runs -/

/-- The recorder is closed only when no session can reach the target any more, exec payloads hold
nothing but their command, and the SFTP proxy is not asked for. -/
def Permits (c : Connection) : Action → Prop
  | .closeRecorder => ∀ s ∈ c.sessions, s.CutOff c.connected
  | .session _ action => Session.Admits c.access action
  | _ => True

instance (c : Connection) : DecidablePred c.Permits
  | .closeRecorder => inferInstanceAs (Decidable (∀ s ∈ c.sessions, s.CutOff c.connected))
  | .session _ action => inferInstanceAs (Decidable (Session.Admits c.access action))
  | .accept | .leave | .closeTarget | .lose => .isTrue trivial

structure Kept (redactor : AuditRedactor) (c : Connection) : Prop where
  recorded : c.Recorded redactor
  stage : c.recorder.closed = true → c.stage = .recorderClosed ∨ c.stage = .gone
  sessions : ∀ number (s : Session), c.sessions[number]? = some s →
    s.Kept (!c.recorder.closed) c.connected (c.books number)
  unused : ∀ number, c.sessions.length ≤ number → c.books number = {}

theorem Kept.logging (kept : c.Kept redactor) (stage : c.stage = .accepting ∨ c.stage = .leaving) :
    c.recorder.Logging := by
  refine ⟨?_, kept.recorded.recordCommands⟩
  cases closed : c.recorder.closed with
  | false => rfl
  | true =>
    have late := kept.stage closed
    rcases stage with early | early
    · simp [early] at late
    · simp [early] at late

/-- A session that has not done anything yet. -/
theorem fresh_kept (connected : Bool) : Session.Kept true connected {} {} where
  unserved := nofun
  whole := nofun
  written := prefix_refl _
  accounted := List.Sublist.refl _
  aligned _ := rfl
  cut := nofun

theorem Kept.accept (kept : c.Kept redactor) (stage : c.stage = .accepting) :
    Kept redactor { c with sessions := c.sessions ++ [{}] } := by
  have logging := kept.logging (.inl stage)
  refine ⟨⟨kept.recorded.recordCommands, kept.recorded.texts⟩, kept.stage, ?_, ?_⟩
  · intro number s present
    rw [getElem?_append] at present
    split at present
    · exact kept.sessions number s present
    rename_i beyond
    have unused : c.books number = {} := kept.unused number (Nat.le_of_not_lt beyond)
    obtain ⟨-, rfl⟩ : number - c.sessions.length = 0 ∧ s = {} := by
      cases offset : number - c.sessions.length with
      | zero =>
        rw [offset] at present
        cases present
        exact ⟨rfl, rfl⟩
      | succ =>
        rw [offset] at present
        cases present
    change Session.Kept (!c.recorder.closed) c.connected (c.books number) {}
    rw [unused, logging.going]
    exact fresh_kept c.connected
  · intro number beyond
    rw [length_append] at beyond
    exact kept.unused number (by omega)

/-- Closing the recorder cuts all sessions off that are not cut off yet. -/
theorem Kept.closeRecorder (kept : c.Kept redactor) (stage : c.stage = .leaving)
    (cut : ∀ s ∈ c.sessions, s.CutOff c.connected) :
    Kept redactor { c with stage := .recorderClosed, recorder := c.recorder.close redactor } := by
  obtain ⟨texts, closed, records⟩ := SessionRecorder.close_texts redactor (kept.logging (.inr stage))
  refine ⟨⟨records, ?_⟩, fun _ => .inl rfl, ?_, kept.unused⟩
  · rw [texts]
    exact kept.recorded.texts
  · intro number s present
    have before := kept.sessions number s present
    rw [closed]
    exact { before with aligned := nofun, cut := fun _ => cut s (mem_of_getElem? present) }

/-- Losing the connection to the target cuts nothing off that could be reached before. -/
theorem Kept.lose (kept : c.Kept redactor) {stage : Stage}
    (later : c.stage = stage ∨ stage = .gone) :
    Kept redactor { c with stage := stage, connected := false } := by
  refine ⟨⟨kept.recorded.recordCommands, kept.recorded.texts⟩, ?_, ?_, kept.unused⟩
  · intro closed
    rcases later with rfl | rfl
    · exact kept.stage closed
    · exact .inr rfl
  · intro number s present
    have before := kept.sessions number s present
    exact { before with cut := fun closed => ⟨(before.cut closed).1, .inl rfl⟩ }

theorem Kept.leave (kept : c.Kept redactor) (stage : c.stage = .accepting) :
    Kept redactor { c with stage := .leaving } := by
  refine ⟨⟨kept.recorded.recordCommands, kept.recorded.texts⟩, ?_, kept.sessions, kept.unused⟩
  intro closed
  rcases kept.stage closed with late | late
  · cases stage.symm.trans late
  · cases stage.symm.trans late

theorem Recorded.apply (recorded : c.Recorded redactor) :
    (c.apply redactor number effect).Recorded redactor ∧
      (c.apply redactor number effect).recorder.closed = c.recorder.closed := by
  cases closed : c.recorder.closed with
  | true =>
    obtain ⟨recorder, logged⟩ := @apply_closed redactor c effect number closed
    refine ⟨⟨?_, ?_⟩, ?_⟩
    · rw [recorder]
      exact recorded.recordCommands
    · rw [recorder, loggedTexts, logged]
      exact recorded.texts
    · rw [recorder]
      exact closed
  | false => exact recorded.apply_open ⟨closed, recorded.recordCommands⟩

theorem Kept.session (kept : c.Kept redactor) {s s' : Session} {action : SessionAction}
    (present : c.sessions[number]? = some s)
    (moves : Session.Moves c.access c.connected s action s' effect)
    (admits : Session.Admits c.access action) :
    Kept redactor (apply redactor { c with sessions := c.sessions.set number s' } number effect) := by
  obtain ⟨sessions, connected, stage⟩ := @apply_same redactor
    { c with sessions := c.sessions.set number s' } effect number
  have recorded : Recorded redactor { c with sessions := c.sessions.set number s' } :=
    ⟨kept.recorded.recordCommands, kept.recorded.texts⟩
  obtain ⟨recorded', closed⟩ := @Recorded.apply redactor _ effect number recorded
  have books : ∀ other, (apply redactor { c with sessions := c.sessions.set number s' } number
      effect).books other = if number = other then
        (c.books other).enter (!c.recorder.closed) effect else c.books other :=
    fun other => books_apply other
  refine ⟨recorded', ?_, ?_, ?_⟩
  · rw [closed, stage]
    exact kept.stage
  · intro other t there
    rw [sessions, getElem?_set] at there
    rw [closed, connected, books]
    split at there
    · rename_i same
      subst same
      split at there
      · cases there
        rw [if_pos rfl]
        exact (kept.sessions number s present).moves moves admits
      · cases there
    · rename_i different
      rw [if_neg different]
      exact kept.sessions other t there
  · intro other beyond
    rw [sessions, length_set] at beyond
    have below : number < c.sessions.length := (List.getElem?_eq_some_iff.mp present).1
    rw [books, if_neg (by omega)]
    exact kept.unused other beyond

theorem Kept.step (kept : c.Kept redactor) {action : Action} (permits : c.Permits action)
    (taken : c.step redactor action = some c') : c'.Kept redactor := by
  cases action with
  | accept =>
    simp only [Connection.step] at taken
    split at taken
    · rename_i stage
      cases taken
      exact kept.accept stage
    · cases taken
  | leave =>
    simp only [Connection.step] at taken
    split at taken
    · rename_i stage
      cases taken
      exact kept.leave stage
    · cases taken
  | closeRecorder =>
    simp only [Connection.step] at taken
    split at taken
    · rename_i stage
      cases taken
      exact kept.closeRecorder stage permits
    · cases taken
  | closeTarget =>
    simp only [Connection.step] at taken
    split at taken
    · cases taken
      exact kept.lose (.inr rfl)
    · cases taken
  | lose =>
    cases taken
    exact kept.lose (.inl rfl)
  | session _ action =>
    simp only [Connection.step] at taken
    split at taken
    · cases taken
    rename_i present
    split at taken
    · cases taken
    · rename_i moved
      cases taken
      exact kept.session present (Session.step_moves moved) permits

theorem established_kept (access : Access) (recordInput : Bool) :
    (established access recordInput).Kept redactor where
  recorded := ⟨rfl, List.Sublist.refl _⟩
  stage := nofun
  sessions := nofun
  unused _ _ := rfl

/-- In every run that closes the recorder in time, whose exec payloads are whole and that does not
use the SFTP proxy, each session has written to the target only what was recorded before, in order;
the commands of the exec requests it delivered were recorded, but for the one that is being handled,
for which the recorder still listens; and the recorder holds all these commands. -/
theorem recorded_to_the_end (redactor : AuditRedactor) (access : Access) (recordInput : Bool)
    (actions : List Action) (c : Connection)
    (permitted : Actions.Permitted (step redactor) Permits (established access recordInput) actions)
    (execution : Actions.run (step redactor) (established access recordInput) actions = some c) :
    (∀ number (s : Session), c.sessions[number]? = some s →
      s.written <+: (own number c.processed).flatten ∧
        ((own number c.delivered).filterMap commandAtStart).Sublist
          (own number c.logged ++ s.pending.filterMap commandAtStart) ∧
        (s.pending ≠ [] → c.recorder.closed = false)) ∧
      (c.loggedTexts redactor).Sublist c.recorder.commands.commandTexts := by
  have kept : c.Kept redactor :=
    Actions.run_invariant (fun _ _ _ kept permits taken => kept.step permits taken)
      (established_kept access recordInput) permitted execution
  refine ⟨fun number s present => ?_, kept.recorded.texts⟩
  have session := kept.sessions number s present
  refine ⟨session.written, session.accounted, fun left => ?_⟩
  cases closed : c.recorder.closed with
  | false => rfl
  | true => exact absurd (session.cut (by simp [closed])).1 left

/-- A client that runs a command, types, and leaves after the session has ended. -/
def orderlyActions : List Action :=
  [.accept,
    .session 0 (.receive ⟨.exec, true, [0, 0, 0, 2] ++ ascii "id"⟩), .session 0 .openTarget,
    .session 0 .send, .session 0 (.reply true), .session 0 .recordCommand,
    .session 0 (.read (ascii "ls")), .session 0 .recordInput, .session 0 (.write 1),
    .session 0 (.write 1), .session 0 .endServe, .leave, .closeRecorder, .closeTarget]

theorem recorded_to_the_end_orderly :
    (Actions.run (step SessionRecorder.plainRedactor) (established ⟨true, false⟩ true)
        orderlyActions).map (fun c => (c.sessions.map Session.written, c.processed,
          c.recorder.commands.commandTexts)) =
      some ([ascii "ls"], [(0, ascii "ls")], [ascii "id"]) ∧
    ∀ c, Actions.run (step SessionRecorder.plainRedactor) (established ⟨true, false⟩ true)
        orderlyActions = some c →
      (c.loggedTexts SessionRecorder.plainRedactor).Sublist c.recorder.commands.commandTexts := by
  refine ⟨by decide +kernel, fun c execution => ?_⟩
  exact (recorded_to_the_end SessionRecorder.plainRedactor ⟨true, false⟩ true orderlyActions c
    (by decide +kernel) execution).2

/-- A client that leaves while the data it sent last is still to be copied. -/
def hurriedActions : List Action :=
  [.accept, .session 0 (.receive ⟨.shell, true, []⟩), .session 0 .openTarget, .session 0 .send,
    .session 0 (.reply true), .leave, .closeRecorder, .session 0 (.read (ascii "rm x\r")),
    .session 0 .recordInput, .session 0 (.write 5), .closeTarget]

/-- An exec request whose payload goes on after the command. -/
def paddedActions : List Action :=
  [.accept, .session 0 (.receive ⟨.exec, true, [0, 0, 0, 2] ++ ascii "id" ++ [0]⟩),
    .session 0 .openTarget, .session 0 .send, .session 0 (.reply true), .session 0 .recordCommand]

/-- A file of the client passes through the SFTP proxy. -/
def uploadActions : List Action :=
  [.accept, .session 0 (.receive ⟨.subsystem, true, [0, 0, 0, 4] ++ ascii "sftp"⟩),
    .session 0 (.serve (ascii "data"))]

/-- Data reaches the target after the recorder was closed and through the SFTP proxy, and a padded
command is not recorded. -/
theorem unrecorded_reaches_target :
    (Actions.run (step SessionRecorder.plainRedactor) (established ⟨true, false⟩ true)
        hurriedActions).map (fun c => (c.sessions.map Session.written, c.processed)) =
      some ([ascii "rm x\r"], []) ∧
    (Actions.run (step SessionRecorder.plainRedactor) (established ⟨true, false⟩ true)
        paddedActions).map (fun c => (c.delivered.map fun entry => commandAtStart entry.2,
          c.recorder.commands.commandTexts)) =
      some ([some (ascii "id")], []) ∧
    (Actions.run (step SessionRecorder.plainRedactor) (established ⟨true, true⟩ true)
        uploadActions).map (fun c => (c.sessions.map Session.written, c.processed)) =
      some ([ascii "data"], []) := by
  decide +kernel

end Connection
end Jianmen.SSHProxy
