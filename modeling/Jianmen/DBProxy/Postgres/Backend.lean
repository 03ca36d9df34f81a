import Jianmen.Library.Pipeline
import Jianmen.DBProxy.Postgres.Audit

/-!
# A backend behind the observer

The backend reads the frames the observer lets through and works off the messages in them, one
after the other.  It answers each of them; after an error in a message of the extended protocol it
discards everything up to the next Sync.  A world is the observer as the relay calls it, the
backend, and the bytes that are on their way back; whatever is on its way is delivered in chunks of
any size at any time.
-/

namespace Jianmen.DBProxy

open Postgres Pipeline

/-! ## Answers -/

/-- The type byte of a frame. -/
def frameType (frame : Bytes) : MessageType :=
  frame.headD 0

/-- Types that answer nothing: rows, copied data, notices, parameters. -/
def isNeutral (messageType : MessageType) : Bool :=
  !([errorType, parseCompleteType, bindCompleteType, closeCompleteType, rowDescriptionType,
    noDataType, commandCompleteType, emptyQueryType, portalSuspendedType,
    readyForQueryType].contains messageType)

/-- The message is of the extended protocol, Sync apart. -/
def FrontendMessage.isExtended : FrontendMessage → Bool
  | .parse .. | .bind .. | .execute _ | .close .. | .describe => true
  | .query _ | .sync | .other => false

def FrontendMessage.isSync : FrontendMessage → Bool
  | .sync => true
  | _ => false

/-- The type of the response that completes a message. -/
def FrontendMessage.completedBy (message : FrontendMessage) (messageType : MessageType) : Bool :=
  match message with
  | .query _ | .sync => messageType == readyForQueryType
  | .parse .. => messageType == parseCompleteType
  | .bind .. => messageType == bindCompleteType
  | .close .. => messageType == closeCompleteType
  | .describe => messageType == rowDescriptionType || messageType == noDataType
  | .execute _ =>
    messageType == commandCompleteType || messageType == emptyQueryType ||
      messageType == portalSuspendedType
  | .other => false

/-- The types of the responses that may come before that one. -/
def FrontendMessage.accompaniedBy (message : FrontendMessage) (messageType : MessageType) :
    Bool :=
  isNeutral messageType ||
    match message with
    | .query _ =>
      [errorType, rowDescriptionType, noDataType, commandCompleteType,
        emptyQueryType].contains messageType
    | .sync => messageType == errorType
    | _ => false

/-- How a message is answered, by what becomes of it. -/
inductive IsAnswer : FrontendMessage → Fate → List Bytes → Prop where
  | carriedOut {message : FrontendMessage} {before after : List Bytes} {last : Bytes}
      (accompanies : ∀ frame ∈ before, message.accompaniedBy (frameType frame) = true)
      (completes : message.completedBy (frameType last) = true)
      (neutral : ∀ frame ∈ after, isNeutral (frameType frame) = true) :
      IsAnswer message .carriedOut (before ++ last :: after)
  | rejected {message : FrontendMessage} {before after : List Bytes} {last : Bytes}
      (accompanies : ∀ frame ∈ before, isNeutral (frameType frame) = true)
      (fails : frameType last = errorType)
      (neutral : ∀ frame ∈ after, isNeutral (frameType frame) = true) :
      IsAnswer message .rejected (before ++ last :: after)
  | discarded {message : FrontendMessage} {answer : List Bytes}
      (neutral : ∀ frame ∈ answer, isNeutral (frameType frame) = true) :
      IsAnswer message .discarded answer

/-! ## The backend -/

/-- A message the backend is done with. -/
structure Handled where
  message : FrontendMessage
  fate : Fate
  answer : List Bytes

/-- A run of a portal: the numbers of the Execute, of the Bind that made the portal and of the
Parse that made the statement the portal was bound to. -/
structure PortalRun where
  execute : ℕ
  bind : ℕ
  parse : ℕ
  deriving DecidableEq

/-- A backend.  A statement is known by the number of its Parse, a portal by those of its Bind and
of the Parse of its statement. -/
structure Backend where
  handled : List Handled := []
  skipping : Bool := false
  statements : Bytes → Option ℕ := fun _ => none
  portals : Bytes → Option (ℕ × ℕ) := fun _ => none
  ran : List PortalRun := []

namespace Backend

/-- The backend after it is done with a message. -/
def log (b : Backend) (message : FrontendMessage) (fate : Fate) (answer : List Bytes) : Backend :=
  { b with
    handled := b.handled ++ [⟨message, fate, answer⟩]
    skipping := fate != .carriedOut }

/-- What became of the messages so far. -/
def fates (b : Backend) : List (FrontendMessage × Fate) :=
  b.handled.map fun handled => (handled.message, handled.fate)

/-- Working off a message: a rejected or discarded one changes nothing but the skipping, and an
Execute may fail after it ran. -/
inductive Handles (b : Backend) : FrontendMessage → List Bytes → Backend → Prop where
  | discard {message : FrontendMessage} {answer : List Bytes} (skips : b.skipping = true)
      (ordinary : message.isSync = false) (answers : IsAnswer message .discarded answer) :
      Handles b message answer (b.log message .discarded answer)
  | reject {message : FrontendMessage} {answer : List Bytes} (going : b.skipping = false)
      (extended : message.isExtended = true) (answers : IsAnswer message .rejected answer) :
      Handles b message answer (b.log message .rejected answer)
  | sync {answer : List Bytes} (answers : IsAnswer .sync .carriedOut answer) :
      Handles b .sync answer (b.log .sync .carriedOut answer)
  | query {sql : Bytes} {answer : List Bytes} (going : b.skipping = false)
      (answers : IsAnswer (.query sql) .carriedOut answer) :
      Handles b (.query sql) answer (b.log (.query sql) .carriedOut answer)
  | parse {name sql : Bytes} {answer : List Bytes} (going : b.skipping = false)
      (answers : IsAnswer (.parse name sql) .carriedOut answer) :
      Handles b (.parse name sql) answer
        { b.log (.parse name sql) .carriedOut answer with
          statements := Function.update b.statements name (some b.handled.length) }
  | bind {portal statement : Bytes} {parse : ℕ} {answer : List Bytes} (going : b.skipping = false)
      (known : b.statements statement = some parse)
      (answers : IsAnswer (.bind portal statement) .carriedOut answer) :
      Handles b (.bind portal statement) answer
        { b.log (.bind portal statement) .carriedOut answer with
          portals := Function.update b.portals portal (some (b.handled.length, parse)) }
  | close {target : UInt8} {name : Bytes} {answer : List Bytes} (going : b.skipping = false)
      (answers : IsAnswer (.close target name) .carriedOut answer) :
      Handles b (.close target name) answer
        { b.log (.close target name) .carriedOut answer with
          statements :=
            if target = statementTarget then Function.update b.statements name none
            else b.statements
          portals :=
            if target = portalTarget then Function.update b.portals name none else b.portals }
  | describe {answer : List Bytes} (going : b.skipping = false)
      (answers : IsAnswer .describe .carriedOut answer) :
      Handles b .describe answer (b.log .describe .carriedOut answer)
  | execute {portal : Bytes} {bind parse : ℕ} {answer : List Bytes} {fate : Fate}
      (going : b.skipping = false) (known : b.portals portal = some (bind, parse))
      (runs : fate = .carriedOut ∨ fate = .rejected)
      (answers : IsAnswer (.execute portal) fate answer) :
      Handles b (.execute portal) answer
        { b.log (.execute portal) fate answer with
          ran := b.ran ++ [⟨b.handled.length, bind, parse⟩] }

/-- A backend may lose statements and portals at any time, as at the end of a transaction. -/
structure Forgets (b b' : Backend) : Prop where
  handled : b'.handled = b.handled
  skipping : b'.skipping = b.skipping
  ran : b'.ran = b.ran
  statements : ∀ name, b'.statements name = none ∨ b'.statements name = b.statements name
  portals : ∀ name, b'.portals name = none ∨ b'.portals name = b.portals name

end Backend

/-! ## Worlds -/

/-- The observer as the relay calls it, the backend and the bytes on their way back.  The relay
stops reading the client once a call on the client side has returned a decision. -/
structure World where
  session : Session PostgresObserver
  stopped : Bool := false
  backend : Backend := {}
  outbox : Bytes := []

namespace World

variable (sink : QuerySink) (budget : Option ObserverMemoryBudget)

abbrev observer (w : World) : PostgresObserver :=
  w.session.observer

/-- The messages the backend reads from the frames let through. -/
def messages (w : World) : List FrontendMessage :=
  ((wholeFrames w.session.toServer).map frameMessage).filter (· != .other)

/-- One step of a world. -/
inductive Step (w : World) : World → Prop where
  | client (data : Bytes) (going : w.stopped = false) :
      Step w
        { w with
          session := w.session.act (PostgresObserver.relay sink budget) (.client data)
          stopped :=
            (PostgresObserver.observeClientRelayBytes sink budget w.observer data).decision.isSome }
  | server {data rest : Bytes} (arrives : w.outbox = data ++ rest) :
      Step w
        { w with
          session := w.session.act (PostgresObserver.relay sink budget) (.server data)
          outbox := rest }
  | abort (code : ErrorCode) :
      Step w { w with session := w.session.act (PostgresObserver.relay sink budget) (.abort code) }
  | handle {message : FrontendMessage} {answer : List Bytes} {b : Backend}
      (next : w.messages[w.backend.handled.length]? = some message)
      (handles : w.backend.Handles message answer b) (proper : ∀ frame ∈ answer, IsFrame frame) :
      Step w { w with backend := b, outbox := w.outbox ++ answer.flatten }
  | forget {b : Backend} (forgets : w.backend.Forgets b) : Step w { w with backend := b }
  | notice {frame : Bytes} (proper : IsFrame frame) (neutral : isNeutral (frameType frame) = true) :
      Step w { w with outbox := w.outbox ++ frame }

/-- A fresh connection. -/
def new (maxClientMessageBytes : Int) : World where
  session := { observer := PostgresObserver.new maxClientMessageBytes }

end World
end Jianmen.DBProxy
