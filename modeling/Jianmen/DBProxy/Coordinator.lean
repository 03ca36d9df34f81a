import Jianmen.Library.Actions
import Jianmen.DBProxy.Session

/-!
# The relay of a gateway connection

Two goroutines copy, one from the client to the server and one back; what each of them reads goes
through the observer, whose calls are serialized.  A third one waits for their results, reports an
error to the client if there is one, and closes both connections.  The connections may do anything
at any time, so a deadline is an error that comes sooner or later.
-/

namespace Jianmen.DBProxy

/-- An observer as the relay uses it; none of its calls panics. -/
structure LifecycleObserver (Ω : Type) extends RelayObserver Ω where
  hasPending : Ω → Bool
  errorResponse : Ω → QueryDecision → Bytes × Ω
  closeObserver : Ω → Ω

/-- What a connection returns instead of going on. -/
inductive ConnError where
  | eof
  | other
  deriving DecidableEq

inductive RelayError where
  | connection (error : ConnError)
  | drainComplete
  deriving DecidableEq

inductive RelaySide where
  | client
  | server
  deriving DecidableEq

structure RelayResult where
  side : RelaySide
  decision : Option QueryDecision := none
  error : Option RelayError := none
  deriving DecidableEq

/-! ## Copying -/

/-- What a pass of a copy loop has found out by the time its bytes are written: whether anything was
read, the decision that denies it, and the error of the read. -/
structure PassEnd where
  observed : Bool
  denial : Option QueryDecision
  readError : Option ConnError
  deriving DecidableEq

/-- Where a copy goroutine stands. -/
inductive Copier where
  | reading
  /-- The server's side waits for the lock on the client connection. -/
  | locking (forward : Bytes) (pass : PassEnd)
  | writing (left : Bytes) (pass : PassEnd)
  | settling (pass : PassEnd)
  | finished (result : RelayResult)
  /-- The result was taken. -/
  | received
  deriving DecidableEq

/-- After a write of some bytes; `writeRelayBytes` writes until all is written. -/
def Copier.write (side : RelaySide) (left : Bytes) (pass : PassEnd) (count : ℕ)
    (error : Option ConnError) : Copier :=
  match error with
  | some error => .finished { side := side, error := some (.connection error) }
  | none =>
    if count = 0 then .finished { side := side, error := some (.connection .other) }
    else if left.length ≤ count then .settling pass
    else .writing (left.drop count) pass

/-- The end of a pass; `drained` says whether the loop is to stop because nothing is pending. -/
def Copier.settle (side : RelaySide) (drained : Bool) (pass : PassEnd) : Copier :=
  match pass.denial with
  | some decision => .finished { side := side, decision := some decision }
  | none =>
    if pass.observed && drained then .finished { side := side, error := some .drainComplete }
    else
      match pass.readError with
      | some error => .finished { side := side, error := some (.connection error) }
      | none => .reading

def Copier.isWriting : Copier → Bool
  | .writing .. => true
  | _ => false

/-- The decision that ends a copy loop. -/
def Relayed.denial {Ω : Type} (relayed : Relayed Ω) : Option QueryDecision :=
  relayed.decision.filter fun decision => !decision.allowed

/-! ## The coordinator -/

/-- What the coordinating goroutine has to do. -/
inductive Task where
  /-- Take the first result. -/
  | first
  /-- The client has ended its side: is anything pending? -/
  | checkDrain
  /-- Take the result of the server's side. -/
  | second
  /-- Take the result of the server's side, or let the drain timer run out. -/
  | select
  /-- Take the last result after the drain timer ran out. -/
  | discard
  /-- Take the last result. -/
  | other
  | handle (result : RelayResult)
  | abortIfPending (code : ErrorCode)
  | abort (code : ErrorCode)
  | report (decision : QueryDecision)
  /-- Wait for the lock on the client connection to write an error. -/
  | lock (response : Bytes)
  | writeError (left : Bytes)
  | close
  | closeObserver
  deriving DecidableEq

/-- The relay, with what the observer forwarded on each side, what was written to each connection,
and the error responses. -/
structure RelayCoordinator (Ω : Type) where
  observer : Ω
  client : Copier := .reading
  server : Copier := .reading
  main : List Task := [.first, .closeObserver]
  terminal : Bool := false
  drainClient : Bool := false
  closed : Bool := false
  clientForwarded : Bytes := []
  serverForwarded : Bytes := []
  upstreamWritten : Bytes := []
  clientWritten : Bytes := []
  responses : List Bytes := []

inductive RelayAction where
  | clientRead (data : Bytes) (error : Option ConnError)
  | clientWrite (count : ℕ) (error : Option ConnError)
  | clientSettle
  | serverRead (data : Bytes) (error : Option ConnError)
  | serverLock
  | serverWrite (count : ℕ) (error : Option ConnError)
  | serverSettle
  | receive (side : RelaySide)
  | timer
  | proceed
  | lock (deadlineSet : Bool)
  | giveUp
  | writeError (count : ℕ) (error : Option ConnError)
  deriving DecidableEq

namespace RelayCoordinator

variable {Ω : Type} (observer : LifecycleObserver Ω)

/-- What a client chunk comes to. -/
def clientRead (r : RelayCoordinator Ω) (data : Bytes) (error : Option ConnError) :
    RelayCoordinator Ω :=
  if data = [] then { r with client := .settling ⟨false, none, error⟩ }
  else
    let relayed := observer.observeClientRelayBytes r.observer data
    let pass : PassEnd := ⟨true, relayed.denial, error⟩
    { r with
      observer := relayed.observer
      clientForwarded := r.clientForwarded ++ relayed.forward
      client := if relayed.forward = [] then .settling pass else .writing relayed.forward pass }

/-- What a server chunk comes to. -/
def serverRead (r : RelayCoordinator Ω) (data : Bytes) (error : Option ConnError) :
    RelayCoordinator Ω :=
  if data = [] then { r with server := .settling ⟨false, none, error⟩ }
  else
    let relayed := observer.observeServerRelayBytes r.observer data
    let pass : PassEnd := ⟨true, relayed.denial, error⟩
    { r with
      observer := relayed.observer
      serverForwarded := r.serverForwarded ++ relayed.forward
      server := if relayed.forward = [] then .settling pass else .locking relayed.forward pass }

/-- `handleRelayTermination`. -/
def handleRelayTermination (r : RelayCoordinator Ω) (result : RelayResult) : List Task :=
  match result.decision with
  | some decision => [.report decision]
  | none =>
    if result.error = none ∨ result.error = some .drainComplete then []
    else if observer.hasPending r.observer then
      [.abortIfPending .relay, .report newObserverRelayDecision]
    else []

/-- The next thing to do of the coordinating goroutine, if it does not wait. -/
def proceed (r : RelayCoordinator Ω) : Option (RelayCoordinator Ω) :=
  match r.main with
  | .checkDrain :: rest =>
    some { r with main := (if observer.hasPending r.observer then .select else .second) :: rest }
  | .handle result :: rest =>
    some { r with main := r.handleRelayTermination observer result ++ rest }
  | .abortIfPending code :: rest =>
    some { r with main := if observer.hasPending r.observer then .abort code :: rest else rest }
  | .abort code :: rest =>
    some { r with observer := observer.abort r.observer code, main := rest }
  | .report decision :: rest =>
    let response := observer.errorResponse r.observer decision
    some
      { r with
        observer := response.2
        responses := r.responses ++ [response.1]
        main := .lock response.1 :: rest }
  | .close :: rest => some { r with closed := true, main := rest }
  | .closeObserver :: rest =>
    some { r with observer := observer.closeObserver r.observer, main := rest }
  | _ => none

/-- Take the result of a goroutine that has finished. -/
def take (r : RelayCoordinator Ω) : RelaySide → Option (RelayResult × RelayCoordinator Ω)
  | .client =>
    match r.client with
    | .finished result => some (result, { r with client := .received })
    | _ => none
  | .server =>
    match r.server with
    | .finished result => some (result, { r with server := .received })
    | _ => none

def receive (r : RelayCoordinator Ω) (side : RelaySide) : Option (RelayCoordinator Ω) :=
  match r.take side with
  | none => none
  | some (result, r) =>
    match r.main with
    | .first :: rest =>
      if result.side = .client ∧ result.error = some (.connection .eof) then
        some { r with drainClient := true, main := .checkDrain :: rest }
      else some { r with main := .handle result :: .close :: .other :: rest }
    | .second :: rest | .select :: rest => some { r with main := .handle result :: .close :: rest }
    | .discard :: rest => some { r with main := rest }
    | .other :: rest => some { r with main := .abortIfPending .relay :: rest }
    | _ => none

/-- An error is being written, under the lock on the client connection. -/
def reporting (r : RelayCoordinator Ω) : Bool :=
  match r.main with
  | .writeError _ :: _ => true
  | _ => false

/-- The decision that is reported when the drain timer has run out. -/
def drainTimeoutDecision : QueryDecision :=
  { newObserverRelayDecision with errorCode := .drainTimeout }

def step (r : RelayCoordinator Ω) : RelayAction → Option (RelayCoordinator Ω)
  | .clientRead data error =>
    match r.client with
    | .reading => some (r.clientRead observer data error)
    | _ => none
  | .clientWrite count error =>
    match r.client with
    | .writing left pass =>
      some
        { r with
          upstreamWritten := r.upstreamWritten ++ left.take count
          client := .write .client left pass count error }
    | _ => none
  | .clientSettle =>
    match r.client with
    | .settling pass => some { r with client := .settle .client false pass }
    | _ => none
  | .serverRead data error =>
    match r.server with
    | .reading => some (r.serverRead observer data error)
    | _ => none
  | .serverLock =>
    match r.server with
    | .locking forward pass =>
      if r.reporting then none
      else if r.terminal then
        some
          { r with server := .finished { side := .server, error := some (.connection .other) } }
      else some { r with server := .writing forward pass }
    | _ => none
  | .serverWrite count error =>
    match r.server with
    | .writing left pass =>
      some
        { r with
          clientWritten := r.clientWritten ++ left.take count
          server := .write .server left pass count error }
    | _ => none
  | .serverSettle =>
    match r.server with
    | .settling pass =>
      let drained := r.drainClient && !observer.hasPending r.observer
      some { r with server := .settle .server drained pass }
    | _ => none
  | .receive side => r.receive side
  | .timer =>
    match r.main with
    | .select :: rest =>
      some
        { r with
          main := .abortIfPending .drainTimeout :: .report drainTimeoutDecision :: .close ::
            .discard :: rest }
    | _ => none
  | .proceed => r.proceed observer
  | .lock deadlineSet =>
    match r.main with
    | .lock response :: rest =>
      if r.server.isWriting then none
      else
        some
          { r with
            terminal := true
            main := if response = [] ∨ !deadlineSet then rest else .writeError response :: rest }
    | _ => none
  | .giveUp =>
    match r.main with
    | .lock _ :: rest => if r.server.isWriting then some { r with main := rest } else none
    | _ => none
  | .writeError count error =>
    match r.main with
    | .writeError left :: rest =>
      some
        { r with
          clientWritten := r.clientWritten ++ left.take count
          main :=
            if error.isSome ∨ count = 0 ∨ left.length ≤ count then rest
            else .writeError (left.drop count) :: rest }
    | _ => none

/-- The relay of a connection, before anything has happened. -/
def start (o : Ω) : RelayCoordinator Ω where
  observer := o

end RelayCoordinator
end Jianmen.DBProxy
