import Jianmen.DBProxy.Sink

/-!
# Relay sessions

A session is a relay's run of an observer: the chunks of both directions and the aborts reach it
in any order, and what it forwards is written out.  A session never stops on its own, so a result
about every list of calls also speaks about the calls made after a decision.
-/

namespace Jianmen.DBProxy

/-- A call of the relay. -/
inductive RelayCall where
  | client (data : Bytes)
  | server (data : Bytes)
  | abort (code : ErrorCode)
  deriving DecidableEq

/-- The entry points of an observer. -/
structure RelayObserver (Ω : Type) where
  observeClientRelayBytes : Ω → Bytes → Relayed Ω
  observeServerRelayBytes : Ω → Bytes → Relayed Ω
  abort : Ω → ErrorCode → Ω

/-- An observer, the bytes it let through in each direction, and whether it has ever returned a
decision or been aborted. -/
structure Session (Ω : Type) where
  observer : Ω
  toServer : Bytes := []
  toClient : Bytes := []
  ended : Bool := false

namespace Session

variable {Ω : Type} (relay : RelayObserver Ω) {session : Session Ω}

/-- Make one call. -/
def act (session : Session Ω) : RelayCall → Session Ω
  | .client data =>
    let relayed := relay.observeClientRelayBytes session.observer data
    { session with
      observer := relayed.observer
      toServer := session.toServer ++ relayed.forward
      ended := session.ended || relayed.decision.isSome }
  | .server data =>
    let relayed := relay.observeServerRelayBytes session.observer data
    { session with
      observer := relayed.observer
      toClient := session.toClient ++ relayed.forward
      ended := session.ended || relayed.decision.isSome }
  | .abort code =>
    { session with observer := relay.abort session.observer code, ended := true }

/-- Make a list of calls. -/
def run (session : Session Ω) (calls : List RelayCall) : Session Ω :=
  calls.foldl (act relay) session

@[simp] theorem run_cons (session : Session Ω) (call : RelayCall) (calls : List RelayCall) :
    run relay session (call :: calls) = run relay (act relay session call) calls := rfl

/-- What every call keeps holds after every run. -/
theorem run_invariant (invariant : Session Ω → Prop)
    (step : ∀ session call, invariant session → invariant (act relay session call))
    (initially : invariant session) (calls : List RelayCall) :
    invariant (run relay session calls) := by
  induction calls generalizing session with
  | nil => exact initially
  | cons call calls ih => exact ih (step session call initially)

/-- Every call of a run meets a condition on the observer it is made on. -/
def Meets (condition : Ω → RelayCall → Prop) : Session Ω → List RelayCall → Prop
  | _, [] => True
  | session, call :: calls =>
    condition session.observer call ∧ Meets condition (act relay session call) calls

/-- What every call that meets a condition keeps holds after every run whose calls meet it. -/
theorem run_meeting (invariant : Session Ω → Prop) {condition : Ω → RelayCall → Prop}
    (step : ∀ session call, condition session.observer call → invariant session →
      invariant (act relay session call)) (initially : invariant session) {calls : List RelayCall}
    (meets : Meets relay condition session calls) : invariant (run relay session calls) := by
  induction calls generalizing session with
  | nil => exact initially
  | cons call calls ih =>
    exact ih (step session call meets.1 initially) meets.2

end Session
end Jianmen.DBProxy
