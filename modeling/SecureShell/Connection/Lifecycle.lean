import SecureShell.Fault
import SecureShell.Promise

namespace SecureShell.Connection

-- Arbitrates start, stop and session requests against a single link. Every try at
-- reaching the server is an attempt with a number of its own; links are numbered by
-- whoever makes them.

abbrev Verdict := Except ConnectionFault Unit

structure SessionRequest where
  timeout : Nat
  promise : Ticket
  deriving DecidableEq

inductive Phase
  | idle
  | connecting (attempt : Nat) (connects : List Ticket)
  | authenticating (attempt link : Nat) (connects : List Ticket)
  | ready (attempt link : Nat)
  | disconnecting (attempt link : Nat) (connects disconnects : List Ticket)
      (fault : Option ConnectionFault)
  | failed (fault : ConnectionFault)
  deriving DecidableEq

structure Lifecycle where
  phase : Phase := .idle
  -- A 64-bit counter in practice, one step for each request that is acted on: to come round, a
  -- connection would have to be asked for a billion times a second for more than five hundred years.
  attempts : Nat := 0
  deriving DecidableEq

-- The state as observers see it.
inductive View
  | idle | connecting | authenticating | ready | disconnecting
  | failed (fault : ConnectionFault)
  deriving DecidableEq

-- Failures are compared as faults are, so a failed start of a session is the same
-- failure only on the same occasion.
def View.same : View → View → Bool
  | .failed left, .failed right => left.same right
  | left, right => left = right

namespace Lifecycle

inductive Event
  | connect (timeout : Nat) (promise : Ticket)
  | disconnect (promise : Ticket)
  | session (request : SessionRequest)
  | connected (attempt link : Nat)
  | authenticated (attempt : Nat)
  | disconnected (attempt : Nat)
  | fault (attempt : Nat) (fault : ConnectionFault)
  deriving DecidableEq

inductive Action
  | none
  | connect (attempt timeout : Nat)
  | disconnect (link : Nat)
  -- A link from an attempt that nobody waits for any more.
  | discard (link : Nat)
  | startSession (link : Nat) (request : SessionRequest)
  deriving DecidableEq

structure Step where
  next : Lifecycle
  action : Action := .none
  settled : List (Settlement Verdict) := []
  deriving DecidableEq

def view (lifecycle : Lifecycle) : View :=
  match lifecycle.phase with
  | .idle => .idle
  | .connecting .. => .connecting
  | .authenticating .. => .authenticating
  | .ready .. => .ready
  | .disconnecting .. => .disconnecting
  | .failed fault => .failed fault

def link? (lifecycle : Lifecycle) : Option Nat :=
  match lifecycle.phase with
  | .authenticating _ link _ | .ready _ link | .disconnecting _ link _ _ _ => some link
  | .idle | .connecting .. | .failed _ => none

def attempt? (lifecycle : Lifecycle) : Option Nat :=
  match lifecycle.phase with
  | .connecting attempt _ | .authenticating attempt _ _ | .ready attempt _
  | .disconnecting attempt _ _ _ _ => some attempt
  | .idle | .failed _ => none

def owed (lifecycle : Lifecycle) : List Ticket :=
  match lifecycle.phase with
  | .connecting _ connects | .authenticating _ _ connects => connects
  | .disconnecting _ _ connects disconnects _ => connects ++ disconnects
  | .idle | .ready .. | .failed _ => []

-- The attempt an event belongs to, if it comes from one.
def Event.attempt? : Event → Option Nat
  | .connected attempt _ | .authenticated attempt | .disconnected attempt | .fault attempt _ =>
    some attempt
  | .connect .. | .disconnect _ | .session _ => none

def enter (lifecycle : Lifecycle) (phase : Phase) (action : Action)
    (settled : List (Settlement Verdict)) : Step :=
  ⟨{ lifecycle with phase }, action, settled⟩

def begin (lifecycle : Lifecycle) (timeout : Nat) (promise : Ticket) : Step :=
  let attempt := lifecycle.attempts + 1
  ⟨⟨.connecting attempt [promise], attempt⟩, .connect attempt timeout, []⟩

def answer (promise : Ticket) (verdict : Verdict) : List (Settlement Verdict) :=
  [.answer promise verdict]

-- The link is gone: whoever asked for that is content, whoever waited for a
-- connection gets the fault that was recorded first.
def torn (lifecycle : Lifecycle) (connects disconnects : List Ticket)
    (fault : Option ConnectionFault) : Step :=
  lifecycle.enter
    (match fault with
      | some fault => .failed fault
      | none => .idle)
    .none
    (Settlement.answerAll disconnects (.ok ()) ++
      Settlement.answerAll connects (.error (fault.getD .cancelled)))

-- Events that belong to no attempt or to the current one.
def current (lifecycle : Lifecycle) (event : Event) : Step :=
  match lifecycle.phase, event with
  | .idle, .connect timeout promise | .failed _, .connect timeout promise =>
    lifecycle.begin timeout promise
  | .idle, .disconnect promise | .failed _, .disconnect promise =>
    { next := lifecycle, settled := answer promise (.ok ()) }
  | .connecting attempt connects, .connect _ promise =>
    lifecycle.enter (.connecting attempt (connects ++ [promise])) .none []
  | .connecting attempt connects, .connected _ link =>
    lifecycle.enter (.authenticating attempt link connects) .none []
  | .connecting _ connects, .fault _ fault =>
    lifecycle.enter (.failed fault) .none (Settlement.answerAll connects (.error fault))
  | .connecting _ connects, .disconnect promise =>
    lifecycle.enter .idle .none
      (Settlement.answerAll connects (.error .cancelled) ++ answer promise (.ok ()))
  | .authenticating attempt link connects, .connect _ promise =>
    lifecycle.enter (.authenticating attempt link (connects ++ [promise])) .none []
  | .authenticating attempt link connects, .authenticated _ =>
    lifecycle.enter (.ready attempt link) .none (Settlement.answerAll connects (.ok ()))
  | .authenticating attempt link connects, .fault _ fault =>
    lifecycle.enter (.disconnecting attempt link connects [] (some fault)) (.disconnect link) []
  | .authenticating attempt link connects, .disconnect promise =>
    lifecycle.enter (.disconnecting attempt link [] [promise] none) (.disconnect link)
      (Settlement.answerAll connects (.error .cancelled))
  | .authenticating _ _ connects, .disconnected _ =>
    lifecycle.enter (.failed .unknown) .none (Settlement.answerAll connects (.error .unknown))
  | .ready .., .connect _ promise => { next := lifecycle, settled := answer promise (.ok ()) }
  | .ready _ link, .session request => { next := lifecycle, action := .startSession link request }
  | .ready attempt link, .disconnect promise =>
    lifecycle.enter (.disconnecting attempt link [] [promise] none) (.disconnect link) []
  | .ready attempt link, .fault _ fault =>
    lifecycle.enter (.disconnecting attempt link [] [] (some fault)) (.disconnect link) []
  | .ready .., .disconnected _ => lifecycle.enter (.failed .closed) .none []
  | .disconnecting .., .connect _ promise =>
    { next := lifecycle, settled := answer promise (.error .requiresActive) }
  | .disconnecting attempt link connects disconnects fault, .disconnect promise =>
    lifecycle.enter (.disconnecting attempt link connects (disconnects ++ [promise]) fault) .none []
  | .disconnecting attempt link connects disconnects recorded, .fault _ fault =>
    lifecycle.enter (.disconnecting attempt link connects disconnects (recorded.or (some fault)))
      .none []
  | .disconnecting _ _ connects disconnects fault, .disconnected _ =>
    lifecycle.torn connects disconnects fault
  | _, .session request =>
    { next := lifecycle, settled := answer request.promise (.error .requiresActive) }
  | _, _ => { next := lifecycle }

-- An event from another attempt than the current one changes nothing. A link it
-- brings is thrown away.
def stale : Event → Action
  | .connected _ link => .discard link
  | _ => .none

def advance (lifecycle : Lifecycle) (event : Event) : Step :=
  match event.attempt? with
  | some attempt =>
    if lifecycle.attempt? = some attempt then lifecycle.current event
    else { next := lifecycle, action := stale event }
  | none => lifecycle.current event

end Lifecycle
end SecureShell.Connection
