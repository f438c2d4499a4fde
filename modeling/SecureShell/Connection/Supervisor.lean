import SecureShell.Connection.Lifecycle
import SecureShell.Registry

namespace SecureShell.Connection

-- The supervisor of a connection reads its mail one piece at a time. Beside it runs
-- one errand per attempt, which reaches the server, authenticates, and then waits for
-- the link to be gone. An errand writes to the supervisor only as long as somebody
-- holds the connection; the supervisor leaves once nobody does and all mail is read.

inductive Mail
  | event (event : Lifecycle.Event)
  | observe (observer : Nat) (promise : Ticket)
  | unobserve (token : Registry.Token)
  deriving DecidableEq

inductive Stage
  | connecting
  | authenticating
  -- Authentication is decided; the link is still there.
  | lingering
  | over
  deriving DecidableEq

-- The link of an attempt bears the number of the attempt.
structure Errand where
  attempt : Nat
  -- The time of the attempt and its timeout. A sum that a clock cannot represent, where the errand
  -- breaks off without a report, is left out: times are numbers without a bound.
  deadline : Nat
  stage : Stage := .connecting
  linked : Bool := false
  deriving DecidableEq

structure Supervisor where
  lifecycle : Lifecycle := {}
  shown : View := .idle
  observers : Registry Nat := {}
  mailbox : List Mail := []
  errands : List Errand := []
  held : Bool := true
  exited : Bool := false
  deriving DecidableEq

namespace Supervisor

-- What reaches the transport, the callers and the observers, in order.
inductive Effect
  | connect (attempt timeout : Nat)
  | authenticate (link : Nat)
  | close (link : Nat)
  | settle (settlement : Settlement Verdict)
  | registered (promise : Ticket) (token : Registry.Token)
  | observed (observer : Nat) (view : View)
  | startSession (link : Nat) (request : SessionRequest)
  deriving DecidableEq

abbrev Outcome := Supervisor × List Effect

def perform (now : Nat) (supervisor : Supervisor) : Lifecycle.Action → Outcome
  | .none => (supervisor, [])
  | .connect attempt timeout =>
    ({ supervisor with errands := supervisor.errands ++ [{ attempt, deadline := now + timeout }] },
     [.connect attempt timeout])
  | .disconnect link | .discard link => (supervisor, [.close link])
  | .startSession link request => (supervisor, [.startSession link request])

-- A change of state is shown before anything is done about it.
def trigger (now : Nat) (supervisor : Supervisor) (event : Lifecycle.Event) : Outcome :=
  let step := supervisor.lifecycle.advance event
  let view := step.next.view
  let told :=
    if supervisor.lifecycle.view.same view then []
    else supervisor.observers.observers.map (Effect.observed · view)
  let shown := if supervisor.lifecycle.view.same view then supervisor.shown else view
  let (supervisor, effects) :=
    { supervisor with lifecycle := step.next, shown }.perform now step.action
  (supervisor, step.settled.map .settle ++ told ++ effects)

def read (now : Nat) (supervisor : Supervisor) : Mail → Outcome
  | .event event => supervisor.trigger now event
  | .observe observer promise =>
    let (token, observers) := supervisor.observers.add observer
    ({ supervisor with observers }, [.registered promise token])
  | .unobserve token => ({ supervisor with observers := (supervisor.observers.remove token).2 }, [])

def readAll (now : Nat) (supervisor : Supervisor) : List Mail → Outcome
  | [] => (supervisor, [])
  | mail :: mails =>
    let (supervisor, effects) := supervisor.read now mail
    let (supervisor, more) := supervisor.readAll now mails
    (supervisor, effects ++ more)

def post (supervisor : Supervisor) (mail : Mail) : Supervisor :=
  { supervisor with mailbox := supervisor.mailbox ++ [mail] }

-- Reads what is there. Reading never brings new mail.
def clear (now : Nat) (supervisor : Supervisor) : Outcome :=
  { supervisor with mailbox := [] }.readAll now supervisor.mailbox

-- Mail from an errand is lost once nobody holds the connection.
def report (supervisor : Supervisor) (event : Lifecycle.Event) : Supervisor :=
  if supervisor.held then supervisor.post (.event event) else supervisor

def errand? (supervisor : Supervisor) (attempt : Nat) : Option Errand :=
  supervisor.errands.find? fun errand => errand.attempt = attempt

def isAt (supervisor : Supervisor) (attempt : Nat) (stage : Stage) : Bool :=
  (supervisor.errand? attempt).any fun errand => errand.stage = stage

def isLinked (supervisor : Supervisor) (attempt : Nat) : Bool :=
  (supervisor.errand? attempt).any Errand.linked

def update (supervisor : Supervisor) (attempt : Nat) (change : Errand → Errand) : Supervisor :=
  { supervisor with errands := supervisor.errands.map fun errand =>
      if errand.attempt = attempt then change errand else errand }

def enter (supervisor : Supervisor) (attempt : Nat) (stage : Stage) : Supervisor :=
  supervisor.update attempt fun errand => { errand with stage }

-- The transport answers: with a link, which nobody may want any more, or with a fault.
def connectAnswered (supervisor : Supervisor) (attempt : Nat) :
    Except TransportFault Unit → Outcome
  | .ok () =>
    let linked := supervisor.update attempt fun errand => { errand with linked := true }
    if supervisor.held then
      ((linked.enter attempt .authenticating).report (.connected attempt attempt),
       [.authenticate attempt])
    else (linked.enter attempt .over, [.close attempt])
  | .error fault =>
    ((supervisor.enter attempt .over).report (.fault attempt (.transport fault)), [])

def authAnswered (supervisor : Supervisor) (attempt : Nat) :
    Except TransportFault Unit → Supervisor
  | .ok () => (supervisor.enter attempt .lingering).report (.authenticated attempt)
  | .error fault =>
    (supervisor.enter attempt .lingering).report (.fault attempt (.transport fault))

def linkClosed (supervisor : Supervisor) (attempt : Nat) : Supervisor :=
  if supervisor.isAt attempt .authenticating || supervisor.isAt attempt .lingering then
    (supervisor.enter attempt .over).report (.disconnected attempt)
  else supervisor

-- An attempt that runs out of time while connecting is over; one that does so while
-- authenticating still sees to its link.
def expire (supervisor : Supervisor) (errand : Errand) : Supervisor :=
  match errand.stage with
  | .connecting =>
    (supervisor.enter errand.attempt .over).report (.fault errand.attempt .timeout)
  | .authenticating =>
    (supervisor.enter errand.attempt .lingering).report (.fault errand.attempt .timeout)
  | .lingering | .over => supervisor

def expireAll (supervisor : Supervisor) (now : Nat) : Supervisor :=
  (supervisor.errands.filter fun errand => errand.deadline ≤ now).foldl expire supervisor

def release (supervisor : Supervisor) : Supervisor := { supervisor with held := false }

-- The last act is to close the link that is still owned.
def exit (supervisor : Supervisor) : Outcome :=
  if supervisor.held || !supervisor.mailbox.isEmpty || supervisor.exited then (supervisor, [])
  else
    ({ supervisor with exited := true },
     supervisor.lifecycle.link?.toList.map Effect.close)

end Supervisor
end SecureShell.Connection
