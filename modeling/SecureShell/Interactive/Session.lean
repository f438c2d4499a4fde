import SecureShell.Channel
import SecureShell.Interactive.Shell
import SecureShell.Registry

namespace SecureShell.Interactive

-- A shell attached to its channel, and the calls of its user that wait to be taken.
inductive Call
  | write (data : Octets) (promise : Ticket)
  | close (promise : Ticket)
  | observe (observer : Nat) (promise : Ticket)
  | unobserve (token : Registry.Token)
  | attachReader
  deriving DecidableEq

structure Session where
  shell : Shell := .idle
  mailbox : List Call := []
  observers : Registry Nat := {}
  -- Output is thrown away until a reader is attached.
  reading : Bool := false
  -- Whether the user has left.
  abandoned : Bool := false
  left : Bool := false
  deriving DecidableEq

namespace Session

-- What the session does to the world around it, in order.
inductive Effect
  | put (command : ChannelCommand)
  | settle (settlement : Settlement Answer)
  | registered (promise : Ticket) (token : Registry.Token)
  | observed (observer : Nat) (view : Shell.View)
  | deliver (data : Octets)
  -- The session lets go of its channel and of its reader.
  | leave
  deriving DecidableEq

abbrev Outcome := Session × List Effect

-- Promises of the session's own: the start it owes to the connection, and the close
-- that nobody waits for.
def startTicket : Ticket := 0
def farewellTicket : Ticket := 1

def put (reachable : Bool) (command : ChannelCommand) : List Effect :=
  if reachable then [.put command] else []

def settleAll (settled : List (Settlement Answer)) : List Effect := settled.map .settle

def perform (reachable : Bool) (session : Session) : Shell.Action → Outcome
  | .none => (session, [])
  | .sendRequest =>
    if reachable then (session, [.put (.request (.shell true))])
    else
      let failed := session.shell.advance .startFailed
      ({ session with shell := failed.next }, settleAll failed.settled)
  | .write data promise =>
    (session,
     if reachable then [.put (.data data), .settle (Shell.answer promise (.ok ()))]
     else [.settle (Shell.answer promise (.error .unknown))])
  | .close => (session, put reachable .close)
  | .deliver data => (session, if session.reading then [.deliver data] else [])

def told (session : Session) (before : Shell.View) : List Effect :=
  if before = session.shell.view then []
  else session.observers.observers.map (Effect.observed · session.shell.view)

def trigger (reachable : Bool) (session : Session) (event : Shell.Event) : Outcome :=
  let before := session.shell.view
  let step := session.shell.advance event
  let (session, effects) := { session with shell := step.next }.perform reachable step.action
  (session, settleAll step.settled ++ effects ++ session.told before)

def handle (reachable : Bool) (session : Session) : Call → Outcome
  | .write data promise => session.trigger reachable (.write data promise)
  | .close promise => session.trigger reachable (.close promise)
  | .observe observer promise =>
    let (token, observers) := session.observers.add observer
    ({ session with observers }, [.registered promise token])
  | .unobserve token => ({ session with observers := (session.observers.remove token).2 }, [])
  | .attachReader => ({ session with reading := true }, [])

-- A call that nobody is left to take.
def refuse : Call → List Effect
  | .write _ promise | .close promise | .observe _ promise => [.settle (.discard promise)]
  | .unobserve _ | .attachReader => []

-- Once the shell is over, what is still queued is thrown away.
def conclude (outcome : Outcome) : Outcome :=
  let (session, effects) := outcome
  if session.shell.isTerminal then
    ({ session with mailbox := [], left := true },
     effects ++ session.mailbox.flatMap refuse ++ [.leave])
  else (session, effects)

def begin (reachable : Bool) (session : Session) : Outcome :=
  conclude (session.trigger reachable (.start startTicket))

def ofChannel? : ChannelEvent → Option Shell.Event
  | .success => some .started
  | .failure => some .startFailed
  | .data data | .extendedData data => some (.read data)
  | .closed => some .closed
  | .exitStatus _ | .eof => none

def onEvent (reachable : Bool) (session : Session) (event : ChannelEvent) : Outcome :=
  if session.left then (session, [])
  else match ofChannel? event with
  | some event => conclude (session.trigger reachable event)
  | none => (session, [])

def submit (session : Session) (call : Call) : Outcome :=
  if session.left then (session, refuse call)
  else ({ session with mailbox := session.mailbox ++ [call] }, [])

def takeCall (reachable : Bool) (session : Session) : Outcome :=
  match session.left, session.mailbox with
  | false, call :: mailbox => conclude ({ session with mailbox }.handle reachable call)
  | _, _ => (session, [])

-- The user has left and the queue is empty: the shell is closed for them.
def abandon (reachable : Bool) (session : Session) : Outcome :=
  if session.left || session.abandoned || !session.mailbox.isEmpty then (session, [])
  else conclude ({ session with abandoned := true }.trigger reachable (.close farewellTicket))

-- Why a shell that is over takes no more input.
def endedFault (session : Session) : ShellFault :=
  match session.shell.view with
  | .failed fault => fault
  | _ => .notRunning

-- What the user hears of a write and of a close, also when the call was thrown away.
def writeAnswer (session : Session) : Fate Answer → Except ShellFault Unit
  | .answered (.done result) => result
  | _ => .error session.endedFault

def closeAnswer : Fate Answer → Except ShellFault Unit
  | .answered (.done result) => result
  | _ => .ok ()

end Session
end SecureShell.Interactive
