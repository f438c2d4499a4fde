import SecureShell.Channel
import SecureShell.Exec.Execution

namespace SecureShell.Exec

-- A command attached to its channel.
structure Session where
  command : String
  execution : Execution
  deriving DecidableEq

namespace Session

-- What the session does to the world around it, in order.
inductive Effect
  | put (command : ChannelCommand)
  | forward (output : Output)
  | started (verdict : Verdict)
  | ended (verdict : Verdict)
  -- The session lets go of its channel and of its reader.
  | leave
  deriving DecidableEq

abbrev Outcome := Session × List Effect

def startTicket : Ticket := 0
def endingTicket : Ticket := 1

def fresh (command : String) : Session := ⟨command, { ending := some endingTicket }⟩

def put (reachable : Bool) (command : ChannelCommand) : List Effect :=
  if reachable then [.put command] else []

def ofSettlement : Settlement Verdict → List Effect
  | ⟨promise, .answered verdict⟩ =>
    if promise = startTicket then [.started verdict] else [.ended verdict]
  | ⟨_, .discarded⟩ => []

def settleAll (settled : List (Settlement Verdict)) : List Effect := settled.flatMap ofSettlement

-- A request that cannot be sent counts as rejected.
def perform (reachable : Bool) (session : Session) : Execution.Action → Outcome
  | .none => (session, [])
  | .forward output => (session, [.forward output])
  | .close => (session, put reachable .close)
  | .sendExec =>
    if reachable then (session, [.put (.request (.exec session.command true))])
    else
      let failed := session.execution.advance .unsent
      ({ session with execution := failed.next }, settleAll failed.settled)

def trigger (reachable : Bool) (session : Session) (event : Execution.Event) : Outcome :=
  let step := session.execution.advance event
  let (session, effects) := { session with execution := step.next }.perform reachable step.action
  (session, settleAll step.settled ++ effects ++
    if session.execution.isEnded then [.leave] else [])

def begin (reachable : Bool) (session : Session) : Outcome :=
  session.trigger reachable (.start startTicket)

def ofChannel : ChannelEvent → Execution.Event
  | .data data => .data data
  | .extendedData data => .extendedData data
  | .exitStatus status => .exitStatus status
  | .success => .acknowledged
  | .failure => .rejected
  | .eof => .eof
  | .closed => .closed

def onEvent (reachable : Bool) (session : Session) (event : ChannelEvent) : Outcome :=
  if session.execution.isEnded then (session, [])
  else session.trigger reachable (ofChannel event)

end Session
end SecureShell.Exec
