import SecureShell.Fault
import SecureShell.Octets
import SecureShell.Promise

namespace SecureShell.Exec

-- A piece of what a running command has to say.
inductive Output
  | standard (data : Octets)
  | error (data : Octets)
  | status (status : UInt32)
  deriving DecidableEq

-- `start` is owed to whoever asked for the command, `ending` to whoever reads it.
inductive Phase
  | idle
  | awaiting (start : Ticket)
  | running
  | ended
  deriving DecidableEq

structure Execution where
  phase : Phase := .idle
  status : Option UInt32 := none
  remoteEof : Bool := false
  ending : Option Ticket
  deriving DecidableEq

abbrev Verdict := Except ConnectionFault Unit

namespace Execution

inductive Event
  | start (promise : Ticket)
  | unsent
  | acknowledged
  | rejected
  | data (data : Octets)
  | extendedData (data : Octets)
  | exitStatus (status : UInt32)
  | eof
  | closed
  deriving DecidableEq

inductive Action
  | none
  | sendExec
  | forward (output : Output)
  | close
  deriving DecidableEq

structure Step where
  next : Execution
  action : Action := .none
  settled : List (Settlement Verdict) := []
  deriving DecidableEq

def isEnded (execution : Execution) : Bool := execution.phase = .ended

-- The end is announced once, whatever it is.
def finish (execution : Execution) (verdict : Verdict) (action : Action)
    (earlier : List (Settlement Verdict)) : Step :=
  { next := { execution with phase := .ended, ending := none }
    action
    settled := earlier ++ execution.ending.toList.map fun promise => .answer promise verdict }

def failStart (execution : Execution) (start : Ticket) (action : Action) : Step :=
  execution.finish (.error .unknown) action [.answer start (.error .unknown)]

-- A close is clean if an exit status or the end of the output came before it.
def verdict (execution : Execution) : Verdict :=
  if execution.status.isSome || execution.remoteEof then .ok () else .error .unknown

-- What happens alike before and after the acknowledgement. Only the first exit
-- status counts.
def progress (execution : Execution) : Event → Step
  | .data data => { next := execution, action := .forward (.standard data) }
  | .extendedData data => { next := execution, action := .forward (.error data) }
  | .exitStatus status =>
    if execution.status.isSome then { next := execution }
    else { next := { execution with status := some status }, action := .forward (.status status) }
  | .eof => { next := { execution with remoteEof := true }, action := .close }
  | .closed => execution.finish execution.verdict .none []
  | .start promise => { next := execution, settled := [.discard promise] }
  | .unsent | .acknowledged | .rejected => { next := execution }

def advance (execution : Execution) (event : Event) : Step :=
  match execution.phase, event with
  | .idle, .start promise => { next := { execution with phase := .awaiting promise }, action := .sendExec }
  | .awaiting start, .acknowledged =>
    { next := { execution with phase := .running }, settled := [.answer start (.ok ())] }
  | .awaiting start, .rejected | .awaiting start, .unsent => execution.failStart start .close
  | .awaiting start, .closed => execution.failStart start .none
  | .awaiting _, event | .running, event => execution.progress event
  | .idle, .closed => execution.finish (.error .unknown) .none []
  | .ended, .start promise => { next := execution, settled := [.discard promise] }
  | _, _ => { next := execution }

end Execution
end SecureShell.Exec
