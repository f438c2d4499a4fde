import SecureShell.Fault
import SecureShell.Octets
import SecureShell.Promise

namespace SecureShell.Interactive

inductive Shell
  | idle
  | starting (start : Ticket)
  | ready
  | closing (closers : List Ticket)
  | closed
  | failed (fault : ShellFault)
  deriving DecidableEq

-- The start is owed to the connection; writes and closes to the user of the shell.
inductive Answer
  | start (result : Except ConnectionFault Unit)
  | done (result : Except ShellFault Unit)
  deriving DecidableEq

namespace Shell

inductive Event
  | start (promise : Ticket)
  | write (data : Octets) (promise : Ticket)
  | close (promise : Ticket)
  | started
  | startFailed
  | read (data : Octets)
  | closed
  deriving DecidableEq

-- A write hands its promise on with the data.
inductive Action
  | none
  | sendRequest
  | write (data : Octets) (promise : Ticket)
  | close
  | deliver (data : Octets)
  deriving DecidableEq

structure Step where
  next : Shell
  action : Action := .none
  settled : List (Settlement Answer) := []
  deriving DecidableEq

inductive View
  | idle | starting | ready | closing | closed
  | failed (fault : ShellFault)
  deriving DecidableEq

def view : Shell → View
  | .idle => .idle
  | .starting _ => .starting
  | .ready => .ready
  | .closing _ => .closing
  | .closed => .closed
  | .failed fault => .failed fault

def isTerminal : Shell → Bool
  | .closed | .failed _ => true
  | _ => false

def owed : Shell → List Ticket
  | .starting start => [start]
  | .closing closers => closers
  | _ => []

def startAnswer (promise : Ticket) (result : Except ConnectionFault Unit) : Settlement Answer :=
  .answer promise (.start result)

def answer (promise : Ticket) (result : Except ShellFault Unit) : Settlement Answer :=
  .answer promise (.done result)

def advance (shell : Shell) (event : Event) : Step :=
  match shell, event with
  | .idle, .start promise => { next := .starting promise, action := .sendRequest }
  | shell, .start promise => { next := shell, settled := [.discard promise] }
  | .starting start, .started => { next := .ready, settled := [startAnswer start (.ok ())] }
  | .starting start, .startFailed =>
    ⟨.failed .unknown, .close, [startAnswer start (.error .unknown)]⟩
  | .starting start, .closed =>
    { next := .failed .unknown, settled := [startAnswer start (.error .unknown)] }
  | .starting start, .close promise =>
    ⟨.closing [promise], .close, [startAnswer start (.error .cancelled)]⟩
  | .ready, .write data promise => { next := .ready, action := .write data promise }
  | .ready, .read data => { next := .ready, action := .deliver data }
  | .ready, .close promise => { next := .closing [promise], action := .close }
  | .ready, .closed => { next := .failed .unknown }
  | .closing closers, .close promise => { next := .closing (closers ++ [promise]) }
  | .closing closers, .closed =>
    { next := .closed, settled := Settlement.answerAll closers (.done (.ok ())) }
  | .closed, .close promise => { next := .closed, settled := [answer promise (.ok ())] }
  | .failed fault, .close promise => { next := .failed fault, settled := [answer promise (.ok ())] }
  | .idle, .close promise => { next := .idle, settled := [answer promise (.error .notRunning)] }
  | .failed fault, .write _ promise =>
    { next := .failed fault, settled := [answer promise (.error fault)] }
  | shell, .write _ promise => { next := shell, settled := [answer promise (.error .notRunning)] }
  | shell, _ => { next := shell }

end Shell
end SecureShell.Interactive
