import SecureShell.Connection.Supervisor
import SecureShell.Credentials
import SecureShell.Switchboard.Line

namespace SecureShell

namespace Switchboard

-- What a file task is for: a file that stays open, a use of one that is open, or
-- nothing beyond itself.
inductive Purpose
  | plain
  | opens (path : Octets)
  | uses (file : CallId)
  deriving DecidableEq

-- What a call in progress waits for.
inductive Waiting
  | connection
  -- Its caller hears of no failure.
  | disconnection
  | venture (venture : Venture)
  | collecting (channel : Nat) (capture : Exec.Capture)
  | writing (channel : Nat)
  | closingShell (channel : Nat)
  | observingShell (channel : Nat)
  | task (channel : Nat) (procedure : Sftp.Procedure) (purpose : Purpose)
  | leaving (channel : Nat)

structure Pending where
  call : CallId
  ticket : Ticket
  waiting : Waiting

-- What calls leave in the hands of their callers.
inductive Handle
  | stream (channel : Nat)
  | shell (channel : Nat)
  | client (channel : Nat)
  | file (channel : Nat) (file : Sftp.OpenFile) (path : String)
  deriving DecidableEq

-- What is seen from outside.
inductive Notice
  | connect (link timeout : Nat)
  | authenticate (link : Nat)
  | closeLink (link : Nat)
  | openChannel (channel link : Nat)
  | sent (channel : Nat) (command : ChannelCommand)
  | connectionSeen (observer : CallId) (view : Connection.View)
  | shellSeen (observer : CallId) (view : Interactive.Shell.View)
  | completed (call : CallId) (answer : Answer)
  deriving DecidableEq

end Switchboard

open Switchboard

-- One connection with all that goes on over it: its supervisor, its lines, the calls
-- in progress, and what their callers hold. `holders` counts the handles to the
-- connection itself, next to those that calls in progress hold.
structure Switchboard where
  host : String
  port : UInt16
  credentials : Credentials
  now : Nat := 0
  holders : Nat := 1
  supervisor : Connection.Supervisor := {}
  lines : List Line := []
  pending : List Pending := []
  handles : List (CallId × Handle) := []
  tokens : List (CallId × Registry.Token) := []
  -- The calls made so far, those that were completed, and the number of the next
  -- thing to happen.
  made : List CallId := []
  finished : List CallId := []
  turn : CallId := 0
  -- The first tickets belong to the sessions themselves.
  nextTicket : Ticket := 2
  notices : List Notice := []

namespace Switchboard

def note (board : Switchboard) (notice : Notice) : Switchboard :=
  { board with notices := board.notices ++ [notice] }

def line? (board : Switchboard) (channel : Nat) : Option Line :=
  board.lines.find? fun line => line.channel = channel

theorem channel_of_line? {board : Switchboard} {channel : Nat} {line : Line}
    (found : board.line? channel = some line) : line.channel = channel := by
  simpa using List.find?_some found

def place (board : Switchboard) (line : Line) : Switchboard :=
  { board with lines := board.lines.map fun other =>
      if other.channel = line.channel then line else other }

-- What is said to an engine that is not there is lost.
def send (board : Switchboard) (channel : Nat) (command : ChannelCommand) : Switchboard :=
  if (board.line? channel).any Line.isReachable then board.note (.sent channel command) else board

def waiter? (board : Switchboard) (ticket : Ticket) : Option Pending :=
  board.pending.find? fun pending => pending.ticket = ticket

def await (board : Switchboard) (pending : Pending) : Switchboard :=
  { board with pending := board.pending ++ [pending] }

def forget (board : Switchboard) (call : CallId) : Switchboard :=
  { board with pending := board.pending.filter fun pending => pending.call ≠ call }

def complete (board : Switchboard) (call : CallId) (answer : Answer) : Switchboard :=
  { board.forget call with finished := call :: board.finished }.note (.completed call answer)

def give (board : Switchboard) (call : CallId) (handle : Handle) : Switchboard :=
  { board with handles := board.handles ++ [(call, handle)] }

def takeBack (board : Switchboard) (call : CallId) : Switchboard :=
  { board with handles := board.handles.filter fun held => held.1 ≠ call }

def handle? (board : Switchboard) (call : CallId) : Option Handle := board.handles.lookup call

def ofConnection (result : Except ConnectionFault Unit) : Answer :=
  match result with
  | .ok () => .ok .nothing
  | .error fault => .error (.connection fault)

def ofShell (result : Except ShellFault Unit) : Answer :=
  match result with
  | .ok () => .ok .nothing
  | .error fault => .error (.shell fault)

end Switchboard
end SecureShell
