import SecureShell.Fault
import SecureShell.Octets

namespace SecureShell

inductive ChannelRequest
  | exec (command : String) (wantReply : Bool)
  | shell (wantReply : Bool)
  | subsystem (name : String) (wantReply : Bool)
  deriving DecidableEq

-- What a session asks of the engine that carries its channel.
inductive ChannelCommand
  | request (request : ChannelRequest)
  | data (data : Octets)
  | close
  deriving DecidableEq

-- What the engine reports to the session.
inductive ChannelEvent
  | data (data : Octets)
  | extendedData (data : Octets)
  | exitStatus (status : UInt32)
  | success | failure | eof | closed
  deriving DecidableEq

-- Both queues of a channel and who still holds it: the session, closers that the
-- session has given away, the engine.
structure Channel where
  commands : List ChannelCommand := []
  events : List ChannelEvent := []
  sessionHolds : Bool := true
  closerHolds : Bool := false
  engineHolds : Bool := true
  deriving DecidableEq

namespace Channel

-- A command is refused once the engine is gone.
def put (channel : Channel) (command : ChannelCommand) : Except TransportFault Unit × Channel :=
  if channel.engineHolds then (.ok (), { channel with commands := channel.commands ++ [command] })
  else (.error .channelClosed, channel)

-- Closing is asked for, never awaited, so nobody learns that the engine is gone.
def close (channel : Channel) : Channel := (channel.put .close).2

-- Whether the session is there to hear of the event.
def emit (channel : Channel) (event : ChannelEvent) : Bool × Channel :=
  if channel.sessionHolds then (true, { channel with events := channel.events ++ [event] })
  else (false, channel)

inductive Awaited (α : Type)
  | ready (value : α)
  | pending
  | ended
  deriving DecidableEq

def nextCommand (channel : Channel) : Awaited ChannelCommand × Channel :=
  match channel.commands with
  | command :: commands => (.ready command, { channel with commands })
  | [] => (if channel.sessionHolds || channel.closerHolds then .pending else .ended, channel)

-- A vanished engine reads as a closed channel, again and again.
def nextEvent (channel : Channel) : Awaited ChannelEvent × Channel :=
  match channel.events with
  | event :: events => (.ready event, { channel with events })
  | [] => (if channel.engineHolds then .pending else .ready .closed, channel)

def grantCloser (channel : Channel) : Channel := { channel with closerHolds := true }
def returnCloser (channel : Channel) : Channel := { channel with closerHolds := false }
def leaveSession (channel : Channel) : Channel := { channel with sessionHolds := false, events := [] }
def leaveEngine (channel : Channel) : Channel := { channel with engineHolds := false, commands := [] }

end Channel
end SecureShell
