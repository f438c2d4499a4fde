import SecureShell.Exec.Session
import SecureShell.Exec.Stream
import SecureShell.Interactive.Session
import SecureShell.Launch.Cancellation
import SecureShell.Launch.Start
import SecureShell.Sftp.Client
import SecureShell.Switchboard.Call

namespace SecureShell.Switchboard

-- A line is a channel with the session that sits on it. The session first has to
-- come up; what it then says is either kept at its seat for whoever reads it, or
-- handed on as an effect.

inductive Effect
  | send (command : ChannelCommand)
  | report (verdict : Launch.Verdict)
  | shellSettled (settlement : Settlement Interactive.Answer)
  | shellRegistered (promise : Ticket) (token : Registry.Token)
  | shellSeen (observer : Nat) (view : Interactive.Shell.View)
  | filesSettled (settlement : Settlement Sftp.Answer)
  deriving DecidableEq

-- Takes in what a session did, piece by piece.
def absorb (take : α → β → α × List Effect) (seat : α) : List β → α × List Effect
  | [] => (seat, [])
  | piece :: pieces =>
    let (seat, first) := take seat piece
    let (seat, others) := absorb take seat pieces
    (seat, first ++ others)

structure CommandSeat where
  session : Exec.Session
  stream : Exec.Stream := {}
  cancellation : Launch.Cancellation Unit := .untouched
  deriving DecidableEq

namespace CommandSeat

def take (seat : CommandSeat) : Exec.Session.Effect → CommandSeat × List Effect
  | .put command => (seat, [.send command])
  | .started verdict => (seat, [.report verdict])
  | .forward output =>
    ({ seat with stream := { seat.stream with queue := seat.stream.queue ++ [output] } }, [])
  | .ended verdict => ({ seat with stream := { seat.stream with verdict := some verdict } }, [])
  | .leave => ({ seat with stream := { seat.stream with sourceGone := true } }, [])

def follow (seat : CommandSeat) (outcome : Exec.Session.Outcome) : CommandSeat × List Effect :=
  absorb take { seat with session := outcome.1 } outcome.2

-- Whoever tracks the start acts by closing the channel.
def track (seat : CommandSeat) (event : Launch.Cancellation.Event Unit) : CommandSeat × List Effect :=
  let (cancellation, closer) := seat.cancellation.advance event
  ({ seat with cancellation }, closer.toList.map fun () => .send .close)

-- A call-off from before the launch takes effect at the launch, and ahead of it.
def begin (reachable : Bool) (seat : CommandSeat) : CommandSeat × List Effect :=
  let (seat, closing) := seat.track (.launching ())
  let (seat, effects) := seat.follow (seat.session.begin reachable)
  (seat, closing ++ effects)

def hear (reachable : Bool) (seat : CommandSeat) (event : ChannelEvent) : CommandSeat × List Effect :=
  seat.follow (seat.session.onEvent reachable event)

-- Once the stream has been read to its end, there is nothing left to call off.
def read (seat : CommandSeat) (stream : Exec.Stream) : CommandSeat :=
  if stream.finished then { seat with stream, cancellation := .ended } else { seat with stream }

def abandon (seat : CommandSeat) : CommandSeat :=
  { seat with stream := seat.stream.abandon, cancellation := .ended }

def cancel (seat : CommandSeat) : CommandSeat × List Effect :=
  let (asks, stream) := seat.stream.cancel
  if asks then { seat with stream }.track .cancel else (seat, [])

def dropStream (seat : CommandSeat) : CommandSeat × List Effect :=
  if seat.stream.asksOnDrop then seat.track .cancel else (seat, [])

end CommandSeat

structure ShellSeat where
  session : Interactive.Session := {}
  -- The reader is given out once, and kept apart from the shell.
  taken : Bool := false
  reader : Option (List Octets) := none
  deriving DecidableEq

namespace ShellSeat

def take (seat : ShellSeat) : Interactive.Session.Effect → ShellSeat × List Effect
  | .put command => (seat, [.send command])
  | .settle ⟨_, .answered (.start verdict)⟩ => (seat, [.report verdict])
  | .settle settlement => (seat, [.shellSettled settlement])
  | .registered promise token => (seat, [.shellRegistered promise token])
  | .observed observer view => (seat, [.shellSeen observer view])
  | .deliver data => ({ seat with reader := seat.reader.map (· ++ [data]) }, [])
  | .leave => (seat, [])

def follow (seat : ShellSeat) (outcome : Interactive.Session.Outcome) : ShellSeat × List Effect :=
  absorb take { seat with session := outcome.1 } outcome.2

def begin (reachable : Bool) (seat : ShellSeat) : ShellSeat × List Effect :=
  seat.follow (seat.session.begin reachable)

def hear (reachable : Bool) (seat : ShellSeat) (event : ChannelEvent) : ShellSeat × List Effect :=
  seat.follow (seat.session.onEvent reachable event)

-- A call is queued and taken from the queue at once, as nothing else waits there.
def ask (reachable : Bool) (seat : ShellSeat) (call : Interactive.Call) : ShellSeat × List Effect :=
  let (seat, refused) := seat.follow (seat.session.submit call)
  let (seat, effects) := seat.follow (seat.session.takeCall reachable)
  (seat, refused ++ effects)

def abandon (reachable : Bool) (seat : ShellSeat) : ShellSeat × List Effect :=
  seat.follow (seat.session.abandon reachable)

end ShellSeat

structure FilesSeat where
  settings : Sftp.Settings
  service : Sftp.Service := {}
  -- What the server announced when it greeted back.
  extensions : List Text.Pair := []

namespace FilesSeat

-- The promise of a farewell that nobody waits for.
def farewellTicket : Ticket := 1

-- A failed start keeps the channel as its occasion.
def take (channel : Nat) (seat : FilesSeat) : Sftp.Service.Effect → FilesSeat × List Effect
  | .put command => (seat, [.send command])
  | .settle settlement => (seat, [.filesSettled settlement])
  | .ready extensions => ({ seat with extensions }, [.report (.ok ())])
  | .unready fault => (seat, [.report (.error (.sessionStart channel (.sftp fault)))])
  | .leave => (seat, [])

def follow (channel : Nat) (seat : FilesSeat) (outcome : Sftp.Service.Outcome) :
    FilesSeat × List Effect :=
  absorb (take channel) { seat with service := outcome.1 } outcome.2

def begin (channel : Nat) (reachable : Bool) (seat : FilesSeat) : FilesSeat × List Effect :=
  seat.follow channel (Sftp.Service.begin reachable seat.settings.extensions)

def hear (channel : Nat) (reachable : Bool) (seat : FilesSeat) (event : ChannelEvent) :
    FilesSeat × List Effect :=
  seat.follow channel (seat.service.onEvent reachable event)

def ask (channel : Nat) (reachable : Bool) (seat : FilesSeat) (call : Sftp.Call) :
    FilesSeat × List Effect :=
  let (seat, refused) := seat.follow channel (seat.service.submit call)
  let (seat, effects) := seat.follow channel (seat.service.takeCall reachable)
  (seat, refused ++ effects)

def abandon (channel : Nat) (reachable : Bool) (seat : FilesSeat) : FilesSeat × List Effect :=
  seat.follow channel (seat.service.abandon reachable farewellTicket)

end FilesSeat

inductive Seat
  | command (seat : CommandSeat)
  | shell (seat : ShellSeat)
  | files (seat : FilesSeat)

namespace Seat

def ofVenture : Venture → Seat
  | .command text _ => .command { session := .fresh text }
  | .shell => .shell {}
  | .files settings => .files { settings }

def begin (channel : Nat) (reachable : Bool) : Seat → Seat × List Effect
  | .command seat => (seat.begin reachable).map .command id
  | .shell seat => (seat.begin reachable).map .shell id
  | .files seat => (seat.begin channel reachable).map .files id

def hear (channel : Nat) (reachable : Bool) : Seat → ChannelEvent → Seat × List Effect
  | .command seat, event => (seat.hear reachable event).map .command id
  | .shell seat, event => (seat.hear reachable event).map .shell id
  | .files seat, event => (seat.hear channel reachable event).map .files id

def hearAll (channel : Nat) (reachable : Bool) (seat : Seat) (events : List ChannelEvent) :
    Seat × List Effect :=
  absorb (hear channel reachable) seat events

-- Whether the session has let go of its channel.
def isLeft : Seat → Bool
  | .command seat => seat.session.execution.isEnded
  | .shell seat => seat.session.left
  | .files seat => seat.service.standing = .gone

def command? : Seat → Option CommandSeat
  | .command seat => some seat
  | _ => none

def shell? : Seat → Option ShellSeat
  | .shell seat => some seat
  | _ => none

def files? : Seat → Option FilesSeat
  | .files seat => some seat
  | _ => none

end Seat

-- The far side of a channel.
inductive Engine
  | asked
  | carrying
  | gone
  deriving DecidableEq

structure Line where
  channel : Nat
  -- The call that asked for the session.
  origin : CallId
  -- The promise that the start of the session is owed to.
  ticket : Ticket
  -- The time of the request and its timeout. A sum that a clock cannot represent, where the start
  -- breaks off before it asks for a channel, is left out: times are numbers without a bound.
  deadline : Nat
  seat : Seat
  start : Launch.Start := {}
  engine : Engine := .asked
  attached : Bool := false

namespace Line

def isReachable (line : Line) : Bool := line.engine = .carrying

def listens (line : Line) : Bool := line.attached && !line.seat.isLeft

def attach (line : Line) : Line × List Effect :=
  let (seat, effects) := line.seat.begin line.channel line.isReachable
  ({ line with seat, attached := true }, effects)

def hear (line : Line) (events : List ChannelEvent) : Line × List Effect :=
  if line.attached then
    let (seat, effects) := line.seat.hearAll line.channel line.isReachable events
    ({ line with seat }, effects)
  else (line, [])

end Line
end SecureShell.Switchboard
