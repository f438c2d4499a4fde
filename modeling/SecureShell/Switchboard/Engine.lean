import SecureShell.Switchboard.Sessions

namespace SecureShell.Switchboard

-- What the engine below answers and reports. Each answer comes with whether anybody
-- was still waiting for it.

-- A promise of the connection, kept or thrown away.
def settleConnection (board : Switchboard) (settlement : Settlement Connection.Verdict) : Switchboard :=
  match board.waiter? settlement.promise with
  | some pending =>
    board.complete pending.call
      (match pending.waiting, settlement.fate with
        | .disconnection, _ => .ok .nothing
        | _, .answered verdict => ofConnection verdict
        | _, .discarded => .error (.connection .unknown))
  | none => board

-- A line is opened for the session that a caller waits for.
def openLine (board : Switchboard) (link : Nat) (request : Connection.SessionRequest) : Switchboard :=
  match board.waiter? request.promise with
  | some ⟨origin, ticket, .venture venture⟩ =>
    let channel := board.lines.length + 1
    let line : Line :=
      { channel, origin, ticket, deadline := board.now + request.timeout, seat := .ofVenture venture }
    { board with lines := board.lines ++ [line] }.note (.openChannel channel link)
  | _ => board

def followConnection (board : Switchboard) : Connection.Supervisor.Effect → Switchboard
  | .connect attempt timeout => board.note (.connect attempt timeout)
  | .authenticate link => board.note (.authenticate link)
  | .close link => board.note (.closeLink link)
  | .settle settlement => board.settleConnection settlement
  | .registered promise token => board.register promise token
  | .observed observer view => board.note (.connectionSeen observer view)
  | .startSession link request => board.openLine link request

def followSupervisor (board : Switchboard) (outcome : Connection.Supervisor.Outcome) : Switchboard :=
  outcome.2.foldl followConnection { board with supervisor := outcome.1 }

-- The supervisor reads its mail.
def clearMail (board : Switchboard) : Switchboard :=
  board.followSupervisor (board.supervisor.clear board.now)

def connectAnswered (board : Switchboard) (link : Nat) (answer : Except TransportFault Unit) :
    Switchboard × Bool :=
  if board.supervisor.isAt link .connecting then
    ((board.followSupervisor (board.supervisor.connectAnswered link answer)).clearMail, true)
  else (board, false)

def authAnswered (board : Switchboard) (link : Nat) (answer : Except TransportFault Unit) :
    Switchboard × Bool :=
  if board.supervisor.isAt link .authenticating then
    ({ board with supervisor := board.supervisor.authAnswered link answer }.clearMail, true)
  else (board, false)

def linkClosed (board : Switchboard) (link : Nat) : Switchboard × Bool :=
  ({ board with supervisor := board.supervisor.linkClosed link }.clearMail,
   board.supervisor.isLinked link)

-- A channel that comes in time is attached to its session; the engine may be gone by then.
def channelOpened (board : Switchboard) (line : Line) (gone : Bool) : Switchboard :=
  let (start, effects) := line.start.advance .opened
  let line := { line with start, engine := if gone then .gone else .carrying }
  if .attach ∈ effects then
    let (line, begun) := line.attach
    let (line, heard) := line.hear (if gone then [.closed] else [])
    board.followAll (line, begun ++ heard)
  else (board.place line).followStart line.channel effects

def openAnswered (board : Switchboard) (channel : Nat) (answer : Except TransportFault Unit)
    (gone : Bool) : Switchboard × Bool :=
  match board.line? channel with
  | some line =>
    if line.start.answered then (board, false)
    else match answer with
    | .ok () => (board.channelOpened line gone, true)
    | .error fault => (board.advanceStart channel (.refused fault), true)
  | none => (board, false)

-- What a channel brings, if there is an engine to bring it. An engine that goes is
-- gone before the session gets to hear of anything.
def emitted (board : Switchboard) (channel : Nat) (event : ChannelEvent) (gone : Bool) :
    Option (Switchboard × Bool) :=
  match board.line? channel with
  | some line =>
    if line.isReachable then
      let after := if gone then { line with engine := .gone } else line
      some (board.followAll (after.hear (event :: if gone then [.closed] else [])), line.listens)
    else none
  | none => none

def hungUp (board : Switchboard) (channel : Nat) : Option Switchboard :=
  match board.line? channel with
  | some line =>
    if line.isReachable then some (board.followAll ({ line with engine := .gone }.hear [.closed]))
    else none
  | none => none

def expireLine (board : Switchboard) (line : Line) : Switchboard :=
  if line.deadline ≤ board.now then board.advanceStart line.channel .deadline else board

-- All that has run out of time by now.
def expire (board : Switchboard) : Switchboard :=
  let board := { board with supervisor := board.supervisor.expireAll board.now }.clearMail
  board.lines.foldl expireLine board

end SecureShell.Switchboard
