import SecureShell.Switchboard.Callers

namespace SecureShell.Switchboard

-- One thing happens at a time, and all that follows from it is done before the next.
-- Time stands still but for what says that it passes.

inductive Stimulus
  | connectAnswered (link : Nat) (answer : Except TransportFault Unit)
  | authAnswered (link : Nat) (answer : Except TransportFault Unit)
  | linkClosed (link : Nat)
  | openAnswered (channel : Nat) (answer : Except TransportFault Unit) (gone : Bool)
  | emitted (channel : Nat) (event : ChannelEvent) (gone : Bool)
  | hungUp (channel : Nat)
  | passed (time : Nat)
  | called (call : Call)
  | aborted (call : CallId)
  | used (use : Use)

-- The outcome on the spot. A stimulus is skipped if it names what is not there; a call
-- is answered by a notice of its own.
inductive Response
  | skipped
  | pending
  | reply (reply : Reply)
  deriving DecidableEq

structure Report where
  response : Response
  notices : List Notice
  -- The state of the connection, as long as somebody is there to look.
  view : Option Connection.View
  deriving DecidableEq

-- A command that is being collected is read on as far as it goes.
def collect (board : Switchboard) (pending : Pending) : Switchboard :=
  match pending.waiting with
  | .collecting channel capture =>
    match board.line? channel with
    | some line =>
      match line.seat with
      | .command seat =>
        let (result, capture, stream) := capture.collect seat.stream
        let board := board.placeSeat line (.command (seat.read stream))
        match result with
        | none =>
          (board.forget pending.call).await
            { pending with waiting := .collecting channel capture }
        | some (.ok capture) => board.complete pending.call (.ok (.capture capture))
        | some (.error fault) => board.complete pending.call (.error (.connection fault))
      | _ => board
    | none => board
  | _ => board

def collectAll (board : Switchboard) : Switchboard := board.pending.foldl collect board

-- Whether a session on a line is still in somebody's hands, or about to be.
def isHeld (board : Switchboard) (line : Line) : Bool :=
  (board.waiter? line.ticket).isSome ||
  board.handles.any (fun (_, handle) =>
    match handle with
    | .shell channel | .client channel | .file channel .. => channel = line.channel
    | .stream _ => false) ||
  board.waits fun waiting => waiting.usesShell line.channel || waiting.usesClient line.channel

-- A session that is in nobody's hands any more is closed for them.
def closeLeft (board : Switchboard) (channel : Nat) : Switchboard :=
  match board.line? channel with
  | some line =>
    if !line.attached || board.isHeld line then board
    else match line.seat with
    | .command _ => board
    | .shell seat => board.followSeat line ((seat.abandon line.isReachable).map .shell id)
    | .files seat => board.followSeat line ((seat.abandon channel line.isReachable).map .files id)
  | none => board

-- A call to the connection holds it, and so does one that collects a command.
def Waiting.holdsConnection : Waiting → Bool
  | .connection | .disconnection | .venture _ | .collecting .. => true
  | _ => false

-- Nobody holds the connection any more: the supervisor leaves.
def letGo (board : Switchboard) : Switchboard :=
  if board.holders = 0 && !board.waits Waiting.holdsConnection then
    board.followSupervisor board.supervisor.release.exit
  else board

def tidy (board : Switchboard) : Switchboard :=
  let board := board.collectAll
  ((board.lines.map Line.channel).foldl closeLeft board).letGo

def told (outcome : Option (Switchboard × Bool)) (board : Switchboard) : Switchboard × Response :=
  match outcome with
  | some (after, answer) => (after, .reply (.whether answer))
  | none => (board, .skipped)

def react (board : Switchboard) : Stimulus → Switchboard × Response
  | .connectAnswered link answer => told (board.connectAnswered link answer) board
  | .authAnswered link answer => told (board.authAnswered link answer) board
  | .linkClosed link => told (board.linkClosed link) board
  | .openAnswered channel answer gone => told (board.openAnswered channel answer gone) board
  | .emitted channel event gone => told (board.emitted channel event gone) board
  | .hungUp channel =>
    match board.hungUp channel with
    | some after => (after, .reply .nothing)
    | none => (board, .skipped)
  | .passed time => ({ board with now := board.now + time }, .reply .nothing)
  | .called call =>
    match board.call board.turn call with
    | some after => ({ after with made := board.turn :: board.made }, .pending)
    | none => (board, .skipped)
  | .aborted call => told (board.abort call) board
  | .used use =>
    match board.use use with
    | some (after, reply) => (after, .reply reply)
    | none => (board, .skipped)

-- Whatever can be done without waiting is done before time runs out on it.
def step (board : Switchboard) (stimulus : Stimulus) : Switchboard × Report :=
  let (board, response) := { board with notices := [] }.react stimulus
  let board := board.tidy.expire.tidy
  ({ board with turn := board.turn + 1 },
   { response
     notices := board.notices
     view := if board.holders = 0 then none else some board.supervisor.shown })

def run (board : Switchboard) : List Stimulus → List Report
  | [] => []
  | stimulus :: stimuli =>
    let (board, report) := board.step stimulus
    report :: board.run stimuli

namespace Report

-- The calls that were completed, in the order in which they were made.
def completed (report : Report) : List (CallId × Answer) :=
  (report.notices.filterMap fun
    | .completed call answer => some (call, answer)
    | _ => none).mergeSort fun one other => one.1 ≤ other.1

-- What goes with one key, in order, key by key.
def grouped [BEq κ] (entries : List (κ × α)) : List (κ × List α) :=
  (entries.map Prod.fst).eraseDups.map fun key =>
    (key, entries.filterMap fun entry => if entry.1 == key then some entry.2 else none)

end Report
end SecureShell.Switchboard
