import SecureShell.Switchboard.Engine

namespace SecureShell.Switchboard

-- What users do: calls, which may take their time, and uses of what they hold, which
-- are answered on the spot.

inductive Use
  | unobserve (token : CallId)
  | address
  | clone
  | drop
  | readStream (stream : CallId)
  | cancelStream (stream : CallId)
  | dropStream (stream : CallId)
  | shellState (shell : CallId)
  | takeReader (shell : CallId)
  | readShell (shell : CallId)
  | dropReader (shell : CallId)
  | unobserveShell (shell token : CallId)
  | dropShell (shell : CallId)
  | filesState (client : CallId)
  | extensions (client : CallId)
  | dropClient (client : CallId)
  | filePath (file : CallId)
  | dropFile (file : CallId)
  deriving DecidableEq

inductive Reply
  | nothing
  | whether (answer : Bool)
  | address (host : String) (port : UInt16)
  | outputs (items : List (Except ConnectionFault Exec.Output)) (ended : Bool)
  | octets (items : List Octets) (ended : Bool)
  | shellState (view : Interactive.Shell.View)
  | filesState (view : Sftp.Dialogue.View)
  | extensions (extensions : List Text.Pair)
  | path (path : String)
  deriving DecidableEq

-- What is behind a handle, if it is of the right kind.

def streamAt? (board : Switchboard) (handle : CallId) : Option (Line × CommandSeat) :=
  match board.handle? handle with
  | some (.stream channel) =>
    (board.line? channel).bind fun line => line.seat.command?.map fun seat => (line, seat)
  | _ => none

def shellAt? (board : Switchboard) (handle : CallId) : Option (Line × ShellSeat) :=
  match board.handle? handle with
  | some (.shell channel) =>
    (board.line? channel).bind fun line => line.seat.shell?.map fun seat => (line, seat)
  | _ => none

def clientAt? (board : Switchboard) (handle : CallId) : Option (Line × FilesSeat) :=
  match board.handle? handle with
  | some (.client channel) =>
    (board.line? channel).bind fun line => line.seat.files?.map fun seat => (line, seat)
  | _ => none

def fileAt? (board : Switchboard) (handle : CallId) : Option (Nat × Sftp.OpenFile × String) :=
  match board.handle? handle with
  | some (.file channel file path) => some (channel, file, path)
  | _ => none

-- Whether a call in progress stands in the way of taking or dropping what it uses.

def Waiting.usesShell (channel : Nat) : Waiting → Bool
  | .writing other | .closingShell other | .observingShell other => other = channel
  | _ => false

def Waiting.usesFile (file : CallId) : Waiting → Bool
  | .task _ _ purpose => purpose = .uses file
  | _ => false

def Waiting.usesClient (channel : Nat) : Waiting → Bool
  | .task other _ _ | .leaving other => other = channel
  | _ => false

def waits (board : Switchboard) (test : Waiting → Bool) : Bool :=
  board.pending.any fun pending => test pending.waiting

-- A call starts to wait under a ticket of its own.
def enter (board : Switchboard) (call : CallId) (waiting : Waiting) : Switchboard × Ticket :=
  ({ board with nextTicket := board.nextTicket + 1 }.await ⟨call, board.nextTicket, waiting⟩,
   board.nextTicket)

def post (board : Switchboard) (mail : Connection.Mail) : Switchboard :=
  { board with supervisor := board.supervisor.post mail }.clearMail

-- Calls to the connection need somebody who holds it.
def callConnection (board : Switchboard) (call : CallId) (waiting : Waiting)
    (mail : Ticket → Connection.Mail) : Option Switchboard :=
  if board.holders = 0 then none
  else
    let (board, ticket) := board.enter call waiting
    some (board.post (mail ticket))

def callShell (board : Switchboard) (call shell : CallId) (waiting : Nat → Waiting)
    (make : Ticket → Interactive.Call) : Option Switchboard :=
  (board.shellAt? shell).map fun (line, seat) =>
    let (board, ticket) := board.enter call (waiting line.channel)
    board.followSeat line ((seat.ask line.isReachable (make ticket)).map .shell id)

def callFiles (board : Switchboard) (call client : CallId) (task : Sftp.Task) : Option Switchboard :=
  (board.clientAt? client).map fun (line, seat) =>
    let purpose := match task with
      | .openFile path _ _ => .opens path
      | _ => .plain
    board.carryOn call line.channel purpose (Sftp.Procedure.start seat.settings task)

def leave (board : Switchboard) (call client : CallId) : Option Switchboard :=
  (board.clientAt? client).map fun (line, seat) =>
    let (board, ticket) := board.enter call (.leaving line.channel)
    board.followSeat line
      ((seat.ask line.channel line.isReachable (.disconnect ticket)).map .files id)

def settingsAt (board : Switchboard) (channel : Nat) : Sftp.Settings :=
  (((board.line? channel).bind (·.seat.files?)).map FilesSeat.settings).getD {}

def callFile (board : Switchboard) (call file : CallId) (task : Sftp.FileTask) : Option Switchboard :=
  (board.fileAt? file).map fun (channel, opened, _) =>
    board.carryOn call channel (.uses file)
      (Sftp.Procedure.start (board.settingsAt channel) (.file opened task))

-- Closing takes the file away at once.
def closeFile (board : Switchboard) (call file : CallId) : Option Switchboard :=
  if board.waits (Waiting.usesFile file) then none
  else (board.fileAt? file).map fun (channel, opened, _) =>
    (board.takeBack file).carryOn call channel .plain
      (Sftp.Procedure.start (board.settingsAt channel) (.closeFile opened))

def call (board : Switchboard) (number : CallId) : Call → Option Switchboard
  | .connect timeout =>
    board.callConnection number .connection fun ticket => .event (.connect timeout ticket)
  | .disconnect =>
    board.callConnection number .disconnection fun ticket => .event (.disconnect ticket)
  | .observe => board.callConnection number .connection (.observe number)
  | .venture venture timeout =>
    board.callConnection number (.venture venture) fun ticket => .event (.session ⟨timeout, ticket⟩)
  | .write shell data => board.callShell number shell .writing (.write data)
  | .closeShell shell => board.callShell number shell .closingShell .close
  | .observeShell shell => board.callShell number shell .observingShell (.observe number)
  | .files client task => board.callFiles number client task
  | .leave client => board.leave number client
  | .file file task => board.callFile number file task
  | .closeFile file => board.closeFile number file

def placeSeat (board : Switchboard) (line : Line) (seat : Seat) : Switchboard :=
  board.place { line with seat }

def useShell (board : Switchboard) (shell : CallId) (call : Interactive.Call) : Option Switchboard :=
  (board.shellAt? shell).map fun (line, seat) =>
    board.followSeat line ((seat.ask line.isReachable call).map .shell id)

def takeReader (board : Switchboard) (shell : CallId) : Option (Switchboard × Reply) :=
  match board.shellAt? shell with
  | some (line, seat) =>
    if board.waits (Waiting.usesShell line.channel) then none
    else if seat.taken then some (board, .whether false)
    else
      let seat := { seat with taken := true, reader := some [] }
      some (board.followSeat line ((seat.ask line.isReachable .attachReader).map .shell id),
        .whether true)
  | none => none

-- The reader of a shell outlives the shell in its user's hands.
def readerAt? (board : Switchboard) (shell : CallId) : Option (Line × ShellSeat × List Octets) := do
  let line ← board.lines.find? fun line => line.origin = shell
  let seat ← line.seat.shell?
  let queue ← seat.reader
  return (line, seat, queue)

def use (board : Switchboard) : Use → Option (Switchboard × Reply)
  | .unobserve token =>
    match board.tokens.lookup token with
    | some token =>
      if board.holders = 0 then none else some (board.post (.unobserve token), .nothing)
    | none => none
  | .address =>
    if board.holders = 0 then none else some (board, .address board.host board.port)
  | .clone =>
    if board.holders = 0 then none
    else some ({ board with holders := board.holders + 1 }, .nothing)
  | .drop =>
    if board.holders = 0 then none
    else some ({ board with holders := board.holders - 1 }, .nothing)
  | .readStream stream => (board.streamAt? stream).map fun (line, seat) =>
    let (items, ended, stream) := seat.stream.takeAll
    (board.placeSeat line (.command (seat.read stream)), .outputs items ended)
  | .cancelStream stream => (board.streamAt? stream).map fun (line, seat) =>
    (board.followSeat line (seat.cancel.map .command id), .nothing)
  | .dropStream stream => (board.streamAt? stream).map fun (line, seat) =>
    ((board.takeBack stream).followSeat line (seat.dropStream.map .command id), .nothing)
  | .shellState shell => (board.shellAt? shell).map fun (_, seat) =>
    (board, .shellState seat.session.shell.view)
  | .takeReader shell => board.takeReader shell
  | .readShell shell => (board.readerAt? shell).map fun (line, seat, queue) =>
    (board.placeSeat line (.shell { seat with reader := some [] }), .octets queue seat.session.left)
  | .dropReader shell => (board.readerAt? shell).map fun (line, seat, _) =>
    (board.placeSeat line (.shell { seat with reader := none }), .nothing)
  | .unobserveShell shell token =>
    match board.tokens.lookup token with
    | some token => (board.useShell shell (.unobserve token)).map (·, .nothing)
    | none => none
  | .dropShell shell =>
    match board.shellAt? shell with
    | some (line, _) =>
      if board.waits (Waiting.usesShell line.channel) then none
      else some (board.takeBack shell, .nothing)
    | none => none
  | .filesState client => (board.clientAt? client).map fun (_, seat) =>
    (board, .filesState seat.service.dialogue.view)
  | .extensions client => (board.clientAt? client).map fun (_, seat) =>
    (board, .extensions seat.extensions)
  | .dropClient client => (board.clientAt? client).map fun _ => (board.takeBack client, .nothing)
  | .filePath file => (board.fileAt? file).map fun (_, _, path) => (board, .path path)
  | .dropFile file =>
    if board.waits (Waiting.usesFile file) then none
    else (board.fileAt? file).map fun (channel, opened, _) =>
      ((board.takeBack file).release channel opened, .nothing)

-- Gives a call up, and says whether it had not been completed. Whoever was to read a
-- command calls it off; a file that is open only for this call is closed.
def abort (board : Switchboard) (number : CallId) : Option (Switchboard × Bool) :=
  match board.pending.find? fun pending => pending.call = number with
  | none => if number ∈ board.made then some (board, number ∉ board.finished) else none
  | some pending =>
    let board := board.forget number
    let line? : Option Line := match pending.waiting with
      | .venture _ => board.lines.find? fun line => line.ticket = pending.ticket
      | .collecting channel _ => board.line? channel
      | _ => none
    let board := match line?, line?.bind (·.seat.command?) with
      | some line, some seat => board.followSeat line (seat.dropStream.map .command id)
      | _, _ => board
    match pending.waiting with
    | .task channel procedure _ =>
      match procedure.lost? with
      | some file => some (board.release channel file, true)
      | none => some (board, true)
    | _ => some (board, true)

end SecureShell.Switchboard
