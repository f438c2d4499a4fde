import SecureShell.Switchboard.Board

namespace SecureShell.Switchboard

-- How the sessions on the lines answer the calls that wait for them.

-- A session that came up is handed to its caller, unless nobody waits for it any
-- more. A command that is to be collected keeps its caller waiting.
def launched (board : Switchboard) (line : Line) (pending : Pending) : Venture → Switchboard
  | .command text true =>
    (board.forget pending.call).await
      { pending with waiting := .collecting line.channel { command := text } }
  | .command _ false =>
    (board.give pending.call (.stream line.channel)).complete pending.call (.ok .nothing)
  | .shell => (board.give pending.call (.shell line.channel)).complete pending.call (.ok .nothing)
  | .files _ =>
    (board.give pending.call (.client line.channel)).complete pending.call
      (.ok (.extensions ((line.seat.files?.map FilesSeat.extensions).getD [])))

def failed (board : Switchboard) (line : Line) (pending : Pending) (fault : ConnectionFault) :
    Switchboard :=
  let line := match line.seat with
    | .command seat => { line with seat := .command seat.abandon }
    | _ => line
  (board.place line).complete pending.call (.error (.connection fault))

def settleVenture (board : Switchboard) (line : Line) (verdict : Launch.Verdict) : Switchboard :=
  match board.waiter? line.ticket with
  | some pending =>
    match pending.waiting, verdict with
    | .venture venture, .ok () => board.launched line pending venture
    | .venture _, .error fault => board.failed line pending fault
    | _, _ => board
  | none => board

-- The start of a session takes its course. Attaching is up to whoever opened the
-- channel.
def followStart (board : Switchboard) (channel : Nat) (effects : List Launch.Start.Effect) :
    Switchboard :=
  effects.foldl (fun board effect =>
    match effect, board.line? channel with
    | .close, _ => board.send channel .close
    | .settle verdict, some line => board.settleVenture line verdict
    | _, _ => board) board

def advanceStart (board : Switchboard) (channel : Nat) (event : Launch.Start.Event) : Switchboard :=
  match board.line? channel with
  | some line =>
    let (start, effects) := line.start.advance event
    (board.place { line with start }).followStart channel effects
  | none => board

-- The user of a shell hears of its state as it is by now.
def settleShell (board : Switchboard) (settlement : Settlement Interactive.Answer) : Switchboard :=
  match board.waiter? settlement.promise with
  | some pending =>
    match pending.waiting with
    | .writing channel =>
      match (board.line? channel).bind (·.seat.shell?) with
      | some seat => board.complete pending.call (ofShell (seat.session.writeAnswer settlement.fate))
      | none => board
    | .closingShell _ =>
      board.complete pending.call (ofShell (Interactive.Session.closeAnswer settlement.fate))
    | .observingShell _ => board.complete pending.call (.error (.shell .notRunning))
    | _ => board
  | none => board

def register (board : Switchboard) (promise : Ticket) (token : Registry.Token) : Switchboard :=
  match board.waiter? promise with
  | some pending =>
    { board with tokens := board.tokens ++ [(pending.call, token)] }.complete pending.call (.ok .nothing)
  | none => board

-- A finished task leaves its result; a file that was opened to stay is handed over.
def finishTask (board : Switchboard) (call : CallId) (channel slice : Nat) (purpose : Purpose) :
    Except SftpFault Sftp.Result → Switchboard
  | .error fault => board.complete call (.error (.files fault))
  | .ok result =>
    match purpose, result with
    | .opens path, .opened handle =>
      let path := Text.decode path
      (board.give call (.file channel ⟨handle, slice⟩ path)).complete call (.ok (.path path))
    | _, result => board.complete call (.ok (.files result))

def placeFiles (board : Switchboard) (line : Line) (service : Sftp.Service) : Switchboard :=
  match line.seat with
  | .files seat => board.place { line with seat := .files { seat with service } }
  | _ => board

-- The task goes on until it has to wait again or is finished.
def carryOn (board : Switchboard) (call : CallId) (channel : Nat) (purpose : Purpose)
    (move : Sftp.Procedure.Move) : Switchboard :=
  match board.line? channel with
  | some line =>
    match line.seat with
    | .files seat =>
      let pursuit := Sftp.Procedure.pursue line.isReachable seat.service board.nextTicket move
      let board := pursuit.commands.foldl (·.send channel ·)
        ({ board with nextTicket := pursuit.next + 1 }.placeFiles line pursuit.service)
      match pursuit.course with
      | .waiting procedure promise =>
        (board.forget call).await ⟨call, promise, .task channel procedure purpose⟩
      | .staying procedure =>
        (board.forget call).await ⟨call, pursuit.next, .task channel procedure purpose⟩
      | .finished result => board.finishTask call channel seat.settings.slice purpose result
    | _ => board
  | none => board

-- A request whose promise was thrown away found the session closed.
def replyOf : Fate Sftp.Answer → Sftp.Reply
  | .answered (.ok (.message message)) => .ok message
  | .answered (.error fault) => .error fault
  | _ => .error .closed

def settleFiles (board : Switchboard) (settlement : Settlement Sftp.Answer) : Switchboard :=
  match board.waiter? settlement.promise with
  | some pending =>
    match pending.waiting with
    | .task channel procedure purpose =>
      board.carryOn pending.call channel purpose (procedure.resume (replyOf settlement.fate))
    | .leaving _ =>
      board.complete pending.call
        (match settlement.fate with
          | .answered (.error fault) => .error (.files fault)
          | _ => .ok .nothing)
    | _ => board
  | none => board

def follow (board : Switchboard) (channel : Nat) : Effect → Switchboard
  | .send command => board.send channel command
  | .report verdict => board.advanceStart channel (.reported verdict)
  | .shellSettled settlement => board.settleShell settlement
  | .shellRegistered promise token => board.register promise token
  | .shellSeen observer view => board.note (.shellSeen observer view)
  | .filesSettled settlement => board.settleFiles settlement

-- The line is put back before anybody hears of what it did.
def followAll (board : Switchboard) (outcome : Line × List Effect) : Switchboard :=
  outcome.2.foldl (·.follow outcome.1.channel ·) (board.place outcome.1)

def followSeat (board : Switchboard) (line : Line) (outcome : Seat × List Effect) : Switchboard :=
  board.followAll ({ line with seat := outcome.1 }, outcome.2)

-- A file that was given up while open is closed, and nobody waits for that.
def release (board : Switchboard) (channel : Nat) (file : Sftp.OpenFile) : Switchboard :=
  match board.line? channel with
  | some line =>
    match line.seat with
    | .files seat =>
      { board with nextTicket := board.nextTicket + 1 }.followSeat line
        ((seat.ask channel line.isReachable (.request (.close file.handle) board.nextTicket)).map
          .files id)
    | _ => board
  | none => board

end SecureShell.Switchboard
