import SecureShell.Proofs.Sftp.Pairing
import SecureShell.Proofs.Switchboard.Admission
import SecureShell.Proofs.Switchboard.Turns

namespace SecureShell.Switchboard
open Sftp (Procedure Request)

-- The service on a channel is asked, under a ticket that is nobody's. What it does then is done on
-- the board.
def hand (board : Switchboard) (channel : Nat) (request : Request) : Switchboard :=
  match board.line? channel with
  | some line =>
    match line.seat with
    | .files seat =>
      let asked := seat.service.ask line.isReachable request board.nextTicket
      { board with nextTicket := board.nextTicket + 1 }.followSeat line
        ((seat.follow channel asked).map .files id)
    | _ => board
  | none => board

def handAll (board : Switchboard) (channel : Nat) (requests : List Request) : Switchboard :=
  requests.foldl (·.hand channel ·) board

def Line.utters (line : Line) (command : ChannelCommand) : List Notice :=
  if line.isReachable then [.sent line.channel command] else []

variable {board : Switchboard} {channel : Nat} {line : Line} {seat : FilesSeat}

theorem send_at (found : board.line? channel = some line) (said : ChannelCommand) :
    board.send channel said = { board with notices := board.notices ++ line.utters said } := by
  have mine : line.channel = channel := channel_of_line? found
  rw [send, found, Option.any_some, Line.utters, mine]
  cases line.isReachable with
  | true => rfl
  | false => simp

-- A call goes through the queue on its own, however the seat takes in what is done.
theorem FilesSeat.ask_request (reachable : Bool) (seat : FilesSeat) (request : Request) (promise : Ticket) :
    seat.ask channel reachable (.request request promise) =
      seat.follow channel (seat.service.ask reachable request promise) := by
  simp only [ask, follow, absorb_take, Sftp.Service.ask, Sftp.Service.news_append, announced,
    List.foldl_append, List.filterMap_append]

theorem release_hands (board : Switchboard) (channel : Nat) (opened : Sftp.OpenFile) :
    board.release channel opened = board.handAll channel [.close opened.handle] := by
  change board.release channel opened = board.hand channel (.close opened.handle)
  unfold release hand
  cases board.line? channel with
  | none => rfl
  | some line =>
    cases seated : line.seat with
    | files seat => simp only [seated, FilesSeat.ask_request]
    | command | shell => simp only [seated]

end SecureShell.Switchboard

namespace SecureShell.Sftp.Service

variable {service : Service} {pending : Pending} {abandoned : Bool}

theorem ask_serving (serving : service.standing = .serving abandoned) (queue : service.mailbox = [])
    (ready : service.dialogue = .ready pending) (short : pending.length < 0x100000000)
    (request : Request) (promise : Ticket) :
    ∃ id after, pending.has id = false ∧ after.dialogue = .ready (pending ++ [(id, promise)]) ∧
      service.ask true request promise =
        (after, [.put (.data (Message.request id request).frame)]) := by
  obtain ⟨id, identifiers, allocated⟩ := Identifiers.allocate_finds short service.identifiers
  let queued : Service := { service with mailbox := [.request request promise] }
  have submits : service.submit (.request request promise) = (queued, []) := by
    simp only [submit, serving, queue, queued, List.nil_append]
  have serves : queued.standing = .serving abandoned := serving
  have takes := (take_ready serves rfl ready allocated).1
  let after : Service :=
    { service with mailbox := [], identifiers, dialogue := .ready (pending ++ [(id, promise)]) }
  refine ⟨id, after, Identifiers.allocate_free allocated, rfl, ?_⟩
  simp only [ask, submits, takes, List.nil_append]
  rfl

end SecureShell.Sftp.Service

namespace SecureShell.Switchboard
open Sftp (Procedure Request)

-- A session on a channel that is carried, which serves and has nothing in its queue.
structure ServesAt (board : Switchboard) (channel : Nat) (pending : Sftp.Pending) (line : Line)
    (seat : FilesSeat) : Prop where
  found : board.line? channel = some line
  seated : line.seat = .files seat
  reachable : line.isReachable = true
  serving : ∃ abandoned, seat.service.standing = .serving abandoned
  queue : seat.service.mailbox = []
  ready : seat.service.dialogue = .ready pending
  short : pending.length < 0x100000000

-- What there is to see of a request that goes out: a frame of its own, and its promise in flight.
structure Sends (board : Switchboard) (channel : Nat) (request : Request) (pending : Sftp.Pending)
    (id : UInt32) (after : Switchboard) : Prop where
  free : pending.has id = false
  frame : after.notices =
    board.notices ++ [.sent channel (.data (Sftp.Message.request id request).frame)]
  flight : ∃ line seat, after.line? channel = some line ∧ line.seat = .files seat ∧
    seat.service.dialogue = .ready (pending ++ [(id, board.nextTicket)])
  handles : after.handles = board.handles

section Serving

variable {board : Switchboard} {channel : Nat} {pending : Sftp.Pending} {line : Line} {seat : FilesSeat}
  (serves : ServesAt board channel pending line seat)
include serves

theorem ServesAt.mine : line.channel = channel := channel_of_line? serves.found

theorem ServesAt.asks (request : Request) :
    ∃ id after, pending.has id = false ∧
      after.dialogue = .ready (pending ++ [(id, board.nextTicket)]) ∧
      seat.service.ask true request board.nextTicket =
        (after, [.put (.data (Sftp.Message.request id request).frame)]) := by
  obtain ⟨abandoned, serving⟩ := serves.serving
  exact Sftp.Service.ask_serving serving serves.queue serves.ready serves.short request board.nextTicket

-- The service is put back on its line, and what it has to say is said.
def putBack (board : Switchboard) (channel : Nat) (line : Line) (seat : FilesSeat)
    (service : Sftp.Service) (next : Ticket) (command : ChannelCommand) : Switchboard :=
  ({ board with nextTicket := next }.place { line with seat := .files { seat with service } }).send
    channel command

theorem ServesAt.sends {service : Sftp.Service} {request : Request} {id : UInt32}
    (free : pending.has id = false)
    (ready : service.dialogue = .ready (pending ++ [(id, board.nextTicket)])) (next : Ticket) :
    Sends board channel request pending id
      (board.putBack channel line seat service next (.data (Sftp.Message.request id request).frame)) := by
  let put : Line := { line with seat := .files { seat with service } }
  let frame : ChannelCommand := .data (Sftp.Message.request id request).frame
  have carries : put.isReachable = true := serves.reachable
  have still : { board with nextTicket := next }.line? channel = some line := serves.found
  have there : ({ board with nextTicket := next }.place put).line? channel = some put :=
    line?_place still rfl
  have said := send_at there frame
  change Sends board channel request pending id
    (({ board with nextTicket := next }.place put).send channel frame)
  rw [said]
  refine ⟨free, ?_, ⟨put, _, there, rfl, ready⟩, rfl⟩
  rw [Line.utters, if_pos carries, show put.channel = channel from serves.mine]
  rfl

theorem hand_sends (request : Request) :
    ∃ id, Sends board channel request pending id (board.hand channel request) ∧
      (board.hand channel request).pending = board.pending := by
  obtain ⟨id, service, free, ready, asked⟩ := serves.asks request
  have mine := serves.mine
  have handed : board.hand channel request = board.putBack channel line seat service (board.nextTicket + 1)
      (.data (Sftp.Message.request id request).frame) := by
    subst mine
    simp only [hand, serves.found, serves.seated, serves.reachable, asked]
    rfl
  rw [handed]
  exact ⟨id, serves.sends free ready _, by rw [putBack, send_pending]; rfl⟩

theorem carryOn_sends (call : CallId) (purpose : Purpose) (request : Request) (rest : Procedure) :
    let after := board.carryOn call channel purpose (.ask request rest)
    ∃ id, Sends board channel request pending id after ∧
      after.pending =
        (board.forget call).pending ++ [⟨call, board.nextTicket, .task channel rest purpose⟩] := by
  intro after
  obtain ⟨id, service, free, ready, asked⟩ := serves.asks request
  have mine := serves.mine
  let frame : ChannelCommand := .data (Sftp.Message.request id request).frame
  have pursued : Procedure.pursue true seat.service board.nextTicket (.ask request rest) =
      ⟨service, [frame], board.nextTicket + 1, .waiting rest board.nextTicket⟩ := by
    rw [Procedure.pursue, asked]
    rfl
  let sent := board.putBack channel line seat service (board.nextTicket + 1 + 1) frame
  have carried : after =
      (sent.forget call).await ⟨call, board.nextTicket, .task channel rest purpose⟩ := by
    subst mine
    simp only [after, carryOn, serves.found, serves.seated, serves.reachable, pursued, placeFiles]
    rfl
  have sends : Sends board channel request pending id sent := serves.sends free ready _
  rw [carried]
  refine ⟨id, ⟨free, sends.frame, sends.flight, sends.handles⟩, ?_⟩
  have same : sent.pending = board.pending := by
    unfold sent putBack
    rw [send_pending]
    rfl
  rw [await, forget, same]
  rfl

end Serving

end SecureShell.Switchboard
