import SecureShell.Proofs.Sftp.Pairing
import SecureShell.Proofs.Switchboard.OpenFiles

namespace SecureShell

namespace Sftp

inductive Procedure.AwaitsFile : Procedure → Prop
  | toKeep : AwaitsFile .expectHandle
  | toUse (slice : Nat) (actions : List FileAction) : AwaitsFile (.openingFor slice actions)

theorem Procedure.AwaitsFile.loses_nothing {procedure : Procedure} (awaits : procedure.AwaitsFile) :
    procedure.lost? = none := by
  cases awaits <;> rfl

namespace Service

variable {service : Service} {pending : Pending} {id : UInt32} {promise : Ticket} {data : Octets}
  {framing : Framing} {abandoned : Bool}

theorem trigger_reply (reachable : Bool) (ready : service.dialogue = .ready pending)
    (held : pending.find? id = some promise) (response : Response) :
    service.trigger reachable (.inbound (.response id response)) =
      ({ service with dialogue := .ready (pending.drop id) },
        [.settle (.answer promise (.ok (.message (.response id response))))]) := by
  have step : service.dialogue.advance (.inbound (.response id response)) =
      { next := .ready (pending.drop id)
        settled := [.answer promise (.ok (.message (.response id response)))] } := by
    rw [ready, Dialogue.advance, Dialogue.responded_known rfl held]
  rw [trigger, step]
  rfl

theorem hear_reply (reachable : Bool) (ready : service.dialogue = .ready pending)
    (held : pending.find? id = some promise) {response : Response}
    (drains : (service.framing.extend data).drain = ([.ok (.response id response)], framing)) :
    service.hear reachable (.data data) =
      ({ service with framing, dialogue := .ready (pending.drop id) },
        [.settle (.answer promise (.ok (.message (.response id response))))]) := by
  have still : ({ service with framing } : Service).dialogue = .ready pending := ready
  have replies := trigger_reply reachable still held response
  rw [hear_data, drains]
  simp only [List.map_cons, List.map_nil, triggerAll, ofItem]
  rw [replies]
  rfl

theorem onEvent_reply (reachable : Bool) (serving : service.standing = .serving abandoned)
    (ready : service.dialogue = .ready pending) (held : pending.find? id = some promise)
    {response : Response}
    (drains : (service.framing.extend data).drain = ([.ok (.response id response)], framing)) :
    service.onEvent reachable (.data data) =
      ({ service with framing, dialogue := .ready (pending.drop id) },
        [.settle (.answer promise (.ok (.message (.response id response))))]) := by
  have serves : service.onEvent reachable (.data data) =
      conclude reachable (service.hear reachable (.data data)) := by
    simp only [onEvent, serving]
  rw [serves, hear_reply reachable ready held drains]
  rfl

theorem frame_made {turns : List Turn} (attending : service.Attending) {frame : Octets}
    (sent : frame ∈ frames (effectsBy service turns)) :
    ∃ id request promise, frame = (Message.request id request).frame ∧
      .request request promise ∈ service.mailbox ++ turns.flatMap Turn.submitted := by
  rw [frames_run attending] at sent
  obtain ⟨entry, member, rfl⟩ := List.mem_map.mp sent
  obtain ⟨left, split, _⟩ := queue_run attending turns
  refine ⟨entry.id, entry.request, entry.promise, rfl, ?_⟩
  rw [split]
  exact List.mem_append_left _ ((sent_taken attending turns).subset (List.mem_map_of_mem member))

end Service
end Sftp

namespace Switchboard
open Sftp (Procedure)

-- A ticket that was given out, and under which nobody waits any more.
structure Retired (ticket : Ticket) (board : Switchboard) : Prop where
  given : ticket < board.nextTicket
  unheld : ∀ pending ∈ board.pending, pending.ticket ≠ ticket

variable {board : Switchboard} {call ticket : Nat} {channel : Nat} {line : Line} {seat : FilesSeat}
  {procedure : Procedure} {purpose : Purpose}

theorem Shift.retired {after : Switchboard} (shift : Shift grows board after) (retired : Retired ticket board) :
    Retired ticket after := by
  have others (call : CallId) : ∀ pending ∈ (board.forget call).pending, pending.ticket ≠ ticket :=
    fun pending member => retired.unheld pending (List.mem_of_mem_filter member)
  cases shift with
  | aside pending handles lines turn now tickets =>
    exact ⟨Nat.lt_of_lt_of_le retired.given tickets, pending ▸ retired.unheld⟩
  | elapses | places | opens => exact ⟨retired.given, retired.unheld⟩
  | forgets call => exact ⟨retired.given, others call⟩
  | @passes call waiting allows fresh next grants =>
    refine ⟨Nat.lt_of_lt_of_le retired.given grants.grows, fun pending member => ?_⟩
    rcases List.mem_append.mp member with old | new
    · exact others call pending old
    · rw [List.mem_singleton.mp new]
      rcases grants with ⟨⟨own, there, _, rfl⟩, _⟩ | ⟨least, _⟩
      · exact retired.unheld own there
      · exact (Nat.ne_of_lt (Nat.lt_of_lt_of_le retired.given least)).symm
  | @hands call on handle => exact ⟨retired.given, others call⟩

theorem Retired.turned (retired : Retired ticket board) (turn : CallId) :
    Retired ticket { board with turn } :=
  ⟨retired.given, retired.unheld⟩

theorem Retired.step (retired : Retired ticket board) (orderly : board.Orderly board.turn)
    (stimulus : Stimulus) : Retired ticket (board.step stimulus).1 := by
  obtain ⟨after, way, same⟩ := step_evolves orderly.distinct orderly.new stimulus
  have without : Retired ticket (board.without (board.takenBy stimulus)) := by
    cases board.takenBy stimulus <;> exact ⟨retired.given, retired.unheld⟩
  rw [same]
  exact (way.keeps Shift.retired without).turned _

theorem Retired.after (retired : Retired ticket board) (orderly : board.Orderly board.turn)
    (stimuli : List Stimulus) : Retired ticket (board.after stimuli) :=
  orderly.keeps (Retired ticket) (fun orderly stimulus retired => retired.step orderly stimulus) retired
    stimuli

theorem retired_of_abort (orderly : board.Orderly board.turn)
    (waits : ⟨call, ticket, .task channel procedure purpose⟩ ∈ board.pending) :
    Retired ticket (board.step (.aborted call)).1 := by
  have forgotten : Retired ticket (board.quiet.forget call) := by
    refine ⟨orderly.tickets _ waits, fun pending member same => ?_⟩
    obtain ⟨there, other⟩ := List.mem_filter.mp member
    have one : pending = ⟨call, ticket, .task channel procedure purpose⟩ :=
      List.inj_on_of_nodup_map orderly.apart there waits same
    exact of_decide_eq_true other (one ▸ rfl)
  have apart : board.quiet.Distinct := orderly.distinct
  have there : ⟨call, ticket, .task channel procedure purpose⟩ ∈ board.quiet.pending := waits
  have leaves : Evolves true board.quiet (board.quiet.forget call) := .of_shift (.forgets _ call)
  have released : Evolves true (board.quiet.forget call)
      (procedure.lost?.elim (board.quiet.forget call) ((board.quiet.forget call).release channel)) := by
    cases procedure.lost? with
    | none => exact .refl _
    | some file => exact release_evolves _ channel file
  have reacts : (board.quiet.react (.aborted call)).1 =
      procedure.lost?.elim (board.quiet.forget call) ((board.quiet.forget call).release channel) := by
    rw [react, abort_releases apart there]
    rfl
  have way := released.trans (settled_evolves (released.distinct (leaves.distinct apart)))
  have settled := way.keeps Shift.retired forgotten
  rw [← reacts] at settled
  rw [step_settles]
  exact settled.turned _

theorem Retired.unheard (retired : Retired ticket board) {settlement : Settlement Sftp.Answer}
    (same : settlement.promise = ticket) : board.settleFiles settlement = board := by
  have nobody : board.waiter? settlement.promise = none := by
    rw [waiter?, List.find?_eq_none, same]
    exact fun pending member => by simpa using retired.unheld pending member
  rw [settleFiles, nobody]

section Reply

variable {abandoned : Bool} {pending : Sftp.Pending} {id : UInt32} {response : Sftp.Response}
  {data : Octets} {framing : Sftp.Framing}

def Line.replied (line : Line) (seat : FilesSeat) (framing : Sftp.Framing) (pending : Sftp.Pending) : Line :=
  { line with seat := .files { seat with service :=
    { seat.service with framing, dialogue := .ready pending } } }

theorem hear_reply (attached : line.attached = true) (seated : line.seat = .files seat)
    (serving : seat.service.standing = .serving abandoned) (ready : seat.service.dialogue = .ready pending)
    (held : pending.find? id = some ticket)
    (drains : (seat.service.framing.extend data).drain = ([.ok (.response id response)], framing)) :
    line.hear [.data data] = (line.replied seat framing (pending.drop id),
      [.filesSettled (.answer ticket (.ok (.message (.response id response))))]) := by
  have replies := Sftp.Service.onEvent_reply line.isReachable serving ready held drains
  rw [Line.hear, if_pos attached, seated]
  simp only [Seat.hearAll, absorb, Seat.hear, FilesSeat.hear, FilesSeat.follow]
  rw [replies]
  rfl

theorem emitted_unheard (retired : Retired ticket board) (found : board.line? channel = some line)
    (reachable : line.isReachable = true) (attached : line.attached = true)
    (seated : line.seat = .files seat) (serving : seat.service.standing = .serving abandoned)
    (ready : seat.service.dialogue = .ready pending) (held : pending.find? id = some ticket)
    (drains : (seat.service.framing.extend data).drain = ([.ok (.response id response)], framing)) :
    board.emitted channel (.data data) false =
      some (board.place (line.replied seat framing (pending.drop id)), true) := by
  have listens : line.listens = true := by
    simp [Line.listens, attached, seated, Seat.isLeft, serving]
  have placed : Retired ticket (board.place (line.replied seat framing (pending.drop id))) :=
    ⟨retired.given, retired.unheld⟩
  rw [emitted, found]
  simp only [reachable, if_true, Bool.false_eq_true, if_false, listens]
  rw [hear_reply attached seated serving ready held drains, followAll, List.foldl_cons, List.foldl_nil,
    follow, placed.unheard rfl]

theorem made_after_reply {seat : FilesSeat} (serving : seat.service.standing = .serving abandoned)
    {turns : List Sftp.Service.Turn} {frame : Octets}
    (sent : frame ∈ Sftp.Service.frames
      (Sftp.Service.effectsBy { seat.service with framing, dialogue := .ready pending } turns)) :
    ∃ id request promise, frame = (Sftp.Message.request id request).frame ∧
      .request request promise ∈ seat.service.mailbox ++ turns.flatMap Sftp.Service.Turn.submitted := by
  have attending : ({ seat.service with framing, dialogue := .ready pending } : Sftp.Service).Attending :=
    ⟨.inr ⟨abandoned, serving⟩, nofun⟩
  exact Sftp.Service.frame_made attending sent

end Reply

-- While the file of a task is still being opened, to give up the task closes nothing: the reply that
-- brings the handle is taken in, and says nothing either.
theorem abandoned_open_forgotten (board : Switchboard) (earlier later : List Stimulus) (call : CallId)
    (ticket : Ticket) (channel : Nat) (procedure : Procedure) (purpose : Purpose)
    (unasked : board.pending = []) (unheld : board.handles = [])
    (waits : ⟨call, ticket, .task channel procedure purpose⟩ ∈ (board.after earlier).pending) :
    (∀ file, procedure.lost? = some file →
      (board.after earlier).abort call =
        some (((board.after earlier).forget call).release channel file, true)) ∧
    (procedure.AwaitsFile →
      (board.after earlier).abort call = some ((board.after earlier).forget call, true) ∧
      let reached := board.after (earlier ++ .aborted call :: later)
      (∀ settlement, settlement.promise = ticket → reached.settleFiles settlement = reached) ∧
      ∀ (on : Nat) (line : Line) (seat : FilesSeat) (abandoned : Bool) (pending : Sftp.Pending)
          (id : UInt32) (handle data : Octets) (framing : Sftp.Framing),
        reached.line? on = some line → line.isReachable = true → line.attached = true →
        line.seat = .files seat → seat.service.standing = .serving abandoned →
        seat.service.dialogue = .ready pending → pending.find? id = some ticket →
        (seat.service.framing.extend data).drain = ([.ok (.response id (.handle handle))], framing) →
        reached.emitted on (.data data) false =
            some (reached.place (line.replied seat framing (pending.drop id)), true) ∧
          ∀ (turns : List Sftp.Service.Turn), ∀ frame ∈ Sftp.Service.frames (Sftp.Service.effectsBy
              { seat.service with framing, dialogue := .ready (pending.drop id) } turns),
            ∃ id request promise, frame = (Sftp.Message.request id request).frame ∧
              .request request promise ∈
                seat.service.mailbox ++ turns.flatMap Sftp.Service.Turn.submitted) := by
  have orderly := orderly_after (.blank unasked unheld board.turn) earlier
  have given := abort_releases orderly.distinct waits
  refine ⟨fun file lost => by rw [given, lost]; rfl, fun awaits => ?_⟩
  rw [awaits.loses_nothing] at given
  have retired := (retired_of_abort orderly waits).after (orderly.step _) later
  have same : ((board.after earlier).step (.aborted call)).1.after later =
      board.after (earlier ++ .aborted call :: later) := by
    rw [after_append, after_cons]
  rw [same] at retired
  refine ⟨given, fun settlement => retired.unheard, ?_⟩
  intro on line seat abandoned pending id handle data framing found reachable attached seated serving
    ready held drains
  exact ⟨emitted_unheard retired found reachable attached seated serving ready held drains,
    fun turns frame sent => made_after_reply serving sent⟩

def asking : List Stimulus := opening.take 8

def askingSeat : FilesSeat :=
  { settings := usual
    service := { standing := .serving false, dialogue := .ready [(0, 4)], identifiers := ⟨1⟩ } }

def askingLine : Line :=
  { channel := 1, origin := 3, ticket := 3, deadline := 5, seat := .files askingSeat
    start := ⟨.over, true⟩, engine := .carrying, attached := true }

def openedLate : Octets := (Sftp.Message.response 0 (.handle [0x68])).frame

theorem abandoned_open_forgotten_late :
    (idle.after asking).abort 7 = some ((idle.after asking).forget 7, true) ∧
      (idle.after (asking ++ [.aborted 7])).emitted 1 (.data openedLate) false =
        some ((idle.after (asking ++ [.aborted 7])).place (askingLine.replied askingSeat {} []), true) := by
  have waits : (idle.after asking).pending = [⟨7, 4, .task 1 .expectHandle (.opens [0x66])⟩] := by
    with_unfolding_all rfl
  have found : (idle.after (asking ++ [.aborted 7])).line? 1 = some askingLine := by
    with_unfolding_all rfl
  have drains : (askingSeat.service.framing.extend openedLate).drain =
      ([.ok (.response 0 (.handle [0x68]))], {}) := by decide +kernel
  obtain ⟨_, forgotten⟩ := abandoned_open_forgotten idle asking [] 7 4 1 .expectHandle (.opens [0x66]) rfl rfl
    (waits ▸ List.mem_singleton_self _)
  obtain ⟨given, _, swallows⟩ := forgotten .toKeep
  exact ⟨given, (swallows 1 askingLine askingSeat false [(0, 4)] 0 [0x68] openedLate {} found rfl rfl rfl rfl
    rfl rfl drains).1⟩

-- All that is seen of a task that is given up before the server has opened its file.
def givenUp (task : Sftp.Task) : List Report :=
  (idle.after (opening.take 7)).run
    [.called (.files 3 task), .aborted 7, .emitted 1 (.data openedLate) false, .used (.filesState 3),
      .passed 1000]

def noticed (reports : List Report) : List Notice := reports.flatMap Report.notices

-- The handle of such a file is never closed, whether the file was to stay open or to be used at once:
-- it comes to a session that is ready, and all that was ever sent is the request to open the file.
theorem abandoned_open_leaks :
    (givenUp (.openFile [0x66] (.ofWord 1) {})).map Report.response =
        [.pending, .reply (.whether true), .reply (.whether true), .reply (.filesState .ready),
          .reply .nothing] ∧
      (¬ ∃ id, .sent 1 (.data (Sftp.Message.request id (.close [0x68])).frame) ∈
        noticed (givenUp (.openFile [0x66] (.ofWord 1) {}))) ∧
      (givenUp (.withFile [0x66] (.ofWord 1) {} [])).map Report.response =
        [.pending, .reply (.whether true), .reply (.whether true), .reply (.filesState .ready),
          .reply .nothing] ∧
      ¬ ∃ id, .sent 1 (.data (Sftp.Message.request id (.close [0x68])).frame) ∈
        noticed (givenUp (.withFile [0x66] (.ofWord 1) {} [])) := by
  let asked : Notice := .sent 1 (.data (Sftp.Message.request 0 (.openFile [0x66] (.ofWord 1) {})).frame)
  have other (id : UInt32) :
      .sent 1 (.data (Sftp.Message.request id (.close [0x68])).frame) ∉ [asked] := by
    intro member
    have same := List.mem_singleton.mp member
    injection same with _ same
    injection same with same
    have code : some (4 : UInt8) = some 3 := congrArg (fun frame => (frame.drop 4).head?) same
    cases code
  have kept : noticed (givenUp (.openFile [0x66] (.ofWord 1) {})) = [asked] := by decide +kernel
  have used : noticed (givenUp (.withFile [0x66] (.ofWord 1) {} [])) = [asked] := by decide +kernel
  refine ⟨by decide +kernel, ?_, by decide +kernel, ?_⟩
  · rintro ⟨id, member⟩
    exact other id (kept ▸ member)
  · rintro ⟨id, member⟩
    exact other id (used ▸ member)

end Switchboard
end SecureShell
