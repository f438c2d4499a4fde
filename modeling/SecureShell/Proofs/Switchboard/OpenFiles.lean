import SecureShell.Proofs.Sftp.FileUse
import SecureShell.Proofs.Switchboard.Handing
import SecureShell.Proofs.Switchboard.Shutdown

namespace SecureShell.Switchboard
open Sftp (OpenFile Procedure)

inductive Deed
  | use (task : Sftp.FileTask)
  | close
  | drop
  deriving DecidableEq

namespace Deed

def of? (file : CallId) : Stimulus → Option Deed
  | .called (.file other task) => if other = file then some (.use task) else none
  | .called (.closeFile other) => if other = file then some .close else none
  | .used (.dropFile other) => if other = file then some .drop else none
  | _ => none

-- What it asks for until it is over, or until it is given up after so many replies.
def asks (settings : Sftp.Settings) (opened : OpenFile) (replies : List Sftp.Reply) :
    Deed → List Sftp.Request
  | .use task =>
    let move := Procedure.start settings (.file opened task)
    (Procedure.exchange move replies).asked ++ Procedure.parting move replies
  | .close =>
    let move := Procedure.start settings (.closeFile opened)
    (Procedure.exchange move replies).asked ++ Procedure.parting move replies
  | .drop => [.close opened.handle]

def done (board : Switchboard) (file : CallId) (channel : Nat) (opened : OpenFile) : Deed → Switchboard
  | .use task =>
    { board.carryOn board.turn channel (.uses file)
        (Procedure.start (board.settingsAt channel) (.file opened task)) with
      made := board.turn :: board.made }
  | .close =>
    { (board.takeBack file).carryOn board.turn channel .plain
        (Procedure.start (board.settingsAt channel) (.closeFile opened)) with
      made := board.turn :: board.made }
  | .drop => (board.takeBack file).handAll channel (Deed.drop.asks (board.settingsAt channel) opened [])

end Deed

-- A deed that is skipped is none.
def deedAt (board : Switchboard) (file : CallId) (stimulus : Stimulus) : Option Deed :=
  if (board.step stimulus).2.response = .skipped then none else Deed.of? file stimulus

def deeds (file : CallId) (board : Switchboard) : List Stimulus → List Deed
  | [] => []
  | stimulus :: stimuli => (board.deedAt file stimulus).toList ++ deeds file (board.step stimulus).1 stimuli

structure Parted (file : CallId) (board : Switchboard) : Prop where
  gone : board.handle? file = none
  idle : ∀ pending ∈ board.pending, pending.call ≠ file
  past : file < board.turn

variable {board : Switchboard} {file call : CallId} {channel : Nat} {opened : OpenFile} {path : String}

theorem Shift.holds {after : Switchboard} {handle : Handle} (shift : Shift grows board after)
    (held : board.handle? file = some handle) : after.handle? file = some handle := by
  cases shift with
  | aside pending handles lines turn now tickets =>
    rw [handle?, handles]
    exact held
  | @hands call on given => exact handle?_give held call given
  | _ => exact held

theorem Shift.parted {after : Switchboard} (shift : Shift grows board after) (parted : Parted file board) :
    Parted file after := by
  have turn := (Evolves.of_shift shift).turn
  have past : file < after.turn := turn ▸ parted.past
  -- Whoever is on has another number.
  have other {call : CallId} (on : board.Progresses call) : file ≠ call := by
    rcases on with ⟨pending, member, rfl⟩ | ⟨rfl, _, _⟩
    · exact (parted.idle pending member).symm
    · exact Nat.ne_of_lt parted.past
  cases shift with
  | aside pending handles lines turn now tickets =>
    refine ⟨?_, ?_, past⟩
    · rw [handle?, handles]
      exact parted.gone
    · rw [pending]
      exact parted.idle
  | elapses | places | opens => exact ⟨parted.gone, parted.idle, past⟩
  | forgets call =>
    exact ⟨parted.gone, fun pending member => parted.idle pending (List.mem_of_mem_filter member), past⟩
  | passes allows grants =>
    refine ⟨parted.gone, fun pending member => ?_, past⟩
    rcases List.mem_append.mp member with old | fresh
    · exact parted.idle pending (List.mem_of_mem_filter old)
    · rw [List.mem_singleton.mp fresh]
      exact (other allows.progresses).symm
  | hands on given =>
    refine ⟨?_, fun pending member => parted.idle pending (List.mem_of_mem_filter member), past⟩
    exact (handle?_give_other (other on) given).trans parted.gone

theorem parted_of_taken {handle : Handle} (orderly : board.Orderly board.turn)
    (held : board.handle? file = some handle) : Parted file (board.takeBack file) := by
  obtain ⟨front, rest, split, _⟩ := List.lookup_eq_some_iff.mp held
  have member : (file, handle) ∈ board.handles := by simp [split]
  have known := orderly.held _ member
  exact ⟨by rw [handle?_takeBack, if_pos rfl], known.2, known.1⟩

theorem of?_some {stimulus : Stimulus} {deed : Deed} (is : Deed.of? file stimulus = some deed) :
    (∃ task, stimulus = .called (.file file task) ∧ deed = .use task) ∨
      (stimulus = .called (.closeFile file) ∧ deed = .close) ∨
      (stimulus = .used (.dropFile file) ∧ deed = .drop) := by
  unfold Deed.of? at is
  split at is
  · rename_i other task
    split at is
    · rename_i same
      cases is
      exact .inl ⟨task, by rw [same], rfl⟩
    · cases is
  · split at is
    · rename_i same
      cases is
      exact .inr (.inl ⟨by rw [same], rfl⟩)
    · cases is
  · split at is
    · rename_i same
      cases is
      exact .inr (.inr ⟨by rw [same], rfl⟩)
    · cases is
  · cases is

theorem deedAt_some {stimulus : Stimulus} {deed : Deed} (is : board.deedAt file stimulus = some deed) :
    (board.step stimulus).2.response ≠ .skipped ∧ Deed.of? file stimulus = some deed := by
  unfold deedAt at is
  split at is
  · cases is
  · exact ⟨by assumption, is⟩

theorem deed_done {stimulus : Stimulus} {deed : Deed} (is : board.deedAt file stimulus = some deed) :
    ∃ channel opened path, board.handle? file = some (.file channel opened path) ∧
      (board.quiet.react stimulus).1 = deed.done board.quiet file channel opened ∧
      ((∃ task, deed = .use task) ∨
        board.takenBy stimulus = some file ∧
          ∀ pending ∈ board.pending, pending.waiting.usesFile file = false) := by
  obtain ⟨done, is⟩ := deedAt_some is
  have takes (taken : stimulus.takes? = some file) : board.takenBy stimulus = some file := by
    rw [takenBy, if_neg done, taken]
  rcases of?_some is with ⟨task, rfl, rfl⟩ | ⟨rfl, rfl⟩ | ⟨rfl, rfl⟩
  · obtain ⟨after, calls⟩ := call_accepted done
    have reacts : (board.quiet.react (.called (.file file task))).1 =
        { after with made := board.turn :: board.made } := by
      simp only [react]
      rw [show board.quiet.turn = board.turn from rfl, calls]
      rfl
    obtain ⟨⟨channel, opened, path⟩, found, rfl⟩ := Option.map_eq_some_iff.mp calls
    have held : board.handle? file = some (.file channel opened path) := held_of_fileAt? found
    exact ⟨channel, opened, path, held, reacts, .inl ⟨task, rfl⟩⟩
  · obtain ⟨after, calls⟩ := call_accepted done
    have reacts : (board.quiet.react (.called (.closeFile file))).1 =
        { after with made := board.turn :: board.made } := by
      simp only [react]
      rw [show board.quiet.turn = board.turn from rfl, calls]
      rfl
    obtain ⟨unused, channel, opened, path, held, rfl⟩ := closeFile_accepted calls
    exact ⟨channel, opened, path, held, reacts, .inr ⟨takes rfl, unused⟩⟩
  · obtain ⟨after, reply, uses⟩ := use_accepted done
    have reacts : (board.quiet.react (.used (.dropFile file))).1 = after := by
      simp only [react, uses]
    obtain ⟨unused, channel, opened, path, held, rfl⟩ := dropFile_accepted uses
    rw [release_hands] at reacts
    exact ⟨channel, opened, path, held, reacts, .inr ⟨takes rfl, unused⟩⟩

theorem deed_of_taken (held : board.handle? file = some (.file channel opened path)) {stimulus : Stimulus}
    (takes : board.takenBy stimulus = some file) :
    board.deedAt file stimulus = some .close ∨ board.deedAt file stimulus = some .drop := by
  obtain ⟨done, ⟨kind, _⟩ | other⟩ := taken_cases takes
  · rw [deedAt, if_neg done]
    rcases kind with rfl | rfl
    · exact .inl (if_pos rfl)
    · exact .inr (if_pos rfl)
  · exact absurd held (other channel opened path)

theorem step_held (orderly : board.Orderly board.turn)
    (held : board.handle? file = some (.file channel opened path)) (stimulus : Stimulus) :
    (∀ deed, board.deedAt file stimulus = some deed → ∃ task, deed = .use task) ∧
        (board.step stimulus).1.handle? file = some (.file channel opened path) ∨
      (board.deedAt file stimulus = some .close ∨ board.deedAt file stimulus = some .drop) ∧
        Parted file (board.step stimulus).1 := by
  obtain ⟨after, way, same⟩ := step_evolves orderly.distinct orderly.new stimulus
  by_cases takes : board.takenBy stimulus = some file
  · refine .inr ⟨deed_of_taken held takes, ?_⟩
    rw [takes] at way
    have parted := way.keeps Shift.parted (parted_of_taken orderly held)
    rw [same]
    exact ⟨parted.gone, parted.idle, Nat.lt_succ_of_lt (parted_of_taken orderly held).past⟩
  · left
    constructor
    · intro deed is
      obtain ⟨_, _, _, _, _, uses | taken⟩ := deed_done is
      · exact uses
      · exact absurd taken.1 takes
    · have kept : (board.without (board.takenBy stimulus)).handle? file = some (.file channel opened path) := by
        cases taken : board.takenBy stimulus with
        | none => exact held
        | some handle =>
          have other : file ≠ handle := fun same => takes (same ▸ taken)
          exact (handle?_takeBack board handle file).trans (by rw [if_neg other, held])
      rw [same]
      exact way.keeps Shift.holds kept

theorem step_parted (orderly : board.Orderly board.turn) (parted : Parted file board) (stimulus : Stimulus) :
    board.deedAt file stimulus = none ∧ Parted file (board.step stimulus).1 := by
  obtain ⟨after, way, same⟩ := step_evolves orderly.distinct orderly.new stimulus
  constructor
  · cases is : board.deedAt file stimulus with
    | none => rfl
    | some deed =>
      obtain ⟨_, _, _, held, _⟩ := deed_done is
      rw [parted.gone] at held
      cases held
  · have without : Parted file (board.without (board.takenBy stimulus)) := by
      cases board.takenBy stimulus with
      | none => exact parted
      | some handle =>
        refine ⟨?_, parted.idle, parted.past⟩
        exact (handle?_takeBack board handle file).trans (by rw [parted.gone, ite_self])
    have later := way.keeps Shift.parted without
    rw [same]
    exact ⟨later.gone, later.idle, Nat.lt_succ_of_lt parted.past⟩

theorem deeds_parted (orderly : board.Orderly board.turn) (parted : Parted file board)
    (stimuli : List Stimulus) : board.deeds file stimuli = [] ∧ Parted file (board.after stimuli) := by
  induction stimuli generalizing board with
  | nil => exact ⟨rfl, parted⟩
  | cons stimulus stimuli ih =>
    obtain ⟨nothing, still⟩ := step_parted orderly parted stimulus
    obtain ⟨rest, gone⟩ := ih (orderly.step stimulus) still
    rw [deeds, nothing, rest, after_cons]
    exact ⟨rfl, gone⟩

theorem deeds_held (orderly : board.Orderly board.turn)
    (held : board.handle? file = some (.file channel opened path)) (stimuli : List Stimulus) :
    ∃ (tasks : List Sftp.FileTask) (ending : List Deed),
      board.deeds file stimuli = tasks.map .use ++ ending ∧
      (ending = [] ∧ (board.after stimuli).handle? file = some (.file channel opened path) ∨
        (ending = [.close] ∨ ending = [.drop]) ∧ Parted file (board.after stimuli)) := by
  induction stimuli generalizing board with
  | nil => exact ⟨[], [], rfl, .inl ⟨rfl, held⟩⟩
  | cons stimulus stimuli ih =>
    rw [deeds, after_cons]
    rcases step_held orderly held stimulus with ⟨uses, still⟩ | ⟨last, parted⟩
    · obtain ⟨tasks, ending, rest, ends⟩ := ih (orderly.step stimulus) still
      rw [rest]
      cases is : board.deedAt file stimulus with
      | none => exact ⟨tasks, ending, rfl, ends⟩
      | some deed =>
        obtain ⟨task, rfl⟩ := uses deed is
        exact ⟨task :: tasks, ending, rfl, ends⟩
    · obtain ⟨rest, gone⟩ := deeds_parted (orderly.step stimulus) parted stimuli
      rw [rest]
      rcases last with is | is
      · rw [is]
        exact ⟨[], [.close], rfl, .inr ⟨.inl rfl, gone⟩⟩
      · rw [is]
        exact ⟨[], [.drop], rfl, .inr ⟨.inr rfl, gone⟩⟩

section Requests

variable (settings : Sftp.Settings) (opened : OpenFile)

theorem use_asks (task : Sftp.FileTask) (replies : List Sftp.Reply) :
    ∀ request ∈ (Deed.use task).asks settings opened replies, request.Uses opened.handle := by
  obtain ⟨uses, parts⟩ := Procedure.file_task_uses settings opened task replies
  rw [Deed.asks, parts, List.append_nil]
  exact uses

theorem close_asks (replies : List Sftp.Reply) :
    Deed.close.asks settings opened replies = [.close opened.handle] := by
  obtain ⟨closes, parts⟩ := Procedure.close_task_closes settings opened replies
  rw [Deed.asks, closes, parts, List.append_nil]

theorem deeds_ask (tasks : List Sftp.FileTask) {ending : List Deed}
    (ends : ending = [] ∨ ending = [.close] ∨ ending = [.drop]) (heard : List (List Sftp.Reply))
    (each : heard.length = (tasks.map Deed.use ++ ending).length) :
    ∃ uses, (∀ request ∈ uses, request.Uses opened.handle) ∧
      (List.zipWith (Deed.asks settings opened) heard (tasks.map .use ++ ending)).flatten =
        uses ++ ending.map fun _ => .close opened.handle := by
  induction tasks generalizing heard with
  | nil =>
    refine ⟨[], List.forall_mem_nil _, ?_⟩
    rcases ends with rfl | rfl | rfl
    · rw [List.length_eq_zero_iff.mp each]
      rfl
    · obtain ⟨replies, rfl⟩ := List.length_eq_one_iff.mp each
      simp [close_asks]
    · obtain ⟨replies, rfl⟩ := List.length_eq_one_iff.mp each
      simp [Deed.asks]
  | cons task tasks ih =>
    cases heard with
    | nil => cases each
    | cons replies heard =>
      obtain ⟨uses, kind, rest⟩ := ih heard (Nat.succ.inj each)
      refine ⟨(Deed.use task).asks settings opened replies ++ uses, ?_, ?_⟩
      · exact List.forall_mem_append.mpr ⟨use_asks settings opened task replies, kind⟩
      · rw [List.append_assoc, ← rest]
        rfl

end Requests

theorem abort_hands (distinct : board.Distinct) {ticket : Ticket} {procedure : Procedure}
    {purpose : Purpose} (waits : ⟨call, ticket, .task channel procedure purpose⟩ ∈ board.pending)
    {move : Procedure.Move} {replies : List Sftp.Reply}
    (stands : Procedure.reached move replies = some procedure) :
    board.abort call = some ((board.forget call).handAll channel (Procedure.parting move replies), true) := by
  rw [abort_releases distinct waits, Procedure.parting, stands, Option.bind_some]
  cases procedure.lost? with
  | none => rfl
  | some opened =>
    rw [Option.elim_some, release_hands]
    rfl

-- A file that is opened is closed once, as the last thing that is asked of it, whatever becomes of
-- its use.
structure FilesClosed : Prop where
  -- One that a task opens for itself, wherever the task ends or is given up.
  lent (settings : Sftp.Settings) (path : Octets) (mode : Sftp.OpenMode) (attributes : Sftp.Attributes)
    (actions : List Sftp.FileAction) (opened : Sftp.Reply) (handle : Octets) (replies : List Sftp.Reply) :
    opened.Brings .handle (.handle handle) →
    let task := Procedure.start settings (.withFile path mode attributes actions)
    let exchange := Procedure.exchange task (opened :: replies)
    (∃ uses, (∀ request ∈ uses, request.Uses handle) ∧
      exchange.asked ++ Procedure.parting task (opened :: replies) =
        .openFile path mode attributes :: uses ++ [.close handle]) ∧
    ∀ result, exchange.result? = some result ↔
      ∃ used closed more uses outcome, replies = used ++ closed :: more ∧
        Sftp.Used ⟨handle, settings.slice⟩ actions used uses outcome ∧
        Sftp.Concludes outcome closed result
  -- One that stays in its user's hands, which is put to use until it is closed or dropped for good.
  kept (board : Switchboard) (earlier later : List Stimulus) (file : CallId) (channel : Nat)
    (opened : OpenFile) (path : String) : board.pending = [] → board.handles = [] →
    (board.after earlier).handle? file = some (.file channel opened path) →
    ∃ (tasks : List Sftp.FileTask) (ending : List Deed),
      (board.after earlier).deeds file later = tasks.map .use ++ ending ∧
      (ending = [] ∧
          (board.after (earlier ++ later)).handle? file = some (.file channel opened path) ∨
        (ending = [.close] ∨ ending = [.drop]) ∧ Parted file (board.after (earlier ++ later))) ∧
      ∀ settings heard, heard.length = (tasks.map Deed.use ++ ending).length →
        ∃ uses, (∀ request ∈ uses, request.Uses opened.handle) ∧
          (List.zipWith (Deed.asks settings opened) heard (tasks.map .use ++ ending)).flatten =
            uses ++ ending.map fun _ => .close opened.handle
  -- Nobody uses it when it is closed or dropped.
  done (board : Switchboard) (file : CallId) (stimulus : Stimulus) (deed : Deed) :
    board.deedAt file stimulus = some deed →
    ∃ channel opened path, board.handle? file = some (.file channel opened path) ∧
      (board.quiet.react stimulus).1 = deed.done board.quiet file channel opened ∧
      ((∃ task, deed = .use task) ∨
        ∀ pending ∈ board.pending, pending.waiting.usesFile file = false)
  -- A task in progress that is given up asks for what there is to ask for in parting.
  given (board : Switchboard) (earlier : List Stimulus) (call : CallId) (ticket : Ticket) (channel : Nat)
    (procedure : Procedure) (purpose : Purpose) : board.pending = [] → board.handles = [] →
    ⟨call, ticket, .task channel procedure purpose⟩ ∈ (board.after earlier).pending →
    (board.after earlier).Stands (.task channel procedure purpose) ∧
      ∀ move replies, Procedure.reached move replies = some procedure →
        (board.after earlier).abort call =
          some (((board.after earlier).forget call).handAll channel (Procedure.parting move replies), true)
  -- What is asked of a service that serves goes out on its channel.
  sent (board : Switchboard) (channel : Nat) (pending : Sftp.Pending) (line : Line) (seat : FilesSeat)
    (request : Sftp.Request) : ServesAt board channel pending line seat →
    ∃ id, Sends board channel request pending id (board.handAll channel [request]) ∧
      (board.handAll channel [request]).pending = board.pending
  -- So does what a task asks for, which waits for the reply and goes on with it.
  waits (board : Switchboard) (channel : Nat) (pending : Sftp.Pending) (line : Line) (seat : FilesSeat)
    (call : CallId) (purpose : Purpose) (request : Sftp.Request) (rest : Procedure) :
    ServesAt board channel pending line seat →
    let after := board.carryOn call channel purpose (.ask request rest)
    ∃ id, Sends board channel request pending id after ∧
      after.pending =
        (board.forget call).pending ++ [⟨call, board.nextTicket, .task channel rest purpose⟩]
  resumes (board : Switchboard) (promise ticket : Ticket) (call : CallId) (channel : Nat)
    (procedure : Procedure) (purpose : Purpose) :
    board.waiter? promise = some ⟨call, ticket, .task channel procedure purpose⟩ →
    ∀ answer reply, Tells answer reply →
      board.settleFiles (.answer promise answer) =
        board.carryOn call channel purpose (procedure.resume reply)
  -- A task goes on by asking the service for what it asks for, in order.
  asked (reachable : Bool) (service : Sftp.Service) (next : Ticket) (move : Procedure.Move) :
    ∃ refusals : List SftpFault,
      let replies : List Sftp.Reply := refusals.map .error
      let pursuit := Procedure.pursue reachable service next move
      (pursuit.service, pursuit.commands) =
          service.askAll reachable next (Procedure.exchange move replies).asked ∧
        match pursuit.course with
        | .waiting procedure _ | .staying procedure => Procedure.reached move replies = some procedure
        | .finished result => (Procedure.exchange move replies).result? = some result

theorem opened_files_closed_once : FilesClosed where
  lent settings path mode attributes actions opened handle replies opens := by
    refine ⟨Procedure.with_file_closes settings opens replies, fun result => ?_⟩
    rw [(Procedure.with_file_opened settings opens replies).1]
    exact Procedure.useFile_ends
  kept board earlier later file channel opened path idle empty held := by
    have orderly := orderly_after (.blank idle empty board.turn) earlier
    obtain ⟨tasks, ending, done, ends⟩ := deeds_held orderly held later
    rw [← after_append] at ends
    refine ⟨tasks, ending, done, ends, fun settings heard each => ?_⟩
    exact deeds_ask settings opened tasks (ends.imp And.left And.left) heard each
  done board file stimulus deed is := by
    obtain ⟨channel, opened, path, held, done, kind⟩ := deed_done is
    exact ⟨channel, opened, path, held, done, kind.imp_right And.right⟩
  given board earlier call ticket channel procedure purpose idle empty waits := by
    have orderly := orderly_after (.blank idle empty board.turn) earlier
    exact ⟨orderly.stands _ waits, fun move replies => abort_hands orderly.distinct waits⟩
  sent board channel pending line seat request serves := hand_sends serves request
  waits board channel pending line seat call purpose request rest serves :=
    carryOn_sends serves call purpose request rest
  resumes board promise ticket call channel procedure purpose waits answer reply tells :=
    settleFiles_resumes waits tells
  asked := Procedure.pursue_asks

def idle : Switchboard :=
  { host := "host", port := 22, credentials := { username := "user", method := .none } }

def usual : Sftp.Settings := idle.settingsAt 0

def answering (id : UInt32) (response : Sftp.Response) : Stimulus :=
  .emitted 1 (.data (Sftp.Message.response id response).frame) false

def opening : List Stimulus :=
  [.called (.connect 5), .connectAnswered 1 (.ok ()), .authAnswered 1 (.ok ()),
    .called (.venture (.files usual) 5), .openAnswered 1 (.ok ()) false, .emitted 1 .success false,
    .emitted 1 (.data (Sftp.Message.version 3 []).frame) false,
    .called (.files 3 (.openFile [0x66] (.ofWord 1) {})), answering 0 (.handle [0x68])]

-- Nobody drops a file that is being read, and nobody reads one that was dropped.
def handling : List Stimulus :=
  [.called (.file 7 (.read 0 4)), .used (.dropFile 7), answering 1 (.data [9]), .used (.dropFile 7),
    .called (.file 7 .fstat), .called (.closeFile 7)]

def lending : List Stimulus :=
  opening ++ [.called (.files 3 (.withFile [0x67] (.ofWord 1) {} [.task (.read 0 4)])),
    answering 1 (.handle [0x69])]

theorem opened_files_closed_once_dropped :
    (Procedure.exchange (Procedure.start {} (.withFile [0x67] (.ofWord 1) {} [.task (.read 0 4)]))
        [.ok (.response 0 (.handle [0x69])), .ok (.response 1 (.data [9])),
          .ok (.response 2 (.status ⟨.failure, "", ""⟩))]).result? =
      some (.error (.refused ⟨.failure, "", ""⟩)) ∧
    (idle.after opening).handle? 7 = some (.file 1 ⟨[0x68], 32000⟩ "f") ∧
    (idle.after opening).deeds 7 handling = [.use (.read 0 4), .drop] ∧
    Parted 7 (idle.after (opening ++ handling)) ∧
    (∃ id, Sends ((idle.after opening).takeBack 7) 1 (.close [0x68]) [] id
        (((idle.after opening).takeBack 7).release 1 ⟨[0x68], 32000⟩) ∧
      (((idle.after opening).takeBack 7).release 1 ⟨[0x68], 32000⟩).pending =
        ((idle.after opening).takeBack 7).pending) ∧
    (idle.after lending).abort 9 =
      some (((idle.after lending).forget 9).handAll 1 [.close [0x69]], true) := by
  have once := opened_files_closed_once
  have stays : (idle.after opening).handle? 7 = some (.file 1 ⟨[0x68], 32000⟩ "f") := by decide +kernel
  have done : (idle.after opening).deeds 7 handling = [.use (.read 0 4), .drop] := by decide +kernel
  have waits : (idle.after lending).pending =
      [⟨9, 9, .task 1 (.working ⟨[0x69], 32000⟩ .reading false [] []) .plain⟩] := by with_unfolding_all rfl
  refine ⟨?_, stays, done, ?_, ?_, ?_⟩
  · have did : Sftp.Did ⟨[0x69], 32000⟩ (.read 0 4) [.ok (.response 1 (.data [9]))] [.read [0x69] 0 4]
        (.ok (.octets [9])) := ⟨rfl, rfl⟩
    have used := Sftp.Used.does false did .stops
    apply ((once.lent {} [0x67] (.ofWord 1) {} [.task (.read 0 4)] _ [0x69] _ ⟨_, rfl, .handle⟩).2 _).mpr
    refine ⟨_, .ok (.response 2 (.status ⟨.failure, "", ""⟩)), [], _, _, rfl, used, ?_⟩
    exact .unclosed [.octets [9]] (.inr ⟨_, rfl, .refused (by decide) (by decide)⟩)
  · obtain ⟨tasks, ending, same, ⟨rfl, _⟩ | ⟨_, parted⟩, _⟩ :=
      once.kept idle opening handling 7 1 ⟨[0x68], 32000⟩ "f" rfl rfl stays
    · rw [done, List.append_nil] at same
      have drops : Deed.drop ∈ tasks.map Deed.use := same ▸ by simp
      obtain ⟨task, _, other⟩ := List.mem_map.mp drops
      cases other
    · exact parted
  · rw [release_hands]
    obtain ⟨line, found, reachable, seat, seated, serving, queue, ready⟩ :
        ∃ line, ((idle.after opening).takeBack 7).line? 1 = some line ∧ line.isReachable = true ∧
          ∃ seat, line.seat = .files seat ∧ seat.service.standing = .serving false ∧
            seat.service.mailbox = [] ∧ seat.service.dialogue = .ready [] := by
      with_unfolding_all exact ⟨_, rfl, rfl, _, rfl, rfl, rfl, rfl⟩
    have serves : ServesAt ((idle.after opening).takeBack 7) 1 [] line seat :=
      ⟨found, seated, reachable, ⟨false, serving⟩, queue, ready, by decide⟩
    exact once.sent _ 1 [] line seat _ serves
  · have given := once.given idle lending 9 _ 1 _ _ rfl rfl (waits ▸ List.mem_singleton_self _)
    exact given.2 (Procedure.start usual (.withFile [0x67] (.ofWord 1) {} [.task (.read 0 4)]))
      [.ok (.response 0 (.handle [0x69]))] rfl

end SecureShell.Switchboard
