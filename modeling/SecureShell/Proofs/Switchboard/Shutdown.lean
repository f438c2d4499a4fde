import SecureShell.Proofs.Sftp.Bookkeeping
import SecureShell.Switchboard.Sessions

namespace SecureShell.Sftp
open Settlement (fates Answered)

theorem Dialogue.spent {dialogue : Dialogue} (terminal : dialogue.isTerminal = true) :
    dialogue.inFlight = Pending.has [] ∧
      (∀ message promise, dialogue.advance (.request message promise) =
        { next := dialogue, settled := [refuse promise .closed] }) ∧
      ∀ promise, dialogue.advance (.disconnect promise) =
        { next := dialogue, settled := [.answer promise (.ok .done)] } := by
  cases dialogue with
  | closed | failed => exact ⟨rfl, fun _ _ => rfl, fun _ => rfl⟩
  | idle | starting | ready | closing => cases terminal

-- What whoever made a call makes of what became of its promise: one that was thrown away has found
-- the session closed.
def Call.reads (call : Call) : Fate Answer → Answer
  | .answered answer => answer
  | .discarded => call.farewell

def Parted (call : Call) (settlement : Settlement Answer) : Prop :=
  settlement.promise = call.ticket ∧ call.reads settlement.fate = call.farewell

namespace Service

-- The way out of the loop, move by move. Until the queue is shut calls get into it; what is in it by
-- then is answered one by one, or is thrown away with it.
inductive Door
  | ajar | shut | gone
  deriving DecidableEq

structure Exit where
  service : Service
  door : Door := .ajar
  deriving DecidableEq

inductive Exit.Move
  | submit (call : Call)
  | shut
  | drain
  | leave
  deriving DecidableEq

namespace Exit

def step (reachable : Bool) (exit : Exit) : Move → Exit × List (Settlement Answer)
  | .submit call =>
    match exit.door with
    | .ajar =>
      let (service, effects) := exit.service.submit call
      ({ exit with service }, settlements effects)
    | .shut | .gone => (exit, settlements ({ exit.service with standing := .gone }.submit call).2)
  | .shut =>
    match exit.door with
    | .ajar => ({ exit with door := .shut }, [])
    | .shut | .gone => (exit, [])
  | .drain =>
    match exit.door, exit.service.mailbox with
    | .shut, call :: mailbox =>
      let (service, effects) := { exit.service with mailbox }.handle reachable call
      ({ exit with service }, settlements effects)
    | _, _ => (exit, [])
  | .leave =>
    match exit.door with
    | .shut =>
      (⟨{ exit.service with mailbox := [] }, .gone⟩,
       exit.service.mailbox.map fun call => .discard call.ticket)
    | .ajar | .gone => (exit, [])

def machine (reachable : Bool) : Machine Exit Move (Exit × List (Settlement Answer)) :=
  ⟨step reachable, Prod.fst⟩

def settledBy (reachable : Bool) (exit : Exit) (moves : List Move) : List (Settlement Answer) :=
  (machine reachable).collect Prod.snd exit moves

def Move.submitted : Move → List Call
  | .submit call => [call]
  | .shut | .drain | .leave => []

-- On the way out: the dialogue is over, and who has left leaves nobody behind.
structure Underway (exit : Exit) : Prop where
  stands : ∃ abandoned, exit.service.standing = .serving abandoned
  terminal : exit.service.dialogue.isTerminal = true
  empty : exit.door = .gone → exit.service.mailbox = []

-- Of the calls that were there or came, some have heard that the session is over, and the others
-- are in the queue.
structure Parts (exit : Exit) (calls : List Call) (after : Exit)
    (settled : List (Settlement Answer)) : Prop where
  underway : after.Underway
  heard : ∃ told, List.Forall₂ Parted told settled ∧
    (told ++ after.service.mailbox).Perm (exit.service.mailbox ++ calls)

end Exit

variable {service : Service} {exit after between : Service.Exit} {calls more : List Call} {call : Call}
  {outcome : Outcome}

theorem parted_farewell (call : Call) : Parted call (.answer call.ticket call.farewell) := ⟨rfl, rfl⟩

theorem parted_discard (calls : List Call) :
    List.Forall₂ Parted calls (calls.map fun call => .discard call.ticket) := by
  induction calls with
  | nil => exact .nil
  | cons call calls ih => exact .cons ⟨rfl, rfl⟩ ih

theorem handle_spent (reachable : Bool) (terminal : service.dialogue.isTerminal = true) (call : Call) :
    ∃ identifiers, service.handle reachable call =
      ({ service with identifiers }, [.settle (.answer call.ticket call.farewell)]) := by
  obtain ⟨free, refuses, tells⟩ := Dialogue.spent terminal
  cases call with
  | disconnect promise =>
    refine ⟨service.identifiers, ?_⟩
    simp only [handle, trigger_eq, tells, perform]
    rfl
  | request request promise =>
    have short : ([] : Pending).length < 0x100000000 := Nat.zero_lt_succ _
    obtain ⟨id, identifiers, allocated⟩ := Identifiers.allocate_finds short service.identifiers
    refine ⟨identifiers, ?_⟩
    simp only [handle, free, allocated, trigger_eq, refuses, perform]
    rfl

theorem handleAll_spent (reachable : Bool) (terminal : service.dialogue.isTerminal = true)
    (calls : List Call) :
    ∃ identifiers, service.handleAll reachable calls =
      ({ service with identifiers }, settleAll (farewells calls)) := by
  induction calls generalizing service with
  | nil => exact ⟨service.identifiers, rfl⟩
  | cons call calls ih =>
    obtain ⟨identifiers, handled⟩ := handle_spent reachable terminal call
    have still : { service with identifiers }.dialogue.isTerminal = true := terminal
    obtain ⟨later, rest⟩ := ih still
    refine ⟨later, ?_⟩
    rw [handleAll, handled]
    simp only [rest]
    rfl

namespace Exit

theorem step_parts (reachable : Bool) (leaving : exit.Underway) (move : Move) :
    Parts exit move.submitted (exit.step reachable move).1 (exit.step reachable move).2 := by
  obtain ⟨⟨abandoned, stands⟩, terminal, empty⟩ := leaving
  obtain ⟨service, door⟩ := exit
  dsimp only at stands terminal empty
  have stay (calls : List Call) (same : calls = []) :
      Parts ⟨service, door⟩ calls ⟨service, door⟩ [] := by
    subst same
    exact ⟨⟨⟨abandoned, stands⟩, terminal, empty⟩, [], .nil, by simp⟩
  cases move with
  | submit call =>
    have refused : settlements ({ service with standing := .gone }.submit call).2 =
        [.answer call.ticket call.farewell] := by
      rw [submit_gone rfl]
      rfl
    have late : Parts ⟨service, door⟩ [call] ⟨service, door⟩ [.answer call.ticket call.farewell] := by
      refine ⟨⟨⟨abandoned, stands⟩, terminal, empty⟩, [call], .cons (parted_farewell call) .nil, ?_⟩
      exact List.perm_append_comm
    cases door with
    | ajar =>
      simp only [step, submit_serving stands]
      exact ⟨⟨⟨abandoned, stands⟩, terminal, nofun⟩, [], .nil, .refl _⟩
    | shut | gone =>
      simp only [step, refused]
      exact late
  | shut =>
    cases door with
    | ajar => exact ⟨⟨⟨abandoned, stands⟩, terminal, nofun⟩, [], .nil, by simp [step, Move.submitted]⟩
    | shut | gone => exact stay _ rfl
  | drain =>
    cases door with
    | ajar | gone => exact stay _ rfl
    | shut =>
      cases queued : service.mailbox with
      | nil =>
        simp only [step, queued]
        exact stay _ rfl
      | cons call rest =>
        have left : { service with mailbox := rest }.dialogue.isTerminal = true := terminal
        obtain ⟨identifiers, handled⟩ := handle_spent reachable left call
        simp only [step, queued, handled]
        refine ⟨⟨⟨abandoned, stands⟩, terminal, nofun⟩, [call], .cons (parted_farewell call) .nil, ?_⟩
        simp [queued, Move.submitted]
  | leave =>
    cases door with
    | ajar | gone => exact stay _ rfl
    | shut =>
      refine ⟨⟨⟨abandoned, stands⟩, terminal, fun _ => rfl⟩, service.mailbox, parted_discard _, ?_⟩
      simp [step, Move.submitted]

theorem Parts.trans {early late : List (Settlement Answer)} (first : Parts exit calls between early)
    (second : Parts between more after late) : Parts exit (calls ++ more) after (early ++ late) := by
  obtain ⟨told, heard, queue⟩ := first.heard
  obtain ⟨later, hears, rest⟩ := second.heard
  refine ⟨second.underway, told ++ later, List.rel_append heard hears, ?_⟩
  rw [List.append_assoc, ← List.append_assoc exit.service.mailbox]
  refine (rest.append_left told).trans ?_
  rw [← List.append_assoc]
  exact queue.append_right more

theorem parts_run (reachable : Bool) (leaving : exit.Underway) (moves : List Move) :
    Parts exit (moves.flatMap Move.submitted) ((machine reachable).reach exit moves)
      (settledBy reachable exit moves) := by
  induction moves generalizing exit with
  | nil => exact ⟨leaving, [], .nil, by simp [Machine.reach]⟩
  | cons move moves ih =>
    have first := step_parts reachable leaving move
    exact first.trans (ih first.underway)

theorem settledBy_cons (reachable : Bool) (exit : Exit) (move : Move) (moves : List Move) :
    settledBy reachable exit (move :: moves) =
      (exit.step reachable move).2 ++ settledBy reachable (exit.step reachable move).1 moves := rfl

theorem drained (reachable : Bool) (terminal : service.dialogue.isTerminal = true) {calls : List Call}
    (queued : service.mailbox = calls) :
    settledBy reachable ⟨service, .shut⟩ (List.replicate calls.length .drain ++ [.leave]) =
      farewells calls := by
  induction calls generalizing service with
  | nil => simp [settledBy, Machine.collect, machine, Machine.steps, step, queued, farewells]
  | cons call calls ih =>
    have left : { service with mailbox := calls }.dialogue.isTerminal = true := terminal
    obtain ⟨identifiers, handled⟩ := handle_spent reachable left call
    have stepped : step reachable ⟨service, .shut⟩ .drain =
        (⟨{ service with mailbox := calls, identifiers }, .shut⟩, [.answer call.ticket call.farewell]) := by
      simp only [step, queued, handled]
      rfl
    have still : { service with mailbox := calls, identifiers }.dialogue.isTerminal = true := terminal
    rw [List.length_cons, List.replicate_succ, List.cons_append, settledBy_cons, stepped, ih still rfl]
    rfl

end Exit

theorem conclude_spent (reachable : Bool) (terminal : outcome.1.dialogue.isTerminal = true) :
    (conclude reachable outcome).1.standing = .gone ∧
      settlements (conclude reachable outcome).2 =
        settlements outcome.2 ++ farewells outcome.1.mailbox := by
  have left : { outcome.1 with mailbox := [] }.dialogue.isTerminal = true := terminal
  obtain ⟨identifiers, handled⟩ := handleAll_spent reachable left outcome.1.mailbox
  rw [conclude_ended reachable terminal]
  simp only [handled, settlements_append, settlements_settleAll]
  refine ⟨trivial, ?_⟩
  rw [show settlements [.leave] = [] from rfl, List.append_nil]

theorem conclude_exits (reachable : Bool) (terminal : outcome.1.dialogue.isTerminal = true) :
    settlements (conclude reachable outcome).2 =
      settlements outcome.2 ++ Exit.settledBy reachable ⟨outcome.1, .ajar⟩
        (.shut :: List.replicate outcome.1.mailbox.length .drain ++ [.leave]) := by
  have shut : Exit.settledBy reachable ⟨outcome.1, .ajar⟩
      (.shut :: List.replicate outcome.1.mailbox.length .drain ++ [.leave]) =
        Exit.settledBy reachable ⟨outcome.1, .shut⟩
          (List.replicate outcome.1.mailbox.length .drain ++ [.leave]) := rfl
  rw [(conclude_spent reachable terminal).2, shut, Exit.drained reachable terminal rfl]

theorem submits_queue {abandoned : Bool} (stands : service.standing = .serving abandoned)
    (calls : List Call) :
    machine.reach service (calls.map .submit) = { service with mailbox := service.mailbox ++ calls } ∧
      effectsBy service (calls.map .submit) = [] := by
  induction calls generalizing service with
  | nil => exact ⟨by simp [Machine.reach], rfl⟩
  | cons call calls ih =>
    have queues : service.react (.submit call) =
        ({ service with mailbox := service.mailbox ++ [call] }, []) := submit_serving stands call
    have still : { service with mailbox := service.mailbox ++ [call] }.standing = .serving abandoned :=
      stands
    obtain ⟨reached, silent⟩ := ih still
    have first : machine.reach service ((call :: calls).map .submit) =
        machine.reach (service.react (.submit call)).1 (calls.map .submit) := rfl
    rw [first, List.map_cons, effectsBy_cons, queues, silent, reached]
    exact ⟨by simp, rfl⟩

theorem submits_gone (stands : service.standing = .gone) (calls : List Call) :
    effectsBy service (calls.map .submit) = settleAll (farewells calls) := by
  induction calls with
  | nil => rfl
  | cons call calls ih =>
    rw [List.map_cons, effectsBy_cons, react, submit_gone stands, ih]
    rfl

theorem settlements_closed {abandoned : Bool} (stands : service.standing = .serving abandoned)
    (reachable : Bool) (early late : List Call) :
    settlements (effectsBy service (early.map .submit ++ .hear reachable .closed :: late.map .submit)) =
      (service.dialogue.advance .disconnected).settled ++ farewells (service.mailbox ++ early ++ late) := by
  let full : Service := { service with mailbox := service.mailbox ++ early }
  obtain ⟨reached, silent⟩ := submits_queue stands early
  obtain ⟨ended, still⟩ := Dialogue.disconnected_ends service.dialogue
  have heard : full.hear reachable .closed =
      ({ full with dialogue := (service.dialogue.advance .disconnected).next },
        settleAll (service.dialogue.advance .disconnected).settled) := by
    simp only [hear, trigger_eq, full, still, perform, List.append_nil]
  have concludes : full.react (.hear reachable .closed) =
      conclude reachable (full.hear reachable .closed) := by
    have serves : full.standing = .serving abandoned := stands
    simp only [react, onEvent, serves]
  have terminal : (full.hear reachable .closed).1.dialogue.isTerminal = true := by
    rw [heard]
    exact ended
  obtain ⟨gone, told⟩ := conclude_spent reachable terminal
  rw [effectsBy_append, silent, reached, effectsBy_cons, concludes, submits_gone gone, List.nil_append,
    settlements_append, told, settlements_settleAll, heard, settlements_settleAll]
  simp [full, farewells]

section Run

variable {turns : List Turn} {promise : Ticket} (looping : service.Looping)

include looping

theorem gone_owes_nothing (left : (machine.reach service turns).standing = .gone) :
    (machine.reach service turns).owed = [] ∧
      ∀ promise, ¬ (machine.reach service turns).Parting promise := by
  cases looping_reach looping turns with
  | on stands =>
    rw [stands] at left
    cases left
  | gone stands terminal empty =>
    refine ⟨by simp [owed, Dialogue.terminal_owes_nothing terminal, empty], ?_⟩
    rintro promise (⟨closers, fault, state, _⟩ | queued)
    · rw [state] at terminal
      cases terminal
    · rw [empty] at queued
      cases queued

variable (fresh : (service.owed ++ (broughtBy service turns).map Call.ticket).Nodup)

include fresh

theorem counted_once (known : promise ∈ service.owed ++ (broughtBy service turns).map Call.ticket) :
    (machine.reach service turns).owed.count promise +
      (fates (settlements (effectsBy service turns)) promise).length = 1 := by
  have balanced := (settles_run looping turns).balanced promise
  rw [← List.count_append, fresh.count, if_pos known] at balanced
  exact balanced

variable (left : (machine.reach service turns).standing = .gone)

include left

theorem gone_answered (known : promise ∈ service.owed ++ (broughtBy service turns).map Call.ticket) :
    ∃ answer, fates (settlements (effectsBy service turns)) promise = [.answered answer] := by
  have once := counted_once looping fresh known
  rw [(gone_owes_nothing looping left).1, List.count_nil, Nat.zero_add] at once
  obtain ⟨fate, only⟩ := List.length_eq_one_iff.mp once
  have told : ⟨promise, fate⟩ ∈ settlements (effectsBy service turns) := by
    rw [← Settlement.mem_fates, only]
    exact List.mem_cons_self
  obtain ⟨answer, same⟩ := (settles_run looping turns).answered _ told
  exact ⟨answer, by rw [only, ← same]⟩

theorem gone_parted (asks : service.Parting promise ∨ .disconnect promise ∈ broughtBy service turns) :
    fates (settlements (effectsBy service turns)) promise = [.answered (.ok .done)] := by
  have balanced := (settles_run looping turns).balanced promise
  have single := List.nodup_iff_count.mp fresh promise
  obtain ⟨nothing, nobody⟩ := gone_owes_nothing looping left
  rcases (settles_run looping turns).parted promise asks with waits | told
  · exact absurd waits (nobody promise)
  · have member : .answered (.ok .done) ∈ fates (settlements (effectsBy service turns)) promise :=
      Settlement.mem_fates.mpr told
    have present := List.length_pos_of_mem member
    rw [List.count_append] at single
    dsimp only at balanced
    rw [nothing, List.count_nil] at balanced
    obtain ⟨fate, only⟩ := List.length_eq_one_iff.mp
      (show (fates (settlements (effectsBy service turns)) promise).length = 1 by omega)
    rw [only] at member ⊢
    rw [List.mem_singleton.mp member]

end Run

end Service
end SecureShell.Sftp

namespace SecureShell.Switchboard
open Sftp.Service (Turn machine begin effectsBy broughtBy settlements frames Exit)
open Settlement (fates Answered)

-- Whoever waits this way has made this call.
def Waiting.Makes : Waiting → Sftp.Call → Prop
  | .task .., .request .. => True
  | .leaving _, .disconnect _ => True
  | _, _ => False

inductive Tells : Sftp.Answer → Sftp.Reply → Prop
  | message (message : Sftp.Message) : Tells (.ok (.message message)) (.ok message)
  | fault (fault : SftpFault) : Tells (.error fault) (.error fault)

theorem settleFiles_reads {board : Switchboard} {pending : Pending} {call : Sftp.Call}
    (waits : board.waiter? call.ticket = some pending) (makes : pending.waiting.Makes call)
    (fate : Fate Sftp.Answer) :
    board.settleFiles ⟨call.ticket, fate⟩ = board.settleFiles (.answer call.ticket (call.reads fate)) := by
  cases fate with
  | answered answer => rfl
  | discarded =>
    obtain ⟨origin, ticket, waiting⟩ := pending
    cases waiting with
    | task =>
      cases call with
      | request =>
        simp only [settleFiles, waits, Settlement.answer]
        rfl
      | disconnect => cases makes
    | leaving =>
      cases call with
      | request => cases makes
      | disconnect =>
        simp only [settleFiles, waits, Settlement.answer]
        rfl
    | connection | disconnection | venture | collecting | writing | closingShell | observingShell =>
      cases call <;> cases makes

theorem settleFiles_resumes {board : Switchboard} {promise ticket : Ticket} {call : CallId} {channel : Nat}
    {procedure : Sftp.Procedure} {purpose : Purpose}
    (waits : board.waiter? promise = some ⟨call, ticket, .task channel procedure purpose⟩)
    {answer : Sftp.Answer} {reply : Sftp.Reply} (brings : Tells answer reply) :
    board.settleFiles (.answer promise answer) = board.carryOn call channel purpose (procedure.resume reply) := by
  simp only [settleFiles, Settlement.answer, waits]
  cases brings <;> rfl

theorem settleFiles_leaves {board : Switchboard} {promise ticket : Ticket} {call : CallId} {channel : Nat}
    (waits : board.waiter? promise = some ⟨call, ticket, .leaving channel⟩) :
    board.settleFiles (.answer promise (.ok .done)) = board.complete call (.ok .nothing) := by
  simp only [settleFiles, Settlement.answer, waits]

-- What becomes of the calls to a service on its way through these turns. `owed` and `ends` are about
-- all of them, `silent` is about the turn that leaves the state in which the dialogue serves, and the
-- ways out that follow it are those of a queue which is shut, emptied call by call and dropped.
structure Shutdown (service : Sftp.Service) (turns : List Turn) : Prop where
  owed : ∀ promise ∈ service.owed ++ (broughtBy service turns).map Sftp.Call.ticket,
    (machine.reach service turns).owed.count promise +
      (fates (settlements (effectsBy service turns)) promise).length = 1
  answered : Answered (settlements (effectsBy service turns))
  ends : (machine.reach service turns).standing = .gone ↔ ∃ turn ∈ turns, turn.closes = true
  all : (machine.reach service turns).standing = .gone →
    ∀ promise ∈ service.owed ++ (broughtBy service turns).map Sftp.Call.ticket,
      ∃ answer, fates (settlements (effectsBy service turns)) promise = [.answered answer]
  parted : (machine.reach service turns).standing = .gone →
    ∀ promise, service.Parting promise ∨ .disconnect promise ∈ broughtBy service turns →
      fates (settlements (effectsBy service turns)) promise = [.answered (.ok .done)]
  silent : ∀ before turn after, turns = before ++ turn :: after →
    (machine.reach service (before ++ [turn])).dialogue.view ≠ .ready →
    frames (effectsBy (machine.reach service before) (turn :: after)) = []
  alike : ∀ reachable early late,
    settlements (effectsBy service (early.map .submit ++ .hear reachable .closed :: late.map .submit)) =
      (service.dialogue.advance .disconnected).settled ++
        Sftp.farewells (service.mailbox ++ early ++ late)
  ways : ∀ (ended : Sftp.Service) stays, ended.standing = .serving stays →
    ended.dialogue.isTerminal = true →
    ∀ reachable moves, ((Exit.machine reachable).reach ⟨ended, .ajar⟩ moves).door = .gone →
      ∃ told, List.Forall₂ Sftp.Parted told (Exit.settledBy reachable ⟨ended, .ajar⟩ moves) ∧
        told.Perm (ended.mailbox ++ moves.flatMap Exit.Move.submitted)
  taken : ∀ reachable outcome, outcome.1.dialogue.isTerminal = true →
    settlements (Sftp.Service.conclude reachable outcome).2 =
      settlements outcome.2 ++ Exit.settledBy reachable ⟨outcome.1, .ajar⟩
        (.shut :: List.replicate outcome.1.mailbox.length .drain ++ [.leave])
  reads : ∀ (board : Switchboard) pending call fate, board.waiter? call.ticket = some pending →
    pending.waiting.Makes call →
    board.settleFiles ⟨call.ticket, fate⟩ =
      board.settleFiles (.answer call.ticket (call.reads fate))
  resumes : ∀ (board : Switchboard) promise call ticket channel procedure purpose,
    board.waiter? promise = some ⟨call, ticket, .task channel procedure purpose⟩ →
    ∀ answer reply, Tells answer reply →
      board.settleFiles (.answer promise answer) =
        board.carryOn call channel purpose (procedure.resume reply)
  leaves : ∀ (board : Switchboard) promise call ticket channel,
    board.waiter? promise = some ⟨call, ticket, .leaving channel⟩ →
    board.settleFiles (.answer promise (.ok .done)) = board.complete call (.ok .nothing)

-- A call that is queued at the end hears the same as one that comes when nobody is there to take it.
theorem no_call_lost_at_shutdown {asked : Bool} {extensions : List Text.Pair} {earlier : List Turn}
    {service : Sftp.Service} (reached : machine.reach (begin asked extensions).1 earlier = service)
    {abandoned : Bool} (serving : service.standing = .serving abandoned) {turns : List Turn}
    (fresh : (service.owed ++ (broughtBy service turns).map Sftp.Call.ticket).Nodup) :
    Shutdown service turns := by
  have looping : service.Looping := by
    rw [← reached] at serving ⊢
    exact Sftp.Service.looping_reached asked extensions earlier serving
  constructor
  case owed => exact fun promise known => Sftp.Service.counted_once looping fresh known
  case answered => exact (Sftp.Service.settles_run looping turns).answered
  case ends =>
    rw [Sftp.Service.gone_iff_closed looping turns]
    simp [serving]
  case all => exact fun left promise known => Sftp.Service.gone_answered looping fresh left known
  case parted => exact fun left promise asks => Sftp.Service.gone_parted looping fresh left asks
  case silent =>
    intro before turn after _ unready
    rw [Sftp.Service.reach_concat] at unready
    exact Sftp.Service.frames_left (Sftp.Service.looping_reach looping before) turn after unready
  case alike => exact Sftp.Service.settlements_closed serving
  case ways =>
    intro ended stays stands terminal reachable moves door
    have leaving : Exit.Underway ⟨ended, .ajar⟩ := ⟨⟨stays, stands⟩, terminal, nofun⟩
    have parts := Exit.parts_run reachable leaving moves
    obtain ⟨told, heard, queue⟩ := parts.heard
    rw [parts.underway.empty door, List.append_nil] at queue
    exact ⟨told, heard, queue⟩
  case taken => exact fun reachable outcome => Sftp.Service.conclude_exits reachable
  case reads => exact fun board pending call fate waits makes => settleFiles_reads waits makes fate
  case resumes =>
    exact fun board promise call ticket channel procedure purpose waits answer reply tells =>
      settleFiles_resumes waits tells
  case leaves => exact fun board promise call ticket channel waits => settleFiles_leaves waits

def welcomed : List Turn :=
  [.hear true .success, .hear true (.data (Sftp.Message.version Sftp.protocolVersion []).frame)]

-- One request is in flight and one cannot be sent when somebody asks for the end; more calls come
-- before the channel is closed, and after it.
def parting : List Turn :=
  [.submit (.request (.stat []) 5), .submit (.request (.readlink []) 6), .take true, .take false,
    .submit (.disconnect 7), .submit (.request (.stat []) 8), .take true, .take true,
    .submit (.request (.stat []) 9), .submit (.disconnect 10), .hear true .closed,
    .submit (.request (.stat []) 11), .submit (.disconnect 12)]

theorem no_call_lost_at_shutdown_parting :
    let service := machine.reach (begin true []).1 welcomed
    let settled := settlements (effectsBy service parting)
    service.standing = .serving false ∧
    (service.owed ++ (broughtBy service parting).map Sftp.Call.ticket).Nodup ∧
    (machine.reach service parting).standing = .gone ∧
    (∀ promise ∈ [5, 6, 8, 9, 11], ∃ answer, fates settled promise = [.answered answer]) ∧
    ∀ promise ∈ [7, 10, 12], fates settled promise = [.answered (.ok .done)] := by
  intro service settled
  have serving : service.standing = .serving false := by decide +kernel
  have fresh : (service.owed ++ (broughtBy service parting).map Sftp.Call.ticket).Nodup := by
    decide +kernel
  have shutdown : Shutdown service parting := no_call_lost_at_shutdown rfl serving fresh
  have left := shutdown.ends.mpr ⟨.hear true .closed, by decide, rfl⟩
  refine ⟨serving, fresh, left, ?_, ?_⟩
  · intro promise member
    apply shutdown.all left
    revert promise
    decide +kernel
  · intro promise member
    apply shutdown.parted left
    right
    revert promise
    decide +kernel

end SecureShell.Switchboard
