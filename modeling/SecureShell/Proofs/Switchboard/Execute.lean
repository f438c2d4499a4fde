import SecureShell.Proofs.Switchboard.Collecting
import SecureShell.Switchboard.Run

namespace SecureShell.Switchboard
open Exec (Capture beforeClose standardOf errorOf statusOf isAccepted startVerdict endVerdict outcome)
open Collection (Attends)

-- What comes over a channel, for as long as there is an engine to bring it.
inductive Delivery
  | brings (event : ChannelEvent) (gone : Bool)
  | hangsUp
  deriving DecidableEq

namespace Delivery

def stimulus (channel : Nat) : Delivery → Stimulus
  | .brings event gone => .emitted channel event gone
  | .hangsUp => .hungUp channel

def isLast : Delivery → Bool
  | .brings _ gone => gone
  | .hangsUp => true

def events : Delivery → List ChannelEvent
  | .brings event gone => event :: if gone then [.closed] else []
  | .hangsUp => [.closed]

end Delivery

namespace Line

def after (line : Line) (delivery : Delivery) : Line :=
  { line with engine := if line.isReachable && delivery.isLast then .gone else line.engine }

def brought (line : Line) : List Delivery → List ChannelEvent
  | [] => []
  | delivery :: deliveries =>
    (if line.isReachable then delivery.events else []) ++ (line.after delivery).brought deliveries

end Line

def Effect.isPlain : Effect → Bool
  | .send _ | .report _ => true
  | _ => false

def answerOf : Except ConnectionFault Capture → Answer
  | .ok capture => .ok (.capture capture)
  | .error fault => .error (.connection fault)

def answersTo (call : CallId) (notices : List Notice) : List Answer :=
  notices.filterMap fun
    | .completed other answer => if other = call then some answer else none
    | _ => none

namespace Caller

-- How far the start has come for a caller, what the board keeps of the call, and what it has
-- said about it.
def stage : Caller → Launch.Stage
  | .waiting => .starting
  | .collecting _ | .told _ => .over

def pending (call : CallId) (line : Line) (command : String) : Caller → List Pending
  | .waiting => [⟨call, line.ticket, .venture (.command command true)⟩]
  | .collecting capture => [⟨call, line.ticket, .collecting line.channel capture⟩]
  | .told _ => []

def answers : Caller → List Answer
  | .waiting | .collecting _ => []
  | .told result => [answerOf result]

end Caller

def alone (board : Switchboard) (line : Line) : Switchboard := { board with lines := [line] }

def Line.seating (line : Line) (start : Launch.Start) (seat : CommandSeat) : Line :=
  { line with start, seat := .command seat }

-- A board with a single line, on which one call has a command collected. Nothing else is to be
-- done, and nothing is out of time.
structure Hosts (call : CallId) (command : String) (line : Line) (earlier : List Notice)
    (collection : Collection) (board : Switchboard) : Prop where
  only : ∃ start : Launch.Start, start.stage = collection.caller.stage ∧
    board.lines = [line.seating start collection.seat]
  attached : line.attached = true
  timely : board.now < line.deadline
  pending : board.pending = collection.caller.pending call line command
  answers : answersTo call (earlier ++ board.notices) = collection.caller.answers
  held : board.holders ≠ 0
  read : board.supervisor.mailbox = []
  settled : ∀ errand ∈ board.supervisor.errands, errand.deadline ≤ board.now →
    errand.stage = .lingering ∨ errand.stage = .over

variable {call : CallId} {command : String} {line : Line} {start next : Launch.Start}
  {seat : CommandSeat} {earlier : List Notice} {collection : Collection} {board : Switchboard}

theorem answersTo_append (call : CallId) (notices more : List Notice) :
    answersTo call (notices ++ more) = answersTo call notices ++ answersTo call more :=
  List.filterMap_append ..

theorem answersTo_completed (call : CallId) (answer : Answer) :
    answersTo call [.completed call answer] = [answer] := by
  simp [answersTo]

theorem line?_only (only : board.lines = [line.seating start seat]) :
    board.line? line.channel = some (line.seating start seat) := by
  simp [line?, only, Line.seating]

theorem place_single {line after : Line} (only : board.lines = [line])
    (same : after.channel = line.channel) : board.place after = board.alone after := by
  simp [place, only, same, alone]

theorem place_only (only : board.lines = [line.seating start seat]) (next : Launch.Start)
    (after : CommandSeat) : board.place (line.seating next after) = board.alone (line.seating next after) :=
  place_single only rfl

theorem send_notices (call : CallId) (board : Switchboard) (channel : Nat) (said : ChannelCommand) :
    ∃ more, answersTo call more = [] ∧
      board.send channel said = { board with notices := board.notices ++ more } := by
  rw [send]
  split
  · exact ⟨[.sent channel said], rfl, rfl⟩
  · exact ⟨[], rfl, by simp⟩

theorem advanceStart_only (only : board.lines = [line.seating start seat]) {event : Launch.Start.Event}
    {effects : List Launch.Start.Effect} (advanced : start.advance event = (next, effects)) :
    board.advanceStart line.channel event =
      (board.alone (line.seating next seat)).followStart line.channel effects := by
  have placed := place_only only next seat
  simp only [Line.seating] at placed ⊢
  simp only [advanceStart, line?_only only, Line.seating, advanced, placed]

theorem followStart_close (board : Switchboard) (channel : Nat) (effects : List Launch.Start.Effect) :
    board.followStart channel (.close :: effects) =
      (board.send channel .close).followStart channel effects := rfl

theorem followStart_settle (only : board.lines = [line.seating start seat]) (verdict : Launch.Verdict) :
    board.followStart line.channel [.settle verdict] =
      board.settleVenture (line.seating start seat) verdict := by
  simp only [followStart, List.foldl_cons, List.foldl_nil, line?_only only]

theorem settleVenture_ok (waits : board.pending = Caller.pending call line command .waiting) :
    board.settleVenture (line.seating start seat) (.ok ()) =
      { board with pending := Caller.pending call line command (.collecting { command }) } := by
  simp [settleVenture, waiter?, waits, Line.seating, Caller.pending, launched, forget, await]

theorem settleVenture_error (only : board.lines = [line.seating start seat])
    (waits : board.pending = Caller.pending call line command .waiting) (fault : ConnectionFault) :
    board.settleVenture (line.seating start seat) (.error fault) =
      { board.alone (line.seating start seat.abandon) with
        pending := []
        finished := call :: board.finished
        notices := board.notices ++ [.completed call (.error (.connection fault))] } := by
  have placed := place_only only start seat.abandon
  simp only [Line.seating] at placed ⊢
  simp [settleVenture, waiter?, waits, Caller.pending, failed, placed, complete, Switchboard.note,
    forget, alone]

theorem followStart_fail (only : board.lines = [line.seating start seat])
    (waits : board.pending = Caller.pending call line command .waiting) (fault : ConnectionFault) :
    ∃ more, answersTo call more = [] ∧
      board.followStart line.channel [.close, .settle (.error fault)] =
        { board.alone (line.seating start seat.abandon) with
          pending := []
          finished := call :: board.finished
          notices := board.notices ++ more ++ [.completed call (.error (.connection fault))] } := by
  obtain ⟨more, silent, sent⟩ := send_notices call board line.channel .close
  have sentOnly : ({ board with notices := board.notices ++ more } : Switchboard).lines = _ := only
  have sentWaits : ({ board with notices := board.notices ++ more } : Switchboard).pending = _ := waits
  refine ⟨more, silent, ?_⟩
  rw [followStart_close, sent, followStart_settle sentOnly, settleVenture_error sentOnly sentWaits]
  rfl

theorem expireAll_settled (supervisor : Connection.Supervisor) (now : Nat)
    (settled : ∀ errand ∈ supervisor.errands, errand.deadline ≤ now →
      errand.stage = .lingering ∨ errand.stage = .over) : supervisor.expireAll now = supervisor := by
  rw [Connection.Supervisor.expireAll]
  generalize supervisor.errands = errands at settled
  induction errands with
  | nil => rfl
  | cons errand errands ih =>
    have rest := ih fun errand member => settled errand (List.mem_cons_of_mem _ member)
    by_cases due : errand.deadline ≤ now
    · have still : supervisor.expire errand = supervisor := by
        rcases settled errand List.mem_cons_self due with stage | stage <;>
          simp only [Connection.Supervisor.expire, stage]
      simpa [due, still] using rest
    · simpa [due] using rest

theorem expire_single {line : Line} (only : board.lines = [line]) (timely : board.now < line.deadline)
    (read : board.supervisor.mailbox = [])
    (settled : ∀ errand ∈ board.supervisor.errands, errand.deadline ≤ board.now →
      errand.stage = .lingering ∨ errand.stage = .over) : board.expire = board := by
  have quiet : board.clearMail = board := by
    simp only [clearMail, followSupervisor, Connection.Supervisor.clear, read,
      Connection.Supervisor.readAll, List.foldl_nil]
    rw [← read]
  have early : ¬ line.deadline ≤ board.now := Nat.not_le.mpr timely
  rw [expire, expireAll_settled _ _ settled]
  change board.clearMail.lines.foldl expireLine board.clearMail = board
  rw [quiet, only, List.foldl_cons, List.foldl_nil, expireLine, if_neg early]

theorem absorb_plain {α β : Type} {take : α → β → α × List Effect}
    (plain : ∀ seat piece, ∀ effect ∈ (take seat piece).2, effect.isPlain) (seat : α) (pieces : List β) :
    ∀ effect ∈ (absorb take seat pieces).2, effect.isPlain := by
  induction pieces generalizing seat with
  | nil => exact fun effect member => absurd member List.not_mem_nil
  | cons piece pieces ih =>
    intro effect member
    rcases List.mem_append.mp member with first | others
    · exact plain seat piece effect first
    · exact ih (take seat piece).1 effect others

theorem CommandSeat.hearAll_plain (reachable : Bool) (seat : CommandSeat) (events : List ChannelEvent) :
    ∀ effect ∈ (seat.hearAll reachable events).2, effect.isPlain := by
  refine absorb_plain (fun seat event => absorb_plain ?_ _ _) seat events
  intro seat piece effect member
  cases piece <;> simp_all [CommandSeat.take, Effect.isPlain]

theorem Seat.hearAll_command (channel : Nat) (reachable : Bool) (seat : CommandSeat)
    (events : List ChannelEvent) :
    Seat.hearAll channel reachable (.command seat) events =
      (.command (seat.hearAll reachable events).1, (seat.hearAll reachable events).2) := by
  induction events generalizing seat with
  | nil => rfl
  | cons event events ih =>
    have rest := ih (seat.hear reachable event).1
    simp only [Seat.hearAll, CommandSeat.hearAll, absorb, Seat.hear, Prod.map, id] at rest ⊢
    rw [rest]

theorem Line.hear_command (attached : line.attached = true) (start : Launch.Start) (seat : CommandSeat)
    (events : List ChannelEvent) :
    (line.seating start seat).hear events =
      (line.seating start (seat.hearAll line.isReachable events).1,
        (seat.hearAll line.isReachable events).2) := by
  simp only [Line.hear, Line.seating, attached, if_true, Seat.hearAll_command]
  rfl

theorem react_reachable (only : board.lines = [line.seating start seat])
    (reachable : line.isReachable = true) (delivery : Delivery) :
    (board.react (delivery.stimulus line.channel)).1 =
      board.followAll (((line.after delivery).seating start seat).hear delivery.events) := by
  have carried : (line.seating start seat).isReachable = true := reachable
  have known := line?_only only
  cases delivery with
  | brings event gone =>
    simp only [Delivery.stimulus, react, emitted, known, carried, if_true, told, Line.after, reachable]
    cases gone <;> rfl
  | hangsUp =>
    simp only [Delivery.stimulus, react, hungUp, known, carried, if_true, Line.after, reachable]
    rfl

theorem react_unreachable (only : board.lines = [line.seating start seat])
    (reachable : line.isReachable = false) (delivery : Delivery) :
    (board.react (delivery.stimulus line.channel)).1 = board := by
  have gone : (line.seating start seat).isReachable = false := reachable
  have known := line?_only only
  cases delivery <;>
    simp only [Delivery.stimulus, react, emitted, hungUp, known, gone, Bool.false_eq_true, if_false, told]

namespace Hosts

theorem send (hosts : Hosts call command line earlier collection board) (channel : Nat)
    (said : ChannelCommand) :
    Hosts call command line earlier collection (board.send channel said) := by
  obtain ⟨more, silent, sent⟩ := send_notices call board channel said
  rw [sent]
  refine { hosts with answers := ?_ }
  rw [← List.append_assoc, answersTo_append, hosts.answers, silent, List.append_nil]

theorem reported_late {caller : Caller} (spent : caller.stage = .over)
    (hosts : Hosts call command line earlier ⟨seat, caller⟩ board) (verdict : Exec.Verdict) :
    Hosts call command line earlier ⟨seat, caller⟩ (board.follow line.channel (.report verdict)) := by
  obtain ⟨start, stage, only⟩ := hosts.only
  have ended : start.stage = .over := stage.trans spent
  have still : start.advance (.reported verdict) = (start, []) := by
    simp only [Launch.Start.advance, ended]
  rw [follow, advanceStart_only only still]
  exact { hosts with only := ⟨start, stage, rfl⟩ }

theorem reported_ok (hosts : Hosts call command line earlier ⟨seat, .waiting⟩ board) :
    Hosts call command line earlier ⟨seat, .collecting { command }⟩
      (board.follow line.channel (.report (.ok ()))) := by
  obtain ⟨start, stage, only⟩ := hosts.only
  have advanced : start.advance (.reported (.ok ())) =
      ({ start with stage := .over }, [.settle (.ok ())]) := by
    simp only [Launch.Start.advance, stage, Caller.stage]
  have waits : (board.alone (line.seating { start with stage := .over } seat)).pending = _ := hosts.pending
  rw [follow, advanceStart_only only advanced, followStart_settle rfl, settleVenture_ok waits]
  exact { hosts with only := ⟨_, rfl, rfl⟩, pending := rfl }

theorem reported_error (hosts : Hosts call command line earlier ⟨seat, .waiting⟩ board)
    (fault : ConnectionFault) :
    Hosts call command line earlier ⟨seat.abandon, .told (.error fault)⟩
      (board.follow line.channel (.report (.error fault))) := by
  obtain ⟨start, stage, only⟩ := hosts.only
  have advanced : start.advance (.reported (.error fault)) =
      ({ start with stage := .over }, [.close, .settle (.error fault)]) := by
    simp [Launch.Start.advance, Launch.Start.fail, stage, Caller.stage]
  have waits : (board.alone (line.seating { start with stage := .over } seat)).pending = _ := hosts.pending
  obtain ⟨more, silent, failed⟩ := followStart_fail rfl waits fault
  rw [follow, advanceStart_only only advanced, failed]
  refine { hosts with only := ⟨_, rfl, rfl⟩, pending := rfl, answers := ?_ }
  have before : answersTo call (earlier ++ board.notices) = [] := hosts.answers
  simp only [← List.append_assoc]
  rw [answersTo_append, answersTo_completed, answersTo_append, silent]
  simp only [alone, before]
  rfl

theorem reported (hosts : Hosts call command line earlier collection board) (verdict : Exec.Verdict) :
    Hosts call command line earlier (collection.informed command verdict)
      (board.follow line.channel (.report verdict)) := by
  obtain ⟨seat, caller⟩ := collection
  cases caller with
  | waiting =>
    cases verdict with
    | ok _ => exact hosts.reported_ok
    | error fault => exact hosts.reported_error fault
  | collecting | told => exact hosts.reported_late rfl verdict

theorem followed (hosts : Hosts call command line earlier collection board) {effects : List Effect}
    (known : ∀ effect ∈ effects, effect.isPlain) :
    Hosts call command line earlier
      ((effects.filterMap Effect.report?).foldl (Collection.informed command) collection)
      (effects.foldl (fun board effect => board.follow line.channel effect) board) := by
  induction effects generalizing collection board with
  | nil => exact hosts
  | cons effect effects ih =>
    have rest : ∀ effect ∈ effects, effect.isPlain :=
      fun effect member => known effect (List.mem_cons_of_mem _ member)
    cases effect with
    | send said => exact ih (hosts.send line.channel said) rest
    | report verdict => exact ih (hosts.reported verdict) rest
    | _ => cases known _ List.mem_cons_self

theorem completed {capture : Capture}
    (hosts : Hosts call command line earlier ⟨seat, .collecting capture⟩ board)
    (result : Except ConnectionFault Capture) :
    Hosts call command line earlier ⟨seat, .told result⟩ (board.complete call (answerOf result)) := by
  have silent : answersTo call (earlier ++ board.notices) = [] := hosts.answers
  have answers : answersTo call (earlier ++ (board.notices ++ [.completed call (answerOf result)])) =
      [answerOf result] := by
    rw [← List.append_assoc, answersTo_append, silent, answersTo_completed, List.nil_append]
  have pending : (board.complete call (answerOf result)).pending = [] := by
    simp [complete, Switchboard.note, forget, hosts.pending, Caller.pending]
  exact { hosts with pending, answers }

variable (hosts : Hosts call command line earlier collection board)

include hosts

theorem collected :
    Hosts call command line earlier collection.read board.collectAll := by
  obtain ⟨seat, caller⟩ := collection
  obtain ⟨start, stage, only⟩ := hosts.only
  have waits := hosts.pending
  rw [collectAll, waits]
  cases caller with
  | waiting => exact hosts
  | told result => exact hosts
  | collecting capture =>
    rcases read : capture.collect seat.stream with ⟨result, taken, stream⟩
    have placed : Hosts call command line earlier ⟨seat.read stream, .collecting capture⟩
        (board.placeSeat (line.seating start seat) (.command (seat.read stream))) := by
      have alone : board.placeSeat (line.seating start seat) (.command (seat.read stream)) =
          board.alone (line.seating start (seat.read stream)) := place_only only start (seat.read stream)
      rw [alone]
      exact { hosts with only := ⟨start, stage, rfl⟩ }
    have seated : (line.seating start seat).seat = .command seat := rfl
    simp only [Caller.pending, List.foldl_cons, List.foldl_nil, collect, line?_only only, seated,
      Collection.read, read]
    cases result with
    | none =>
      exact { placed with
        pending := by simp [forget, await, placed.pending, Caller.pending] }
    | some result =>
      cases result with
      | ok capture => exact placed.completed (.ok capture)
      | error fault => exact placed.completed (.error fault)

theorem tended :
    ((board.lines.map Line.channel).foldl closeLeft board).letGo = board := by
  obtain ⟨start, stage, only⟩ := hosts.only
  have kept : closeLeft board line.channel = board := by
    simp only [closeLeft, line?_only only, Line.seating, ite_self]
  rw [only, List.map_cons, List.map_nil, List.foldl_cons, List.foldl_nil]
  simp only [Line.seating, kept, letGo, hosts.held, decide_false, Bool.false_and, Bool.false_eq_true,
    if_false]

theorem tidied :
    Hosts call command line earlier collection.read board.tidy := by
  rw [tidy, hosts.collected.tended]
  exact hosts.collected

theorem expired : board.expire = board := by
  obtain ⟨start, stage, only⟩ := hosts.only
  exact expire_single only hosts.timely hosts.read hosts.settled

theorem caught_up :
    Hosts call command line earlier collection.read.read board.tidy.expire.tidy := by
  rw [hosts.tidied.expired]
  exact hosts.tidied.tidied

theorem heard
    (stage : start.stage = collection.caller.stage)
    (only : board.lines = [line.seating start collection.seat]) (engine : Engine)
    (events : List ChannelEvent) :
    Hosts call command { line with engine } earlier
      (collection.hear command ({ line with engine } : Line).isReachable events)
      (board.followAll (({ line with engine }.seating start collection.seat).hear events)) := by
  have attached : ({ line with engine } : Line).attached = true := hosts.attached
  have placed (after : CommandSeat) :
      Hosts call command { line with engine } earlier { collection with seat := after }
        (board.place ({ line with engine }.seating start after)) := by
    have alone : board.place ({ line with engine }.seating start after) =
        board.alone ({ line with engine }.seating start after) := place_single only rfl
    rw [alone]
    exact { hosts with only := ⟨start, stage, rfl⟩ }
  rw [Line.hear_command attached, followAll]
  exact (placed _).followed (CommandSeat.hearAll_plain _ _ _)

theorem reacts (delivery : Delivery) :
    Hosts call command (line.after delivery) earlier
      (if line.isReachable then
        collection.hear command (line.after delivery).isReachable delivery.events
      else collection)
      (board.react (delivery.stimulus line.channel)).1 := by
  obtain ⟨start, stage, only⟩ := hosts.only
  cases reachable : line.isReachable with
  | true =>
    rw [if_pos rfl, react_reachable only reachable]
    exact hosts.heard stage only _ delivery.events
  | false =>
    have same : line.after delivery = line := by simp [Line.after, reachable]
    rw [if_neg nofun, react_unreachable only reachable, same]
    exact hosts

theorem turned (turn : CallId) :
    Hosts call command line earlier collection { board with turn } := { hosts with }

theorem steps (delivery : Delivery) :
    Hosts call command (line.after delivery) (earlier ++ board.notices)
      (if line.isReachable then
        collection.hear command (line.after delivery).isReachable delivery.events
      else collection).read.read
      (board.step (delivery.stimulus line.channel)).1 := by
  have anew : Hosts call command line (earlier ++ board.notices) collection { board with notices := [] } :=
    { hosts with answers := by simpa using hosts.answers }
  exact (anew.reacts delivery).caught_up.turned _

end Hosts

-- One execution from the board down to what the caller has been told.
def Serves (call : CallId) (command : String) (line : Line) (earlier : List Notice)
    (heard : List ChannelEvent) (board : Switchboard) : Prop :=
  ∃ collection, Hosts call command line earlier collection board ∧ Attends command heard collection ∧
    (.closed ∈ heard → collection.caller = .told (outcome command heard))

namespace Serves

variable {heard : List ChannelEvent}

theorem step (serves : Serves call command line earlier heard board) (delivery : Delivery) :
    Serves call command (line.after delivery) (earlier ++ board.notices)
      (heard ++ if line.isReachable then delivery.events else [])
      (board.step (delivery.stimulus line.channel)).1 := by
  obtain ⟨collection, hosts, attends, told⟩ := serves
  have attended : Attends command (heard ++ if line.isReachable then delivery.events else [])
      (if line.isReachable then
        collection.hear command (line.after delivery).isReachable delivery.events
      else collection) := by
    split
    · exact attends.hears _ delivery.events
    · simpa using attends
  refine ⟨_, hosts.steps delivery, attended.reads.reads, ?_⟩
  intro closed
  obtain ⟨seat, spent, read⟩ := attended.reads.reads_closed closed
  rw [read]

theorem run (serves : Serves call command line earlier heard board) (deliveries : List Delivery)
    (closed : .closed ∈ heard ++ line.brought deliveries) :
    answersTo call (earlier ++ board.notices ++
        (board.run (deliveries.map (Delivery.stimulus line.channel))).flatMap Report.notices) =
      [answerOf (outcome command (heard ++ line.brought deliveries))] := by
  induction deliveries generalizing line earlier heard board with
  | nil =>
    obtain ⟨collection, hosts, attends, told⟩ := serves
    simp only [Line.brought, List.append_nil] at closed ⊢
    simp [Switchboard.run, hosts.answers, told closed, Caller.answers]
  | cons delivery deliveries ih =>
    have rest := ih (serves.step delivery)
    simp only [Line.brought, ← List.append_assoc] at closed rest ⊢
    have answered := rest closed
    simp only [List.append_assoc] at answered ⊢
    exact answered

end Serves

-- Both promises are answered once, and whoever collects is told the same in whatever rhythm.
theorem collected_as_said {heard : List ChannelEvent} (closed : .closed ∈ heard) (command : String)
    (start ending : Ticket) :
    Exec.Execution.settlements start ending heard =
        [.answer start (startVerdict heard), .answer ending (endVerdict heard)] ∧
      (startVerdict heard = .ok () ↔
        ∃ before after, heard = before ++ .success :: after ∧ .failure ∉ before ∧ .closed ∉ before) ∧
      (startVerdict heard = .ok () →
        (∃ event ∈ beforeClose heard, event = .eof ∨ ∃ status, event = .exitStatus status) →
        outcome command heard = .ok
          ⟨command, standardOf (beforeClose heard), errorOf (beforeClose heard),
            statusOf (beforeClose heard)⟩) ∧
      (¬(startVerdict heard = .ok () ∧
          ∃ event ∈ beforeClose heard, event = .eof ∨ ∃ status, event = .exitStatus status) →
        outcome command heard = .error .unknown) ∧
      (∀ occasions more answer, Collection.heardIn occasions ++ more = heard →
        (occasions.foldl (Collection.attend command) (.begun command)).caller = .told answer →
        answer = outcome command heard) ∧
      (∀ occasions, Collection.heardIn occasions = heard →
        (occasions.foldl (Collection.attend command) (.begun command)).read.caller =
          .told (outcome command heard)) ∧
      (∀ call line board, Hosts call command line [] (.begun command) board →
        ∀ deliveries, line.brought deliveries = heard →
          answersTo call
              ((board.run (deliveries.map (Delivery.stimulus line.channel))).flatMap Report.notices) =
            [answerOf (outcome command heard)]) := by
  have started : startVerdict heard = .ok () ↔ isAccepted heard = true := by
    simp [startVerdict]
  refine ⟨Exec.Execution.settlements_closed start ending closed, started.trans (Exec.accepted_iff heard),
    ?_, ?_, ?_, ?_, ?_⟩
  · intro accepted told
    rw [outcome, started.mp accepted, (Exec.clean_iff heard).mpr told]
    rfl
  · intro untold
    rw [started, ← Exec.clean_iff] at untold
    simp [outcome, untold]
  · intro occasions more answer same told
    have attends := (Attends.begun command).run occasions
    rw [List.nil_append] at attends
    rw [← same]
    exact attends.told_only told more
  · intro occasions same
    have attends := (Attends.begun command).run occasions
    rw [List.nil_append, same] at attends
    obtain ⟨seat, spent, read⟩ := attends.reads_closed closed
    rw [read]
  · intro call line board hosts deliveries same
    have silent : answersTo call board.notices = [] := hosts.answers
    have serves : Serves call command line [] [] board :=
      ⟨_, hosts, .begun command, fun never => absurd never List.not_mem_nil⟩
    have answered := serves.run deliveries
    rw [List.nil_append, List.nil_append, same, answersTo_append, silent] at answered
    exact answered closed

def dating : Switchboard :=
  [.called (.connect 5), .connectAnswered 1 (.ok ()), .authAnswered 1 (.ok ()),
    .called (.venture (.command "date" true) 5), .openAnswered 1 (.ok ()) false].foldl
    (fun board stimulus => (board.step stimulus).1)
    { host := "host", port := 22, credentials := { username := "user", method := .none } }

def datingLine : Line :=
  { channel := 1, origin := 3, ticket := 3, deadline := 5, seat := .ofVenture (.command "date" true)
    engine := .carrying, attached := true }

-- The status is told first, and nothing that follows the acknowledgement replaces it.
def datingDeliveries : List Delivery :=
  [.brings (.exitStatus 0) false, .brings (.data [77]) false, .brings .success false,
    .brings (.exitStatus 1) false, .brings .failure false, .brings .eof false,
    .brings (.data [111, 110]) true, .brings (.data [33]) false]

theorem collected_as_said_early_status :
    answersTo 3 ((dating.run (datingDeliveries.map (Delivery.stimulus 1))).flatMap Report.notices) =
      [.ok (.capture ⟨"date", [77, 111, 110], [], some 0⟩)] := by
  have hosts : Hosts 3 "date" datingLine [] (.begun "date") dating :=
    { only := ⟨⟨.starting, true⟩, rfl, by rfl⟩
      attached := rfl
      timely := by decide +kernel
      pending := by rfl
      answers := by decide +kernel
      held := by decide +kernel
      read := by decide +kernel
      settled := by decide +kernel }
  have closed : .closed ∈ datingLine.brought datingDeliveries := by decide
  exact (collected_as_said closed "date" 0 1).2.2.2.2.2.2 3 datingLine dating hosts datingDeliveries rfl

end SecureShell.Switchboard
