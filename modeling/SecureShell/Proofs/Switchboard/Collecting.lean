import SecureShell.Proofs.Exec.Course
import SecureShell.Proofs.Exec.Reading
import SecureShell.Switchboard.Line

namespace SecureShell.Switchboard
open Exec (Capture Execution Output Verdict Stream answered? beforeClose captured isAccepted isClean
  startVerdict endVerdict outcome Decided)
open Exec.Execution (underway)

inductive Caller
  | waiting
  | collecting (capture : Capture)
  | told (answer : Except ConnectionFault Capture)
  deriving DecidableEq

structure Collection where
  seat : CommandSeat
  caller : Caller := .waiting
  deriving DecidableEq

-- The channel brings something, or the caller reads on. Both come whenever they like.
inductive Occasion
  | hears (reachable : Bool) (events : List ChannelEvent)
  | reads
  deriving DecidableEq

def Effect.report? : Effect → Option Verdict
  | .report verdict => some verdict
  | _ => none

def CommandSeat.hearAll (reachable : Bool) (seat : CommandSeat) (events : List ChannelEvent) :
    CommandSeat × List Effect := absorb (CommandSeat.hear reachable) seat events

namespace Collection

def informed (command : String) (collection : Collection) (verdict : Verdict) : Collection :=
  match collection.caller, verdict with
  | .waiting, .ok () => { collection with caller := .collecting { command } }
  | .waiting, .error fault => ⟨collection.seat.abandon, .told (.error fault)⟩
  | _, _ => collection

def hear (command : String) (reachable : Bool) (collection : Collection)
    (events : List ChannelEvent) : Collection :=
  let (seat, effects) := collection.seat.hearAll reachable events
  (effects.filterMap Effect.report?).foldl (informed command) { collection with seat }

def read (collection : Collection) : Collection :=
  match collection.caller with
  | .collecting capture =>
    let (result, capture, stream) := capture.collect collection.seat.stream
    ⟨collection.seat.read stream, result.elim (.collecting capture) .told⟩
  | _ => collection

def attend (command : String) (collection : Collection) : Occasion → Collection
  | .hears reachable events => collection.hear command reachable events
  | .reads => collection.read

def heardIn (occasions : List Occasion) : List ChannelEvent :=
  occasions.flatMap fun
    | .hears _ events => events
    | .reads => []

def begun (command : String) : Collection :=
  ⟨((⟨.fresh command, {}, .untouched⟩ : CommandSeat).begin true).1, .waiting⟩

-- What has become of a command after what was heard, whatever was read of it in between.
inductive Attends (command : String) (heard : List ChannelEvent) : Collection → Prop
  | waiting {seat : CommandSeat} (unclosed : .closed ∉ heard) (unanswered : answered? heard = none)
      (runs : seat.session.execution =
        underway (.awaiting Exec.Session.startTicket) heard Exec.Session.endingTicket)
      (stream : seat.stream = .running queue)
      (said : queue.foldl Capture.push { command } = captured command heard) :
      Attends command heard ⟨seat, .waiting⟩
  | collecting {seat : CommandSeat} (unclosed : .closed ∉ heard) (accepted : answered? heard = some true)
      (runs : seat.session.execution = underway .running heard Exec.Session.endingTicket)
      (stream : seat.stream = .running queue)
      (said : queue.foldl Capture.push capture = captured command heard) :
      Attends command heard ⟨seat, .collecting capture⟩
  | closing {seat : CommandSeat} (closed : .closed ∈ heard) (accepted : isAccepted heard = true)
      (spent : seat.session.execution.phase = .ended)
      (stream : seat.stream = .closing queue (endVerdict heard))
      (said : queue.foldl Capture.push capture = captured command (beforeClose heard)) :
      Attends command heard ⟨seat, .collecting capture⟩
  | told {seat : CommandSeat} (decided : Decided heard)
      (spent : seat.session.execution.phase = .ended) :
      Attends command heard ⟨seat, .told (outcome command heard)⟩

end Collection

variable {command : String} {heard events : List ChannelEvent} {event : ChannelEvent}
  {seat : CommandSeat} {collection : Collection} {reachable : Bool}

namespace CommandSeat

theorem hear_ended (spent : seat.session.execution.phase = .ended) (event : ChannelEvent) :
    seat.hear reachable event = (seat, []) := by
  rw [hear, Exec.Session.onEvent_ended spent]
  rfl

theorem hear_going (going : seat.session.execution.phase ≠ .ended) (event : ChannelEvent) :
    seat.hear reachable event =
      seat.follow (seat.session.trigger reachable (Exec.Session.ofChannel event)) := by
  rw [hear, Exec.Session.onEvent_going going]

theorem hear_goes {next : Execution} {action : Execution.Action}
    (going : seat.session.execution.phase ≠ .ended) (goes : next.phase ≠ .ended)
    (unsent : action ≠ .sendExec)
    (stepped : seat.session.execution.advance (Exec.Session.ofChannel event) = { next, action }) :
    (seat.hear reachable event).1 =
        { seat with
          session := { seat.session with execution := next }
          stream := { seat.stream with queue := seat.stream.queue ++ action.outputs } } ∧
      (seat.hear reachable event).2.filterMap Effect.report? = [] := by
  have still : next.isEnded = false := by simp [Execution.isEnded, goes]
  rw [hear_going going, Exec.Session.trigger, stepped]
  cases action with
  | sendExec => exact absurd rfl unsent
  | none =>
    simp [still, Exec.Session.perform, Exec.Session.settleAll, follow, absorb, Execution.Action.outputs]
  | forward output =>
    simp [still, Exec.Session.perform, Exec.Session.settleAll, follow, absorb, take,
      Execution.Action.outputs]
  | close =>
    cases reachable <;>
      simp [still, Exec.Session.perform, Exec.Session.settleAll, Exec.Session.put, follow, absorb, take,
        Execution.Action.outputs, Effect.report?]

theorem hear_accepted
    (runs : seat.session.execution =
      underway (.awaiting Exec.Session.startTicket) heard Exec.Session.endingTicket) :
    (seat.hear reachable .success).1 =
        { seat with
          session := { seat.session with
            execution := underway .running (heard ++ [.success]) Exec.Session.endingTicket } } ∧
      (seat.hear reachable .success).2.filterMap Effect.report? = [.ok ()] := by
  have going := Execution.underway_ongoing runs nofun
  rw [hear_going going, Exec.Session.trigger, runs, Execution.advance_accepted]
  exact ⟨rfl, rfl⟩

theorem hear_failed (fails : event = .failure ∨ event = .closed)
    (runs : seat.session.execution =
      underway (.awaiting Exec.Session.startTicket) heard Exec.Session.endingTicket) :
    (seat.hear reachable event).1.session.execution.phase = .ended ∧
      (seat.hear reachable event).2.filterMap Effect.report? = [.error .unknown] := by
  have going := Execution.underway_ongoing runs nofun
  rw [hear_going going, Exec.Session.trigger, runs]
  rcases fails with rfl | rfl
  · cases reachable <;> exact ⟨rfl, rfl⟩
  · exact ⟨rfl, rfl⟩

theorem hear_closed (runs : seat.session.execution = underway .running heard Exec.Session.endingTicket) :
    (seat.hear reachable .closed).1.session.execution.phase = .ended ∧
      (seat.hear reachable .closed).1.stream =
        { seat.stream with
          sourceGone := true
          verdict := some (underway .running heard Exec.Session.endingTicket).verdict } ∧
      (seat.hear reachable .closed).2.filterMap Effect.report? = [] := by
  have going := Execution.underway_ongoing runs nofun
  rw [hear_going going, Exec.Session.trigger, runs]
  exact ⟨rfl, rfl, rfl⟩

theorem take_abandon (seat : CommandSeat) (effect : Exec.Session.Effect) :
    take seat.abandon effect = ((take seat effect).1.abandon, (take seat effect).2) := by
  cases effect <;> rfl

theorem absorb_abandon (seat : CommandSeat) (effects : List Exec.Session.Effect) :
    absorb take seat.abandon effects =
      ((absorb take seat effects).1.abandon, (absorb take seat effects).2) := by
  induction effects generalizing seat with
  | nil => rfl
  | cons effect effects ih => simp only [absorb, take_abandon, ih]

theorem hear_abandon (seat : CommandSeat) (event : ChannelEvent) :
    seat.abandon.hear reachable event =
      ((seat.hear reachable event).1.abandon, (seat.hear reachable event).2) :=
  absorb_abandon { seat with session := _ } _

theorem hearAll_abandon (seat : CommandSeat) (events : List ChannelEvent) :
    seat.abandon.hearAll reachable events =
      ((seat.hearAll reachable events).1.abandon, (seat.hearAll reachable events).2) := by
  induction events generalizing seat with
  | nil => rfl
  | cons event events ih =>
    have rest := ih (seat.hear reachable event).1
    simp only [hearAll, absorb, hear_abandon] at rest ⊢
    rw [rest]

end CommandSeat

namespace Collection

theorem informed_hearAll (command : String) (reachable : Bool) (collection : Collection)
    (verdict : Verdict) (events : List ChannelEvent) :
    ((informed command collection verdict).seat.hearAll reachable events).2 =
        (collection.seat.hearAll reachable events).2 ∧
      { informed command collection verdict with
          seat := ((informed command collection verdict).seat.hearAll reachable events).1 } =
        informed command
          { collection with seat := (collection.seat.hearAll reachable events).1 } verdict := by
  obtain ⟨seat, caller⟩ := collection
  cases caller with
  | collecting capture => exact ⟨rfl, rfl⟩
  | told answer => exact ⟨rfl, rfl⟩
  | waiting =>
    cases verdict with
    | ok _ => exact ⟨rfl, rfl⟩
    | error fault =>
      simp only [informed, CommandSeat.hearAll_abandon]
      exact ⟨trivial, trivial⟩

theorem informedAll_hearAll (command : String) (reachable : Bool) (collection : Collection)
    (verdicts : List Verdict) (events : List ChannelEvent) :
    ((verdicts.foldl (informed command) collection).seat.hearAll reachable events).2 =
        (collection.seat.hearAll reachable events).2 ∧
      { verdicts.foldl (informed command) collection with
          seat := ((verdicts.foldl (informed command) collection).seat.hearAll reachable events).1 } =
        verdicts.foldl (informed command)
          { collection with seat := (collection.seat.hearAll reachable events).1 } := by
  induction verdicts generalizing collection with
  | nil => exact ⟨rfl, rfl⟩
  | cons verdict verdicts ih =>
    obtain ⟨effects, same⟩ := ih (informed command collection verdict)
    obtain ⟨first, told⟩ := informed_hearAll command reachable collection verdict events
    rw [List.foldl_cons, List.foldl_cons, ← told]
    exact ⟨effects.trans first, same⟩

theorem hear_one (collection : Collection) (event : ChannelEvent) :
    collection.hear command reachable [event] =
      ((collection.seat.hear reachable event).2.filterMap Effect.report?).foldl (informed command)
        { collection with seat := (collection.seat.hear reachable event).1 } := by
  simp [hear, CommandSeat.hearAll, absorb]

theorem hear_cons (collection : Collection) (event : ChannelEvent) (events : List ChannelEvent) :
    collection.hear command reachable (event :: events) =
      (collection.hear command reachable [event]).hear command reachable events := by
  obtain ⟨effects, same⟩ := informedAll_hearAll command reachable
    { collection with seat := (collection.seat.hear reachable event).1 }
    ((collection.seat.hear reachable event).2.filterMap Effect.report?) events
  rw [hear_one]
  simp only [hear, CommandSeat.hearAll] at effects same ⊢
  rw [effects, same]
  simp only [absorb, List.filterMap_append, List.foldl_append]

namespace Attends

theorem hears_waiting {queue : List Output} (unclosed : .closed ∉ heard)
    (unanswered : answered? heard = none)
    (runs : seat.session.execution =
      underway (.awaiting Exec.Session.startTicket) heard Exec.Session.endingTicket)
    (stream : seat.stream = .running queue)
    (said : queue.foldl Capture.push { command } = captured command heard) (reachable : Bool)
    (event : ChannelEvent) :
    Attends command (heard ++ [event])
      (hear command reachable ⟨seat, .waiting⟩ [event]) := by
  rw [hear_one]
  by_cases fails : event = .failure ∨ event = .closed
  · obtain ⟨decided, unaccepted⟩ := Exec.refused unclosed unanswered fails
    obtain ⟨spent, reports⟩ := CommandSeat.hear_failed fails runs
    have result : outcome command (heard ++ [event]) = .error .unknown := by
      simp [outcome, unaccepted]
    have ended : Attends command (heard ++ [event])
        ⟨(seat.hear reachable event).1.abandon, .told (outcome command (heard ++ [event]))⟩ :=
      .told decided spent
    rw [result] at ended
    rw [reports]
    exact ended
  · obtain ⟨goes, unclosing⟩ := not_or.mp fails
    by_cases accepted : event = .success
    · obtain ⟨moved, reports⟩ := CommandSeat.hear_accepted runs
      rw [accepted, moved, reports]
      refine .collecting (Exec.unclosed_append unclosed (by simp)) ?_ rfl stream ?_
      · rw [Exec.answered_append, unanswered]
        rfl
      · exact said.trans (Execution.captured_append command heard .success)
    · have undecided : answered? [event] = none := by
        cases event <;> first | rfl | contradiction
      have stepped := Execution.advance_awaiting heard Exec.Session.startTicket
        Exec.Session.endingTicket unclosing undecided
      rw [← runs] at stepped
      obtain ⟨moved, reports⟩ := CommandSeat.hear_goes (by simp [runs, underway]) (by simp [underway])
        (Execution.actionFor_unsent heard event) stepped
      have told := Execution.captured_append command heard event
      rw [← said, ← List.foldl_append] at told
      rw [moved, reports, stream]
      refine .waiting (Exec.unclosed_append unclosed unclosing) ?_ rfl rfl told
      rw [Exec.answered_append, unanswered, undecided]
      rfl

theorem hears_collecting {queue : List Output} {capture : Capture} (unclosed : .closed ∉ heard)
    (accepted : answered? heard = some true)
    (runs : seat.session.execution = underway .running heard Exec.Session.endingTicket)
    (stream : seat.stream = .running queue)
    (said : queue.foldl Capture.push capture = captured command heard) (reachable : Bool)
    (event : ChannelEvent) :
    Attends command (heard ++ [event])
      (hear command reachable ⟨seat, .collecting capture⟩ [event]) := by
  rw [hear_one]
  by_cases closes : event = .closed
  · obtain ⟨spent, gone, reports⟩ := CommandSeat.hear_closed runs
    rw [Execution.verdict_underway unclosed accepted, stream] at gone
    have started : isAccepted (heard ++ [.closed]) = true := by
      rw [Exec.accepted_closed unclosed, accepted]
      rfl
    rw [closes, reports]
    refine .closing (List.mem_append_right _ List.mem_cons_self) started spent gone ?_
    rwa [Exec.beforeClose_closed unclosed]
  · have stepped := Execution.advance_running heard Exec.Session.endingTicket closes
    rw [← runs] at stepped
    obtain ⟨moved, reports⟩ := CommandSeat.hear_goes (by simp [runs, underway]) (by simp [underway])
      (Execution.actionFor_unsent heard event) stepped
    have told := Execution.captured_append command heard event
    rw [← said, ← List.foldl_append] at told
    rw [moved, reports, stream]
    refine .collecting (Exec.unclosed_append unclosed closes) ?_ rfl rfl told
    rw [Exec.answered_append, accepted]
    rfl

theorem hears_one (attends : Attends command heard collection) (reachable : Bool)
    (event : ChannelEvent) :
    Attends command (heard ++ [event]) (collection.hear command reachable [event]) := by
  cases attends with
  | waiting unclosed unanswered runs stream said =>
    exact hears_waiting unclosed unanswered runs stream said reachable event
  | collecting unclosed accepted runs stream said =>
    exact hears_collecting unclosed accepted runs stream said reachable event
  | closing closed accepted spent stream said =>
    have decided : Decided heard := .inl closed
    rw [← decided.accepted_append [event]] at accepted
    rw [← decided.end_append [event]] at stream
    rw [← Exec.beforeClose_final closed [event]] at said
    rw [hear_one, CommandSeat.hear_ended spent]
    exact .closing (List.mem_append_left _ closed) accepted spent stream said
  | told decided spent =>
    rw [hear_one, CommandSeat.hear_ended spent, ← decided.outcome_append [event]]
    exact .told (decided.append [event]) spent

theorem hears (attends : Attends command heard collection) (reachable : Bool)
    (events : List ChannelEvent) :
    Attends command (heard ++ events) (collection.hear command reachable events) := by
  induction events generalizing heard collection with
  | nil =>
    rw [List.append_nil]
    exact attends
  | cons event events ih =>
    rw [List.append_cons, hear_cons]
    exact ih (attends.hears_one reachable event)

theorem reads_closed (attends : Attends command heard collection) (closed : .closed ∈ heard) :
    ∃ seat : CommandSeat, seat.session.execution.phase = .ended ∧
      collection.read = ⟨seat, .told (outcome command heard)⟩ := by
  cases attends with
  | waiting unclosed | collecting unclosed => exact absurd closed unclosed
  | told decided spent => exact ⟨_, spent, rfl⟩
  | @closing queue capture seat closed accepted spent stream said =>
    cases clean : isClean heard with
    | true =>
      have verdict : endVerdict heard = .ok () := by simp [endVerdict, accepted, clean]
      have result : outcome command heard = .ok (captured command (beforeClose heard)) := by
        simp [outcome, accepted, clean]
      rw [verdict] at stream
      simp only [read, stream, Capture.collect_clean, said, result]
      exact ⟨seat.read { Stream.closing [] (.ok ()) with finished := true }, spent, rfl⟩
    | false =>
      have verdict : endVerdict heard = .error .unknown := by simp [endVerdict, clean]
      have result : outcome command heard = .error .unknown := by simp [outcome, clean]
      rw [verdict] at stream
      simp only [read, stream, Capture.collect_failed, result]
      exact ⟨seat.read { Stream.closing [] (.error .unknown) with finished := true }, spent, rfl⟩

theorem reads (attends : Attends command heard collection) : Attends command heard collection.read := by
  by_cases closed : .closed ∈ heard
  · obtain ⟨seat, spent, read⟩ := attends.reads_closed closed
    rw [read]
    exact .told (.inl closed) spent
  · cases attends with
    | waiting unclosed unanswered runs stream said =>
      exact .waiting unclosed unanswered runs stream said
    | collecting unclosed accepted runs stream said =>
      simp only [read, stream, Capture.collect_running]
      exact .collecting unclosed accepted runs rfl said
    | closing closing => exact absurd closing closed
    | told decided spent => exact .told decided spent

theorem run (attends : Attends command heard collection) (occasions : List Occasion) :
    Attends command (heard ++ heardIn occasions) (occasions.foldl (attend command) collection) := by
  induction occasions generalizing heard collection with
  | nil => simpa [heardIn] using attends
  | cons occasion occasions ih =>
    cases occasion with
    | hears reachable events =>
      have rest := ih (attends.hears reachable events)
      rw [List.append_assoc] at rest
      exact rest
    | reads => exact ih attends.reads

theorem begun (command : String) : Attends command [] (begun command) :=
  .waiting List.not_mem_nil rfl rfl rfl rfl

theorem told_only (attends : Attends command heard collection)
    {answer : Except ConnectionFault Capture} (told : collection.caller = .told answer)
    (more : List ChannelEvent) : answer = outcome command (heard ++ more) := by
  cases attends with
  | waiting | collecting | closing => cases told
  | told decided spent => exact (Caller.told.inj told).symm.trans (decided.outcome_append more command).symm

end Attends
end Collection
end SecureShell.Switchboard
