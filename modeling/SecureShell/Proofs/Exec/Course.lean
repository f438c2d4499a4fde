import Mathlib.Data.List.Induction
import SecureShell.Exec.Session
import SecureShell.Exec.Stream
import SecureShell.Proofs.Custody

namespace SecureShell.Exec

def beforeClose (heard : List ChannelEvent) : List ChannelEvent := heard.takeWhile (· ≠ .closed)

-- The first answer to the request for the command counts.
def answered? (events : List ChannelEvent) : Option Bool :=
  events.findSome? fun
    | .success => some true
    | .failure => some false
    | _ => none

def standardOf (events : List ChannelEvent) : Octets :=
  events.flatMap fun
    | .data data => data
    | _ => []

def errorOf (events : List ChannelEvent) : Octets :=
  events.flatMap fun
    | .extendedData data => data
    | _ => []

def statusOf (events : List ChannelEvent) : Option UInt32 :=
  events.findSome? fun
    | .exitStatus status => some status
    | _ => none

-- Everything that was said before the close, if it is to be told at all.
def captured (command : String) (events : List ChannelEvent) : Capture :=
  ⟨command, standardOf events, errorOf events, statusOf events⟩

def isAccepted (heard : List ChannelEvent) : Bool := answered? (beforeClose heard) = some true

-- Something told of the end before the channel was closed.
def isClean (heard : List ChannelEvent) : Bool :=
  (beforeClose heard).any fun
    | .exitStatus _ | .eof => true
    | _ => false

def startVerdict (heard : List ChannelEvent) : Verdict :=
  if isAccepted heard then .ok () else .error .unknown

def endVerdict (heard : List ChannelEvent) : Verdict :=
  if isAccepted heard && isClean heard then .ok () else .error .unknown

def outcome (command : String) (heard : List ChannelEvent) : Except ConnectionFault Capture :=
  if isAccepted heard && isClean heard then .ok (captured command (beforeClose heard))
  else .error .unknown

-- Nothing that comes later changes how the command ends.
def Decided (heard : List ChannelEvent) : Prop :=
  .closed ∈ heard ∨ answered? (beforeClose heard) = some false

namespace Execution

def underway (phase : Phase) (events : List ChannelEvent) (ending : Ticket) : Execution :=
  ⟨phase, statusOf events, .eof ∈ events, some ending⟩

def actionFor (events : List ChannelEvent) : ChannelEvent → Action
  | .data data => .forward (.standard data)
  | .extendedData data => .forward (.error data)
  | .exitStatus status => if (statusOf events).isSome then .none else .forward (.status status)
  | .eof => .close
  | .success | .failure | .closed => .none

def machine : Machine Execution Event Step := ⟨advance, Step.next⟩

def Action.outputs : Action → List Output
  | .forward output => [output]
  | .none | .sendExec | .close => []

def requested (start ending : Ticket) : Execution := { phase := .awaiting start, ending := some ending }

def settlements (start ending : Ticket) (heard : List ChannelEvent) : List (Settlement Verdict) :=
  machine.collect Step.settled (requested start ending) (heard.map Session.ofChannel)

-- How a command stands after what was heard, and what it has settled by then.
inductive Standing (start ending : Ticket) (heard : List ChannelEvent) :
    Execution → List (Settlement Verdict) → Prop
  | awaiting (unclosed : .closed ∉ heard) (unanswered : answered? heard = none) :
      Standing start ending heard (underway (.awaiting start) heard ending) []
  | running (unclosed : .closed ∉ heard) (accepted : answered? heard = some true) :
      Standing start ending heard (underway .running heard ending) [.answer start (.ok ())]
  | ended (decided : Decided heard) (spent : execution.phase = .ended) :
      Standing start ending heard execution
        [.answer start (startVerdict heard), .answer ending (endVerdict heard)]

end Execution

variable {heard events more : List ChannelEvent} {event : ChannelEvent} {command : String}

theorem beforeClose_append (unclosed : .closed ∉ heard) (more : List ChannelEvent) :
    beforeClose (heard ++ more) = heard ++ beforeClose more := by
  rw [beforeClose, List.takeWhile_append_of_pos]
  · rfl
  · intro event member
    rw [decide_eq_true_eq]
    intro closed
    rw [closed] at member
    exact unclosed member

theorem beforeClose_open (unclosed : .closed ∉ heard) : beforeClose heard = heard := by
  simpa [beforeClose] using beforeClose_append unclosed []

theorem beforeClose_closed (unclosed : .closed ∉ events) (more : List ChannelEvent) :
    beforeClose (events ++ .closed :: more) = events := by
  rw [beforeClose_append unclosed]
  simp [beforeClose]

theorem beforeClose_final (closed : .closed ∈ heard) (more : List ChannelEvent) :
    beforeClose (heard ++ more) = beforeClose heard := by
  induction heard with
  | nil => cases closed
  | cons first heard ih =>
    by_cases same : first = .closed
    · simp [beforeClose, same]
    · have rest : .closed ∈ heard := (List.mem_cons.mp closed).resolve_left (Ne.symm same)
      simpa [beforeClose, same] using ih rest

theorem answered_append (events more : List ChannelEvent) :
    answered? (events ++ more) = (answered? events).or (answered? more) := List.findSome?_append

theorem statusOf_append (events more : List ChannelEvent) :
    statusOf (events ++ more) = (statusOf events).or (statusOf more) := List.findSome?_append

theorem rejected_append (rejected : answered? (beforeClose heard) = some false)
    (more : List ChannelEvent) : answered? (beforeClose (heard ++ more)) = some false := by
  by_cases closed : .closed ∈ heard
  · rwa [beforeClose_final closed]
  · rw [beforeClose_open closed] at rejected
    rw [beforeClose_append closed, answered_append, rejected]
    rfl

namespace Decided

variable (decided : Decided heard) (more : List ChannelEvent)

include decided

theorem append : Decided (heard ++ more) := by
  rcases decided with closed | rejected
  · exact .inl (List.mem_append_left _ closed)
  · exact .inr (rejected_append rejected more)

theorem accepted_append : isAccepted (heard ++ more) = isAccepted heard := by
  rcases decided with closed | rejected
  · rw [isAccepted, isAccepted, beforeClose_final closed]
  · rw [isAccepted, isAccepted, rejected_append rejected more, rejected]

theorem start_append : startVerdict (heard ++ more) = startVerdict heard := by
  rw [startVerdict, startVerdict, decided.accepted_append]

theorem end_append : endVerdict (heard ++ more) = endVerdict heard := by
  rw [endVerdict, endVerdict, decided.accepted_append]
  rcases decided with closed | rejected
  · rw [isClean, isClean, beforeClose_final closed]
  · simp [isAccepted, rejected]

theorem outcome_append (command : String) :
    outcome command (heard ++ more) = outcome command heard := by
  rw [outcome, outcome, decided.accepted_append]
  rcases decided with closed | rejected
  · rw [isClean, isClean, beforeClose_final closed]
  · simp [isAccepted, rejected]

end Decided

theorem accepted_closed (unclosed : .closed ∉ heard) (more : List ChannelEvent) :
    isAccepted (heard ++ .closed :: more) = decide (answered? heard = some true) := by
  rw [isAccepted, beforeClose_closed unclosed]

theorem any_telling (events : List ChannelEvent) :
    (events.any fun
      | .exitStatus _ | .eof => true
      | _ => false) = ((statusOf events).isSome || decide (.eof ∈ events)) := by
  induction events with
  | nil => rfl
  | cons event events ih =>
    rw [List.any_cons, ih]
    cases event <;> simp [statusOf]

theorem accepted_iff (heard : List ChannelEvent) : isAccepted heard = true ↔
    ∃ before after, heard = before ++ .success :: after ∧ .failure ∉ before ∧ .closed ∉ before := by
  constructor
  · intro accepted
    induction heard with
    | nil => cases accepted
    | cons event heard ih =>
      cases event with
      | success => exact ⟨[], heard, rfl, List.not_mem_nil, List.not_mem_nil⟩
      | failure | closed => cases accepted
      | data | extendedData | exitStatus | eof =>
        obtain ⟨before, after, rfl, unrejected, unclosed⟩ := ih accepted
        exact ⟨_ :: before, after, rfl, by simp [unrejected], by simp [unclosed]⟩
  · intro said
    obtain ⟨before, after, rfl, unrejected, unclosed⟩ := said
    induction before with
    | nil => rfl
    | cons event before ih =>
      have later := ih (mt (List.mem_cons_of_mem _) unrejected) (mt (List.mem_cons_of_mem _) unclosed)
      cases event with
      | success => rfl
      | failure => exact absurd List.mem_cons_self unrejected
      | closed => exact absurd List.mem_cons_self unclosed
      | data | extendedData | exitStatus | eof => exact later

theorem clean_iff (heard : List ChannelEvent) : isClean heard = true ↔
    ∃ event ∈ beforeClose heard, event = .eof ∨ ∃ status, event = .exitStatus status := by
  rw [isClean, List.any_eq_true]
  refine exists_congr fun event => and_congr_right fun _ => ?_
  cases event <;> simp

theorem refused (unclosed : .closed ∉ heard) (unanswered : answered? heard = none)
    (fails : event = .failure ∨ event = .closed) :
    Decided (heard ++ [event]) ∧ isAccepted (heard ++ [event]) = false := by
  rcases fails with rfl | rfl
  · have rejected : answered? (beforeClose (heard ++ [.failure])) = some false := by
      rw [beforeClose_append unclosed, answered_append, unanswered]
      rfl
    exact ⟨.inr rejected, by simp [isAccepted, rejected]⟩
  · refine ⟨.inl (List.mem_append_right _ List.mem_cons_self), ?_⟩
    rw [accepted_closed unclosed, unanswered]
    rfl

theorem unclosed_append (unclosed : .closed ∉ heard) (goes : event ≠ .closed) :
    .closed ∉ heard ++ [event] := by
  intro member
  rcases List.mem_append.mp member with before | last
  · exact unclosed before
  · exact goes (List.mem_singleton.mp last).symm

namespace Execution

variable {phase : Phase} {start ending : Ticket} {execution : Execution}
  {settled : List (Settlement Verdict)}

theorem underway_ongoing (runs : execution = underway phase events ending) (ongoing : phase ≠ .ended) :
    execution.phase ≠ .ended := by
  rw [runs]
  exact ongoing

theorem progress_underway (unclosed : event ≠ .closed) :
    (underway phase events ending).progress (Session.ofChannel event) =
      { next := underway phase (events ++ [event]) ending, action := actionFor events event } := by
  cases event with
  | closed => exact absurd rfl unclosed
  | exitStatus status =>
    have last : statusOf [.exitStatus status] = some status := rfl
    cases known : statusOf events <;>
      simp [underway, progress, Session.ofChannel, actionFor, statusOf_append, last, known]
  | data | extendedData | success | failure | eof =>
    simp [underway, progress, Session.ofChannel, actionFor, statusOf]

theorem actionFor_unsent (events : List ChannelEvent) (event : ChannelEvent) :
    actionFor events event ≠ .sendExec := by
  cases event with
  | exitStatus status =>
    rw [actionFor]
    split <;> nofun
  | data | extendedData | success | failure | eof | closed => nofun

theorem captured_append (command : String) (events : List ChannelEvent) (event : ChannelEvent) :
    (actionFor events event).outputs.foldl Capture.push (captured command events) =
      captured command (events ++ [event]) := by
  cases event with
  | exitStatus status =>
    have last : statusOf [.exitStatus status] = some status := rfl
    cases known : statusOf events <;>
      simp [actionFor, known, captured, Action.outputs, Capture.push, standardOf, errorOf,
        statusOf_append, last]
  | data | extendedData | success | failure | eof | closed =>
    simp [actionFor, captured, Action.outputs, Capture.push, standardOf, errorOf, statusOf]

theorem verdict_underway (unclosed : .closed ∉ heard) (accepted : answered? heard = some true) :
    (underway .running heard ending).verdict = endVerdict (heard ++ [.closed]) := by
  rw [endVerdict, accepted_closed unclosed, accepted, isClean, beforeClose_closed unclosed, any_telling]
  simp [verdict, underway]

theorem advance_awaiting (events : List ChannelEvent) (start ending : Ticket) (unclosed : event ≠ .closed)
    (undecided : answered? [event] = none) :
    (underway (.awaiting start) events ending).advance (Session.ofChannel event) =
      { next := underway (.awaiting start) (events ++ [event]) ending
        action := actionFor events event } := by
  rw [← progress_underway unclosed]
  cases event with
  | success | failure => cases undecided
  | closed => exact absurd rfl unclosed
  | data | extendedData | exitStatus | eof => rfl

theorem advance_running (events : List ChannelEvent) (ending : Ticket) (unclosed : event ≠ .closed) :
    (underway .running events ending).advance (Session.ofChannel event) =
      { next := underway .running (events ++ [event]) ending, action := actionFor events event } := by
  rw [← progress_underway unclosed]
  cases event <;> rfl

theorem advance_accepted (start : Ticket) :
    (underway (.awaiting start) events ending).advance (Session.ofChannel .success) =
      { next := underway .running (events ++ [.success]) ending, settled := [.answer start (.ok ())] } := by
  simp [advance, underway, Session.ofChannel, statusOf]

theorem advance_ended (spent : execution.phase = .ended) (event : ChannelEvent) :
    execution.advance (Session.ofChannel event) = { next := execution } := by
  cases event <;> simp [advance, spent, Session.ofChannel]

theorem advance_failed (events : List ChannelEvent) (start ending : Ticket)
    (fails : event = .failure ∨ event = .closed) :
    ((underway (.awaiting start) events ending).advance (Session.ofChannel event)).next.phase = .ended ∧
      ((underway (.awaiting start) events ending).advance (Session.ofChannel event)).settled =
        [.answer start (.error .unknown), .answer ending (.error .unknown)] := by
  rcases fails with rfl | rfl <;> exact ⟨rfl, rfl⟩

theorem advance_closed (events : List ChannelEvent) (ending : Ticket) :
    ((underway .running events ending).advance (Session.ofChannel .closed)).next.phase = .ended ∧
      ((underway .running events ending).advance (Session.ofChannel .closed)).settled =
        [.answer ending (underway .running events ending).verdict] := ⟨rfl, rfl⟩

theorem Standing.step (standing : Standing start ending heard execution settled)
    (event : ChannelEvent) :
    Standing start ending (heard ++ [event]) (execution.advance (Session.ofChannel event)).next
      (settled ++ (execution.advance (Session.ofChannel event)).settled) := by
  cases standing with
  | awaiting unclosed unanswered =>
    by_cases fails : event = .failure ∨ event = .closed
    · obtain ⟨decided, unaccepted⟩ := refused unclosed unanswered fails
      obtain ⟨spent, settles⟩ := advance_failed heard start ending fails
      have ended : Standing start ending _ _ _ := .ended decided spent
      rw [settles]
      simpa [startVerdict, endVerdict, unaccepted] using ended
    · obtain ⟨answered, goes⟩ := not_or.mp fails
      by_cases accepted : event = .success
      · rw [accepted, advance_accepted]
        have now : answered? (heard ++ [.success]) = some true := by
          rw [answered_append, unanswered]
          rfl
        exact .running (unclosed_append unclosed nofun) now
      · have undecided : answered? [event] = none := by
          cases event <;> first | rfl | contradiction
        rw [advance_awaiting heard start ending goes undecided]
        refine .awaiting (unclosed_append unclosed goes) ?_
        rw [answered_append, unanswered, undecided]
        rfl
  | running unclosed accepted =>
    by_cases closed : event = .closed
    · obtain ⟨spent, settles⟩ := advance_closed heard ending
      have decided : Decided (heard ++ [.closed]) := .inl (List.mem_append_right _ List.mem_cons_self)
      have started : startVerdict (heard ++ [.closed]) = .ok () := by
        rw [startVerdict, accepted_closed unclosed, accepted]
        rfl
      have ended : Standing start ending _ _ _ := .ended decided spent
      rw [closed, settles, verdict_underway unclosed accepted]
      simpa [started] using ended
    · rw [advance_running heard ending closed]
      refine .running (unclosed_append unclosed closed) ?_
      rw [answered_append, accepted]
      rfl
  | ended decided spent =>
    rw [advance_ended spent]
    have ended : Standing start ending _ _ _ := .ended (decided.append [event]) spent
    simpa [decided.start_append, decided.end_append] using ended

theorem standing_reached (start ending : Ticket) (heard : List ChannelEvent) :
    Standing start ending heard
      (machine.reach (requested start ending) (heard.map Session.ofChannel))
      (settlements start ending heard) := by
  induction heard using List.reverseRecOn with
  | nil => exact .awaiting List.not_mem_nil rfl
  | append_singleton heard event ih =>
    have step := ih.step event
    rw [settlements] at step ⊢
    rw [List.map_append, List.map_singleton, Machine.reach_append, machine.collect_concat]
    exact step

theorem settlements_closed (start ending : Ticket) (closed : .closed ∈ heard) :
    settlements start ending heard =
      [.answer start (startVerdict heard), .answer ending (endVerdict heard)] := by
  have standing := standing_reached start ending heard
  generalize machine.reach _ _ = execution at standing
  generalize settlements start ending heard = settled at standing ⊢
  cases standing with
  | awaiting unclosed | running unclosed => exact absurd closed unclosed
  | ended => rfl

end Execution

namespace Session

variable {session : Session}

theorem onEvent_ended (spent : session.execution.phase = .ended) (reachable : Bool)
    (event : ChannelEvent) : session.onEvent reachable event = (session, []) := by
  simp [onEvent, Execution.isEnded, spent]

theorem onEvent_going (going : session.execution.phase ≠ .ended) (reachable : Bool)
    (event : ChannelEvent) :
    session.onEvent reachable event = session.trigger reachable (ofChannel event) := by
  simp [onEvent, Execution.isEnded, going]

end Session
end SecureShell.Exec
