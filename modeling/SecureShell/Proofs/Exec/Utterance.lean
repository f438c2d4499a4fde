import SecureShell.Proofs.Exec.Course

namespace SecureShell.Exec

-- What is passed on to a reader, in order: all that comes out of the command, and the first
-- exit status, unless one has been told before.
def forwarded (told : Bool) : List ChannelEvent → List Output
  | [] => []
  | .data data :: events => .standard data :: forwarded told events
  | .extendedData data :: events => .error data :: forwarded told events
  | .exitStatus status :: events =>
    if told then forwarded true events else .status status :: forwarded true events
  | _ :: events => forwarded told events

def outputs (events : List ChannelEvent) : List Output := forwarded false (beforeClose events)

namespace Session

abbrev Heard := Bool × ChannelEvent

def machine : Machine Session Heard Outcome :=
  ⟨fun session heard => session.onEvent heard.1 heard.2, Prod.fst⟩

def said (command : String) (heard : List Heard) : List Effect :=
  ((fresh command).begin true).2 ++
    machine.collect Prod.snd ((fresh command).begin true).1 heard

def Effect.isAudible : Effect → Bool
  | .forward _ | .ended _ | .leave => true
  | .put _ | .started _ => false

-- What a reader can notice of a command, and what the session has come to by then.
inductive Voiced (events : List ChannelEvent) : Session → List Effect → Prop
  | awaiting {session : Session} (unclosed : .closed ∉ events) (unanswered : answered? events = none)
      (runs : session.execution = Execution.underway (.awaiting startTicket) events endingTicket) :
      Voiced events session ((forwarded false events).map .forward)
  | running {session : Session} (unclosed : .closed ∉ events) (accepted : answered? events = some true)
      (runs : session.execution = Execution.underway .running events endingTicket) :
      Voiced events session ((forwarded false events).map .forward)
  | ended {session : Session} (decided : Decided events) (spent : session.execution.phase = .ended)
      (whole : isAccepted events = true →
        told = (outputs events).map .forward ++ [.ended (endVerdict events), .leave]) :
      Voiced events session told

end Session

theorem forwarded_append (told : Bool) (events more : List ChannelEvent) :
    forwarded told (events ++ more) =
      forwarded told events ++ forwarded (told || (statusOf events).isSome) more := by
  induction events generalizing told with
  | nil => simp [forwarded, statusOf]
  | cons event events ih =>
    cases event with
    | exitStatus status => cases told <;> simp [forwarded, ih, statusOf]
    | data | extendedData | success | failure | eof | closed => simp [forwarded, ih, statusOf]

theorem outputs_actionFor (events : List ChannelEvent) (event : ChannelEvent) :
    (Execution.actionFor events event).outputs = forwarded (statusOf events).isSome [event] := by
  cases event with
  | exitStatus status =>
    cases known : statusOf events <;> simp [Execution.actionFor, known, forwarded, Execution.Action.outputs]
  | data | extendedData | success | failure | eof | closed => rfl

theorem forwarded_concat (events : List ChannelEvent) (event : ChannelEvent) :
    forwarded false (events ++ [event]) =
      forwarded false events ++ (Execution.actionFor events event).outputs := by
  rw [forwarded_append, outputs_actionFor, Bool.false_or]

namespace Session

variable {events : List ChannelEvent} {event : ChannelEvent} {session : Session} {told : List Effect}

theorem onEvent_goes {next : Execution} {action : Execution.Action}
    (going : session.execution.phase ≠ .ended) (goes : next.phase ≠ .ended)
    (unsent : action ≠ .sendExec)
    (stepped : session.execution.advance (ofChannel event) = { next, action }) (reachable : Bool) :
    (session.onEvent reachable event).1.execution = next ∧
      (session.onEvent reachable event).2.filter Effect.isAudible = action.outputs.map .forward := by
  have still : next.isEnded = false := by simp [Execution.isEnded, goes]
  rw [onEvent_going going, trigger, stepped]
  cases action with
  | sendExec => exact absurd rfl unsent
  | none | forward output =>
    simp [still, perform, settleAll, Execution.Action.outputs, Effect.isAudible]
  | close =>
    cases reachable <;>
      simp [still, perform, settleAll, put, Execution.Action.outputs, Effect.isAudible]

theorem onEvent_accepted (reachable : Bool)
    (runs : session.execution = Execution.underway (.awaiting startTicket) events endingTicket) :
    (session.onEvent reachable .success).1.execution =
        Execution.underway .running (events ++ [.success]) endingTicket ∧
      (session.onEvent reachable .success).2.filter Effect.isAudible = [] := by
  have going := Execution.underway_ongoing runs nofun
  rw [onEvent_going going, trigger, runs, Execution.advance_accepted]
  exact ⟨rfl, rfl⟩

theorem onEvent_refused (reachable : Bool) (fails : event = .failure ∨ event = .closed)
    (runs : session.execution = Execution.underway (.awaiting startTicket) events endingTicket) :
    (session.onEvent reachable event).1.execution.phase = .ended := by
  have going := Execution.underway_ongoing runs nofun
  rw [onEvent_going going, trigger, runs]
  rcases fails with rfl | rfl <;> rfl

theorem onEvent_closed (reachable : Bool)
    (runs : session.execution = Execution.underway .running events endingTicket) :
    (session.onEvent reachable .closed).1.execution.phase = .ended ∧
      (session.onEvent reachable .closed).2.filter Effect.isAudible =
        [.ended (Execution.underway .running events endingTicket).verdict, .leave] := by
  have going := Execution.underway_ongoing runs nofun
  rw [onEvent_going going, trigger, runs]
  exact ⟨rfl, rfl⟩

theorem Voiced.step (voiced : Voiced events session told) (reachable : Bool) (event : ChannelEvent) :
    Voiced (events ++ [event]) (session.onEvent reachable event).1
      (told ++ (session.onEvent reachable event).2.filter Effect.isAudible) := by
  cases voiced with
  | awaiting unclosed unanswered runs =>
    by_cases fails : event = .failure ∨ event = .closed
    · obtain ⟨decided, unaccepted⟩ := refused unclosed unanswered fails
      refine .ended decided (onEvent_refused reachable fails runs) ?_
      intro accepted
      cases unaccepted.symm.trans accepted
    · obtain ⟨unfailed, unclosing⟩ := not_or.mp fails
      by_cases succeeds : event = .success
      · subst succeeds
        obtain ⟨goes, silent⟩ := onEvent_accepted reachable runs
        rw [silent, List.append_nil]
        have same : forwarded false (events ++ [.success]) = forwarded false events := by
          rw [forwarded_concat]
          exact List.append_nil _
        rw [← same]
        refine .running (unclosed_append unclosed unclosing) ?_ goes
        rw [answered_append, unanswered]
        rfl
      · have undecided : answered? [event] = none := by
          cases event with
          | success => exact absurd rfl succeeds
          | failure => exact absurd rfl unfailed
          | data | extendedData | exitStatus | eof | closed => rfl
        have going := Execution.underway_ongoing runs (by simp)
        have stepped := Execution.advance_awaiting events startTicket endingTicket unclosing undecided
        rw [← runs] at stepped
        obtain ⟨goes, heard⟩ := onEvent_goes going (by simp [Execution.underway])
          (Execution.actionFor_unsent events event) stepped reachable
        rw [heard, ← List.map_append, ← forwarded_concat]
        refine .awaiting (unclosed_append unclosed unclosing) ?_ goes
        rw [answered_append, unanswered, undecided]
        rfl
  | running unclosed accepted runs =>
    by_cases closed : event = .closed
    · subst closed
      obtain ⟨spent, heard⟩ := onEvent_closed reachable runs
      refine .ended (.inl (List.mem_append_right _ List.mem_cons_self)) spent ?_
      intro _
      rw [heard, Execution.verdict_underway unclosed accepted, outputs, beforeClose_closed unclosed]
    · have going := Execution.underway_ongoing runs (by simp)
      have stepped := Execution.advance_running events endingTicket closed
      rw [← runs] at stepped
      obtain ⟨goes, heard⟩ := onEvent_goes going (by simp [Execution.underway])
        (Execution.actionFor_unsent events event) stepped reachable
      rw [heard, ← List.map_append, ← forwarded_concat]
      refine .running (unclosed_append unclosed closed) ?_ goes
      rw [answered_append, accepted]
      rfl
  | ended decided spent whole =>
    rw [onEvent_ended spent, List.filter_nil, List.append_nil]
    refine .ended (decided.append [event]) spent ?_
    rw [decided.accepted_append, decided.end_append]
    intro accepted
    rw [whole accepted, outputs, outputs]
    rcases decided with closed | rejected
    · rw [beforeClose_final closed]
    · simp [isAccepted, rejected] at accepted

theorem voiced_said (command : String) (heard : List Heard) :
    Voiced (heard.map Prod.snd) (machine.reach ((fresh command).begin true).1 heard)
      ((said command heard).filter Effect.isAudible) := by
  induction heard using List.reverseRecOn with
  | nil => exact .awaiting List.not_mem_nil rfl rfl
  | append_singleton heard event ih =>
    have step := ih.step event.1 event.2
    rw [said] at step ⊢
    rw [List.map_append, List.map_singleton, Machine.reach_append, machine.collect_concat,
      ← List.append_assoc, List.filter_append]
    exact step

theorem audible_said (command : String) (heard : List Heard)
    (accepted : isAccepted (heard.map Prod.snd) = true) :
    (said command heard).filter Effect.isAudible =
      (outputs (heard.map Prod.snd)).map .forward ++
        if .closed ∈ heard.map Prod.snd then [.ended (endVerdict (heard.map Prod.snd)), .leave] else [] := by
  have voiced := voiced_said command heard
  generalize (said command heard).filter Effect.isAudible = told at voiced ⊢
  generalize heard.map Prod.snd = events at voiced accepted ⊢
  cases voiced with
  | awaiting unclosed | running unclosed =>
    rw [if_neg unclosed, List.append_nil, outputs, beforeClose_open unclosed]
  | ended decided spent whole =>
    have closed : .closed ∈ events := by
      refine decided.resolve_right fun rejected => ?_
      simp [isAccepted, rejected] at accepted
    rw [if_pos closed, whole accepted]

end Session
end SecureShell.Exec
