import SecureShell.Proofs.Sftp.Correlation

namespace SecureShell.Sftp.Dialogue

-- How far a dialogue has come. Both ends are as far as it goes.
def View.phase : View → Nat
  | .idle => 0
  | .starting => 1
  | .ready => 2
  | .closing => 3
  | .closed | .failed _ => 4

-- Further on, or the very same, down to the fault that an end tells of.
def View.Precedes (early late : View) : Prop := early.phase < late.phase ∨ early = late

def View.isOpen : View → Bool
  | .idle | .starting | .ready => true
  | .closing | .closed | .failed _ => false

-- What the end is bound to be, once that is decided: one that was asked for, or a fault.
def ending? : Dialogue → Option (Option SftpFault)
  | .closing _ fault => some fault
  | .closed => some none
  | .failed fault => some (some fault)
  | .idle | .starting _ | .ready _ => none

-- The fault that an event brings upon a dialogue for which nobody has asked for the end.
inductive Cause (dialogue : Dialogue) : Event → SftpFault → Prop
  | version (state : dialogue.view = .starting) (other : number ≠ protocolVersion) :
      Cause dialogue (.inbound (.version number extensions)) (.unsupportedVersion number)
  | unexpected (state : dialogue.view = .starting)
      (other : ∀ number extensions, message ≠ .version number extensions) :
      Cause dialogue (.inbound message) (.violation .versionExpected)
  | unmatched (state : dialogue.view = .ready)
      (unknown : ∀ id, message.id? = some id → dialogue.inFlight id = false) :
      Cause dialogue (.inbound message) (.violation .unmatchedResponse)
  | malformed (state : dialogue.view = .starting ∨ dialogue.view = .ready) :
      Cause dialogue (.malformed fault) fault
  | dropped (state : dialogue.view.isOpen = true) : Cause dialogue .disconnected .closed

-- All that one event can do to a dialogue, apart from what becomes of the promises.
inductive Moved (dialogue : Dialogue) : Event → Step → Prop
  | starts (state : dialogue = .idle) :
      Moved dialogue (.start extensions promise)
        ⟨.starting promise, .send (.init protocolVersion extensions), settled⟩
  | sends {id : UInt32} (state : dialogue.view = .ready) (named : message.id? = some id)
      (free : dialogue.inFlight id = false) :
      Moved dialogue (.request message promise) ⟨.ready pending, .send message, settled⟩
  | greets (state : dialogue.view = .starting) : Moved dialogue event ⟨.ready [], .none, settled⟩
  | stays (same : next.view = dialogue.view) (bound : next.ending? = dialogue.ending?) :
      Moved dialogue event ⟨next, .none, settled⟩
  | breaksOff (cause : Cause dialogue event fault) (state : dialogue.view.isOpen = true) :
      Moved dialogue event ⟨.closing [] (some fault), .disconnect, settled⟩
  | hangsUp (state : dialogue.view.isOpen = true) :
      Moved dialogue (.disconnect promise) ⟨.closing [promise] none, .disconnect, settled⟩
  | dropped (state : dialogue.view.isOpen = true) :
      Moved dialogue .disconnected ⟨.failed .closed, .none, settled⟩
  | ends (state : dialogue.view = .closing) (spent : next.isTerminal = true)
      (bound : next.ending? = dialogue.ending?) : Moved dialogue .disconnected ⟨next, .none, settled⟩

def actionsFrom (dialogue : Dialogue) (events : List Event) : List Action :=
  (custody.steps dialogue events).map Step.action

def actions (events : List Event) : List Action := actionsFrom .idle events

def Action.greets : Action → Bool
  | .send (.init ..) => true
  | _ => false

-- The two occasions on which a message is sent: the first start, which greets, and a request
-- that bears an ID of its own while the dialogue is ready, which goes out as it is.
inductive Sends (earlier : List Event) : Event → Message → Prop
  | greeting (state : after earlier = .idle)
      (first : ∀ extensions promise, .start extensions promise ∉ earlier) :
      Sends earlier (.start extensions promise) (.init protocolVersion extensions)
  | request {id : UInt32} (state : (after earlier).view = .ready) (named : message.id? = some id)
      (free : (after earlier).inFlight id = false) : Sends earlier (.request message promise) message

def Leaves (earlier : List Event) (event : Event) : Prop :=
  (after earlier).view.isOpen = true ∧ (after (earlier ++ [event])).view.isOpen = false

variable {dialogue : Dialogue} {event : Event} {message : Message} {fault : SftpFault}
  {earlier later events : List Event}

theorem greeted_moved (start : Ticket) (message : Message) :
    Moved (.starting start) (.inbound message) (greeted start message) := by
  unfold greeted
  split
  · split
    · exact .greets rfl
    · rename_i other
      exact .breaksOff (.version rfl other) rfl
  · rename_i other
    exact .breaksOff (.unexpected rfl other) rfl

theorem requested_moved (pending : Pending) (message : Message) (promise : Ticket) :
    Moved (.ready pending) (.request message promise) (requested pending message promise) := by
  cases named : message.id? with
  | none =>
    simp only [requested, named]
    exact .stays rfl rfl
  | some id =>
    cases held : pending.has id with
    | true =>
      rw [requested_known named held]
      exact .stays rfl rfl
    | false =>
      rw [requested_new named held]
      exact .sends rfl named held

theorem responded_moved (pending : Pending) (message : Message) :
    Moved (.ready pending) (.inbound message) (responded pending message) := by
  rcases responded_cases pending message with ⟨id, promise, named, held⟩ | unknown
  · rw [responded_known named held]
    exact .stays rfl rfl
  · rw [responded_unknown unknown]
    refine .breaksOff (.unmatched rfl ?_) rfl
    intro id named
    exact Pending.has_eq_false.mpr (unknown id named)

theorem moved (dialogue : Dialogue) (event : Event) :
    Moved dialogue event (dialogue.advance event) := by
  cases event with
  | start extensions promise =>
    cases dialogue with
    | idle => exact .starts rfl
    | _ => exact .stays rfl rfl
  | request message promise =>
    cases dialogue with
    | ready pending => exact requested_moved pending message promise
    | _ => exact .stays rfl rfl
  | inbound message =>
    cases dialogue with
    | starting start => exact greeted_moved start message
    | ready pending => exact responded_moved pending message
    | _ => exact .stays rfl rfl
  | unsent id => cases dialogue <;> exact .stays rfl rfl
  | malformed fault =>
    cases dialogue with
    | starting start => exact .breaksOff (.malformed (.inl rfl)) rfl
    | ready pending => exact .breaksOff (.malformed (.inr rfl)) rfl
    | _ => exact .stays rfl rfl
  | disconnect promise =>
    cases dialogue with
    | idle | starting | ready => exact .hangsUp rfl
    | closing | closed | failed => exact .stays rfl rfl
  | disconnected =>
    cases dialogue with
    | idle | starting | ready => exact .dropped rfl
    | closing closers fault => cases fault <;> exact .ends rfl rfl rfl
    | closed | failed => exact .stays rfl rfl

theorem phase_of_open {view : View} (state : view.isOpen = true) : view.phase < 3 := by
  cases view with
  | idle | starting | ready => decide
  | closing | closed | failed => cases state

theorem phase_of_terminal (spent : dialogue.isTerminal = true) : dialogue.view.phase = 4 := by
  cases dialogue with
  | closed | failed => rfl
  | idle | starting | ready | closing => cases spent

theorem isOpen_iff : dialogue.view.isOpen = true ↔ dialogue.ending? = none := by
  cases dialogue <;> simp [view, View.isOpen, ending?]

theorem View.Precedes.trans {early between late : View} (first : early.Precedes between)
    (second : between.Precedes late) : early.Precedes late := by
  rcases first with before | rfl
  · rcases second with after | rfl
    · exact .inl (Nat.lt_trans before after)
    · exact .inl before
  · exact second

theorem advance_precedes (dialogue : Dialogue) (event : Event) :
    dialogue.view.Precedes (dialogue.advance event).next.view := by
  have came := moved dialogue event
  generalize dialogue.advance event = step at came
  cases came with
  | starts state =>
    rw [state]
    exact .inl Nat.zero_lt_one
  | sends state named free => exact .inr state
  | greets state =>
    rw [state]
    exact .inl (Nat.lt_succ_self 1)
  | stays same bound => exact .inr same.symm
  | breaksOff cause state => exact .inl (phase_of_open state)
  | hangsUp state => exact .inl (phase_of_open state)
  | dropped state => exact .inl (Nat.lt_succ_of_lt (phase_of_open state))
  | ends state spent bound =>
    left
    rw [state, phase_of_terminal spent]
    decide

theorem ending_stays {ending : Option SftpFault} (decided : dialogue.ending? = some ending)
    (event : Event) :
    (dialogue.advance event).next.ending? = some ending ∧
      (dialogue.advance event).action = .none := by
  have bound : dialogue.view.isOpen ≠ true := by
    rw [ne_eq, isOpen_iff, decided]
    nofun
  have came := moved dialogue event
  generalize dialogue.advance event = step at came
  cases came with
  | starts state => exact absurd (by rw [state]; rfl) bound
  | sends state | greets state => exact absurd (by rw [state]; rfl) bound
  | stays same kept => exact ⟨kept.trans decided, rfl⟩
  | breaksOff cause state => exact absurd state bound
  | hangsUp state | dropped state => exact absurd state bound
  | ends state spent kept => exact ⟨kept.trans decided, rfl⟩

theorem ending_decided {ending : Option SftpFault} (undecided : dialogue.ending? = none)
    (decided : (dialogue.advance event).next.ending? = some ending) :
    (ending = none ∧ ∃ promise, event = .disconnect promise) ∨
      ∃ fault, ending = some fault ∧ Cause dialogue event fault := by
  have came := moved dialogue event
  generalize dialogue.advance event = step at came decided
  cases came with
  | starts state | sends state | greets state => cases decided
  | stays same kept =>
    rw [kept, undecided] at decided
    cases decided
  | breaksOff cause state =>
    cases decided
    exact .inr ⟨_, rfl, cause⟩
  | hangsUp state =>
    cases decided
    exact .inl ⟨rfl, _, rfl⟩
  | dropped state =>
    cases decided
    exact .inr ⟨_, rfl, .dropped state⟩
  | ends state spent kept =>
    have closing : dialogue.view.isOpen = false := by rw [state]; rfl
    rw [isOpen_iff.mpr undecided] at closing
    cases closing

theorem terminal_of_ending {ending : Option SftpFault} (decided : dialogue.ending? = some ending)
    (spent : dialogue.isTerminal = true) : dialogue.view = ending.elim .closed .failed := by
  cases dialogue with
  | closed | failed => cases decided; rfl
  | idle | starting | ready | closing => cases spent

theorem sends_iff :
    (dialogue.advance event).action = .send message ↔
      (dialogue = .idle ∧ ∃ extensions promise, event = .start extensions promise ∧
        message = .init protocolVersion extensions) ∨
      dialogue.view = .ready ∧ ∃ id promise, event = .request message promise ∧
        message.id? = some id ∧ dialogue.inFlight id = false := by
  constructor
  · intro sent
    have came := moved dialogue event
    generalize dialogue.advance event = step at came sent
    cases came with
    | starts state =>
      cases sent
      exact .inl ⟨state, _, _, rfl, rfl⟩
    | sends state named free =>
      cases sent
      exact .inr ⟨state, _, _, rfl, named, free⟩
    | greets | stays | breaksOff | hangsUp | dropped | ends => cases sent
  · rintro (⟨rfl, extensions, promise, rfl, rfl⟩ | ⟨state, id, promise, rfl, named, free⟩)
    · rfl
    · obtain ⟨pending, rfl⟩ := ready_of_view state
      rw [advance, requested_new named free]

theorem after_append (earlier later : List Event) :
    after (earlier ++ later) = custody.reach (after earlier) later :=
  custody.reach_append .idle earlier later

theorem reach_precedes (dialogue : Dialogue) (events : List Event) :
    dialogue.view.Precedes (custody.reach dialogue events).view := by
  have keeps : ∀ state event, dialogue.view.Precedes state.view →
      dialogue.view.Precedes (custody.next (custody.advance state event)).view :=
    fun state event before => before.trans (advance_precedes state event)
  exact custody.reach_keeps keeps (.inr rfl) events

theorem ending_lasts {ending : Option SftpFault} (decided : dialogue.ending? = some ending)
    (events : List Event) : (custody.reach dialogue events).ending? = some ending := by
  have keeps : ∀ state event, state.ending? = some ending →
      (custody.next (custody.advance state event)).ending? = some ending :=
    fun state event decided => (ending_stays decided event).1
  exact custody.reach_keeps keeps decided events

theorem terminal_lasts (spent : dialogue.isTerminal = true) (events : List Event) :
    custody.reach dialogue events = dialogue := by
  have keeps : ∀ state event, state = dialogue →
      custody.next (custody.advance state event) = dialogue := by
    rintro state event rfl
    exact (terminal_answers spent event).1
  exact custody.reach_keeps keeps rfl events

theorem decided_rests {ending : Option SftpFault} (decided : dialogue.ending? = some ending)
    (events : List Event) : ∀ action ∈ actionsFrom dialogue events, action = .none := by
  have rests : ∀ state event, state.ending? = some ending →
      Step.action (custody.advance state event) = .none ∧
        (custody.next (custody.advance state event)).ending? = some ending :=
    fun state event bound => (ending_stays bound event).symm
  intro action member
  obtain ⟨step, among, rfl⟩ := List.mem_map.mp member
  exact custody.steps_keep (fun step => Step.action step = .none) rests decided events step among

theorem decided_of_disconnects (done : (dialogue.advance event).action = .disconnect) :
    ∃ ending, (dialogue.advance event).next.ending? = some ending := by
  have came := moved dialogue event
  generalize dialogue.advance event = step at came done
  cases came with
  | breaksOff | hangsUp => exact ⟨_, rfl⟩
  | starts | sends | greets | stays | dropped | ends => cases done

theorem ending_of_terminal (spent : dialogue.isTerminal = true) :
    ∃ ending, dialogue.ending? = some ending := by
  cases dialogue with
  | closed | failed => exact ⟨_, rfl⟩
  | idle | starting | ready | closing => cases spent

theorem mem_actions {action : Action} (member : action ∈ actions events) :
    ∃ earlier event later, events = earlier ++ event :: later ∧
      ((after earlier).advance event).action = action := by
  induction events using List.reverseRecOn with
  | nil => cases member
  | append_singleton events event ih =>
    rw [actions, actionsFrom, Machine.steps_append, List.map_append] at member
    rcases List.mem_append.mp member with before | now
    · obtain ⟨earlier, other, later, rfl, same⟩ := ih before
      exact ⟨earlier, other, later ++ [event], by simp, same⟩
    · exact ⟨events, event, [], rfl, (List.mem_singleton.mp now).symm⟩

theorem decided_of_disconnected (done : .disconnect ∈ actions events) :
    ∃ ending, (after events).ending? = some ending := by
  obtain ⟨earlier, event, later, rfl, acted⟩ := mem_actions done
  obtain ⟨ending, decided⟩ := decided_of_disconnects acted
  refine ⟨ending, ?_⟩
  rw [List.append_cons, after_append, after_concat]
  exact ending_lasts decided later

theorem Cause.unique {other : SftpFault} (one : Cause dialogue event fault)
    (two : Cause dialogue event other) : fault = other := by
  cases one with
  | version state misfit =>
    cases two with
    | version => rfl
    | unexpected _ not => exact absurd rfl (not _ _)
    | unmatched ready => rw [state] at ready; cases ready
  | unexpected state misfit =>
    cases two with
    | version => exact absurd rfl (misfit _ _)
    | unexpected => rfl
    | unmatched ready => rw [state] at ready; cases ready
  | unmatched state unknown =>
    cases two with
    | version starting | unexpected starting => rw [state] at starting; cases starting
    | unmatched => rfl
  | malformed state => cases two; rfl
  | dropped state => cases two; rfl

theorem not_idle_lasts (begun : dialogue.view ≠ .idle) (event : Event) :
    (dialogue.advance event).next.view ≠ .idle := by
  intro idle
  rcases advance_precedes dialogue event with further | same
  · rw [idle] at further
    exact Nat.not_lt_zero _ further
  · exact begun (same.trans idle)

theorem not_idle_of_start (extensions : List Text.Pair) (promise : Ticket) :
    (dialogue.advance (.start extensions promise)).next.view ≠ .idle := by
  cases dialogue <;> nofun

theorem not_started (state : after earlier = .idle) (extensions : List Text.Pair) (promise : Ticket) :
    .start extensions promise ∉ earlier := by
  intro started
  obtain ⟨before, since, rfl⟩ := List.append_of_mem started
  rw [List.append_cons, after_append, after_concat] at state
  have keeps : ∀ state event, state.view ≠ .idle →
      (custody.next (custody.advance state event)).view ≠ .idle :=
    fun state event begun => not_idle_lasts begun event
  exact custody.reach_keeps keeps (not_idle_of_start extensions promise) since (congrArg view state)

theorem sends_exactly :
    ((after earlier).advance event).action = .send message ↔ Sends earlier event message := by
  rw [sends_iff]
  constructor
  · rintro (⟨state, extensions, promise, rfl, rfl⟩ | ⟨state, id, promise, rfl, named, free⟩)
    · exact .greeting state (not_started state)
    · exact .request state named free
  · intro sends
    cases sends with
    | greeting state first => exact .inl ⟨state, _, _, rfl, rfl⟩
    | request state named free => exact .inr ⟨state, _, _, rfl, named, free⟩

theorem greets_once (events : List Event) : (actions events).countP Action.greets ≤ 1 := by
  rw [actions, actionsFrom, List.countP_map]
  have enters : ∀ (dialogue : Dialogue) (event : Event), (dialogue.advance event).action.greets = true →
      (dialogue.advance event).next.view ≠ .idle := by
    intro dialogue event greets
    cases acted : (dialogue.advance event).action with
    | none | disconnect =>
      rw [acted] at greets
      cases greets
    | send message =>
      rcases sends_iff.mp acted with ⟨rfl, _, _, rfl, _⟩ | ⟨state, _⟩
      · nofun
      · exact not_idle_lasts (by rw [state]; nofun) event
  have past : ∀ (dialogue : Dialogue) (event : Event), dialogue.view ≠ .idle →
      ¬ (dialogue.advance event).action.greets = true ∧
        (dialogue.advance event).next.view ≠ .idle := by
    intro dialogue event begun
    refine ⟨?_, not_idle_lasts begun event⟩
    cases acted : (dialogue.advance event).action with
    | none | disconnect => nofun
    | send message =>
      rcases sends_iff.mp acted with ⟨rfl, _⟩ | ⟨_, id, promise, _, named, _⟩
      · exact absurd rfl begun
      · cases message with
        | init => cases named
        | version | request | response => nofun
  exact custody.at_most_one_step (fun step => step.action.greets)
    (fun dialogue => dialogue.view ≠ .idle) enters past .idle events

theorem disconnects_once (events : List Event) : (actions events).count .disconnect ≤ 1 := by
  rw [actions, actionsFrom, List.count, List.countP_map]
  have enters : ∀ (dialogue : Dialogue) (event : Event), ((dialogue.advance event).action == .disconnect) = true →
      ∃ ending, (dialogue.advance event).next.ending? = some ending := by
    intro dialogue event done
    exact decided_of_disconnects (beq_iff_eq.mp done)
  have past : ∀ (dialogue : Dialogue) (event : Event), (∃ ending, dialogue.ending? = some ending) →
      ¬ ((dialogue.advance event).action == .disconnect) = true ∧
        ∃ ending, (dialogue.advance event).next.ending? = some ending := by
    rintro dialogue event ⟨ending, decided⟩
    obtain ⟨stays, rests⟩ := ending_stays decided event
    refine ⟨?_, ending, stays⟩
    rw [rests]
    nofun
  exact custody.at_most_one_step (fun step => step.action == .disconnect)
    (fun dialogue => ∃ ending, dialogue.ending? = some ending) enters past .idle events

theorem left_of_decided {ending : Option SftpFault} (decided : (after events).ending? = some ending) :
    ∃ earlier event later, events = earlier ++ event :: later ∧ Leaves earlier event := by
  induction events using List.reverseRecOn generalizing ending with
  | nil => cases decided
  | append_singleton events event ih =>
    cases before : (after events).ending? with
    | some bound =>
      obtain ⟨earlier, other, later, rfl, leaves⟩ := ih before
      exact ⟨earlier, other, later ++ [event], by simp, leaves⟩
    | none =>
      refine ⟨events, event, [], rfl, isOpen_iff.mpr before, ?_⟩
      rw [Bool.eq_false_iff, ne_eq, isOpen_iff, decided]
      nofun

theorem left_ending (leaves : Leaves earlier event) (later : List Event) :
    ((after (earlier ++ event :: later)).ending? = some none ∧ ∃ promise, event = .disconnect promise) ∨
      ∃ fault, (after (earlier ++ event :: later)).ending? = some (some fault) ∧
        Cause (after earlier) event fault := by
  obtain ⟨state, left⟩ := leaves
  rw [List.append_cons, after_append]
  cases decided : (after (earlier ++ [event])).ending? with
  | none =>
    rw [isOpen_iff.mpr decided] at left
    cases left
  | some ending =>
    rw [ending_lasts decided later]
    rw [after_concat] at decided
    rcases ending_decided (isOpen_iff.mp state) decided with ⟨rfl, asked⟩ | ⟨fault, rfl, cause⟩
    · exact .inl ⟨rfl, asked⟩
    · exact .inr ⟨fault, rfl, cause⟩

theorem left_outcome (leaves : Leaves earlier event) (later : List Event)
    (spent : (after (earlier ++ event :: later)).isTerminal = true) :
    ((after (earlier ++ event :: later)).view = .closed ↔ ∃ promise, event = .disconnect promise) ∧
      ∀ fault, (after (earlier ++ event :: later)).view = .failed fault ↔
        Cause (after earlier) event fault := by
  rcases left_ending leaves later with ⟨decided, promise, rfl⟩ | ⟨fault, decided, cause⟩
  · rw [terminal_of_ending decided spent]
    refine ⟨⟨fun _ => ⟨promise, rfl⟩, fun _ => rfl⟩, ?_⟩
    intro fault
    constructor <;> nofun
  · rw [terminal_of_ending decided spent]
    constructor
    · constructor
      · nofun
      · rintro ⟨promise, rfl⟩
        cases cause
    · intro other
      constructor
      · rintro ⟨⟩
        exact cause
      · intro again
        rw [cause.unique again]
        rfl

-- One event decides the end: the wish to disconnect, or a fault that comes before it.
theorem phases_and_ending (events : List Event) :
    (∀ earlier later, events = earlier ++ later →
      (after earlier).view.Precedes (after events).view ∧
        ((after earlier).isTerminal = true → after events = after earlier)) ∧
    (∀ earlier event later message, events = earlier ++ event :: later →
      (((after earlier).advance event).action = .send message ↔ Sends earlier event message)) ∧
    (actions events).countP Action.greets ≤ 1 ∧
    (actions events).count .disconnect ≤ 1 ∧
    (∀ earlier later, events = earlier ++ later →
      .disconnect ∈ actions earlier ∨ (after earlier).isTerminal = true →
      ∀ action ∈ actionsFrom (after earlier) later, action = .none) ∧
    ((after events).isTerminal = true →
      (∃ earlier event later, events = earlier ++ event :: later ∧ Leaves earlier event) ∧
      ∀ earlier event later, events = earlier ++ event :: later → Leaves earlier event →
        ((after events).view = .closed ↔ ∃ promise, event = .disconnect promise) ∧
          ∀ fault, (after events).view = .failed fault ↔ Cause (after earlier) event fault) := by
  refine ⟨?_, ?_, greets_once events, disconnects_once events, ?_, ?_⟩
  · rintro earlier later rfl
    rw [after_append]
    exact ⟨reach_precedes _ later, fun spent => terminal_lasts spent later⟩
  · intro earlier event later message _
    exact sends_exactly
  · rintro earlier later rfl done
    rcases done with disconnected | spent
    · obtain ⟨ending, decided⟩ := decided_of_disconnected disconnected
      exact decided_rests decided later
    · obtain ⟨ending, decided⟩ := ending_of_terminal spent
      exact decided_rests decided later
  · intro spent
    obtain ⟨ending, decided⟩ := ending_of_terminal spent
    refine ⟨left_of_decided decided, ?_⟩
    rintro earlier event later rfl leaves
    exact left_outcome leaves later spent

-- A response that no request waits for breaks the session off. The wish to disconnect and the
-- fault that come after it change nothing about how it ends.
def brokenOff : List Event :=
  [.start [("limits", "1")] 1, .inbound (.version protocolVersion []),
   .request (.request 7 (.stat [])) 2, .inbound (.response 8 (.data [])), .disconnect 3,
   .malformed (.violation .shortData), .request (.request 9 (.stat [])) 4, .disconnected,
   .disconnected]

theorem phases_and_ending_brokenOff :
    (after brokenOff).isTerminal = true ∧
    Sends [] (.start [("limits", "1")] 1) (.init protocolVersion [("limits", "1")]) ∧
    Leaves (brokenOff.take 3) (.inbound (.response 8 (.data []))) ∧
    (after brokenOff).view = .failed (.violation .unmatchedResponse) ∧
    (actions brokenOff).count .disconnect ≤ 1 ∧
    ∀ action ∈ actionsFrom (after (brokenOff.take 4)) (brokenOff.drop 4), action = .none := by
  have spent : (after brokenOff).isTerminal = true := by decide
  have leaves : Leaves (brokenOff.take 3) (.inbound (.response 8 (.data []))) := by
    constructor <;> decide
  have closed : .disconnect ∈ actions (brokenOff.take 4) := by decide
  obtain ⟨_, sends, _, once, rests, ended⟩ := phases_and_ending brokenOff
  have cause : Cause (after (brokenOff.take 3)) (.inbound (.response 8 (.data [])))
      (.violation .unmatchedResponse) := by
    refine .unmatched (by decide) ?_
    rintro id ⟨⟩
    decide
  refine ⟨spent, (sends [] _ _ _ rfl).mp (by decide), leaves, ?_, once, rests _ _ rfl (.inl closed)⟩
  exact ((ended spent).2 _ _ _ rfl leaves).2 _ |>.mpr cause

end SecureShell.Sftp.Dialogue
