import SecureShell.Proofs.Sftp.Listening

namespace SecureShell.Sftp.Service

-- What is promised and what is put into the channel, apart from the news of how the service
-- itself fares.
def Effect.isWork : Effect → Bool
  | .put _ | .settle _ => true
  | .ready _ | .unready _ | .leave => false

def Effect.settlement? : Effect → Option (Settlement Answer)
  | .settle settlement => some settlement
  | .put _ | .ready _ | .unready _ | .leave => none

def Effect.command? : Effect → Option ChannelCommand
  | .put command => some command
  | .settle _ | .ready _ | .unready _ | .leave => none

def Effect.outcome? : Effect → Option (Except SftpFault (List Text.Pair))
  | .ready extensions => some (.ok extensions)
  | .unready fault => some (.error fault)
  | .put _ | .settle _ | .leave => none

def SameEffects (one other : List Effect) : Prop :=
  one.filter Effect.isWork = other.filter Effect.isWork ∧
    one.filter (!·.isWork) = other.filter (!·.isWork)

def pieces (reachable : Bool) (chunks : List Octets) : List Turn :=
  chunks.map fun chunk => .hear reachable (.data chunk)

-- A service whose subsystem was accepted: it greets, serves or has gone.
inductive Accepted (service : Service) : Prop
  | greeting (stands : service.standing = .greeting)
      (starting : service.dialogue = .starting greetingTicket)
      (waiting : Unfinished service.framing.held)
  | serving (stands : service.standing = .serving abandoned)
      (underway : 2 ≤ service.dialogue.view.phase) (ongoing : service.dialogue.isTerminal = false)
      (waiting : service.dialogue.ending? = none → Unfinished service.framing.held)
  | gone (stands : service.standing = .gone)

-- Before that, it has heard nothing of a stream.
structure Requesting (service : Service) : Prop where
  stands : service.standing = .requesting
  idle : service.dialogue = .idle
  nothing : service.framing = {}

variable {service one other : Service} {outcome : Outcome} {early late : List Effect} {turn : Turn}

theorem filterMap_of_filter {keep : Effect → Bool} {pick : Effect → Option α}
    (only : ∀ effect, keep effect = false → pick effect = none) (effects : List Effect) :
    effects.filterMap pick = (effects.filter keep).filterMap pick := by
  rw [List.filterMap_filter]
  apply List.filterMap_congr
  intro effect _
  cases kept : keep effect with
  | true => rfl
  | false => exact only effect kept

namespace SameEffects

variable {first second third : List Effect}

theorem refl (effects : List Effect) : SameEffects effects effects := ⟨rfl, rfl⟩

theorem symm (same : SameEffects first second) : SameEffects second first :=
  ⟨same.1.symm, same.2.symm⟩

theorem trans (before : SameEffects first second) (after : SameEffects second third) :
    SameEffects first third := ⟨before.1.trans after.1, before.2.trans after.2⟩

theorem append (front : SameEffects first second) (back : SameEffects early late) :
    SameEffects (first ++ early) (second ++ late) := by
  constructor
  · rw [List.filter_append, List.filter_append, front.1, back.1]
  · rw [List.filter_append, List.filter_append, front.2, back.2]

theorem swap (works : ∀ effect ∈ late, effect.isWork = true) {news : Effect}
    (tells : news.isWork = false) : SameEffects ((early ++ [news]) ++ late) ((early ++ late) ++ [news]) := by
  have quiet : late.filter (!·.isWork) = [] := by
    apply List.filter_eq_nil_iff.mpr
    intro effect member
    simp [works effect member]
  constructor
  · simp [tells]
  · simp [tells, quiet]

theorem of_work {pick : Effect → Option α} (same : SameEffects first second)
    (only : ∀ effect, effect.isWork = false → pick effect = none) :
    first.filterMap pick = second.filterMap pick := by
  rw [filterMap_of_filter only first, filterMap_of_filter only second, same.1]

theorem of_news {pick : Effect → Option α} (same : SameEffects first second)
    (only : ∀ effect, effect.isWork = true → pick effect = none) :
    first.filterMap pick = second.filterMap pick := by
  have rest : ∀ effect, (!effect.isWork) = false → pick effect = none := by simpa using only
  rw [filterMap_of_filter rest first, filterMap_of_filter rest second, same.2]

end SameEffects

theorem settleAll_works (settled : List (Settlement Answer)) :
    ∀ effect ∈ settleAll settled, effect.isWork = true := by
  intro effect member
  obtain ⟨settlement, _, rfl⟩ := List.mem_map.mp member
  rfl

theorem perform_works (reachable : Bool) (dialogue : Dialogue) (action : Dialogue.Action) :
    ∀ effect ∈ (perform reachable dialogue action).2, effect.isWork = true := by
  cases action with
  | none => exact fun effect member => absurd member List.not_mem_nil
  | disconnect => cases reachable <;> simp [perform, put, Effect.isWork]
  | send message =>
    cases reachable with
    | true => simp [perform, send, Effect.isWork]
    | false =>
      cases named : message.id? with
      | none => simp [perform, send, named]
      | some id =>
        simp only [perform, send, named, Bool.false_eq_true, if_false]
        exact settleAll_works _

theorem triggerAll_works (reachable : Bool) (service : Service) (events : List Dialogue.Event) :
    ∀ effect ∈ (service.triggerAll reachable events).2, effect.isWork = true := by
  induction events generalizing service with
  | nil => exact fun effect member => absurd member List.not_mem_nil
  | cons event events ih =>
    intro effect member
    rcases List.mem_append.mp member with now | later
    · rcases List.mem_append.mp now with settles | performs
      · exact settleAll_works _ effect settles
      · exact perform_works reachable _ _ effect performs
    · exact ih _ effect later

theorem hear_data_works (reachable : Bool) (service : Service) (data : Octets) :
    ∀ effect ∈ (service.hear reachable (.data data)).2, effect.isWork = true := by
  rw [hear_data]
  exact triggerAll_works reachable _ _

theorem triggerAll_restanding (standing : Standing) (reachable : Bool) (service : Service)
    (events : List Dialogue.Event) :
    { service with standing }.triggerAll reachable events =
      ({ (service.triggerAll reachable events).1 with standing },
        (service.triggerAll reachable events).2) := by
  induction events generalizing service with
  | nil => rfl
  | cons event events ih =>
    have first : { service with standing }.trigger reachable event =
        ({ (service.trigger reachable event).1 with standing }, (service.trigger reachable event).2) := rfl
    simp only [triggerAll, first, ih]

theorem hear_restanding (standing : Standing) (reachable : Bool) (service : Service) (data : Octets) :
    { service with standing }.hear reachable (.data data) =
      ({ (service.hear reachable (.data data)).1 with standing },
        (service.hear reachable (.data data)).2) :=
  triggerAll_restanding standing reachable { service with framing := _ } _

theorem greeting_cases (reachable : Bool) (starting : service.dialogue = .starting greetingTicket)
    (data : Octets) :
    (∃ framing, service.hear reachable (.data data) = ({ service with framing }, []) ∧
      Unfinished framing.held) ∨
    (∃ extensions, greeted? (service.hear reachable (.data data)).2 =
        some (.ok (.extensions extensions)) ∧
      2 ≤ (service.hear reachable (.data data)).1.dialogue.view.phase) ∨
    ∃ fault ending, greeted? (service.hear reachable (.data data)).2 = some (.error fault) ∧
      (service.hear reachable (.data data)).1.dialogue.ending? = some ending := by
  obtain ⟨messages, breach, last, reads⟩ := Framing.exists_reads (service.framing.extend data)
  rw [hear_reads reachable reads]
  have heard := told_heard messages breach
  cases events : told messages breach with
  | nil =>
    cases breach with
    | some violation => simp [told] at events
    | none => exact .inl ⟨last, rfl, reads.unfinished⟩
  | cons event events =>
    rw [events] at heard
    -- The dialogue that hears the first event is as the greeting left it.
    rcases Dialogue.greeting_decided greetingTicket (heard event List.mem_cons_self) with
      ⟨extensions, welcomed⟩ | ⟨fault, refused⟩
    · have first : { service with framing := last }.trigger reachable event =
          ({ service with framing := last, dialogue := .ready [] },
            [.settle (.answer greetingTicket (.ok (.extensions extensions)))]) := by
        rw [trigger_eq]
        simp only [starting, welcomed]
        rfl
      refine .inr (.inl ⟨extensions, ?_, ?_⟩)
      · rw [triggerAll, first]
        rfl
      · rw [triggerAll, first]
        exact (triggerAll_moves reachable { service with framing := last, dialogue := .ready [] } _).phase_le
    · have first : { service with framing := last }.trigger reachable event =
          ({ service with framing := last, dialogue := .closing [] (some fault) },
            .settle (Dialogue.refuse greetingTicket fault) :: put reachable .close) := by
        rw [trigger_eq]
        simp only [starting, refused]
        rfl
      refine .inr (.inr ⟨fault, some fault, ?_, ?_⟩)
      · rw [triggerAll, first]
        rfl
      · rw [triggerAll, first]
        exact (triggerAll_moves reachable
          { service with framing := last, dialogue := .closing [] (some fault) } _).decided rfl

theorem greet_none (reachable : Bool) (silent : greeted? outcome.2 = none) :
    greet reachable outcome = outcome := by
  simp [greet, silent]

theorem greet_welcome (reachable : Bool) {extensions : List Text.Pair}
    (welcomed : greeted? outcome.2 = some (.ok (.extensions extensions))) :
    greet reachable outcome =
      ({ outcome.1 with standing := .serving false }, outcome.2 ++ [.ready extensions]) := by
  simp [greet, welcomed]

theorem greet_refused (reachable : Bool) {fault : SftpFault}
    (refused : greeted? outcome.2 = some (.error fault)) :
    greet reachable outcome = ({ outcome.1 with standing := .gone },
      outcome.2 ++ (put reachable .close ++ [.unready fault, .leave])) := by
  simp [greet, refused, abort]

theorem onEvent_greeting (reachable : Bool) (stands : service.standing = .greeting)
    (event : ChannelEvent) :
    service.onEvent reachable event = greet reachable (service.hear reachable event) := by
  simp only [onEvent, stands, hearGreeting_eq]

theorem onEvent_serving (reachable : Bool) {abandoned : Bool}
    (stands : service.standing = .serving abandoned) (ongoing : service.dialogue.isTerminal = false)
    (data : Octets) :
    service.onEvent reachable (.data data) = service.hear reachable (.data data) := by
  simp only [onEvent, stands]
  exact conclude_ongoing reachable (hear_ongoing reachable ongoing data)

theorem onEvent_gone (reachable : Bool) (stands : service.standing = .gone) (event : ChannelEvent) :
    service.onEvent reachable event = (service, []) := by
  simp only [onEvent, stands]

theorem starting_listens {start : Ticket} (starting : service.dialogue = .starting start) :
    1 ≤ service.dialogue.view.phase ∧ service.dialogue.isTerminal = false := by
  rw [starting]
  exact ⟨Nat.le_refl 1, rfl⟩

theorem handle_framing (reachable : Bool) (service : Service) (call : Call) :
    (service.handle reachable call).1.framing = service.framing :=
  congrArg (fun outcome => outcome.1.framing) (handle_reframed service.framing reachable service call)

namespace Accepted

theorem concluded {abandoned : Bool} (reachable : Bool)
    (stands : outcome.1.standing = .serving abandoned) (underway : 2 ≤ outcome.1.dialogue.view.phase)
    (waiting : outcome.1.dialogue.ending? = none → Unfinished outcome.1.framing.held) :
    (conclude reachable outcome).1.Accepted := by
  cases spent : outcome.1.dialogue.isTerminal with
  | true =>
    rw [conclude_ended reachable spent]
    exact .gone rfl
  | false =>
    rw [conclude_ongoing reachable spent]
    exact .serving stands underway spent waiting

theorem greeted (reachable : Bool) (stands : service.standing = .greeting)
    (starting : service.dialogue = .starting greetingTicket) (waiting : Unfinished service.framing.held)
    (event : ChannelEvent) : (service.onEvent reachable event).1.Accepted := by
  rw [onEvent_greeting reachable stands]
  cases event with
  | success | failure | extendedData | exitStatus | eof => exact .greeting stands starting waiting
  | closed =>
    have refused : greeted? (service.hear reachable .closed).2 = some (.error .closed) := by
      simp only [hear, trigger_eq, starting]
      rfl
    rw [greet_refused reachable refused]
    exact .gone rfl
  | data data =>
    rcases greeting_cases reachable starting data with
      ⟨framing, silent, unfinished⟩ | ⟨extensions, welcomed, underway⟩ | ⟨fault, _, refused, _⟩
    · rw [silent]
      exact .greeting stands starting unfinished
    · obtain ⟨begun, ongoing⟩ := starting_listens starting
      rw [greet_welcome reachable welcomed]
      exact .serving rfl underway (hear_ongoing reachable ongoing data) (hear_waits reachable begun data)
    · rw [greet_refused reachable refused]
      exact .gone rfl

theorem served (reachable : Bool) {abandoned : Bool} (stands : service.standing = .serving abandoned)
    (underway : 2 ≤ service.dialogue.view.phase)
    (waiting : service.dialogue.ending? = none → Unfinished service.framing.held)
    (event : ChannelEvent) : (service.onEvent reachable event).1.Accepted := by
  obtain ⟨standing, _⟩ := hear_keeps reachable service event
  have moves := hear_moves reachable service event
  simp only [onEvent, stands]
  apply concluded reachable (standing.trans stands) (Nat.le_trans underway moves.phase_le)
  intro undecided
  cases event with
  | data data => exact hear_waits reachable (Nat.le_of_succ_le underway) data undecided
  | _ => exact waiting (moves.undecided undecided)

theorem called (reachable : Bool) {abandoned : Bool} (stands : outcome.1.standing = .serving abandoned)
    (underway : 2 ≤ service.dialogue.view.phase)
    (waiting : service.dialogue.ending? = none → Unfinished service.framing.held)
    (moves : Moves service outcome.1) (held : outcome.1.framing = service.framing) :
    (conclude reachable outcome).1.Accepted := by
  apply concluded reachable stands (Nat.le_trans underway moves.phase_le)
  intro undecided
  rw [held]
  exact waiting (moves.undecided undecided)

end Accepted

theorem accepted_react (accepted : service.Accepted) (turn : Turn) : (service.react turn).1.Accepted := by
  cases accepted with
  | gone stands => exact .gone (gone_stays stands turn).2
  | greeting stands starting waiting =>
    cases turn with
    | submit call =>
      cases call <;> simp only [react, submit, stands] <;> exact .greeting rfl starting waiting
    | take reachable =>
      simp only [react, takeCall, stands]
      exact .greeting stands starting waiting
    | hear reachable event => exact Accepted.greeted reachable stands starting waiting event
    | abandon reachable promise =>
      simp only [react, abandon, stands]
      exact .greeting stands starting waiting
  | @serving abandoned stands underway ongoing waiting =>
    cases turn with
    | submit call =>
      cases call <;> simp only [react, submit, stands] <;> exact .serving rfl underway ongoing waiting
    | take reachable =>
      cases queued : service.mailbox with
      | nil =>
        simp only [react, takeCall, stands, queued]
        exact .serving stands underway ongoing waiting
      | cons call calls =>
        rw [react, takeCall_serving reachable stands queued]
        obtain ⟨standing, _⟩ := handle_keeps reachable { service with mailbox := calls } call
        exact Accepted.called reachable (standing.trans stands) underway waiting
          (handle_moves reachable { service with mailbox := calls } call) (handle_framing ..)
    | hear reachable event => exact Accepted.served reachable stands underway waiting event
    | abandon reachable promise =>
      cases queued : service.mailbox with
      | cons call calls =>
        simp only [react, abandon, stands, queued]
        exact .serving stands underway ongoing waiting
      | nil =>
        cases abandoned with
        | true =>
          simp only [react, abandon, stands, queued]
          exact .serving stands underway ongoing waiting
        | false =>
          simp only [react, abandon, stands, queued]
          exact Accepted.called reachable rfl underway waiting
            (trigger_moves_on reachable { service with standing := .serving true, mailbox := [] } _) rfl

theorem success_greets (reachable : Bool) (requesting : service.Requesting) :
    (service.hearRequesting reachable .success).1.Accepted := by
  obtain ⟨_, idle, nothing⟩ := requesting
  have greets : (service.hearRequesting reachable .success).1 =
      { service with standing := .greeting, dialogue := .starting greetingTicket } := by
    simp only [hearRequesting, trigger_eq, idle]
    cases reachable <;> rfl
  have waiting : Unfinished service.framing.held := by
    rw [nothing]
    exact .inl (by decide)
  rw [greets]
  exact .greeting rfl rfl waiting

theorem requesting_react (requesting : service.Requesting) (turn : Turn) :
    (service.react turn).1.Requesting ∨ (service.react turn).1.Accepted := by
  have stands := requesting.stands
  cases turn with
  | submit call =>
    left
    cases call <;> simp only [react, submit, stands] <;>
      exact ⟨rfl, requesting.idle, requesting.nothing⟩
  | take reachable =>
    left
    simpa only [react, takeCall, stands] using requesting
  | abandon reachable promise =>
    left
    simpa only [react, abandon, stands] using requesting
  | hear reachable event =>
    simp only [react, onEvent, stands]
    cases event with
    | success => exact .inr (success_greets reachable requesting)
    | failure | closed => exact .inr (.gone rfl)
    | data | extendedData | exitStatus | eof => exact .inl requesting

theorem reached (asked : Bool) (extensions : List Text.Pair) (turns : List Turn) :
    (machine.reach (begin asked extensions).1 turns).Requesting ∨
      (machine.reach (begin asked extensions).1 turns).Accepted := by
  have keeps : ∀ service turn, Requesting service ∨ Accepted service →
      Requesting (service.react turn).1 ∨ Accepted (service.react turn).1 := by
    intro service turn stands
    rcases stands with requesting | accepted
    · exact requesting_react requesting turn
    · exact .inr (accepted_react accepted turn)
  have start : Requesting (begin asked extensions).1 ∨ Accepted (begin asked extensions).1 := by
    cases asked with
    | true => exact .inl ⟨rfl, rfl, rfl⟩
    | false => exact .inr (.gone rfl)
  exact machine.reach_keeps keeps start turns

theorem greet_keeps (reachable : Bool) (outcome : Outcome) :
    (greet reachable outcome).1.dialogue = outcome.1.dialogue ∧
      (greet reachable outcome).1.framing = outcome.1.framing := by
  unfold greet
  split <;> exact ⟨rfl, rfl⟩

theorem conclude_moves (reachable : Bool) (moves : Moves service outcome.1) :
    Moves service (conclude reachable outcome).1 := by
  cases spent : outcome.1.dialogue.isTerminal with
  | false => rwa [conclude_ongoing reachable spent]
  | true =>
    obtain ⟨later, after⟩ := handleAll_moves reachable { outcome.1 with mailbox := [] } outcome.1.mailbox
    rw [conclude_ended reachable spent]
    exact moves.trans ⟨later, after⟩

theorem onEvent_moves (reachable : Bool) (service : Service) (event : ChannelEvent) :
    Moves service (service.onEvent reachable event).1 := by
  have moves := hear_moves reachable service event
  cases stands : service.standing with
  | requesting =>
    simp only [onEvent, stands]
    cases event with
    | success => exact trigger_moves_on reachable { service with standing := .greeting } _
    | failure | closed | data | extendedData | exitStatus | eof => exact ⟨[], rfl⟩
  | greeting =>
    obtain ⟨events, same⟩ := moves
    rw [onEvent_greeting reachable stands]
    exact ⟨events, (greet_keeps reachable _).1.trans same⟩
  | serving abandoned =>
    simp only [onEvent, stands]
    exact conclude_moves reachable moves
  | gone =>
    rw [onEvent_gone reachable stands]
    exact .still service

theorem react_moves (service : Service) (turn : Turn) : Moves service (service.react turn).1 := by
  cases turn with
  | submit call =>
    simp only [react]
    unfold submit
    split <;> exact ⟨[], rfl⟩
  | take reachable =>
    simp only [react, takeCall]
    split
    · exact conclude_moves reachable (handle_moves reachable { service with mailbox := _ } _)
    · exact .still service
  | hear reachable event => exact onEvent_moves reachable service event
  | abandon reachable promise =>
    simp only [react, abandon]
    split
    · exact conclude_moves reachable (trigger_moves_on reachable { service with standing := _ } _)
    · exact .still service

theorem onEvent_deaf (accepted : service.Accepted) (reachable : Bool) {ending : Option SftpFault}
    (decided : service.dialogue.ending? = some ending) (data : Octets) :
    ∃ framing, service.onEvent reachable (.data data) = ({ service with framing }, []) := by
  cases accepted with
  | greeting stands starting waiting =>
    rw [starting] at decided
    cases decided
  | serving stands underway ongoing waiting =>
    rw [onEvent_serving reachable stands ongoing]
    exact hear_deaf reachable decided data
  | gone stands => exact ⟨service.framing, onEvent_gone reachable stands (.data data)⟩

theorem alike_react (accepted : one.Accepted) (also : other.Accepted) (alike : Alike one other)
    (turn : Turn) :
    (one.react turn).2 = (other.react turn).2 ∧ Alike (one.react turn).1 (other.react turn).1 := by
  obtain ⟨framing, rfl, rfl | ⟨ending, decided⟩⟩ := alike
  · exact ⟨rfl, .refl _⟩
  · by_cases heard : ∃ reachable data, turn = .hear reachable (.data data)
    · obtain ⟨reachable, data, rfl⟩ := heard
      obtain ⟨_, mine⟩ := onEvent_deaf accepted reachable decided data
      obtain ⟨final, theirs⟩ := onEvent_deaf also reachable decided data
      rw [react, react, mine, theirs]
      exact ⟨rfl, final, rfl, .inr ⟨ending, decided⟩⟩
    · have another : ∀ reachable data, turn ≠ .hear reachable (.data data) := by
        intro reachable data same
        exact heard ⟨reachable, data, same⟩
      rw [react_reframed framing one another]
      exact ⟨rfl, framing, rfl, .inr ⟨ending, (react_moves one turn).decided decided⟩⟩

def Together (service : Service) (reachable : Bool) (first second : Octets) : Prop :=
  let one := service.onEvent reachable (.data first)
  let two := one.1.onEvent reachable (.data second)
  let whole := service.onEvent reachable (.data (first ++ second))
  SameEffects (one.2 ++ two.2) whole.2 ∧ Alike two.1 whole.1

theorem together_served (reachable : Bool) {abandoned : Bool}
    (stands : service.standing = .serving abandoned) (underway : 2 ≤ service.dialogue.view.phase)
    (ongoing : service.dialogue.isTerminal = false) (first second : Octets) :
    Together service reachable first second := by
  obtain ⟨framing, whole, known⟩ :=
    hear_together reachable (Nat.le_of_succ_le underway) first second
  obtain ⟨standing, _⟩ := hear_keeps reachable service (.data first)
  have still := hear_ongoing reachable ongoing first
  simp only [Together, onEvent_serving reachable stands ongoing, whole,
    onEvent_serving reachable (standing.trans stands) still]
  exact ⟨.refl _, framing, rfl, known⟩

theorem onEvent_opened (reachable : Bool) (ongoing : service.dialogue.isTerminal = false)
    (data : Octets) :
    { service with standing := .serving false }.onEvent reachable (.data data) =
      ({ (service.hear reachable (.data data)).1 with standing := .serving false },
        (service.hear reachable (.data data)).2) := by
  have still : { service with standing := .serving false }.dialogue.isTerminal = false := ongoing
  rw [onEvent_serving reachable rfl still]
  exact hear_restanding (.serving false) reachable service data

theorem greeted_append {answer : Answer} (answered : greeted? early = some answer) (late : List Effect) :
    greeted? (early ++ late) = some answer := by
  unfold greeted? at answered ⊢
  rw [List.findSome?_append, answered]
  rfl

theorem together_greeted (reachable : Bool) (stands : service.standing = .greeting)
    (starting : service.dialogue = .starting greetingTicket) (first second : Octets) :
    Together service reachable first second := by
  obtain ⟨begun, listening⟩ := starting_listens starting
  have ongoing := hear_ongoing reachable listening first
  obtain ⟨framing, whole, known⟩ := hear_together reachable begun first second
  rw [Together, onEvent_greeting reachable stands, onEvent_greeting reachable stands, whole,
    greet_reframed]
  rcases greeting_cases reachable starting first with
    ⟨held, silent, _⟩ | ⟨extensions, welcomed, _⟩ | ⟨fault, ending, refused, decided⟩
  · -- The greeting goes on with what the second piece brings.
    have still : { service with framing := held }.standing = .greeting := stands
    simp only [silent] at known ⊢
    rw [greet_none reachable rfl, onEvent_greeting reachable still]
    generalize { service with framing := held }.hear reachable (.data second) = heard at known ⊢
    obtain ⟨dialogue, kept⟩ := greet_keeps reachable heard
    rw [← dialogue, ← kept] at known
    exact ⟨.refl _, framing, rfl, known⟩
  · -- The second piece finds a service that serves; the whole is heard before it does.
    have works := hear_data_works reachable (service.hear reachable (.data first)).1 second
    rw [greet_welcome reachable welcomed, greet_welcome reachable (greeted_append welcomed _)]
    dsimp only
    rw [onEvent_opened reachable ongoing]
    exact ⟨.swap works rfl, framing, rfl, known⟩
  · -- The second piece finds nobody; the rest of the whole is lost on the service as well.
    obtain ⟨held, silent⟩ := hear_deaf reachable decided second
    rw [greet_refused reachable refused, greet_refused reachable (greeted_append refused _),
      onEvent_gone reachable rfl, silent]
    refine ⟨?_, framing, rfl, .inr ⟨ending, decided⟩⟩
    simp only [List.append_nil]
    exact .refl _

theorem together (accepted : service.Accepted) (reachable : Bool) (first second : Octets) :
    Together service reachable first second := by
  cases accepted with
  | greeting stands starting waiting => exact together_greeted reachable stands starting first second
  | serving stands underway ongoing waiting =>
    exact together_served reachable stands underway ongoing first second
  | gone stands =>
    simp only [Together, onEvent_gone reachable stands]
    exact ⟨.refl _, .refl _⟩

theorem empty_piece (accepted : service.Accepted) (reachable : Bool) :
    (service.onEvent reachable (.data [])).2 = [] ∧
      Alike service (service.onEvent reachable (.data [])).1 := by
  have unread (waiting : Unfinished service.framing.held) :
      service.hear reachable (.data []) = (service, []) := by
    have same : service.framing.extend [] = service.framing := by
      rw [Framing.extend, List.append_nil]
    have reads : Framing.Reads (service.framing.extend []) [] none service.framing := by
      rw [same]
      exact .waits waiting
    rw [hear_reads reachable reads]
    rfl
  cases accepted with
  | greeting stands starting waiting =>
    rw [onEvent_greeting reachable stands, unread waiting]
    exact ⟨rfl, .refl _⟩
  | serving stands underway ongoing waiting =>
    rw [onEvent_serving reachable stands ongoing]
    cases decided : service.dialogue.ending? with
    | none =>
      rw [unread (waiting decided)]
      exact ⟨rfl, .refl _⟩
    | some ending =>
      obtain ⟨framing, silent⟩ := hear_deaf reachable decided []
      rw [silent]
      exact ⟨rfl, framing, rfl, .inr ⟨ending, decided⟩⟩
  | gone stands =>
    rw [onEvent_gone reachable stands]
    exact ⟨rfl, .refl _⟩

theorem pieces_as_one (accepted : service.Accepted) (reachable : Bool) (chunks : List Octets) :
    SameEffects (effectsBy service (pieces reachable chunks))
        (service.onEvent reachable (.data chunks.flatten)).2 ∧
      Alike (machine.reach service (pieces reachable chunks))
        (service.onEvent reachable (.data chunks.flatten)).1 := by
  induction chunks generalizing service with
  | nil =>
    obtain ⟨nothing, alike⟩ := empty_piece accepted reachable
    rw [List.flatten_nil, nothing]
    exact ⟨.refl _, alike⟩
  | cons chunk chunks ih =>
    have next := accepted_react accepted (.hear reachable (.data chunk))
    obtain ⟨effects, alike⟩ := ih next
    obtain ⟨both, whole⟩ := together accepted reachable chunk chunks.flatten
    have front := SameEffects.refl (service.onEvent reachable (.data chunk)).2
    exact ⟨(front.append effects).trans both, alike.trans whole⟩

theorem accepted_reach (accepted : service.Accepted) (turns : List Turn) :
    (machine.reach service turns).Accepted :=
  machine.reach_keeps_under Accepted (fun turn _ _ still => accepted_react still turn) accepted

theorem alike_run (accepted : one.Accepted) (also : other.Accepted) (alike : Alike one other)
    (turns : List Turn) :
    effectsBy one turns = effectsBy other turns ∧
      Alike (machine.reach one turns) (machine.reach other turns) := by
  induction turns generalizing one other with
  | nil => exact ⟨rfl, alike⟩
  | cons turn turns ih =>
    obtain ⟨same, still⟩ := alike_react accepted also alike turn
    obtain ⟨rest, ends⟩ := ih (accepted_react accepted turn) (accepted_react also turn) still
    refine ⟨?_, ends⟩
    rw [effectsBy_cons, effectsBy_cons, same, rest]

-- However a stretch of the stream is cut, whatever came before it and whatever follows.
theorem cuts_make_no_difference (asked : Bool) (extensions : List Text.Pair) (earlier : List Turn)
    (accepted : (machine.reach (begin asked extensions).1 earlier).standing ≠ .requesting)
    {chunks others : List Octets} (same : chunks.flatten = others.flatten) (reachable : Bool)
    (later : List Turn) :
    let service := machine.reach (begin asked extensions).1 earlier
    let one := effectsBy service (pieces reachable chunks ++ later)
    let other := effectsBy service (pieces reachable others ++ later)
    one.filterMap Effect.settlement? = other.filterMap Effect.settlement? ∧
      one.filterMap Effect.command? = other.filterMap Effect.command? ∧
      one.filterMap Effect.outcome? = other.filterMap Effect.outcome? ∧
      (machine.reach service (pieces reachable chunks ++ later)).dialogue.view =
        (machine.reach service (pieces reachable others ++ later)).dialogue.view ∧
      Alike (machine.reach service (pieces reachable chunks ++ later))
        (machine.reach service (pieces reachable others ++ later)) := by
  intro service one other
  have known : service.Accepted := by
    rcases reached asked extensions earlier with requesting | known
    · exact absurd requesting.stands accepted
    · exact known
  obtain ⟨effects, alike⟩ := pieces_as_one known reachable chunks
  obtain ⟨effects', alike'⟩ := pieces_as_one known reachable others
  rw [← same] at effects' alike'
  obtain ⟨rest, ends⟩ := alike_run (accepted_reach known _) (accepted_reach known _)
    (alike.trans alike'.symm) later
  have all : SameEffects one other := by
    simp only [one, other, effectsBy_append, rest]
    exact (effects.trans effects'.symm).append (.refl _)
  rw [Machine.reach_append, Machine.reach_append]
  refine ⟨all.of_work ?_, all.of_work ?_, all.of_news ?_, ?_, ends⟩
  · intro effect news
    cases effect <;> first | rfl | cases news
  · intro effect news
    cases effect <;> first | rfl | cases news
  · intro effect work
    cases effect <;> first | rfl | cases work
  · obtain ⟨framing, equal, _⟩ := ends
    rw [equal]

-- The server greets, answers a request that nobody has made, and then breaks the framing.
def babble : Octets :=
  (Message.version protocolVersion [("limits", "1")]).frame ++
    (Message.response 5 (.data [1, 2])).frame ++ [0, 0, 0, 0]

def crumbs : List Octets := [babble.take 3, [], (babble.drop 3).take 20, babble.drop 23, []]

def aftermath : List Turn :=
  [.submit (.request (.stat []) 4), .take true, .hear true (.data [7]), .hear true .closed]

theorem cuts_make_no_difference_babble :
    (machine.reach (begin true []).1 [.hear true .success]).standing ≠ .requesting ∧
    crumbs.flatten = [babble].flatten ∧
    (let service := machine.reach (begin true []).1 [.hear true .success]
    let effects := effectsBy service (pieces true crumbs ++ aftermath)
    effects.filterMap Effect.settlement? =
        [.answer greetingTicket (.ok (.extensions [("limits", "1")])), Dialogue.refuse 4 .closed] ∧
      effects.filterMap Effect.command? = [.close] ∧
      effects.filterMap Effect.outcome? = [.ok [("limits", "1")]] ∧
      (machine.reach service (pieces true crumbs ++ aftermath)).dialogue.view =
        .failed (.violation .unmatchedResponse)) := by
  have accepted : (machine.reach (begin true []).1 [.hear true .success]).standing ≠ .requesting := by
    decide
  have same : crumbs.flatten = [babble].flatten := by decide +kernel
  obtain ⟨settlements, commands, outcomes, view, _⟩ :=
    cuts_make_no_difference true [] [.hear true .success] accepted same true aftermath
  refine ⟨accepted, same, settlements.trans ?_, commands.trans ?_, outcomes.trans ?_, view.trans ?_⟩
  all_goals decide +kernel

end SecureShell.Sftp.Service
