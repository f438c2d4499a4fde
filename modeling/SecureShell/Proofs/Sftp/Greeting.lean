import SecureShell.Proofs.Sftp.Chunking

namespace SecureShell.Sftp

-- What the first thing that a server says comes to: its version, or what is wrong with it.
inductive Judged : Except Violation Message → Except SftpFault (List Text.Pair) → Prop
  | welcome (extensions : List Text.Pair) :
      Judged (.ok (.version protocolVersion extensions)) (.ok extensions)
  | outdated (other : number ≠ protocolVersion) (extensions : List Text.Pair) :
      Judged (.ok (.version number extensions)) (.error (.unsupportedVersion number))
  | stray (other : ∀ number extensions, message ≠ .version number extensions) :
      Judged (.ok message) (.error (.violation .versionExpected))
  | garbled (violation : Violation) : Judged (.error violation) (.error (.violation violation))

-- A stream decides as soon as its first frame is there, or a length that none may have.
inductive Decides (stream : Octets) : Except SftpFault (List Text.Pair) → Prop
  | frame {body rest : Octets} (proper : Proper body) (front : stream = Octets.writeString body ++ rest)
      (judged : Judged (Message.read body) outcome) : Decides stream outcome
  | barred (barred : Barred length stream) : Decides stream (.error (.violation (.frameLength length)))

def payload (events : List ChannelEvent) : Octets :=
  events.flatMap fun
    | .data data => data
    | _ => []

-- How a greeting goes with these octets held back: what is heard before the channel is closed
-- decides, or comes too short.
inductive Greets (held : Octets) (events : List ChannelEvent) : Except SftpFault (List Text.Pair) → Prop
  | decided (split : events = greeting ++ .closed :: after) (unclosed : .closed ∉ greeting)
      (decides : Decides (held ++ payload greeting) outcome) : Greets held events outcome
  | cutShort (split : events = greeting ++ .closed :: after) (unclosed : .closed ∉ greeting)
      (unfinished : Unfinished (held ++ payload greeting)) : Greets held events (.error .closed)

-- The request for the subsystem is answered, or never will be.
def answersRequest : ChannelEvent → Bool
  | .success | .failure | .closed => true
  | .data _ | .extendedData _ | .exitStatus _ | .eof => false

-- How a service starts: the first answer to its request decides, and if that is a success, the
-- stream that follows.
inductive Starts (events : List ChannelEvent) : Except SftpFault (List Text.Pair) → Prop
  | rejected (split : events = before ++ .failure :: after)
      (waits : ∀ event ∈ before, answersRequest event = false) :
      Starts events (.error (.violation .subsystemRejected))
  | dropped (split : events = before ++ .closed :: after)
      (waits : ∀ event ∈ before, answersRequest event = false) : Starts events (.error .closed)
  | greets (split : events = before ++ .success :: after)
      (waits : ∀ event ∈ before, answersRequest event = false) (greets : Greets [] after outcome) :
      Starts events outcome

-- A start that goes well, spelled out: the subsystem is accepted, and before the channel is closed
-- the stream begins with the version that is spoken here.
def Welcomes (events : List ChannelEvent) (extensions : List Text.Pair) : Prop :=
  ∃ before greeting after body rest, events = before ++ .success :: (greeting ++ .closed :: after) ∧
    (∀ event ∈ before, answersRequest event = false) ∧ .closed ∉ greeting ∧ Proper body ∧
    payload greeting = Octets.writeString body ++ rest ∧
    Message.read body = .ok (.version protocolVersion extensions)

variable {stream held : Octets} {outcome other : Except SftpFault (List Text.Pair)}
  {item : Except Violation Message} {event : ChannelEvent} {events before after : List ChannelEvent}

theorem Judged.unique (one : Judged item outcome) (two : Judged item other) : outcome = other := by
  cases one with
  | welcome extensions =>
    cases two with
    | welcome => rfl
    | outdated other => exact absurd rfl other
    | stray other => exact absurd rfl (other _ _)
  | outdated differs extensions =>
    cases two with
    | welcome => exact absurd rfl differs
    | outdated => rfl
    | stray other => exact absurd rfl (other _ _)
  | stray none =>
    cases two with
    | welcome | outdated => exact absurd rfl (none _ _)
    | stray => rfl
  | garbled violation => cases two; rfl

theorem judged_total (item : Except Violation Message) : ∃ outcome, Judged item outcome := by
  cases item with
  | error violation => exact ⟨_, .garbled violation⟩
  | ok message =>
    cases message with
    | version number extensions =>
      by_cases same : number = protocolVersion
      · rw [same]
        exact ⟨_, .welcome extensions⟩
      · exact ⟨_, .outdated same extensions⟩
    | init | request | response => exact ⟨_, .stray nofun⟩

namespace Decides

theorem append (decides : Decides stream outcome) (more : Octets) :
    Decides (stream ++ more) outcome := by
  cases decides with
  | frame proper front judged =>
    rw [front, List.append_assoc]
    exact .frame proper rfl judged
  | barred barred =>
    obtain ⟨rest, front, bad⟩ := barred
    exact .barred ⟨rest ++ more, by rw [front, List.append_assoc], bad⟩

theorem drained {framing : Framing} (decides : Decides framing.held outcome) :
    ∃ item items last, framing.drain = (item :: items, last) ∧ Judged item outcome := by
  cases decides with
  | @frame _ body rest proper front judged =>
    cases read : Message.read body with
    | error violation =>
      rw [read] at judged
      exact ⟨_, _, _, Framing.drain_of_reads (.garbled proper front read), judged⟩
    | ok message =>
      obtain ⟨messages, breach, last, later⟩ := Framing.exists_reads ⟨rest⟩
      rw [read] at judged
      exact ⟨_, _, _, Framing.drain_of_reads (.reads proper front read later), judged⟩
  | barred barred => exact ⟨_, _, _, Framing.drain_of_reads (.barred barred), .garbled _⟩

theorem unique (one : Decides stream outcome) (two : Decides stream other) : outcome = other := by
  have first : Decides (Framing.mk stream).held outcome := one
  have second : Decides (Framing.mk stream).held other := two
  obtain ⟨item, items, last, drained, judged⟩ := first.drained
  obtain ⟨item', items', last', drained', judged'⟩ := second.drained
  rw [drained] at drained'
  cases drained'
  exact judged.unique judged'

theorem finished (decides : Decides stream outcome) : ¬ Unfinished stream := by
  intro unfinished
  have first : Decides (Framing.mk stream).held outcome := decides
  have waits : Unfinished (Framing.mk stream).held := unfinished
  obtain ⟨item, items, last, drained, _⟩ := first.drained
  rw [Framing.drain_of_reads (.waits waits)] at drained
  cases drained

end Decides

theorem unfinished_or_decides (stream : Octets) :
    Unfinished stream ∨ ∃ outcome, Decides stream outcome := by
  rcases Framing.next_cases ⟨stream⟩ with
    ⟨body, rest, proper, front, _⟩ | ⟨unfinished, _⟩ | ⟨length, barred, _⟩
  · obtain ⟨outcome, judged⟩ := judged_total (Message.read body)
    exact .inr ⟨outcome, .frame proper front judged⟩
  · exact .inl unfinished
  · exact .inr ⟨_, .barred barred⟩

namespace Greets

theorem later (greets : Greets held (event :: events) outcome) (going : event ≠ .closed) :
    Greets (held ++ payload [event]) events outcome := by
  have shift (greeting : List ChannelEvent) :
      held ++ payload (event :: greeting) = held ++ payload [event] ++ payload greeting := by
    simp [payload]
  cases greets with
  | @decided greeting _ _ split unclosed decides =>
    cases greeting with
    | nil =>
      cases split
      exact absurd rfl going
    | cons first greeting =>
      cases split
      rw [shift] at decides
      exact .decided rfl (fun member => unclosed (List.mem_cons_of_mem _ member)) decides
  | @cutShort greeting _ split unclosed unfinished =>
    cases greeting with
    | nil =>
      cases split
      exact absurd rfl going
    | cons first greeting =>
      cases split
      rw [shift] at unfinished
      exact .cutShort rfl (fun member => unclosed (List.mem_cons_of_mem _ member)) unfinished

theorem of_decided (greets : Greets held events outcome) (decides : Decides held other) :
    outcome = other := by
  cases greets with
  | decided split unclosed whole => exact whole.unique (decides.append _)
  | cutShort split unclosed unfinished => exact absurd unfinished (decides.append _).finished

theorem of_closed (greets : Greets held (.closed :: events) outcome) (waiting : Unfinished held) :
    outcome = .error .closed := by
  cases greets with
  | cutShort => rfl
  | @decided greeting _ _ split unclosed decides =>
    cases greeting with
    | nil =>
      simp only [payload, List.flatMap_nil, List.append_nil] at decides
      exact absurd waiting decides.finished
    | cons first greeting =>
      cases split
      exact absurd List.mem_cons_self unclosed

end Greets

theorem exists_greets (held : Octets) (closed : .closed ∈ events) :
    ∃ outcome, Greets held events outcome := by
  obtain ⟨greeting, after, split, unclosed⟩ := List.eq_append_cons_of_mem closed
  rcases unfinished_or_decides (held ++ payload greeting) with unfinished | ⟨outcome, decides⟩
  · exact ⟨_, .cutShort split unclosed unfinished⟩
  · exact ⟨outcome, .decided split unclosed decides⟩

theorem exists_starts (closed : .closed ∈ events) : ∃ outcome, Starts events outcome := by
  have answered : (events.find? answersRequest).isSome :=
    List.find?_isSome.mpr ⟨.closed, closed, rfl⟩
  obtain ⟨first, found⟩ := Option.isSome_iff_exists.mp answered
  obtain ⟨answers, before, after, split, unanswered⟩ := List.find?_eq_some_iff_append.mp found
  have waits : ∀ event ∈ before, answersRequest event = false := by
    intro event member
    simpa using unanswered event member
  cases first with
  | failure => exact ⟨_, .rejected split waits⟩
  | closed => exact ⟨_, .dropped split waits⟩
  | success =>
    have follows : .closed ∈ after := by
      rw [split] at closed
      rcases List.mem_append.mp closed with early | late
      · cases waits .closed early
      · simpa using late
    obtain ⟨outcome, greets⟩ := exists_greets [] follows
    exact ⟨outcome, .greets split waits greets⟩
  | data | extendedData | exitStatus | eof => cases answers

theorem starts_ok_iff {extensions : List Text.Pair} :
    Starts events (.ok extensions) ↔ Welcomes events extensions := by
  constructor
  · intro starts
    cases starts with
    | greets split waits greets =>
      cases greets with
      | decided split' unclosed decides =>
        cases decides with
        | @frame _ body rest proper front judged =>
          cases read : Message.read body with
          | error violation => rw [read] at judged; cases judged
          | ok message =>
            rw [read] at judged
            cases judged
            exact ⟨_, _, _, body, rest, by rw [split, split'], waits, unclosed, proper, front, read⟩
  · rintro ⟨before, greeting, after, body, rest, split, waits, unclosed, proper, front, read⟩
    have decides : Decides ([] ++ payload greeting) (.ok extensions) :=
      .frame proper front (read ▸ .welcome extensions)
    exact .greets split waits (.decided rfl unclosed decides)

theorem Judged.advances (judged : Judged item outcome) (start : Ticket) :
    (Dialogue.starting start).advance (Service.ofItem item) =
      match outcome with
      | .ok extensions =>
        { next := .ready [], settled := [.answer start (.ok (.extensions extensions))] }
      | .error fault => Dialogue.breakOff fault [Dialogue.refuse start fault] := by
  cases judged with
  | welcome extensions => rfl
  | outdated other extensions =>
    simp only [Service.ofItem, Dialogue.advance, Dialogue.greeted, if_neg other]
  | @stray message other =>
    cases message with
    | version number extensions => exact absurd rfl (other number extensions)
    | init | request | response => rfl
  | garbled violation => rfl

namespace Service

def hears (events : List ChannelEvent) : List Turn := events.map (.hear true)

def news (effects : List Effect) : List (Except SftpFault (List Text.Pair)) :=
  effects.filterMap Effect.outcome?

-- Whoever asked for the service is told this once, and bad news come with the end of the channel.
def Tells (service : Service) (events : List ChannelEvent) (outcome : Except SftpFault (List Text.Pair)) :
    Prop :=
  news (effectsBy service (hears events)) = [outcome] ∧
    ∀ fault, outcome = .error fault → .put .close ∈ effectsBy service (hears events)

variable {service : Service} {turn : Turn}

theorem effectsBy_hears (service : Service) (event : ChannelEvent) (events : List ChannelEvent) :
    effectsBy service (hears (event :: events)) =
      (service.onEvent true event).2 ++ effectsBy (service.onEvent true event).1 (hears events) := rfl

theorem news_append (early late : List Effect) : news (early ++ late) = news early ++ news late :=
  List.filterMap_append

theorem news_of_works {effects : List Effect} (works : ∀ effect ∈ effects, effect.isWork = true) :
    news effects = [] := by
  apply List.filterMap_eq_nil_iff.mpr
  intro effect member
  have work := works effect member
  cases effect <;> first | rfl | cases work

theorem news_react (attending : service.Attending) (turn : Turn) : news (service.react turn).2 = [] := by
  cases turned attending turn with
  | sends noted ready free taken result next =>
    rw [result]
    rfl
  | passes noted passes =>
    apply List.filterMap_eq_nil_iff.mpr
    intro effect member
    rcases passes.told effect member with plain | ⟨message, heard, id, promise, named, holder, rfl⟩
    · cases plain <;> rfl
    · rfl

theorem news_run (attending : service.Attending) (turns : List Turn) :
    news (effectsBy service turns) = [] := by
  induction turns using List.reverseRecOn with
  | nil => rfl
  | append_singleton turns turn ih =>
    rw [effectsBy_concat, news_append, ih,
      news_react (attending_reach attending turns)]
    rfl

theorem hear_works (reachable : Bool) (service : Service) (event : ChannelEvent) :
    ∀ effect ∈ (service.hear reachable event).2, effect.isWork = true := by
  cases event with
  | data data => exact hear_data_works reachable service data
  | closed =>
    intro effect member
    apply triggerAll_works reachable service [.disconnected]
    simpa [triggerAll, hear] using member
  | success | failure | extendedData | exitStatus | eof =>
    exact fun effect member => absurd member List.not_mem_nil

theorem greeted_decided {data : Octets} (reachable : Bool)
    (starting : service.dialogue = .starting greetingTicket)
    (decides : Decides (service.framing.held ++ data) outcome) :
    greeted? (service.hear reachable (.data data)).2 = some (outcome.map .extensions) := by
  have extended : Decides (service.framing.extend data).held outcome := decides
  obtain ⟨item, items, last, drained, judged⟩ := extended.drained
  rw [hear_data, drained]
  simp only [List.map_cons, triggerAll, trigger_eq, starting, judged.advances]
  cases outcome <;> rfl

theorem tells_now (stands : service.standing = .greeting)
    (starting : service.dialogue = .starting greetingTicket)
    (answered : greeted? (service.hear true event).2 = some (outcome.map .extensions))
    (events : List ChannelEvent) : service.Tells (event :: events) outcome := by
  have silent := news_of_works (hear_works true service event)
  have free := hear_greeted true event starting answered
  cases outcome with
  | ok extensions =>
    have attending := (greeting_opens true event stands starting answered).attending
    refine ⟨?_, nofun⟩
    rw [effectsBy_hears, news_append, news_run attending, onEvent_greeting true stands,
      greet_welcome true answered, news_append, silent]
    rfl
  | error fault =>
    have refused : service.onEvent true event =
        ({ (service.hear true event).1 with standing := .gone },
          (service.hear true event).2 ++ [.put .close, .unready fault, .leave]) := by
      rw [onEvent_greeting true stands, greet_refused true answered]
      rfl
    have attending : (service.onEvent true event).1.Attending := by
      rw [refused]
      exact ⟨.inl rfl, Dialogue.underway_of_owed free⟩
    have told : news (service.onEvent true event).2 = [.error fault] := by
      rw [refused, news_append, silent]
      rfl
    have closes : .put .close ∈ (service.onEvent true event).2 := by
      rw [refused]
      exact List.mem_append_right _ List.mem_cons_self
    rw [Tells, effectsBy_hears, news_append, news_run attending, told]
    exact ⟨rfl, fun _ _ => List.mem_append_left _ closes⟩

theorem tells_later {after : Service} (still : service.onEvent true event = (after, []))
    (tells : after.Tells events outcome) : service.Tells (event :: events) outcome := by
  rw [Tells, effectsBy_hears, still]
  exact tells

theorem greeting_tells (stands : service.standing = .greeting)
    (starting : service.dialogue = .starting greetingTicket) (waiting : Unfinished service.framing.held)
    (greets : Greets service.framing.held events outcome) : service.Tells events outcome := by
  -- The stretch held back grows until it decides.
  induction events generalizing service with
  | nil => cases greets <;> simp_all
  | cons event events ih =>
    cases event with
    | closed =>
      rw [greets.of_closed waiting]
      apply tells_now stands starting
      simp only [hear, trigger_eq, starting]
      rfl
    | data data =>
      have rest := greets.later (by simp)
      have octets : payload [.data data] = data := by simp [payload]
      rw [octets] at rest
      rcases unfinished_or_decides (service.framing.held ++ data) with unfinished | ⟨other, decides⟩
      · have waits : Unfinished (service.framing.extend data).held := unfinished
        have still : service.onEvent true (.data data) =
            ({ service with framing := service.framing.extend data }, []) := by
          rw [onEvent_greeting true stands, hear_reads true (.waits waits)]
          rfl
        have later : Tells { service with framing := service.framing.extend data } events outcome :=
          ih stands starting waits rest
        exact tells_later still later
      · rw [rest.of_decided decides]
        exact tells_now stands starting (greeted_decided true starting decides) events
    | success | failure | extendedData | exitStatus | eof =>
      have rest := greets.later (by simp)
      simp only [payload, List.flatMap_cons, List.flatMap_nil, List.append_nil] at rest
      have still : ∀ event, service.hear true event = (service, []) →
          service.onEvent true event = (service, []) := by
        intro event nothing
        rw [onEvent_greeting true stands, nothing]
        rfl
      exact tells_later (still _ rfl) (ih stands starting waiting rest)

theorem requesting_waits (stands : service.standing = .requesting)
    (waits : ∀ event ∈ before, answersRequest event = false) (tells : service.Tells events outcome) :
    service.Tells (before ++ events) outcome := by
  induction before with
  | nil => exact tells
  | cons event before ih =>
    have rest := ih fun later member => waits later (List.mem_cons_of_mem _ member)
    have unanswered := waits event List.mem_cons_self
    refine tells_later ?_ rest
    simp only [onEvent, stands]
    cases event with
    | success | failure | closed => cases unanswered
    | data | extendedData | exitStatus | eof => rfl

theorem requesting_aborts {fault : SftpFault} (idle : service.dialogue = .idle)
    (aborts : service.onEvent true event = service.abort true fault) (events : List ChannelEvent) :
    service.Tells (event :: events) (.error fault) := by
  have attending : (service.abort true fault).1.Attending := by
    refine ⟨.inl rfl, ?_⟩
    simp [abort, idle, Dialogue.view]
  rw [Tells, effectsBy_hears, aborts, news_append, news_run attending]
  exact ⟨rfl, fun _ _ => List.mem_append_left _ List.mem_cons_self⟩

theorem requesting_greets (requesting : service.Requesting) (greets : Greets [] events outcome) :
    service.Tells (.success :: events) outcome := by
  obtain ⟨stands, idle, nothing⟩ := requesting
  let greeting := { service with standing := .greeting, dialogue := .starting greetingTicket }
  have asks : service.onEvent true .success =
      (greeting, [.put (.data (Message.init protocolVersion service.extensions).frame)]) := by
    simp only [onEvent, stands, hearRequesting, trigger_eq, idle]
    rfl
  have waiting : Unfinished greeting.framing.held := by
    simp only [greeting, nothing]
    exact .inl (by decide)
  have tells : greeting.Tells events outcome := by
    apply greeting_tells rfl rfl waiting
    simpa only [greeting, nothing] using greets
  rw [Tells, effectsBy_hears, asks, news_append]
  exact ⟨tells.1, fun fault bad => List.mem_append_right _ (tells.2 fault bad)⟩

theorem starts_tells (requesting : service.Requesting) (starts : Starts events outcome) :
    service.Tells events outcome := by
  have stands := requesting.stands
  cases starts with
  | rejected split waits =>
    rw [split]
    apply requesting_waits stands waits
    apply requesting_aborts requesting.idle
    simp only [onEvent, stands, hearRequesting]
  | dropped split waits =>
    rw [split]
    apply requesting_waits stands waits
    apply requesting_aborts requesting.idle
    simp only [onEvent, stands, hearRequesting]
  | greets split waits greets =>
    rw [split]
    exact requesting_waits stands waits (requesting_greets requesting greets)

end Service
end SecureShell.Sftp
