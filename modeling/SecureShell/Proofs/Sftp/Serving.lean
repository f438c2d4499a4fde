import SecureShell.Proofs.Sftp.Identifiers
import SecureShell.Sftp.Service

namespace SecureShell.Sftp

namespace Pending

variable {pending : Pending} {id other : UInt32} {promise holder : Ticket}

theorem find_of_drop (found : (pending.drop id).find? other = some promise) :
    pending.find? other = some promise := by
  by_cases same : other = id
  · have gone : id ∉ (pending.drop id).map Prod.fst := by
      simp [drop]
    rw [same, find_eq_none.mpr gone] at found
    cases found
  · rwa [find_drop_other same] at found

theorem find_in_append (found : find? (pending ++ [(id, promise)]) other = some holder) :
    pending.find? other = some holder ∨ id = other ∧ promise = holder := by
  rcases List.mem_append.mp (mem_of_find found) with before | last
  · left
    cases earlier : pending.find? other with
    | none => exact absurd (List.mem_map_of_mem before) (find_eq_none.mp earlier)
    | some first =>
      rw [find_append earlier] at found
      exact found
  · cases List.mem_singleton.mp last
    exact .inr ⟨rfl, rfl⟩

theorem drop_append_last (free : pending.has id = false) (promise : Ticket) :
    drop (pending ++ [(id, promise)]) id = pending := by
  have absent : pending.drop id = pending := drop_absent (find_eq_none.mp (has_eq_false.mp free))
  rw [drop] at absent ⊢
  rw [List.filter_append, absent]
  simp

end Pending

namespace Dialogue

-- What can happen to a dialogue besides its start and its own requests.
def Event.Outer : Event → Prop
  | .inbound _ | .malformed _ | .disconnect _ | .disconnected => True
  | .start .. | .request .. | .unsent _ => False

def Parting (settlement : Settlement Answer) : Prop :=
  ∃ promise, settlement = refuse promise .closed ∨ settlement = .answer promise (.ok .done)

-- What comes of it: a message finds the request it belongs to, or nobody gets one.
inductive Outside (dialogue : Dialogue) (event : Event) : Step → Prop
  | delivers {id : UInt32} (heard : event = .inbound message) (named : message.id? = some id)
      (ready : dialogue = .ready pending) (held : pending.find? id = some promise) :
      Outside dialogue event
        { next := .ready (pending.drop id), settled := [.answer promise (.ok (.message message))] }
  | quiet (silent : step.action = .none ∨ step.action = .disconnect)
      (kept : step.next = dialogue ∨ step.next.view ≠ .ready ∧ step.next.view ≠ .starting)
      (parting : ∀ settlement ∈ step.settled, Parting settlement) : Outside dialogue event step

variable {dialogue : Dialogue} {event : Event}

theorem drain_parting (pending : Pending) : ∀ settlement ∈ drain pending, Parting settlement := by
  intro settlement member
  obtain ⟨promise, _, rfl⟩ := List.mem_map.mp member
  exact ⟨promise, .inl rfl⟩

theorem answerAll_parting (closers : List Ticket) :
    ∀ settlement ∈ Settlement.answerAll closers (.ok .done), Parting settlement := by
  intro settlement member
  obtain ⟨promise, _, rfl⟩ := List.mem_map.mp member
  exact ⟨promise, .inr rfl⟩

theorem done_parting (promise : Ticket) :
    ∀ settlement ∈ [Settlement.answer promise (.ok .done)], Parting settlement := by
  intro settlement member
  cases List.mem_singleton.mp member
  exact ⟨promise, .inr rfl⟩

theorem nothing_parting : ∀ settlement ∈ ([] : List (Settlement Answer)), Parting settlement := by
  intro settlement member
  cases member

theorem outside (underway : dialogue.view ≠ .starting) (outer : event.Outer) :
    Outside dialogue event (dialogue.advance event) := by
  cases event with
  | start | request | unsent => cases outer
  | inbound message =>
    cases dialogue with
    | starting start => exact absurd rfl underway
    | ready pending =>
      rcases responded_cases pending message with ⟨id, promise, named, held⟩ | unknown
      · rw [advance, responded_known named held]
        exact .delivers rfl named rfl held
      · rw [advance, responded_unknown unknown]
        exact .quiet (.inr rfl) (.inr (by constructor <;> rintro ⟨⟩)) (drain_parting pending)
    | _ => exact .quiet (.inl rfl) (.inl rfl) nothing_parting
  | malformed fault =>
    cases dialogue with
    | starting start => exact absurd rfl underway
    | ready pending => exact .quiet (.inr rfl) (.inr (by constructor <;> rintro ⟨⟩)) (drain_parting pending)
    | _ => exact .quiet (.inl rfl) (.inl rfl) nothing_parting
  | disconnect promise =>
    cases dialogue with
    | idle => exact .quiet (.inr rfl) (.inr (by constructor <;> rintro ⟨⟩)) nothing_parting
    | starting start => exact absurd rfl underway
    | ready pending => exact .quiet (.inr rfl) (.inr (by constructor <;> rintro ⟨⟩)) (drain_parting pending)
    | closing closers fault => exact .quiet (.inl rfl) (.inr (by constructor <;> rintro ⟨⟩)) nothing_parting
    | closed | failed fault => exact .quiet (.inl rfl) (.inl rfl) (done_parting promise)
  | disconnected =>
    cases dialogue with
    | idle => exact .quiet (.inl rfl) (.inr (by constructor <;> rintro ⟨⟩)) nothing_parting
    | starting start => exact absurd rfl underway
    | ready pending => exact .quiet (.inl rfl) (.inr (by constructor <;> rintro ⟨⟩)) (drain_parting pending)
    | closing closers fault =>
      cases fault <;> exact .quiet (.inl rfl) (.inr (by constructor <;> rintro ⟨⟩)) (answerAll_parting closers)
    | closed | failed fault => exact .quiet (.inl rfl) (.inl rfl) nothing_parting

theorem Outside.silent {step : Step} (came : Outside dialogue event step) :
    step.action = .none ∨ step.action = .disconnect := by
  cases came with
  | delivers heard named ready held => exact .inl rfl
  | quiet silent kept parting => exact silent

theorem underway_of_owed (free : dialogue.owed = []) : dialogue.view ≠ .starting := by
  cases dialogue with
  | starting start => cases free
  | _ => nofun

theorem owes_nothing (free : dialogue.owed = []) (brings : event.brought = []) :
    (dialogue.advance event).next.owed = [] := by
  have sound : dialogue.Sound := by
    cases dialogue with
    | ready pending =>
      rw [List.map_eq_nil_iff.mp free]
      exact List.nodup_nil
    | _ => trivial
  apply List.eq_nil_iff_forall_not_mem.mpr
  intro promise member
  have balanced := advance_balances sound event promise
  have present := List.count_pos_iff.mpr member
  rw [free, brings] at balanced
  simp only [List.append_nil, List.count_nil] at balanced
  omega

theorem greeting_over (start : Ticket) (outer : event.Outer) (brings : event.brought = []) :
    ((starting start).advance event).next.owed = [] ∧
      (((starting start).advance event).action = .none ∨
        ((starting start).advance event).action = .disconnect) := by
  cases event with
  | start | request | unsent => cases outer
  | disconnect promise => cases brings
  | inbound message =>
    simp only [advance]
    unfold greeted
    split
    · split
      · exact ⟨rfl, .inl rfl⟩
      · exact ⟨rfl, .inr rfl⟩
    · exact ⟨rfl, .inr rfl⟩
  | malformed fault => exact ⟨rfl, .inr rfl⟩
  | disconnected => exact ⟨rfl, .inl rfl⟩

end Dialogue

namespace Service

inductive Effect.Plain : Effect → Prop
  | close : Plain (.put .close)
  | leave : Plain .leave
  | parting (told : Dialogue.Parting settlement) : Plain (.settle settlement)
  | exhausted (promise : Ticket) :
      Plain (.settle (Dialogue.refuse promise (.violation .idsExhausted)))

namespace Effect.Plain

theorem closed (promise : Ticket) : Plain (.settle (Dialogue.refuse promise .closed)) :=
  .parting ⟨promise, .inl rfl⟩

theorem done (promise : Ticket) : Plain (.settle (.answer promise (.ok .done))) :=
  .parting ⟨promise, .inr rfl⟩

theorem only {effect : Effect} (plain : effect.Plain) : ∀ other ∈ [effect], other.Plain := by
  intro other member
  rwa [List.mem_singleton.mp member]

theorem nothing : ∀ effect ∈ [], Plain effect := by
  intro effect member
  cases member

theorem append {early late : List Effect} (first : ∀ effect ∈ early, effect.Plain)
    (second : ∀ effect ∈ late, effect.Plain) : ∀ effect ∈ early ++ late, effect.Plain := by
  intro effect member
  rcases List.mem_append.mp member with before | after
  · exact first effect before
  · exact second effect after

end Effect.Plain

def Delivers (dialogue : Dialogue) (message : Message) (effect : Effect) : Prop :=
  ∃ id promise, message.id? = some id ∧ dialogue.holder? id = some promise ∧
    effect = .settle (.answer promise (.ok (.message message)))

-- Nothing new is in flight after it, and replies are messages that were heard.
structure Passes (heard : Message → Prop) (dialogue : Dialogue) (outcome : Outcome) : Prop where
  underway : outcome.1.dialogue.view ≠ .starting
  held : ∀ id promise, outcome.1.dialogue.holder? id = some promise →
    dialogue.holder? id = some promise
  told : ∀ effect ∈ outcome.2, effect.Plain ∨
    ∃ message, heard message ∧ Delivers dialogue message effect

variable {heard : Message → Prop} {dialogue : Dialogue} {service between after : Service}
  {early late : List Effect} {event : Dialogue.Event} {outcome : Outcome}

theorem Passes.plain (underway : dialogue.view ≠ .starting) (same : after.dialogue = dialogue)
    (plain : ∀ effect ∈ late, effect.Plain) : Passes heard dialogue (after, late) := by
  refine ⟨?_, ?_, ?_⟩
  · rwa [same]
  · intro id promise holder
    rwa [same] at holder
  · intro effect member
    exact .inl (plain effect member)

theorem Passes.still (underway : dialogue.view ≠ .starting) (same : after.dialogue = dialogue) :
    Passes heard dialogue (after, []) := .plain underway same Effect.Plain.nothing

theorem Passes.mono {more : Message → Prop} (passes : Passes heard dialogue outcome)
    (wider : ∀ message, heard message → more message) : Passes more dialogue outcome := by
  refine ⟨passes.underway, passes.held, ?_⟩
  intro effect member
  rcases passes.told effect member with plain | ⟨message, found, delivers⟩
  · exact .inl plain
  · exact .inr ⟨message, wider message found, delivers⟩

theorem Passes.trans (first : Passes heard dialogue (between, early))
    (second : Passes heard between.dialogue (after, late)) :
    Passes heard dialogue (after, early ++ late) := by
  refine ⟨second.underway, ?_, ?_⟩
  · intro id promise holder
    exact first.held id promise (second.held id promise holder)
  · intro effect member
    rcases List.mem_append.mp member with before | now
    · exact first.told effect before
    · rcases second.told effect now with plain | ⟨message, heard, id, promise, named, holder, same⟩
      · exact .inl plain
      · exact .inr ⟨message, heard, id, promise, named, first.held id promise holder, same⟩

theorem trigger_eq (reachable : Bool) (service : Service) (event : Dialogue.Event) :
    service.trigger reachable event =
      let step := service.dialogue.advance event
      ({ service with dialogue := (perform reachable step.next step.action).1 },
        settleAll step.settled ++ (perform reachable step.next step.action).2) := rfl

theorem perform_quiet {action : Dialogue.Action} (reachable : Bool) (dialogue : Dialogue)
    (silent : action = .none ∨ action = .disconnect) :
    ∃ effects, perform reachable dialogue action = (dialogue, effects) ∧
      ∀ effect ∈ effects, effect.Plain := by
  rcases silent with rfl | rfl
  · exact ⟨[], rfl, Effect.Plain.nothing⟩
  · refine ⟨put reachable .close, rfl, ?_⟩
    cases reachable with
    | false => exact Effect.Plain.nothing
    | true => exact Effect.Plain.close.only

theorem trigger_moves (reachable : Bool)
    (silent : (service.dialogue.advance event).action = .none ∨
      (service.dialogue.advance event).action = .disconnect) :
    (service.trigger reachable event).1.dialogue = (service.dialogue.advance event).next := by
  obtain ⟨effects, performed, _⟩ := perform_quiet reachable (service.dialogue.advance event).next silent
  rw [trigger_eq]
  simp only [performed]

theorem trigger_passes (reachable : Bool) (underway : service.dialogue.view ≠ .starting)
    (outer : event.Outer) (only : ∀ message, event = .inbound message → heard message) :
    Passes heard service.dialogue (service.trigger reachable event) := by
  have came := Dialogue.outside underway outer
  rw [trigger_eq]
  generalize service.dialogue.advance event = step at came
  cases came with
  | @delivers message pending promise id inbound named ready held =>
    refine ⟨Dialogue.View.noConfusion, ?_, ?_⟩
    · intro other holder found
      rw [ready]
      exact Pending.find_of_drop found
    · intro effect member
      cases List.mem_singleton.mp member
      refine .inr ⟨message, only message inbound, id, promise, named, ?_, rfl⟩
      rw [ready]
      exact held
  | quiet silent kept parting =>
    obtain ⟨effects, performed, plain⟩ := perform_quiet reachable step.next silent
    simp only [performed]
    refine ⟨?_, ?_, ?_⟩
    · rcases kept with same | ⟨_, unstarted⟩
      · rwa [same]
      · exact unstarted
    · intro id promise holder
      rcases kept with same | ⟨unready, _⟩
      · rwa [same] at holder
      · obtain ⟨pending, ready, _⟩ := Dialogue.ready_of_holder holder
        exact absurd (congrArg Dialogue.view ready) unready
    · intro effect member
      rcases List.mem_append.mp member with settles | performs
      · obtain ⟨settlement, among, rfl⟩ := List.mem_map.mp settles
        exact .inl (.parting (parting settlement among))
      · exact .inl (plain effect performs)

theorem disconnect_passes (reachable : Bool) (service : Service) (promise : Ticket)
    (same : service.dialogue = dialogue) (underway : dialogue.view ≠ .starting) :
    Passes heard dialogue (service.trigger reachable (.disconnect promise)) := by
  subst same
  have outer : (Dialogue.Event.disconnect promise).Outer := trivial
  apply trigger_passes reachable underway outer
  intro message same
  cases same

theorem triggerAll_passes {events : List Dialogue.Event} (reachable : Bool)
    (underway : service.dialogue.view ≠ .starting) (outer : ∀ event ∈ events, event.Outer)
    (only : ∀ message, .inbound message ∈ events → heard message) :
    Passes heard service.dialogue (service.triggerAll reachable events) := by
  induction events generalizing service with
  | nil => exact .still underway rfl
  | cons event events ih =>
    have first : Passes heard service.dialogue (service.trigger reachable event) :=
      trigger_passes reachable underway (outer event List.mem_cons_self)
        fun message same => only message (same ▸ List.mem_cons_self)
    have rest := ih first.underway (fun later member => outer later (List.mem_cons_of_mem _ member))
      fun message member => only message (List.mem_cons_of_mem _ member)
    exact first.trans rest

theorem triggerAll_owes_nothing {events : List Dialogue.Event} (reachable : Bool)
    (free : service.dialogue.owed = []) (outer : ∀ event ∈ events, event.Outer ∧ event.brought = []) :
    (service.triggerAll reachable events).1.dialogue.owed = [] := by
  induction events generalizing service with
  | nil => exact free
  | cons event events ih =>
    obtain ⟨outside, brings⟩ := outer event List.mem_cons_self
    have came := Dialogue.outside (Dialogue.underway_of_owed free) outside
    have moved : (service.trigger reachable event).1.dialogue.owed = [] := by
      rw [trigger_moves reachable came.silent]
      exact Dialogue.owes_nothing free brings
    exact ih moved fun later member => outer later (List.mem_cons_of_mem _ member)

def Hears (service : Service) (event : ChannelEvent) (message : Message) : Prop :=
  ∃ data, event = .data data ∧ .ok message ∈ (service.framing.extend data).drain.1

theorem ofItem_outer (item : Except Violation Message) :
    (ofItem item).Outer ∧ (ofItem item).brought = [] := by
  cases item <;> exact ⟨trivial, rfl⟩

theorem hear_data (reachable : Bool) (service : Service) (data : Octets) :
    service.hear reachable (.data data) =
      triggerAll reachable { service with framing := (service.framing.extend data).drain.2 }
        ((service.framing.extend data).drain.1.map ofItem) := rfl

theorem hear_passes (reachable : Bool) (underway : service.dialogue.view ≠ .starting)
    (event : ChannelEvent) :
    Passes (service.Hears event) service.dialogue (service.hear reachable event) := by
  cases event with
  | data data =>
    rw [hear_data]
    change Passes _ { service with framing := (service.framing.extend data).drain.2 }.dialogue _
    apply triggerAll_passes reachable
    · exact underway
    · intro event member
      obtain ⟨item, _, rfl⟩ := List.mem_map.mp member
      exact (ofItem_outer item).1
    · intro message member
      obtain ⟨item, among, same⟩ := List.mem_map.mp member
      refine ⟨data, rfl, ?_⟩
      cases item with
      | error violation => cases same
      | ok other =>
        cases same
        exact among
  | closed =>
    have outer : Dialogue.Event.disconnected.Outer := trivial
    apply trigger_passes reachable underway outer
    intro message same
    cases same
  | _ => exact .still underway rfl

theorem hear_greeted {start : Ticket} {answer : Answer} (reachable : Bool) (event : ChannelEvent)
    (starting : service.dialogue = .starting start)
    (answered : greeted? (service.hear reachable event).2 = some answer) :
    (service.hear reachable event).1.dialogue.owed = [] := by
  have settled (other : Service) {event : Dialogue.Event} (same : other.dialogue = .starting start)
      (outer : event.Outer) (brings : event.brought = []) :
      (other.trigger reachable event).1.dialogue.owed = [] := by
    obtain ⟨free, silent⟩ := Dialogue.greeting_over start outer brings
    rw [← same] at free silent
    rwa [trigger_moves reachable silent]
  cases event with
  | data data =>
    rw [hear_data] at answered ⊢
    cases drained : (service.framing.extend data).drain.1 with
    | nil =>
      rw [drained] at answered
      cases answered
    | cons item items =>
      obtain ⟨outer, brings⟩ := ofItem_outer item
      have free := settled { service with framing := (service.framing.extend data).drain.2 } starting
        outer brings
      apply triggerAll_owes_nothing reachable free
      intro event member
      obtain ⟨later, _, rfl⟩ := List.mem_map.mp member
      exact ofItem_outer later
  | closed => exact settled service starting trivial rfl
  | _ => cases answered

theorem handle_unready (reachable : Bool) (unready : service.dialogue.view ≠ .ready)
    (request : Request) (promise : Ticket) :
    (service.handle reachable (.request request promise)).1.dialogue = service.dialogue ∧
      ∀ effect ∈ (service.handle reachable (.request request promise)).2, effect.Plain := by
  cases allocated : service.identifiers.allocate service.dialogue.inFlight with
  | mk id? identifiers =>
    cases id? with
    | none =>
      simp only [handle, allocated]
      exact ⟨trivial, (Effect.Plain.exhausted promise).only⟩
    | some id =>
      have refused := Dialogue.unready_refuses unready (.request id request) promise
      simp only [handle, allocated, trigger_eq, refused, perform]
      exact ⟨trivial, (Effect.Plain.closed promise).only⟩

theorem handle_terminal (reachable : Bool) (terminal : service.dialogue.isTerminal = true)
    (call : Call) :
    (service.handle reachable call).1.dialogue = service.dialogue ∧
      ∀ effect ∈ (service.handle reachable call).2, effect.Plain := by
  cases call with
  | request request promise =>
    apply handle_unready reachable
    intro ready
    obtain ⟨pending, same⟩ := Dialogue.ready_of_view ready
    rw [same] at terminal
    cases terminal
  | disconnect promise =>
    have told : service.dialogue.advance (.disconnect promise) =
        { next := service.dialogue, settled := [.answer promise (.ok .done)] } := by
      cases ended : service.dialogue with
      | closed | failed fault => rfl
      | _ =>
        rw [ended] at terminal
        cases terminal
    simp only [handle, trigger_eq, told, perform]
    exact ⟨trivial, (Effect.Plain.done promise).only⟩

theorem handleAll_terminal (reachable : Bool) (terminal : service.dialogue.isTerminal = true)
    (calls : List Call) :
    (service.handleAll reachable calls).1.dialogue = service.dialogue ∧
      ∀ effect ∈ (service.handleAll reachable calls).2, effect.Plain := by
  induction calls generalizing service with
  | nil => exact ⟨rfl, Effect.Plain.nothing⟩
  | cons call calls ih =>
    obtain ⟨same, plain⟩ := handle_terminal reachable terminal call
    have still : (service.handle reachable call).1.dialogue.isTerminal = true := by rwa [same]
    obtain ⟨sameLater, plainLater⟩ := ih still
    exact ⟨sameLater.trans same, Effect.Plain.append plain plainLater⟩

theorem conclude_ongoing (reachable : Bool) (ongoing : outcome.1.dialogue.isTerminal = false) :
    conclude reachable outcome = outcome := by
  simp [conclude, ongoing]

theorem conclude_ended (reachable : Bool) (ended : outcome.1.dialogue.isTerminal = true) :
    conclude reachable outcome =
      let rest := { outcome.1 with mailbox := [] }.handleAll reachable outcome.1.mailbox
      ({ rest.1 with standing := .gone }, outcome.2 ++ (rest.2 ++ [.leave])) := by
  simp [conclude, ended]

theorem conclude_passes (reachable : Bool) (passes : Passes heard dialogue outcome) :
    Passes heard dialogue (conclude reachable outcome) := by
  cases terminal : outcome.1.dialogue.isTerminal with
  | false => rwa [conclude_ongoing reachable terminal]
  | true =>
    have ended : { outcome.1 with mailbox := [] }.dialogue.isTerminal = true := terminal
    obtain ⟨same, plain⟩ := handleAll_terminal reachable ended outcome.1.mailbox
    rw [conclude_ended reachable terminal]
    apply passes.trans
    apply Passes.plain passes.underway
    · exact same
    · exact Effect.Plain.append plain Effect.Plain.leave.only

theorem handle_ready {pending : Pending} {id : UInt32} {identifiers : Identifiers}
    (ready : service.dialogue = .ready pending)
    (allocated : service.identifiers.allocate pending.has = (some id, identifiers))
    (request : Request) (promise : Ticket) :
    service.handle true (.request request promise) =
        ({ service with identifiers, dialogue := .ready (pending ++ [(id, promise)]) },
          [.put (.data (Message.request id request).frame)]) ∧
      service.handle false (.request request promise) =
        ({ service with identifiers, dialogue := .ready pending },
          [.settle (Dialogue.refuse promise .closed)]) := by
  have free := Identifiers.allocate_free allocated
  have found : service.identifiers.allocate service.dialogue.inFlight = (some id, identifiers) := by
    rw [ready]
    exact allocated
  have accepted : service.dialogue.advance (.request (.request id request) promise) =
      { next := .ready (pending ++ [(id, promise)]), action := .send (.request id request) } := by
    have named : (Message.request id request).id? = some id := rfl
    rw [ready]
    exact Dialogue.requested_new named free
  have held := Pending.find_last (Pending.has_eq_false.mp free) promise
  simp only [handle, found, trigger_eq, accepted, perform, send]
  constructor
  · rfl
  · simp [Message.id?, Dialogue.advance, Dialogue.unsent, Pending.drop_append_last free, held, settleAll]

theorem handle_exhausted {pending : Pending} {identifiers : Identifiers}
    (ready : service.dialogue = .ready pending)
    (allocated : service.identifiers.allocate pending.has = (none, identifiers)) (reachable : Bool)
    (request : Request) (promise : Ticket) :
    service.handle reachable (.request request promise) =
      ({ service with identifiers },
        [.settle (Dialogue.refuse promise (.violation .idsExhausted))]) := by
  have found : service.identifiers.allocate service.dialogue.inFlight = (none, identifiers) := by
    rw [ready]
    exact allocated
  simp only [handle, found]

def Keeps (service : Service) (outcome : Outcome) : Prop :=
  outcome.1.standing = service.standing ∧ outcome.1.mailbox = service.mailbox

theorem triggerAll_keeps (reachable : Bool) (service : Service) (events : List Dialogue.Event) :
    Keeps service (service.triggerAll reachable events) := by
  induction events generalizing service with
  | nil => exact ⟨rfl, rfl⟩
  | cons event events ih => exact ih (service.trigger reachable event).1

theorem hear_keeps (reachable : Bool) (service : Service) (event : ChannelEvent) :
    Keeps service (service.hear reachable event) := by
  cases event with
  | data data => exact triggerAll_keeps reachable { service with framing := _ } _
  | _ => exact ⟨rfl, rfl⟩

theorem handle_keeps (reachable : Bool) (service : Service) (call : Call) :
    Keeps service (service.handle reachable call) := by
  cases call with
  | disconnect promise => exact ⟨rfl, rfl⟩
  | request request promise =>
    unfold handle
    dsimp only
    split <;> exact ⟨rfl, rfl⟩

end Service
end SecureShell.Sftp
