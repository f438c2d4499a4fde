import SecureShell.Proofs.Sftp.Framing
import SecureShell.Proofs.Sftp.Pairing
import SecureShell.Proofs.Sftp.Phases

namespace SecureShell.Sftp

namespace Framing

-- How reading goes on until more octets are needed or something is found to be wrong.
inductive Reads : Framing → List Message → Option Violation → Framing → Prop
  | waits (unfinished : Unfinished framing.held) : Reads framing [] none framing
  | barred (barred : Barred length framing.held) :
      Reads framing [] (some (.frameLength length)) framing
  | garbled (proper : Proper body) (front : framing.held = Octets.writeString body ++ rest)
      (bad : Message.read body = .error violation) : Reads framing [] (some violation) ⟨rest⟩
  | reads (proper : Proper body) (front : framing.held = Octets.writeString body ++ rest)
      (good : Message.read body = .ok message) (later : Reads ⟨rest⟩ messages breach last) :
      Reads framing (message :: messages) breach last

variable {framing last : Framing} {messages : List Message} {breach : Option Violation}
  {violation : Violation}

theorem drain_of_reads (reads : Reads framing messages breach last) :
    framing.drain = (messages.map .ok ++ breach.toList.map .error, last) := by
  induction reads with
  | waits unfinished =>
    unfold drain
    split <;> rename_i got <;> rw [next_incomplete unfinished] at got <;> cases got
    rfl
  | barred barred =>
    unfold drain
    split <;> rename_i got <;> rw [next_invalid barred] at got <;> cases got
    rfl
  | garbled proper front bad =>
    unfold drain
    split <;> rename_i got <;> rw [next_frame proper front] at got <;> cases got
    rw [bad]
    rfl
  | reads proper front good later ih =>
    unfold drain
    split <;> rename_i got <;> rw [next_frame proper front] at got <;> cases got
    rw [good, ih]
    rfl

theorem exists_reads (framing : Framing) :
    ∃ messages breach last, Reads framing messages breach last := by
  rcases next_cases framing with ⟨body, rest, proper, front, got⟩ | ⟨unfinished, _⟩ | ⟨length, barred, _⟩
  · cases read : Message.read body with
    | error violation => exact ⟨[], some violation, ⟨rest⟩, .garbled proper front read⟩
    | ok message =>
      have := next_frame_shortens got
      obtain ⟨messages, breach, last, later⟩ := exists_reads ⟨rest⟩
      exact ⟨message :: messages, breach, last, .reads proper front read later⟩
  · exact ⟨[], none, framing, .waits unfinished⟩
  · exact ⟨[], some (.frameLength length), framing, .barred barred⟩
termination_by framing.held.length

theorem extend_front {rest : Octets} (front : framing.held = Octets.writeString body ++ rest)
    (more : Octets) : (framing.extend more).held = Octets.writeString body ++ (rest ++ more) := by
  rw [extend, front, List.append_assoc]

theorem extend_extend (framing : Framing) (first second : Octets) :
    (framing.extend first).extend second = framing.extend (first ++ second) := by
  rw [extend, extend, extend, List.append_assoc]

theorem Reads.resume {more : List Message} {octets : Octets} {breach : Option Violation} {final : Framing}
    (reads : Reads framing messages none last) (rest : Reads (last.extend octets) more breach final) :
    Reads (framing.extend octets) (messages ++ more) breach final := by
  generalize ended : (none : Option Violation) = clean at reads
  induction reads with
  | waits unfinished => exact rest
  | barred | garbled => cases ended
  | reads proper front good later ih =>
    exact .reads proper (extend_front front octets) good (ih rest ended)

theorem Reads.stopped (reads : Reads framing messages (some violation) last) (octets : Octets) :
    Reads (framing.extend octets) messages (some violation) (last.extend octets) := by
  generalize found : some violation = breach at reads ⊢
  induction reads with
  | waits unfinished => cases found
  | barred barred => exact .barred (barred_append barred octets)
  | garbled proper front bad => exact .garbled proper (extend_front front octets) bad
  | reads proper front good later ih => exact .reads proper (extend_front front octets) good (ih found)

theorem Reads.unfinished (reads : Reads framing messages none last) : Unfinished last.held := by
  generalize ended : (none : Option Violation) = clean at reads
  induction reads with
  | waits unfinished => exact unfinished
  | barred | garbled => cases ended
  | reads proper front good later ih => exact ih ended

end Framing

namespace Dialogue

-- What data bring a dialogue, all told.
def Event.Heard : Event → Prop
  | .inbound _ | .malformed _ => True
  | .start .. | .request .. | .unsent _ | .disconnect _ | .disconnected => False

variable {dialogue : Dialogue} {event : Event}

theorem deaf {ending : Option SftpFault} (decided : dialogue.ending? = some ending)
    (heard : event.Heard) : dialogue.advance event = { next := dialogue } := by
  cases event with
  | inbound | malformed =>
    cases dialogue with
    | closing | closed | failed => rfl
    | idle | starting | ready => cases decided
  | start | request | unsent | disconnect | disconnected => cases heard

theorem heard_silent (dialogue : Dialogue) (heard : event.Heard) :
    (dialogue.advance event).action = .none ∨ (dialogue.advance event).action = .disconnect := by
  have came := moved dialogue event
  generalize dialogue.advance event = step at came
  cases came with
  | starts | sends => cases heard
  | greets | stays | dropped | ends => exact .inl rfl
  | breaksOff | hangsUp => exact .inr rfl

theorem ongoing_iff : dialogue.isTerminal = false ↔ dialogue.view.phase ≤ 3 := by
  cases dialogue <;> simp [isTerminal, view, View.phase]

theorem heard_ongoing (heard : event.Heard) (ongoing : dialogue.isTerminal = false) :
    (dialogue.advance event).next.isTerminal = false := by
  have came := moved dialogue event
  generalize dialogue.advance event = step at came
  cases came with
  | starts | sends | dropped | ends => cases heard
  | greets | breaksOff | hangsUp => rfl
  | stays same bound =>
    rw [ongoing_iff] at ongoing ⊢
    rwa [same]

theorem malformed_decides (begun : 1 ≤ dialogue.view.phase) (fault : SftpFault) :
    ∃ ending, (dialogue.advance (.malformed fault)).next.ending? = some ending := by
  cases dialogue with
  | idle => cases begun
  | starting | ready | closing | closed | failed => exact ⟨_, rfl⟩

theorem greeting_decided (start : Ticket) (heard : event.Heard) :
    (∃ extensions, (starting start).advance event =
      { next := .ready [], settled := [.answer start (.ok (.extensions extensions))] }) ∨
    ∃ fault, (starting start).advance event = breakOff fault [refuse start fault] := by
  cases event with
  | malformed fault => exact .inr ⟨fault, rfl⟩
  | inbound message =>
    simp only [advance]
    unfold greeted
    split
    · split
      · exact .inl ⟨_, rfl⟩
      · exact .inr ⟨_, rfl⟩
    · exact .inr ⟨_, rfl⟩
  | start | request | unsent | disconnect | disconnected => cases heard

theorem View.Precedes.phase_le {early late : View} (precedes : early.Precedes late) :
    early.phase ≤ late.phase := by
  rcases precedes with before | rfl
  · exact Nat.le_of_lt before
  · exact Nat.le_refl _

end Dialogue
namespace Service

variable {service : Service} {event : Dialogue.Event} {events : List Dialogue.Event}
  {messages : List Message} {breach : Option Violation} {last : Framing}

def reframed (framing : Framing) (outcome : Outcome) : Outcome :=
  ({ outcome.1 with framing }, outcome.2)

def greet (reachable : Bool) (outcome : Outcome) : Outcome :=
  match greeted? outcome.2 with
  | none => outcome
  | some (.ok (.extensions extensions)) =>
    ({ outcome.1 with standing := .serving false }, outcome.2 ++ [.ready extensions])
  | some (.ok _) => outcome
  | some (.error fault) =>
    ((outcome.1.abort reachable fault).1, outcome.2 ++ (outcome.1.abort reachable fault).2)

-- What becomes of a dialogue comes of its events alone.
def Moves (before after : Service) : Prop :=
  ∃ events, after.dialogue = Dialogue.custody.reach before.dialogue events

theorem Moves.still (service : Service) : Moves service service := ⟨[], rfl⟩

theorem Moves.trans {before between after : Service} (first : Moves before between)
    (second : Moves between after) : Moves before after := by
  obtain ⟨earlier, early⟩ := first
  obtain ⟨later, late⟩ := second
  refine ⟨earlier ++ later, ?_⟩
  rw [Machine.reach_append, ← early]
  exact late

theorem perform_moves (reachable : Bool) (dialogue : Dialogue) (action : Dialogue.Action) :
    (perform reachable dialogue action).1 = dialogue ∨
      ∃ id, (perform reachable dialogue action).1 = (dialogue.advance (.unsent id)).next := by
  cases action with
  | none | disconnect => exact .inl rfl
  | send message =>
    cases reachable with
    | true => exact .inl rfl
    | false =>
      cases named : message.id? with
      | none => exact .inl (by simp [perform, send, named])
      | some id => exact .inr ⟨id, by simp [perform, send, named]⟩

theorem trigger_moves_on (reachable : Bool) (service : Service) (event : Dialogue.Event) :
    Moves service (service.trigger reachable event).1 := by
  rcases perform_moves reachable (service.dialogue.advance event).next
    (service.dialogue.advance event).action with same | ⟨id, same⟩
  · exact ⟨[event], same⟩
  · exact ⟨[event, .unsent id], same⟩

theorem triggerAll_moves (reachable : Bool) (service : Service) (events : List Dialogue.Event) :
    Moves service (service.triggerAll reachable events).1 := by
  induction events generalizing service with
  | nil => exact .still service
  | cons event events ih => exact (trigger_moves_on reachable service event).trans (ih _)

theorem hear_moves (reachable : Bool) (service : Service) (event : ChannelEvent) :
    Moves service (service.hear reachable event).1 := by
  cases event with
  | data data => exact triggerAll_moves reachable { service with framing := _ } _
  | closed => exact trigger_moves_on reachable service .disconnected
  | _ => exact .still service

theorem handle_moves (reachable : Bool) (service : Service) (call : Call) :
    Moves service (service.handle reachable call).1 := by
  cases call with
  | disconnect promise => exact trigger_moves_on reachable service (.disconnect promise)
  | request request promise =>
    unfold handle
    dsimp only
    split
    · exact trigger_moves_on reachable { service with identifiers := _ } _
    · exact ⟨[], rfl⟩

theorem handleAll_moves (reachable : Bool) (service : Service) (calls : List Call) :
    Moves service (service.handleAll reachable calls).1 := by
  induction calls generalizing service with
  | nil => exact .still service
  | cons call calls ih => exact (handle_moves reachable service call).trans (ih _)

theorem triggerAll_reframed (framing : Framing) (reachable : Bool) (service : Service)
    (events : List Dialogue.Event) :
    { service with framing }.triggerAll reachable events =
      reframed framing (service.triggerAll reachable events) := by
  induction events generalizing service with
  | nil => rfl
  | cons event events ih =>
    have first : { service with framing }.trigger reachable event =
        reframed framing (service.trigger reachable event) := rfl
    simp only [triggerAll, first, reframed, ih]

theorem handle_reframed (framing : Framing) (reachable : Bool) (service : Service) (call : Call) :
    { service with framing }.handle reachable call =
      reframed framing (service.handle reachable call) := by
  cases call with
  | disconnect promise => rfl
  | request request promise =>
    unfold handle
    dsimp only
    split <;> rfl

theorem handleAll_reframed (framing : Framing) (reachable : Bool) (service : Service)
    (calls : List Call) :
    { service with framing }.handleAll reachable calls =
      reframed framing (service.handleAll reachable calls) := by
  induction calls generalizing service with
  | nil => rfl
  | cons call calls ih => simp only [handleAll, handle_reframed, reframed, ih]

theorem conclude_reframed (framing : Framing) (reachable : Bool) (outcome : Outcome) :
    conclude reachable (reframed framing outcome) = reframed framing (conclude reachable outcome) := by
  cases spent : outcome.1.dialogue.isTerminal with
  | false =>
    rw [conclude_ongoing reachable spent]
    exact conclude_ongoing reachable spent
  | true =>
    have same := handleAll_reframed framing reachable { outcome.1 with mailbox := [] } outcome.1.mailbox
    rw [conclude_ended reachable spent, conclude_ended reachable (show
      (reframed framing outcome).1.dialogue.isTerminal = true from spent)]
    simp only [reframed] at same ⊢
    rw [same]

theorem hearGreeting_eq (reachable : Bool) (service : Service) (event : ChannelEvent) :
    service.hearGreeting reachable event = greet reachable (service.hear reachable event) := rfl

theorem greet_reframed (framing : Framing) (reachable : Bool) (outcome : Outcome) :
    greet reachable (reframed framing outcome) = reframed framing (greet reachable outcome) := by
  unfold greet
  simp only [reframed]
  split <;> rfl

theorem hear_reframed (framing : Framing) (reachable : Bool) (service : Service) {event : ChannelEvent}
    (other : ∀ data, event ≠ .data data) :
    { service with framing }.hear reachable event = reframed framing (service.hear reachable event) := by
  cases event with
  | data data => exact absurd rfl (other data)
  | _ => rfl

theorem onEvent_reframed (framing : Framing) (reachable : Bool) (service : Service)
    {event : ChannelEvent} (other : ∀ data, event ≠ .data data) :
    { service with framing }.onEvent reachable event =
      reframed framing (service.onEvent reachable event) := by
  have same := hear_reframed framing reachable service other
  obtain ⟨standing, extensions, dialogue, held, identifiers, mailbox⟩ := service
  cases standing with
  | requesting => cases event <;> rfl
  | greeting => exact (congrArg (greet reachable) same).trans (greet_reframed framing reachable _)
  | serving abandoned =>
    exact (congrArg (conclude reachable) same).trans (conclude_reframed framing reachable _)
  | gone => rfl

theorem react_reframed (framing : Framing) (service : Service) {turn : Turn}
    (other : ∀ reachable data, turn ≠ .hear reachable (.data data)) :
    { service with framing }.react turn = reframed framing (service.react turn) := by
  obtain ⟨standing, extensions, dialogue, held, identifiers, mailbox⟩ := service
  cases turn with
  | submit call => cases standing <;> cases call <;> rfl
  | take reachable =>
    cases standing with
    | requesting | greeting | gone => rfl
    | serving abandoned =>
      cases mailbox with
      | nil => rfl
      | cons call mailbox =>
        have same := handle_reframed framing reachable
          ⟨.serving abandoned, extensions, dialogue, held, identifiers, mailbox⟩ call
        exact (congrArg (conclude reachable) same).trans (conclude_reframed framing reachable _)
  | abandon reachable promise =>
    cases standing with
    | requesting | greeting | gone => rfl
    | serving abandoned =>
      cases mailbox with
      | cons call mailbox => cases abandoned <;> rfl
      | nil =>
        cases abandoned with
        | true => rfl
        | false =>
          have same := conclude_reframed framing reachable (trigger reachable
            ⟨.serving true, extensions, dialogue, held, identifiers, []⟩ (.disconnect promise))
          exact same
  | hear reachable event =>
    have another : ∀ data, event ≠ .data data := by
      rintro data rfl
      exact other reachable data rfl
    exact onEvent_reframed framing reachable _ another

namespace Moves

variable {after : Service} (moves : Moves service after)

include moves

theorem phase_le : service.dialogue.view.phase ≤ after.dialogue.view.phase := by
  obtain ⟨events, same⟩ := moves
  rw [same]
  exact (Dialogue.reach_precedes service.dialogue events).phase_le

theorem decided {ending : Option SftpFault} (decided : service.dialogue.ending? = some ending) :
    after.dialogue.ending? = some ending := by
  obtain ⟨events, same⟩ := moves
  rw [same]
  exact Dialogue.ending_lasts decided events

theorem undecided (undecided : after.dialogue.ending? = none) :
    service.dialogue.ending? = none := by
  cases before : service.dialogue.ending? with
  | none => rfl
  | some ending =>
    rw [moves.decided before] at undecided
    cases undecided

end Moves

def told (messages : List Message) (breach : Option Violation) : List Dialogue.Event :=
  messages.map .inbound ++ breach.toList.map fun violation => .malformed (.violation violation)

theorem told_heard (messages : List Message) (breach : Option Violation) :
    ∀ event ∈ told messages breach, event.Heard := by
  intro event member
  rcases List.mem_append.mp member with inbound | malformed
  · obtain ⟨_, _, rfl⟩ := List.mem_map.mp inbound
    trivial
  · obtain ⟨_, _, rfl⟩ := List.mem_map.mp malformed
    trivial

theorem hear_reads (reachable : Bool) {data : Octets}
    (reads : Framing.Reads (service.framing.extend data) messages breach last) :
    service.hear reachable (.data data) =
      triggerAll reachable { service with framing := last } (told messages breach) := by
  rw [hear_data, Framing.drain_of_reads reads, List.map_append, List.map_map, List.map_map]
  rfl

theorem triggerAll_append (reachable : Bool) (service : Service) (early late : List Dialogue.Event) :
    service.triggerAll reachable (early ++ late) =
      let first := service.triggerAll reachable early
      let second := first.1.triggerAll reachable late
      (second.1, first.2 ++ second.2) := by
  induction early generalizing service with
  | nil => rfl
  | cons event early ih => simp only [List.cons_append, triggerAll, ih, List.append_assoc]

theorem triggerAll_deaf (reachable : Bool) {ending : Option SftpFault}
    (decided : service.dialogue.ending? = some ending) (heard : ∀ event ∈ events, event.Heard) :
    service.triggerAll reachable events = (service, []) := by
  induction events with
  | nil => rfl
  | cons event events ih =>
    have silent : service.trigger reachable event = (service, []) := by
      rw [trigger_eq, Dialogue.deaf decided (heard event List.mem_cons_self)]
      rfl
    rw [triggerAll, silent]
    simp only [ih fun later member => heard later (List.mem_cons_of_mem _ member)]
    rfl

theorem triggerAll_framing (reachable : Bool) (service : Service) (events : List Dialogue.Event) :
    (service.triggerAll reachable events).1.framing = service.framing := by
  induction events generalizing service with
  | nil => rfl
  | cons event events ih => exact ih (service.trigger reachable event).1

theorem triggerAll_breach (reachable : Bool) (begun : 1 ≤ service.dialogue.view.phase)
    (messages : List Message) (violation : Violation) :
    ∃ ending, (service.triggerAll reachable (told messages (some violation))).1.dialogue.ending? =
      some ending := by
  rw [told, triggerAll_append]
  have moves := triggerAll_moves reachable service (messages.map .inbound)
  generalize service.triggerAll reachable (messages.map .inbound) = before at moves
  have listening : 1 ≤ before.1.dialogue.view.phase := Nat.le_trans begun moves.phase_le
  have silent := Dialogue.heard_silent before.1.dialogue
    (show (Dialogue.Event.malformed (.violation violation)).Heard from trivial)
  obtain ⟨ending, decided⟩ := Dialogue.malformed_decides listening (.violation violation)
  refine ⟨ending, ?_⟩
  rw [← trigger_moves reachable silent] at decided
  exact decided

theorem hear_deaf (reachable : Bool) {ending : Option SftpFault}
    (decided : service.dialogue.ending? = some ending) (data : Octets) :
    ∃ framing, service.hear reachable (.data data) = ({ service with framing }, []) := by
  obtain ⟨messages, breach, last, reads⟩ := Framing.exists_reads (service.framing.extend data)
  refine ⟨last, ?_⟩
  rw [hear_reads reachable reads]
  have heard := told_heard messages breach
  have silent := triggerAll_deaf reachable decided heard
  rw [triggerAll_reframed, silent]
  rfl

theorem hear_waits (reachable : Bool) (begun : 1 ≤ service.dialogue.view.phase) (data : Octets)
    (undecided : (service.hear reachable (.data data)).1.dialogue.ending? = none) :
    Unfinished (service.hear reachable (.data data)).1.framing.held := by
  obtain ⟨messages, breach, last, reads⟩ := Framing.exists_reads (service.framing.extend data)
  rw [hear_reads reachable reads] at undecided ⊢
  cases breach with
  | none =>
    rw [triggerAll_framing]
    exact reads.unfinished
  | some violation =>
    have still : 1 ≤ { service with framing := last }.dialogue.view.phase := begun
    obtain ⟨ending, decided⟩ := triggerAll_breach reachable still messages violation
    rw [decided] at undecided
    cases undecided

theorem triggerAll_ongoing (reachable : Bool) (ongoing : service.dialogue.isTerminal = false)
    (heard : ∀ event ∈ events, event.Heard) :
    (service.triggerAll reachable events).1.dialogue.isTerminal = false := by
  induction events generalizing service with
  | nil => exact ongoing
  | cons event events ih =>
    have mine := heard event List.mem_cons_self
    have still : (service.trigger reachable event).1.dialogue.isTerminal = false := by
      rw [trigger_moves reachable (Dialogue.heard_silent service.dialogue mine)]
      exact Dialogue.heard_ongoing mine ongoing
    exact ih still fun later member => heard later (List.mem_cons_of_mem _ member)

theorem hear_ongoing (reachable : Bool) (ongoing : service.dialogue.isTerminal = false)
    (data : Octets) : (service.hear reachable (.data data)).1.dialogue.isTerminal = false := by
  obtain ⟨messages, breach, last, reads⟩ := Framing.exists_reads (service.framing.extend data)
  rw [hear_reads reachable reads]
  have still : { service with framing := last }.dialogue.isTerminal = false := ongoing
  exact triggerAll_ongoing reachable still (told_heard messages breach)

-- Equal but for the stretch held back, which counts no more once the end is decided.
def Alike (one other : Service) : Prop :=
  ∃ framing, other = { one with framing } ∧
    (framing = one.framing ∨ ∃ ending, one.dialogue.ending? = some ending)

namespace Alike

theorem refl (service : Service) : Alike service service := ⟨service.framing, rfl, .inl rfl⟩

theorem symm {one other : Service} (alike : Alike one other) : Alike other one := by
  obtain ⟨framing, rfl, known⟩ := alike
  exact ⟨one.framing, rfl, known.imp_left Eq.symm⟩

theorem trans {one other third : Service} (first : Alike one other) (second : Alike other third) :
    Alike one third := by
  obtain ⟨framing, rfl, known⟩ := first
  obtain ⟨final, rfl, since⟩ := second
  refine ⟨final, rfl, ?_⟩
  rcases since with rfl | decided
  · exact known
  · exact .inr decided

end Alike

theorem told_append (messages more : List Message) (breach : Option Violation) :
    told (messages ++ more) breach = told messages none ++ told more breach := by
  simp [told]

theorem hear_together (reachable : Bool) (begun : 1 ≤ service.dialogue.view.phase)
    (first second : Octets) :
    let one := service.hear reachable (.data first)
    let two := one.1.hear reachable (.data second)
    ∃ framing, service.hear reachable (.data (first ++ second)) = reframed framing (two.1, one.2 ++ two.2) ∧
      (framing = two.1.framing ∨ ∃ ending, two.1.dialogue.ending? = some ending) := by
  intro one two
  obtain ⟨messages, breach, last, reads⟩ := Framing.exists_reads (service.framing.extend first)
  have heard : one = triggerAll reachable { service with framing := last } (told messages breach) :=
    hear_reads reachable reads
  cases breach with
  | none =>
    obtain ⟨more, breach, final, rest⟩ := Framing.exists_reads (last.extend second)
    have whole := reads.resume rest
    rw [Framing.extend_extend] at whole
    have held : one.1.framing = last := by rw [heard, triggerAll_framing]
    rw [← held] at rest
    have after : two = triggerAll reachable { one.1 with framing := final } (told more breach) :=
      hear_reads reachable rest
    have before : { service with framing := final }.triggerAll reachable (told messages none) =
        reframed final one := by
      rw [heard]
      exact triggerAll_reframed final reachable { service with framing := last } _
    refine ⟨two.1.framing, ?_, .inl rfl⟩
    rw [hear_reads reachable whole, told_append, triggerAll_append, before, after]
    rfl
  | some violation =>
    have whole := reads.stopped second
    rw [Framing.extend_extend] at whole
    have still : 1 ≤ { service with framing := last }.dialogue.view.phase := begun
    obtain ⟨ending, decided⟩ := triggerAll_breach reachable still messages violation
    rw [← heard] at decided
    obtain ⟨framing, nothing⟩ := hear_deaf reachable decided second
    have after : two = ({ one.1 with framing }, []) := nothing
    refine ⟨last.extend second, ?_, .inr ⟨ending, ?_⟩⟩
    · rw [hear_reads reachable whole, after, List.append_nil, heard]
      exact triggerAll_reframed (last.extend second) reachable { service with framing := last } _
    · rw [after]
      exact decided

end Service
end SecureShell.Sftp
