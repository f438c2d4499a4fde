import SecureShell.Proofs.Sftp.Chunking

namespace SecureShell.Sftp
open Settlement (fates Answered answered_nil answered_one fates_append fates_nil)

namespace Dialogue

-- The promise is kept until the end, and told of it then.
def Awaits (dialogue : Dialogue) (promise : Ticket) : Prop :=
  ∃ closers fault, dialogue = .closing closers fault ∧ promise ∈ closers

variable {dialogue : Dialogue} {event : Event} {promise : Ticket}

theorem awaits_on (awaits : dialogue.Awaits promise) (event : Event) :
    (dialogue.advance event).next.Awaits promise ∨
      .answer promise (.ok .done) ∈ (dialogue.advance event).settled := by
  obtain ⟨closers, fault, rfl, waits⟩ := awaits
  exact (closing_waits waits fault event).imp_left fun ⟨waiting, still, among⟩ => ⟨_, _, still, among⟩

theorem advance_ongoing (other : event ≠ .disconnected) (ongoing : dialogue.isTerminal = false) :
    (dialogue.advance event).next.isTerminal = false := by
  have came := moved dialogue event
  generalize dialogue.advance event = step at came
  cases came with
  | starts | sends | greets | breaksOff | hangsUp => rfl
  | stays same bound =>
    rw [ongoing_iff] at ongoing ⊢
    rwa [same]
  | dropped | ends => exact absurd rfl other

theorem disconnected_ends (dialogue : Dialogue) :
    (dialogue.advance .disconnected).next.isTerminal = true ∧
      (dialogue.advance .disconnected).action = .none := by
  cases dialogue with
  | closing closers fault => cases fault <;> exact ⟨rfl, rfl⟩
  | idle | starting | ready | closed | failed => exact ⟨rfl, rfl⟩

end Dialogue

def Call.farewell : Call → Answer
  | .request .. => .error .closed
  | .disconnect _ => .ok .done

def farewells (calls : List Call) : List (Settlement Answer) :=
  calls.map fun call => .answer call.ticket call.farewell

namespace Service

def settlements (effects : List Effect) : List (Settlement Answer) := effects.filterMap Effect.settlement?

def owed (service : Service) : List Ticket :=
  service.dialogue.owed ++ service.mailbox.map Call.ticket

-- Whoever has asked for the end is queued, or waits for it to come.
def Parting (service : Service) (promise : Ticket) : Prop :=
  service.dialogue.Awaits promise ∨ .disconnect promise ∈ service.mailbox

-- What becomes of promises while some calls are taken over: each is owed or answered as often as
-- it was taken over, and those who ask for the end are told of it or keep waiting.
structure Settles (service : Service) (calls : List Call) (outcome : Outcome) : Prop where
  sound : outcome.1.dialogue.Sound
  balanced : ∀ promise,
    outcome.1.owed.count promise + (fates (settlements outcome.2) promise).length =
      service.owed.count promise + (calls.map Call.ticket).count promise
  answered : Answered (settlements outcome.2)
  parted : ∀ promise, service.Parting promise ∨ .disconnect promise ∈ calls →
    outcome.1.Parting promise ∨ .answer promise (.ok .done) ∈ settlements outcome.2

-- The calls that a turn brings. The last user who leaves asks for the end as well.
def broughtIn (service : Service) : Turn → List Call
  | .submit call => [call]
  | .abandon _ promise =>
    match service.standing, service.mailbox with
    | .serving false, [] => [.disconnect promise]
    | _, _ => []
  | .take _ | .hear .. => []

def broughtBy (service : Service) (turns : List Turn) : List Call := noted broughtIn service turns

def Turn.closes : Turn → Bool
  | .hear _ .closed => true
  | .submit _ | .take _ | .hear .. | .abandon .. => false

-- The loop in which a service serves is on, or has come to its end.
inductive Looping (service : Service) : Prop
  | on (stands : service.standing = .serving abandoned) (underway : 2 ≤ service.dialogue.view.phase)
      (ongoing : service.dialogue.isTerminal = false) (sound : service.dialogue.Sound)
  | gone (stands : service.standing = .gone) (terminal : service.dialogue.isTerminal = true)
      (empty : service.mailbox = [])

-- All that a turn of the loop can do: nothing, or it lets a call into the queue, or it does some
-- work and then looks whether that was the end.
inductive Round (service : Service) (turn : Turn) : Prop
  | waits (result : service.react turn = (service, [])) (brings : service.broughtIn turn = [])
      (unclosed : turn.closes = false)
  | queues (submits : turn = .submit call)
      (result : service.react turn = ({ service with mailbox := service.mailbox ++ [call] }, []))
  | works (result : service.react turn = conclude reachable outcome)
      (settles : Settles service (service.broughtIn turn) outcome)
      (stands : outcome.1.standing = .serving abandoned)
      (ended : outcome.1.dialogue.isTerminal = turn.closes)

variable {service between after : Service} {early late : List Effect} {calls more rest : List Call}
  {outcome : Outcome} {turn : Turn} {event : Dialogue.Event}

theorem settlements_append (early late : List Effect) :
    settlements (early ++ late) = settlements early ++ settlements late := List.filterMap_append

theorem settlements_settleAll (settled : List (Settlement Answer)) :
    settlements (settleAll settled) = settled := by
  rw [settlements, settleAll, List.filterMap_map]
  exact List.filterMap_some

namespace Settles

theorem still (sound : service.dialogue.Sound) (dialogue : after.dialogue = service.dialogue)
    (mailbox : after.mailbox = service.mailbox) : Settles service [] (after, []) := by
  refine ⟨by rwa [dialogue], ?_, answered_nil, ?_⟩
  · intro promise
    simp [owed, dialogue, mailbox, settlements]
  · intro promise parting
    left
    simpa [Parting, dialogue, mailbox] using parting

theorem trans (first : Settles service calls (between, early))
    (second : Settles between more (after, late)) :
    Settles service (calls ++ more) (after, early ++ late) := by
  refine ⟨second.sound, ?_, ?_, ?_⟩
  · intro promise
    have before := first.balanced promise
    have later := second.balanced promise
    simp only [settlements_append, fates_append, List.length_append, List.map_append,
      List.count_append] at before later ⊢
    omega
  · rw [settlements_append]
    exact first.answered.append second.answered
  · intro promise asked
    have waits : between.Parting promise ∨ .answer promise (.ok .done) ∈ settlements early ∨
        .disconnect promise ∈ more := by
      rcases asked with parting | member
      · exact (first.parted promise (.inl parting)).imp_right .inl
      · rcases List.mem_append.mp member with now | later
        · exact (first.parted promise (.inr now)).imp_right .inl
        · exact .inr (.inr later)
    simp only [settlements_append, List.mem_append]
    rcases waits with parting | told | asks
    · exact (second.parted promise (.inl parting)).imp_right .inr
    · exact .inr (.inl told)
    · exact (second.parted promise (.inr asks)).imp_right .inr

theorem relabel (settles : Settles service calls (between, early))
    (dialogue : after.dialogue = between.dialogue) (mailbox : after.mailbox = between.mailbox)
    (same : settlements late = settlements early) : Settles service calls (after, late) := by
  refine ⟨?_, ?_, ?_, ?_⟩
  · simpa only [dialogue] using settles.sound
  · intro promise
    simpa only [owed, dialogue, mailbox, same] using settles.balanced promise
  · simpa only [same] using settles.answered
  · intro promise asked
    simpa only [Parting, dialogue, mailbox, same] using settles.parted promise asked

theorem since {before : Service} (settles : Settles before calls outcome)
    (dialogue : before.dialogue = service.dialogue) (mailbox : before.mailbox = service.mailbox) :
    Settles service calls outcome := by
  refine ⟨settles.sound, ?_, settles.answered, ?_⟩
  · intro promise
    simpa only [owed, dialogue, mailbox] using settles.balanced promise
  · intro promise asked
    apply settles.parted
    simpa only [Parting, dialogue, mailbox] using asked

theorem taken (queued : service.mailbox = calls ++ rest)
    (settles : Settles { service with mailbox := rest } calls outcome) : Settles service [] outcome := by
  refine ⟨settles.sound, ?_, settles.answered, ?_⟩
  · intro promise
    have balanced := settles.balanced promise
    simp only [owed, queued, List.map_append, List.count_append, List.map_nil, List.count_nil]
      at balanced ⊢
    omega
  · intro promise asked
    apply settles.parted
    simp only [Parting, queued, List.mem_append] at asked ⊢
    rcases asked with (waits | now | later) | never
    · exact .inl (.inl waits)
    · exact .inr now
    · exact .inl (.inr later)
    · cases never

end Settles

theorem perform_cases (reachable : Bool) (dialogue : Dialogue) (action : Dialogue.Action) :
    (∃ effects, perform reachable dialogue action = (dialogue, effects) ∧ settlements effects = []) ∨
    ∃ id, perform reachable dialogue action =
      ((dialogue.advance (.unsent id)).next, settleAll (dialogue.advance (.unsent id)).settled) := by
  cases action with
  | none => exact .inl ⟨[], rfl, rfl⟩
  | disconnect => exact .inl ⟨put reachable .close, rfl, by cases reachable <;> rfl⟩
  | send message =>
    cases reachable with
    | true => exact .inl ⟨[.put (.data message.frame)], rfl, rfl⟩
    | false =>
      cases named : message.id? with
      | none => exact .inl ⟨[], by simp [perform, send, named], rfl⟩
      | some id => exact .inr ⟨id, by simp [perform, send, named]⟩

theorem advance_settles (sound : service.dialogue.Sound) (brings : event.brought = calls.map Call.ticket)
    (leaves : ∀ promise, .disconnect promise ∈ calls → event = .disconnect promise) :
    Settles service calls ({ service with dialogue := (service.dialogue.advance event).next },
      settleAll (service.dialogue.advance event).settled) := by
  refine ⟨Dialogue.advance_sound sound event, ?_, ?_, ?_⟩
  · intro promise
    have balanced := Dialogue.advance_balances sound event promise
    simp only [settlements_settleAll, owed, List.count_append, brings] at balanced ⊢
    omega
  · rw [settlements_settleAll]
    exact Dialogue.advance_answers service.dialogue event
  · intro promise asked
    rw [settlements_settleAll]
    rcases asked with (awaits | queued) | asks
    · exact (Dialogue.awaits_on awaits event).imp_left .inl
    · exact .inl (.inr queued)
    · rw [leaves promise asks]
      rcases Dialogue.disconnect_joins service.dialogue promise with ⟨closers, fault, next, among⟩ | told
      · exact .inl (.inl ⟨closers, fault, next, among⟩)
      · exact .inr told

theorem trigger_settles (reachable : Bool) (sound : service.dialogue.Sound)
    (brings : event.brought = calls.map Call.ticket)
    (leaves : ∀ promise, .disconnect promise ∈ calls → event = .disconnect promise) :
    Settles service calls (service.trigger reachable event) := by
  have stepped := advance_settles sound brings leaves
  rw [trigger_eq]
  rcases perform_cases reachable (service.dialogue.advance event).next
      (service.dialogue.advance event).action with ⟨effects, performed, silent⟩ | ⟨id, performed⟩
  · simp only [performed]
    refine stepped.relabel rfl rfl ?_
    rw [settlements_append, silent, List.append_nil]
  · have unsent : (Dialogue.Event.unsent id).brought = ([] : List Call).map Call.ticket := rfl
    have both := stepped.trans (advance_settles stepped.sound unsent nofun)
    simp only [performed]
    rwa [List.append_nil] at both

theorem triggerAll_settles {events : List Dialogue.Event} (reachable : Bool)
    (sound : service.dialogue.Sound) (brings : ∀ event ∈ events, event.brought = []) :
    Settles service [] (service.triggerAll reachable events) := by
  induction events generalizing service with
  | nil => exact .still sound rfl rfl
  | cons event events ih =>
    have first : Settles service [] (service.trigger reachable event) :=
      trigger_settles reachable sound (brings event List.mem_cons_self) nofun
    exact first.trans (ih first.sound fun later member => brings later (List.mem_cons_of_mem _ member))

theorem hear_settles (reachable : Bool) (sound : service.dialogue.Sound) (event : ChannelEvent) :
    Settles service [] (service.hear reachable event) := by
  cases event with
  | data data =>
    rw [hear_data]
    refine (triggerAll_settles reachable ?_ ?_).since rfl rfl
    · exact sound
    · intro event member
      obtain ⟨item, _, rfl⟩ := List.mem_map.mp member
      exact (ofItem_outer item).2
  | closed => exact trigger_settles reachable sound rfl nofun
  | success | failure | extendedData | exitStatus | eof => exact .still sound rfl rfl

theorem handle_settles (reachable : Bool) (sound : service.dialogue.Sound) (call : Call) :
    Settles service [call] (service.handle reachable call) := by
  cases call with
  | disconnect promise =>
    apply trigger_settles reachable sound rfl
    intro other member
    cases List.mem_singleton.mp member
    rfl
  | request request promise =>
    cases allocated : service.identifiers.allocate service.dialogue.inFlight with
    | mk id? identifiers =>
      cases id? with
      | some id =>
        have sent : Settles { service with identifiers } [.request request promise]
            ({ service with identifiers }.trigger reachable (.request (.request id request) promise)) :=
          trigger_settles reachable sound rfl (by simp)
        simp only [handle, allocated]
        exact sent.since rfl rfl
      | none =>
        simp only [handle, allocated]
        refine ⟨sound, ?_, answered_one promise _, ?_⟩
        · intro other
          simp [owed, settlements, Effect.settlement?, Dialogue.refuse, Settlement.length_fates,
            Settlement.answer, Call.ticket]
        · intro other asked
          left
          simpa [Parting] using asked

theorem handleAll_settles (reachable : Bool) (sound : service.dialogue.Sound) (calls : List Call) :
    Settles service calls (service.handleAll reachable calls) := by
  induction calls generalizing service with
  | nil => exact .still sound rfl rfl
  | cons call calls ih =>
    have first := handle_settles reachable sound call
    exact first.trans (ih first.sound)

theorem conclude_settles (reachable : Bool) (settles : Settles service calls outcome) :
    Settles service calls (conclude reachable outcome) := by
  cases spent : outcome.1.dialogue.isTerminal with
  | false => rwa [conclude_ongoing reachable spent]
  | true =>
    have sound : { outcome.1 with mailbox := [] }.dialogue.Sound := settles.sound
    have drained := handleAll_settles reachable sound outcome.1.mailbox
    have both := settles.trans (drained.taken (List.append_nil _).symm)
    rw [List.append_nil] at both
    rw [conclude_ended reachable spent]
    refine both.relabel rfl rfl ?_
    rw [← List.append_assoc, settlements_append _ [.leave]]
    exact List.append_nil _

theorem trigger_ongoing (reachable : Bool) (other : event ≠ .disconnected)
    (ongoing : service.dialogue.isTerminal = false) :
    (service.trigger reachable event).1.dialogue.isTerminal = false := by
  have still := Dialogue.advance_ongoing other ongoing
  rw [trigger_eq]
  rcases perform_cases reachable (service.dialogue.advance event).next
      (service.dialogue.advance event).action with ⟨effects, performed, _⟩ | ⟨id, performed⟩
  · simpa only [performed] using still
  · have unsent : Dialogue.Event.unsent id ≠ .disconnected := nofun
    simpa only [performed] using Dialogue.advance_ongoing unsent still

theorem handle_ongoing (reachable : Bool) (ongoing : service.dialogue.isTerminal = false) (call : Call) :
    (service.handle reachable call).1.dialogue.isTerminal = false := by
  cases call with
  | disconnect promise => exact trigger_ongoing reachable nofun ongoing
  | request request promise =>
    unfold handle
    dsimp only
    split
    · next identifiers _ =>
      have still : { service with identifiers }.dialogue.isTerminal = false := ongoing
      exact trigger_ongoing reachable nofun still
    · exact ongoing

theorem hear_ended (reachable : Bool) (ongoing : service.dialogue.isTerminal = false)
    (event : ChannelEvent) :
    (service.hear reachable event).1.dialogue.isTerminal = (Turn.hear reachable event).closes := by
  cases event with
  | data data => exact hear_ongoing reachable ongoing data
  | closed =>
    obtain ⟨ended, silent⟩ := Dialogue.disconnected_ends service.dialogue
    simp only [hear, trigger_eq, silent]
    exact ended
  | success | failure | extendedData | exitStatus | eof => exact ongoing

theorem submit_serving {abandoned : Bool} (stands : service.standing = .serving abandoned) (call : Call) :
    service.submit call = ({ service with mailbox := service.mailbox ++ [call] }, []) := by
  cases call <;> simp only [submit, stands]

theorem submit_gone (stands : service.standing = .gone) (call : Call) :
    service.submit call = (service, [.settle (.answer call.ticket call.farewell)]) := by
  cases call <;> simp only [submit, stands] <;> rfl

theorem round {abandoned : Bool} (stands : service.standing = .serving abandoned)
    (ongoing : service.dialogue.isTerminal = false) (sound : service.dialogue.Sound) (turn : Turn) :
    Round service turn := by
  cases turn with
  | submit call => exact .queues rfl (submit_serving stands call)
  | take reachable =>
    cases queued : service.mailbox with
    | nil => exact .waits (by simp only [react, takeCall, stands, queued]) rfl rfl
    | cons call rest =>
      have left : { service with mailbox := rest }.dialogue.Sound := sound
      have still : { service with mailbox := rest }.dialogue.isTerminal = false := ongoing
      have handled := (handle_settles reachable left call).taken queued
      obtain ⟨standing, _⟩ := handle_keeps reachable { service with mailbox := rest } call
      exact .works (takeCall_serving reachable stands queued) handled (standing.trans stands)
        (handle_ongoing reachable still call)
  | hear reachable event =>
    obtain ⟨standing, _⟩ := hear_keeps reachable service event
    have result : service.react (.hear reachable event) =
        conclude reachable (service.hear reachable event) := by
      simp only [react, onEvent, stands]
    exact .works result (hear_settles reachable sound event) (standing.trans stands)
      (hear_ended reachable ongoing event)
  | abandon reachable promise =>
    cases queued : service.mailbox with
    | cons call rest =>
      refine .waits ?_ ?_ rfl
      · simp only [react, abandon, stands, queued]
      · simp only [broughtIn, stands, queued]
    | nil =>
      cases abandoned with
      | true =>
        refine .waits ?_ ?_ rfl
        · simp only [react, abandon, stands, queued]
        · simp only [broughtIn, stands, queued]
      | false =>
        let last : Service := { service with standing := .serving true, mailbox := [] }
        have brings : service.broughtIn (.abandon reachable promise) = [.disconnect promise] := by
          simp only [broughtIn, stands, queued]
        have result : service.react (.abandon reachable promise) =
            conclude reachable (last.handle reachable (.disconnect promise)) := by
          simp only [react, abandon, stands, queued, last]
          rfl
        have known : last.dialogue.Sound := sound
        have still : last.dialogue.isTerminal = false := ongoing
        have left : Settles service [.disconnect promise] (last.handle reachable (.disconnect promise)) :=
          (handle_settles reachable known _).since rfl queued.symm
        rw [← brings] at left
        exact .works result left rfl (handle_ongoing reachable still _)

theorem submit_gone_settles (stands : service.standing = .gone) (sound : service.dialogue.Sound)
    (call : Call) : Settles service [call] (service.submit call) := by
  rw [submit_gone stands]
  refine ⟨sound, ?_, answered_one _ _, ?_⟩
  · intro promise
    simp [owed, settlements, Effect.settlement?, Settlement.length_fates, Settlement.answer]
  · intro promise asked
    rcases asked with parting | asks
    · exact .inl parting
    · cases List.mem_singleton.mp asks
      exact .inr List.mem_cons_self

theorem queue_settles (sound : service.dialogue.Sound) (call : Call) :
    Settles service [call] ({ service with mailbox := service.mailbox ++ [call] }, []) := by
  refine ⟨sound, ?_, answered_nil, ?_⟩
  · intro promise
    simp [owed, settlements]
    omega
  · intro promise asked
    left
    rcases asked with (awaits | queued) | asks
    · exact .inl awaits
    · exact .inr (List.mem_append_left _ queued)
    · exact .inr (List.mem_append_right _ asks)

namespace Looping

theorem sound (looping : service.Looping) : service.dialogue.Sound := by
  cases looping with
  | on stands underway ongoing sound => exact sound
  | gone stands terminal empty =>
    cases state : service.dialogue with
    | ready pending => rw [state] at terminal; cases terminal
    | _ => trivial

theorem settles (looping : service.Looping) (turn : Turn) :
    Settles service (service.broughtIn turn) (service.react turn) := by
  have sound := looping.sound
  cases looping with
  | on stands underway ongoing sound =>
    cases round stands ongoing sound turn with
    | waits result brings unclosed =>
      rw [result, brings]
      exact .still sound rfl rfl
    | queues submits result =>
      rw [result, submits]
      exact queue_settles sound _
    | works result settles stands ended =>
      rw [result]
      exact conclude_settles _ settles
  | gone stands terminal empty =>
    cases turn with
    | submit call => exact submit_gone_settles stands sound call
    | take | hear =>
      simp only [react, takeCall, onEvent, stands]
      exact .still sound rfl rfl
    | abandon =>
      simp only [react, broughtIn, abandon, stands]
      exact .still sound rfl rfl

end Looping

theorem handleAll_keeps (reachable : Bool) (service : Service) (calls : List Call) :
    Keeps service (service.handleAll reachable calls) := by
  induction calls generalizing service with
  | nil => exact ⟨rfl, rfl⟩
  | cons call calls ih =>
    obtain ⟨standing, mailbox⟩ := handle_keeps reachable service call
    obtain ⟨standing', mailbox'⟩ := ih (service.handle reachable call).1
    exact ⟨standing'.trans standing, mailbox'.trans mailbox⟩

theorem conclude_loops {abandoned : Bool} (reachable : Bool)
    (stands : outcome.1.standing = .serving abandoned) (sound : outcome.1.dialogue.Sound)
    (underway : 2 ≤ (conclude reachable outcome).1.dialogue.view.phase) :
    (conclude reachable outcome).1.Looping ∧
      ((conclude reachable outcome).1.standing = .gone ↔ outcome.1.dialogue.isTerminal = true) := by
  cases spent : outcome.1.dialogue.isTerminal with
  | false =>
    rw [conclude_ongoing reachable spent] at underway ⊢
    exact ⟨.on stands underway spent sound, by simp [stands]⟩
  | true =>
    have ended : { outcome.1 with mailbox := [] }.dialogue.isTerminal = true := spent
    obtain ⟨same, _⟩ := handleAll_terminal reachable ended outcome.1.mailbox
    obtain ⟨_, empty⟩ := handleAll_keeps reachable { outcome.1 with mailbox := [] } outcome.1.mailbox
    rw [conclude_ended reachable spent]
    exact ⟨.gone rfl (by simpa only [same] using ended) empty, by simp⟩

theorem Looping.turns (looping : service.Looping) (turn : Turn) :
    (service.react turn).1.Looping ∧
      ((service.react turn).1.standing = .gone ↔ service.standing = .gone ∨ turn.closes = true) := by
  cases looping with
  | on stands underway ongoing sound =>
    cases round stands ongoing sound turn with
    | waits result brings unclosed =>
      rw [result]
      exact ⟨.on stands underway ongoing sound, by simp [unclosed]⟩
    | queues submits result =>
      rw [result, submits]
      exact ⟨.on stands underway ongoing sound, by simp [Turn.closes]⟩
    | works result settles serves ended =>
      have later := Nat.le_trans underway (react_moves service turn).phase_le
      rw [result] at later ⊢
      obtain ⟨loops, gone⟩ := conclude_loops _ serves settles.sound later
      exact ⟨loops, by rw [gone, ended]; simp [stands]⟩
  | gone stands terminal empty =>
    obtain ⟨_, gone⟩ := gone_stays stands turn
    refine ⟨?_, by simp [stands, gone]⟩
    have still : (service.react turn).1 = service := by
      cases turn with
      | submit call => rw [react, submit_gone stands]
      | take | hear | abandon => simp only [react, takeCall, onEvent, abandon, stands]
    rw [still]
    exact .gone stands terminal empty

theorem looping_reach (looping : service.Looping) (turns : List Turn) :
    (machine.reach service turns).Looping :=
  machine.reach_keeps_under Looping (fun turn _ _ still => (still.turns turn).1) looping

theorem gone_iff_closed (looping : service.Looping) (turns : List Turn) :
    (machine.reach service turns).standing = .gone ↔
      service.standing = .gone ∨ ∃ turn ∈ turns, turn.closes = true := by
  induction turns using List.reverseRecOn with
  | nil => simp [Machine.reach]
  | append_singleton turns turn ih =>
    rw [reach_concat, ((looping_reach looping turns).turns turn).2, ih]
    simp [or_and_right, exists_or, or_assoc]

theorem settles_run (looping : service.Looping) (turns : List Turn) :
    Settles service (broughtBy service turns) (machine.reach service turns, effectsBy service turns) := by
  induction turns using List.reverseRecOn with
  | nil => exact .still looping.sound rfl rfl
  | append_singleton turns turn ih =>
    rw [reach_concat, effectsBy_concat, broughtBy, noted_concat]
    exact ih.trans ((looping_reach looping turns).settles turn)

theorem reach_moves (service : Service) (turns : List Turn) :
    Moves service (machine.reach service turns) := by
  induction turns using List.reverseRecOn with
  | nil => exact .still service
  | append_singleton turns turn ih =>
    rw [reach_concat]
    exact ih.trans (react_moves _ turn)

theorem looping_reached (asked : Bool) (extensions : List Text.Pair) (turns : List Turn)
    {abandoned : Bool}
    (stands : (machine.reach (begin asked extensions).1 turns).standing = .serving abandoned) :
    (machine.reach (begin asked extensions).1 turns).Looping := by
  have idle : (begin asked extensions).1.dialogue = .idle := by cases asked <;> rfl
  obtain ⟨events, came⟩ := reach_moves (begin asked extensions).1 turns
  rw [idle] at came
  have sound := Dialogue.after_sound events
  rw [Dialogue.after, ← came] at sound
  rcases reached asked extensions turns with requesting | accepted
  · rw [requesting.stands] at stands
    cases stands
  · cases accepted with
    | greeting also | gone also =>
      rw [also] at stands
      cases stands
    | serving serves underway ongoing waiting => exact .on serves underway ongoing sound

theorem Looping.begun (looping : service.Looping) : 2 ≤ service.dialogue.view.phase := by
  cases looping with
  | on stands underway ongoing sound => exact underway
  | gone stands terminal empty =>
    rw [Dialogue.phase_of_terminal terminal]
    decide

theorem Looping.attending (looping : service.Looping) : service.Attending := by
  refine ⟨?_, ?_⟩
  · cases looping with
    | on stands => exact .inr ⟨_, stands⟩
    | gone stands => exact .inl stands
  · intro starting
    have begun := looping.begun
    rw [starting] at begun
    exact absurd begun (by decide)

theorem frames_leaving (attending : service.Attending) (turn : Turn)
    (left : (service.react turn).1.dialogue.view ≠ .ready) : frames (service.react turn).2 = [] := by
  rw [frames_react attending turn]
  cases turned attending turn with
  | sends noted ready free taken result next =>
    rw [result, next] at left
    exact absurd rfl left
  | passes noted passes =>
    rw [noted]
    rfl

theorem frames_left (looping : service.Looping) (turn : Turn) (turns : List Turn)
    (left : (service.react turn).1.dialogue.view ≠ .ready) :
    frames (effectsBy service (turn :: turns)) = [] := by
  have begun := (looping.turns turn).1.begun
  have past : 3 ≤ (service.react turn).1.dialogue.view.phase := by
    cases view : (service.react turn).1.dialogue.view with
    | idle | starting => rw [view] at begun; exact absurd begun (by decide)
    | ready => exact absurd view left
    | closing => exact Nat.le_refl 3
    | closed | failed => exact Nat.le_succ 3
  have unready (later : List Turn) :
      (machine.reach service (turn :: later)).dialogue.view ≠ .ready := by
    intro ready
    have still := Nat.le_trans past (reach_moves (service.react turn).1 later).phase_le
    rw [show machine.reach (service.react turn).1 later = machine.reach service (turn :: later) from rfl,
      ready] at still
    exact absurd still (by decide)
  induction turns using List.reverseRecOn with
  | nil =>
    rw [effectsBy_cons, show effectsBy (service.react turn).1 [] = [] from rfl, List.append_nil]
    exact frames_leaving looping.attending turn left
  | append_singleton turns last ih =>
    have later := unready (turns ++ [last])
    rw [← List.cons_append, reach_concat] at later
    rw [← List.cons_append, effectsBy_concat, frames_append, ih,
      frames_leaving (looping_reach looping _).attending last later]
    rfl

end Service
end SecureShell.Sftp
