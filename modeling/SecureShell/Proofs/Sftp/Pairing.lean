import Mathlib.Data.List.Nodup
import SecureShell.Proofs.Octets.RoundTrip
import SecureShell.Proofs.Sftp.Serving

namespace SecureShell.Sftp

def Call.ticket : Call → Ticket
  | .request _ promise | .disconnect promise => promise

namespace Service

-- What the service turns to next. Each time the engine may have left its channel.
inductive Turn
  | submit (call : Call)
  | take (reachable : Bool)
  | hear (reachable : Bool) (event : ChannelEvent)
  | abandon (reachable : Bool) (promise : Ticket)
  deriving DecidableEq

def react (service : Service) : Turn → Outcome
  | .submit call => service.submit call
  | .take reachable => service.takeCall reachable
  | .hear reachable event => service.onEvent reachable event
  | .abandon reachable promise => service.abandon reachable promise

def machine : Machine Service Turn Outcome := ⟨react, Prod.fst⟩

-- As the greeting leaves it: nothing is in flight. The allocator, the stream and the queue may
-- stand anywhere.
def Opened (service : Service) : Prop :=
  service.standing = .serving false ∧ service.dialogue.owed = []

structure Sent where
  id : UInt32
  request : Request
  promise : Ticket
  deriving DecidableEq

namespace Sent

def call (sent : Sent) : Call := .request sent.request sent.promise

def frame (sent : Sent) : Octets := (Message.request sent.id sent.request).frame

end Sent

def Turn.submitted : Turn → List Call
  | .submit call => [call]
  | .take _ | .hear .. | .abandon .. => []

def takenIn (service : Service) : Turn → List Call
  | .take _ =>
    match service.standing with
    | .serving _ => service.mailbox.take 1
    | _ => []
  | _ => []

def sentIn (service : Service) : Turn → List Sent
  | .take true =>
    match service.standing, service.mailbox, service.dialogue with
    | .serving _, .request request promise :: _, .ready pending =>
      (service.identifiers.allocate pending.has).1.toList.map fun id => ⟨id, request, promise⟩
    | _, _, _ => []
  | _ => []

def noted (note : Service → Turn → List α) (service : Service) : List Turn → List α
  | [] => []
  | turn :: turns => note service turn ++ noted note (service.react turn).1 turns

def sentBy (service : Service) (turns : List Turn) : List Sent := noted sentIn service turns

def takenBy (service : Service) (turns : List Turn) : List Call := noted takenIn service turns

def effectsBy (service : Service) (turns : List Turn) : List Effect :=
  machine.collect Prod.snd service turns

def frames (effects : List Effect) : List Octets :=
  effects.filterMap fun
    | .put (.data data) => some data
    | _ => none

-- The last frame that went out under its ID.
def Latest (sent : List Sent) (entry : Sent) : Prop :=
  ∃ before after, sent = before ++ entry :: after ∧ ∀ other ∈ after, other.id ≠ entry.id

structure Attending (service : Service) : Prop where
  standing : service.standing = .gone ∨ ∃ abandoned, service.standing = .serving abandoned
  underway : service.dialogue.view ≠ .starting

variable {service : Service} {turn : Turn} {turns : List Turn}

theorem greeting_opens {extensions : List Text.Pair} {start : Ticket} (reachable : Bool)
    (event : ChannelEvent) (greeting : service.standing = .greeting)
    (starting : service.dialogue = .starting start)
    (answered : greeted? (service.hear reachable event).2 = some (.ok (.extensions extensions))) :
    (service.onEvent reachable event).1.Opened := by
  have free := hear_greeted reachable event starting answered
  simp only [onEvent, greeting, hearGreeting, answered]
  exact ⟨rfl, free⟩

theorem Opened.attending (opened : service.Opened) : service.Attending :=
  ⟨.inr ⟨false, opened.1⟩, Dialogue.underway_of_owed opened.2⟩

def Turn.Hears (service : Service) (turn : Turn) (message : Message) : Prop :=
  ∃ reachable event, turn = .hear reachable event ∧ service.Hears event message

-- A turn either sends one request under an ID that is free, or sends nothing at all.
inductive Turned (service : Service) (turn : Turn) : Prop
  | sends {entry : Sent} {pending : Pending} {after : Service} (noted : service.sentIn turn = [entry])
      (ready : service.dialogue = .ready pending) (free : pending.has entry.id = false)
      (taken : service.takenIn turn = [entry.call])
      (result : service.react turn = (after, [.put (.data entry.frame)]))
      (next : after.dialogue = .ready (pending ++ [(entry.id, entry.promise)]))
  | passes (noted : service.sentIn turn = [])
      (passes : Passes (turn.Hears service) service.dialogue (service.react turn))

theorem turned_gone (attending : service.Attending) (gone : service.standing = .gone) (turn : Turn) :
    Turned service turn := by
  have silent : service.sentIn turn = [] := by
    cases turn with
    | take reachable => cases reachable <;> simp [sentIn, gone]
    | _ => rfl
  apply Turned.passes silent
  cases turn with
  | submit call =>
    cases call with
    | request request promise =>
      simp only [react, submit, gone]
      exact .plain attending.underway rfl (Effect.Plain.closed promise).only
    | disconnect promise =>
      simp only [react, submit, gone]
      exact .plain attending.underway rfl (Effect.Plain.done promise).only
  | take reachable =>
    simp only [react, takeCall, gone]
    exact .still attending.underway rfl
  | hear reachable event =>
    simp only [react, onEvent, gone]
    exact .still attending.underway rfl
  | abandon reachable promise =>
    simp only [react, abandon, gone]
    exact .still attending.underway rfl

section Taking

variable {abandoned : Bool} {call : Call} {waiting : List Call} {request : Request} {promise : Ticket}
  {pending : Pending} {id : UInt32} {identifiers : Identifiers}

theorem takeCall_serving (reachable : Bool) (serving : service.standing = .serving abandoned)
    (queued : service.mailbox = call :: waiting) :
    service.takeCall reachable =
      conclude reachable ({ service with mailbox := waiting }.handle reachable call) := by
  simp [takeCall, serving, queued]

theorem take_ready (serving : service.standing = .serving abandoned)
    (queued : service.mailbox = .request request promise :: waiting)
    (ready : service.dialogue = .ready pending)
    (allocated : service.identifiers.allocate pending.has = (some id, identifiers)) :
    service.takeCall true =
        ({ service with
            mailbox := waiting, identifiers, dialogue := .ready (pending ++ [(id, promise)]) },
          [.put (.data (Message.request id request).frame)]) ∧
      service.takeCall false =
        ({ service with mailbox := waiting, identifiers, dialogue := .ready pending },
          [.settle (Dialogue.refuse promise .closed)]) := by
  have readyToo : { service with mailbox := waiting }.dialogue = .ready pending := ready
  obtain ⟨sent, unsent⟩ := handle_ready readyToo allocated request promise
  rw [takeCall_serving true serving queued, takeCall_serving false serving queued, sent, unsent]
  constructor
  · exact conclude_ongoing true rfl
  · exact conclude_ongoing false rfl

theorem turned_take (attending : service.Attending) (serving : service.standing = .serving abandoned)
    (queued : service.mailbox = .request request promise :: waiting) (reachable : Bool) :
    Turned service (.take reachable) := by
  have result := takeCall_serving reachable serving queued
  by_cases state : service.dialogue.view = .ready
  · obtain ⟨pending, ready⟩ := Dialogue.ready_of_view state
    cases allocated : service.identifiers.allocate pending.has with
    | mk id? identifiers =>
      cases id? with
      | none =>
        have silent : service.sentIn (.take reachable) = [] := by
          cases reachable <;> simp [sentIn, serving, queued, ready, allocated]
        have readyToo : { service with mailbox := waiting }.dialogue = .ready pending := ready
        apply Turned.passes silent
        rw [react, result, handle_exhausted readyToo allocated]
        apply conclude_passes
        apply Passes.plain attending.underway
        · rfl
        · exact (Effect.Plain.exhausted promise).only
      | some id =>
        obtain ⟨sent, unsent⟩ := take_ready serving queued ready allocated
        cases reachable with
        | true =>
          have recorded : service.sentIn (.take true) = [⟨id, request, promise⟩] := by
            simp [sentIn, serving, queued, ready, allocated]
          have taken : service.takenIn (.take true) = [.request request promise] := by
            simp [takenIn, serving, queued]
          exact .sends recorded ready (Identifiers.allocate_free allocated) taken sent rfl
        | false =>
          apply Turned.passes rfl
          rw [react, unsent]
          apply Passes.plain attending.underway
          · exact ready.symm
          · exact (Effect.Plain.closed promise).only
  · have silent : service.sentIn (.take reachable) = [] := by
      cases reachable with
      | false => rfl
      | true =>
        cases found : service.dialogue with
        | ready pending => exact absurd (congrArg Dialogue.view found) state
        | _ => simp [sentIn, serving, queued, found]
    have unready : { service with mailbox := waiting }.dialogue.view ≠ .ready := state
    obtain ⟨same, plain⟩ := handle_unready reachable unready request promise
    apply Turned.passes silent
    rw [react, result]
    apply conclude_passes
    exact .plain attending.underway same plain

theorem turned_serving (attending : service.Attending)
    (serving : service.standing = .serving abandoned) (turn : Turn) : Turned service turn := by
  cases turn with
  | submit call =>
    apply Turned.passes rfl
    have queued : service.submit call = ({ service with mailbox := service.mailbox ++ [call] }, []) := by
      cases call <;> simp [submit, serving]
    rw [react, queued]
    exact .still attending.underway rfl
  | hear reachable event =>
    apply Turned.passes rfl
    simp only [react, onEvent, serving]
    apply conclude_passes
    apply (hear_passes reachable attending.underway event).mono
    intro message heard
    exact ⟨reachable, event, rfl, heard⟩
  | abandon reachable promise =>
    apply Turned.passes rfl
    cases last : service.mailbox with
    | cons call waiting =>
      simp only [react, abandon, serving, last]
      exact .still attending.underway rfl
    | nil =>
      cases abandoned with
      | true =>
        simp only [react, abandon, serving, last]
        exact .still attending.underway rfl
      | false =>
        simp only [react, abandon, serving, last]
        apply conclude_passes
        exact disconnect_passes reachable _ promise rfl attending.underway
  | take reachable =>
    cases queued : service.mailbox with
    | nil =>
      have silent : service.sentIn (.take reachable) = [] := by
        cases reachable <;> simp [sentIn, serving, queued]
      apply Turned.passes silent
      simp only [react, takeCall, serving, queued]
      exact .still attending.underway rfl
    | cons call waiting =>
      cases call with
      | request request promise => exact turned_take attending serving queued reachable
      | disconnect promise =>
        have silent : service.sentIn (.take reachable) = [] := by
          cases reachable <;> simp [sentIn, serving, queued]
        apply Turned.passes silent
        rw [react, takeCall_serving reachable serving queued]
        apply conclude_passes
        exact disconnect_passes reachable _ promise rfl attending.underway

end Taking

theorem turned (attending : service.Attending) (turn : Turn) : Turned service turn := by
  rcases attending.standing with gone | ⟨abandoned, serving⟩
  · exact turned_gone attending gone turn
  · exact turned_serving attending serving turn

theorem conclude_stands (reachable : Bool) (outcome : Outcome) :
    (conclude reachable outcome).1.standing = .gone ∨ conclude reachable outcome = outcome := by
  cases terminal : outcome.1.dialogue.isTerminal with
  | false => exact .inr (conclude_ongoing reachable terminal)
  | true =>
    rw [conclude_ended reachable terminal]
    exact .inl rfl

-- What is taken is taken from the front of the queue, and the rest of it stays until the end.
def Queues (service : Service) (turn : Turn) (after : Service) : Prop :=
  ∃ left, service.mailbox ++ turn.submitted = service.takenIn turn ++ left ∧
    (after.standing = .gone ∨
      (∃ abandoned, after.standing = .serving abandoned) ∧ left = after.mailbox)

theorem queues_concluded {reachable abandoned : Bool} {left : List Call} {outcome : Outcome}
    (split : service.mailbox ++ turn.submitted = service.takenIn turn ++ left)
    (serving : outcome.1.standing = .serving abandoned) (waiting : left = outcome.1.mailbox) :
    Queues service turn (conclude reachable outcome).1 := by
  refine ⟨left, split, ?_⟩
  rcases conclude_stands reachable outcome with gone | same
  · exact .inl gone
  · rw [same]
    exact .inr ⟨⟨abandoned, serving⟩, waiting⟩

theorem gone_stays (gone : service.standing = .gone) (turn : Turn) :
    service.takenIn turn = [] ∧ (service.react turn).1.standing = .gone := by
  cases turn with
  | submit call => cases call <;> simp [takenIn, react, submit, gone]
  | take | hear | abandon => simp [takenIn, react, takeCall, onEvent, abandon, gone]

theorem queues (attending : service.Attending) (turn : Turn) :
    Queues service turn (service.react turn).1 := by
  rcases attending.standing with gone | ⟨abandoned, serving⟩
  · obtain ⟨nothing, stays⟩ := gone_stays gone turn
    exact ⟨_, by rw [nothing]; rfl, .inl stays⟩
  · cases turn with
    | submit call =>
      refine ⟨service.mailbox ++ [call], rfl, .inr ?_⟩
      cases call <;> simp [react, submit, serving]
    | take reachable =>
      cases queued : service.mailbox with
      | nil =>
        refine ⟨[], by simp [takenIn, serving, queued, Turn.submitted], .inr ?_⟩
        simp [react, takeCall, serving, queued]
      | cons call waiting =>
        obtain ⟨standing, mailbox⟩ := handle_keeps reachable { service with mailbox := waiting } call
        rw [react, takeCall_serving reachable serving queued]
        apply queues_concluded _ (standing.trans serving) mailbox.symm
        simp [takenIn, serving, queued, Turn.submitted]
    | hear reachable event =>
      obtain ⟨standing, mailbox⟩ := hear_keeps reachable service event
      simp only [react, onEvent, serving]
      apply queues_concluded _ (standing.trans serving) mailbox.symm
      simp [takenIn, Turn.submitted]
    | abandon reachable promise =>
      cases queued : service.mailbox with
      | cons call waiting =>
        refine ⟨service.mailbox, by simp [takenIn, Turn.submitted], .inr ?_⟩
        simp [react, abandon, serving, queued]
      | nil =>
        cases abandoned with
        | true =>
          refine ⟨service.mailbox, by simp [takenIn, Turn.submitted], .inr ?_⟩
          simp [react, abandon, serving, queued]
        | false =>
          simp only [react, abandon, serving, queued]
          apply queues_concluded _ rfl rfl
          simp [takenIn, Turn.submitted, queued, trigger_eq]

theorem attending_react (attending : service.Attending) (turn : Turn) :
    (service.react turn).1.Attending := by
  obtain ⟨left, _, stands⟩ := queues attending turn
  refine ⟨stands.imp_right And.left, ?_⟩
  cases turned attending turn with
  | sends noted ready free taken result next =>
    rw [result, next]
    nofun
  | passes noted passes => exact passes.underway

theorem attending_reach (attending : service.Attending) (turns : List Turn) :
    (machine.reach service turns).Attending := by
  have keeps : ∀ state turn, Attending state → Attending (machine.next (machine.advance state turn)) :=
    fun _ turn still => attending_react still turn
  exact machine.reach_keeps keeps attending turns

theorem noted_concat {α : Type} (note : Service → Turn → List α) (service : Service)
    (turns : List Turn) (turn : Turn) :
    noted note service (turns ++ [turn]) =
      noted note service turns ++ note (machine.reach service turns) turn := by
  induction turns generalizing service with
  | nil => simp [noted, Machine.reach]
  | cons earlier turns ih =>
    rw [List.cons_append, noted, noted, ih, List.append_assoc]
    rfl

theorem effectsBy_append (service : Service) (earlier later : List Turn) :
    effectsBy service (earlier ++ later) =
      effectsBy service earlier ++ effectsBy (machine.reach service earlier) later :=
  machine.collect_append Prod.snd service earlier later

theorem effectsBy_cons (service : Service) (turn : Turn) (turns : List Turn) :
    effectsBy service (turn :: turns) =
      (service.react turn).2 ++ effectsBy (service.react turn).1 turns := rfl

theorem effectsBy_concat (service : Service) (turns : List Turn) (turn : Turn) :
    effectsBy service (turns ++ [turn]) =
      effectsBy service turns ++ ((machine.reach service turns).react turn).2 :=
  machine.collect_concat Prod.snd service turns turn

theorem reach_concat (service : Service) (turns : List Turn) (turn : Turn) :
    machine.reach service (turns ++ [turn]) = ((machine.reach service turns).react turn).1 :=
  machine.reach_append service turns [turn]

theorem frames_append (early late : List Effect) :
    frames (early ++ late) = frames early ++ frames late := List.filterMap_append

theorem frames_react (attending : service.Attending) (turn : Turn) :
    frames (service.react turn).2 = (service.sentIn turn).map Sent.frame := by
  cases turned attending turn with
  | sends noted ready free taken result next =>
    rw [result, noted]
    rfl
  | passes noted passes =>
    rw [noted]
    apply List.filterMap_eq_nil_iff.mpr
    intro effect member
    rcases passes.told effect member with plain | ⟨message, _, id, promise, _, _, rfl⟩
    · cases plain <;> rfl
    · rfl

theorem frames_run (attending : service.Attending) (turns : List Turn) :
    frames (effectsBy service turns) = (sentBy service turns).map Sent.frame := by
  induction turns using List.reverseRecOn with
  | nil => rfl
  | append_singleton turns turn ih =>
    rw [effectsBy_concat, sentBy, noted_concat, frames_append, List.map_append,
      frames_react (attending_reach attending turns)]
    exact congrArg (· ++ _) ih

theorem sent_taken (attending : service.Attending) (turns : List Turn) :
    ((sentBy service turns).map Sent.call).Sublist (takenBy service turns) := by
  induction turns using List.reverseRecOn with
  | nil => exact .slnil
  | append_singleton turns turn ih =>
    rw [sentBy, takenBy, noted_concat, noted_concat, List.map_append]
    apply ih.append
    cases turned (attending_reach attending turns) turn with
    | sends noted ready free taken result next =>
      rw [noted, taken]
      exact .refl _
    | passes noted passes =>
      rw [noted]
      exact List.nil_sublist _

theorem queue_run (attending : service.Attending) (turns : List Turn) :
    ∃ left, service.mailbox ++ turns.flatMap Turn.submitted = takenBy service turns ++ left ∧
      ((machine.reach service turns).standing = .gone ∨ left = (machine.reach service turns).mailbox) := by
  induction turns using List.reverseRecOn with
  | nil => exact ⟨service.mailbox, List.append_nil _, .inr rfl⟩
  | append_singleton turns turn ih =>
    obtain ⟨left, split, rest⟩ := ih
    rw [takenBy, noted_concat, reach_concat, List.flatMap_append, ← List.append_assoc, split]
    rcases rest with gone | waiting
    · obtain ⟨nothing, stays⟩ := gone_stays gone turn
      refine ⟨left ++ turn.submitted, ?_, .inl stays⟩
      simp [nothing, takenBy]
    · obtain ⟨later, moved, stands⟩ := queues (attending_reach attending turns) turn
      rw [← waiting] at moved
      refine ⟨later, ?_, stands.imp_right And.right⟩
      simp only [List.flatMap_singleton, List.append_assoc, moved, takenBy]

-- Which frame a request in flight was sent in.
def Recorded (sent : List Sent) (dialogue : Dialogue) : Prop :=
  ∀ id promise, dialogue.holder? id = some promise →
    ∃ entry, Latest sent entry ∧ entry.id = id ∧ entry.promise = promise

theorem Latest.append {sent : List Sent} {entry new : Sent} (latest : Latest sent entry)
    (other : new.id ≠ entry.id) : Latest (sent ++ [new]) entry := by
  obtain ⟨before, after, rfl, apart⟩ := latest
  refine ⟨before, after ++ [new], by simp, ?_⟩
  intro later member
  rcases List.mem_append.mp member with earlier | last
  · exact apart later earlier
  · cases List.mem_singleton.mp last
    exact other

theorem Latest.last (sent : List Sent) (entry : Sent) : Latest (sent ++ [entry]) entry := by
  refine ⟨sent, [], rfl, ?_⟩
  intro other member
  cases member

theorem recorded_react {sent : List Sent} (attending : service.Attending)
    (recorded : Recorded sent service.dialogue) (turn : Turn) :
    Recorded (sent ++ service.sentIn turn) (service.react turn).1.dialogue := by
  intro id promise holder
  cases turned attending turn with
  | @sends entry pending after noted ready free taken result next =>
    rw [result, next] at holder
    rw [noted]
    rcases Pending.find_in_append holder with earlier | ⟨rfl, rfl⟩
    · have held : service.dialogue.holder? id = some promise := by rwa [ready]
      obtain ⟨origin, latest, rfl, rfl⟩ := recorded id promise held
      refine ⟨origin, latest.append ?_, rfl, rfl⟩
      intro same
      rw [same] at free
      rw [Pending.has_eq_false.mp free] at earlier
      cases earlier
    · exact ⟨entry, .last sent entry, rfl, rfl⟩
  | passes noted passes =>
    rw [noted, List.append_nil]
    exact recorded id promise (passes.held id promise holder)

theorem recorded_run (opened : service.Opened) (turns : List Turn) :
    Recorded (sentBy service turns) (machine.reach service turns).dialogue := by
  induction turns using List.reverseRecOn with
  | nil =>
    intro id promise holder
    have owed : promise ∈ service.dialogue.owed := Dialogue.owed_of_holder holder
    rw [opened.2] at owed
    cases owed
  | append_singleton turns turn ih =>
    rw [sentBy, noted_concat, reach_concat]
    exact recorded_react (attending_reach opened.attending turns) ih turn

theorem reply_traced (opened : service.Opened) (turns : List Turn) {turn : Turn} {promise : Ticket}
    {message : Message}
    (told : .settle (.answer promise (.ok (.message message))) ∈
      ((machine.reach service turns).react turn).2) :
    turn.Hears (machine.reach service turns) message ∧
      ∃ entry, Latest (sentBy service turns) entry ∧ entry.promise = promise ∧
        message.id? = some entry.id := by
  cases turned (attending_reach opened.attending turns) turn with
  | sends noted ready free taken result next =>
    rw [result] at told
    cases List.mem_singleton.mp told
  | passes noted passes =>
    rcases passes.told _ told with plain | ⟨heard, here, id, holder, named, held, same⟩
    · cases plain with
      | parting parting =>
        obtain ⟨_, closed | done⟩ := parting
        · cases closed
        · cases done
    · cases same
      obtain ⟨entry, latest, rfl, rfl⟩ := recorded_run opened turns id promise held
      exact ⟨here, entry, latest, rfl, named⟩

-- Neither is a request turned away for its ID, nor for having none.
def Misnamed (settlement : Settlement Answer) : Prop :=
  settlement.fate = .answered (.error (.violation .repeatedId)) ∨
    settlement.fate = .answered (.error (.violation .notARequest))

theorem never_misnamed (attending : service.Attending) (turns : List Turn)
    (settlement : Settlement Answer) (told : .settle settlement ∈ effectsBy service turns) :
    ¬ Misnamed settlement := by
  induction turns using List.reverseRecOn with
  | nil => cases told
  | append_singleton turns turn ih =>
    rw [effectsBy_concat] at told
    rcases List.mem_append.mp told with before | now
    · exact ih before
    · cases turned (attending_reach attending turns) turn with
      | sends noted ready free taken result next =>
        rw [result] at now
        cases List.mem_singleton.mp now
      | passes noted passes =>
        rcases passes.told _ now with plain | ⟨message, _, id, promise, _, _, same⟩
        · cases plain with
          | parting parting =>
            obtain ⟨promise, rfl | rfl⟩ := parting
            · rintro (same | same) <;> cases same
            · rintro (same | same) <;> cases same
          | exhausted promise => rintro (same | same) <;> cases same
        · cases same
          rintro (same | same) <;> cases same

inductive Dispatched (service : Service) (pending : Pending) (request : Request)
    (promise : Ticket) : Bool → Prop
  | sent {id : UInt32} {after : Service} (free : pending.has id = false)
      (noted : service.sentIn (.take true) = [⟨id, request, promise⟩])
      (result : service.react (.take true) =
        (after, [.put (.data (Message.request id request).frame)]))
      (next : after.dialogue = .ready (pending ++ [(id, promise)])) :
      Dispatched service pending request promise true
  | unsent {after : Service}
      (result : service.react (.take false) =
        (after, [.settle (Dialogue.refuse promise .closed)]))
      (next : after.dialogue = .ready pending) : Dispatched service pending request promise false

theorem dispatched {abandoned : Bool} {request : Request} {promise : Ticket} {waiting : List Call}
    {pending : Pending} (serving : service.standing = .serving abandoned)
    (queued : service.mailbox = .request request promise :: waiting)
    (ready : service.dialogue = .ready pending) (short : pending.length < 0x100000000)
    (reachable : Bool) : Dispatched service pending request promise reachable := by
  obtain ⟨id, identifiers, allocated⟩ := Identifiers.allocate_finds short service.identifiers
  obtain ⟨sent, unsent⟩ := take_ready serving queued ready allocated
  cases reachable with
  | true =>
    have noted : service.sentIn (.take true) = [⟨id, request, promise⟩] := by
      simp [sentIn, serving, queued, ready, allocated]
    exact .sent (Identifiers.allocate_free allocated) noted sent rfl
  | false => exact .unsent unsent rfl

theorem frame_bears_id (sent : Sent) :
    Octets.readWord (sent.frame.drop 5) = some (sent.id, sent.request.writeBody) := by
  have rest : sent.frame.drop 5 = Octets.writeWord sent.id ++ sent.request.writeBody := by
    rfl
  rw [rest, Octets.word_roundtrip]

theorem distinct_tickets (attending : service.Attending) (turns : List Turn)
    (fresh : ((service.mailbox ++ turns.flatMap Turn.submitted).map Call.ticket).Nodup) :
    ((sentBy service turns).map Sent.promise).Nodup := by
  obtain ⟨left, split, _⟩ := queue_run attending turns
  have taken : (takenBy service turns).Sublist (service.mailbox ++ turns.flatMap Turn.submitted) := by
    rw [split]
    exact List.sublist_append_left _ left
  have calls := ((sent_taken attending turns).trans taken).map Call.ticket
  rw [List.map_map] at calls
  exact fresh.sublist calls

-- Whoever is handed a message sent the last frame that bore its ID, and sent no other.
theorem requests_paired_with_replies (opened : service.Opened) (turns : List Turn) :
    (∀ abandoned request promise waiting pending,
      (machine.reach service turns).standing = .serving abandoned →
      (machine.reach service turns).mailbox = .request request promise :: waiting →
      (machine.reach service turns).dialogue = .ready pending → pending.length < 0x100000000 →
      ∀ reachable, Dispatched (machine.reach service turns) pending request promise reachable) ∧
    (∀ settlement, .settle settlement ∈ effectsBy service turns → ¬ Misnamed settlement) ∧
    (frames (effectsBy service turns) = (sentBy service turns).map Sent.frame ∧
      ((sentBy service turns).map Sent.call).Sublist (takenBy service turns) ∧
      takenBy service turns <+: service.mailbox ++ turns.flatMap Turn.submitted ∧
      ∀ sent ∈ sentBy service turns,
        Octets.readWord (sent.frame.drop 5) = some (sent.id, sent.request.writeBody)) ∧
    ∀ turn promise message,
      .settle (.answer promise (.ok (.message message))) ∈
        ((machine.reach service turns).react turn).2 →
      turn.Hears (machine.reach service turns) message ∧
        ∃ entry, Latest (sentBy service turns) entry ∧ entry.promise = promise ∧
          message.id? = some entry.id ∧
          (((service.mailbox ++ turns.flatMap Turn.submitted).map Call.ticket).Nodup →
            ∀ other ∈ sentBy service turns, other.promise = promise → other = entry) := by
  have attending := opened.attending
  refine ⟨?_, never_misnamed attending turns, ⟨frames_run attending turns,
    sent_taken attending turns, ?_, fun sent _ => frame_bears_id sent⟩, ?_⟩
  · intro abandoned request promise waiting pending serving queued ready short reachable
    exact dispatched serving queued ready short reachable
  · obtain ⟨left, split, _⟩ := queue_run attending turns
    exact ⟨left, split.symm⟩
  · intro turn promise message told
    obtain ⟨heard, entry, latest, mine, named⟩ := reply_traced opened turns told
    refine ⟨heard, entry, latest, mine, named, ?_⟩
    intro fresh other member same
    obtain ⟨before, after, split, _⟩ := latest
    have present : entry ∈ sentBy service turns := by simp [split]
    exact List.inj_on_of_nodup_map (distinct_tickets attending turns fresh) member present
      (same.trans mine.symm)

-- Two requests are sent across the wrap of the allocator, and the second is answered first.
def wrapping : Service where
  standing := .serving false
  dialogue := .ready []
  identifiers := ⟨0xFFFFFFFF⟩
  mailbox := [.request (.stat []) 1, .request (.readlink []) 2]

def wrapped : List Turn := [.take true, .take true]

def reply : Turn := .hear true (.data (Message.response 0 (.data [])).frame)

theorem requests_paired_with_replies_wrapping :
    wrapping.Opened ∧ sentBy wrapping wrapped = [⟨0xFFFFFFFF, .stat [], 1⟩, ⟨0, .readlink [], 2⟩] ∧
      Dispatched (machine.reach wrapping [.take true]) [(0xFFFFFFFF, 1)] (.readlink []) 2 true ∧
      reply.Hears (machine.reach wrapping wrapped) (.response 0 (.data [])) ∧
      ∃ entry, Latest (sentBy wrapping wrapped) entry ∧ entry.promise = 2 ∧ some 0 = some entry.id := by
  have opened : wrapping.Opened := ⟨rfl, rfl⟩
  have sent : sentBy wrapping wrapped = [⟨0xFFFFFFFF, .stat [], 1⟩, ⟨0, .readlink [], 2⟩] := by
    decide +kernel
  have standing : (machine.reach wrapping [.take true]).standing = .serving false := by
    decide +kernel
  have mailbox : (machine.reach wrapping [.take true]).mailbox = [.request (.readlink []) 2] := by
    decide +kernel
  have dialogue : (machine.reach wrapping [.take true]).dialogue = .ready [(0xFFFFFFFF, 1)] := by
    decide +kernel
  have answered : ((machine.reach wrapping wrapped).react reply).2 =
      [.settle (.answer 2 (.ok (.message (.response 0 (.data [])))))] := by decide +kernel
  obtain ⟨dispatches, _⟩ := requests_paired_with_replies opened [.take true]
  obtain ⟨_, _, _, traced⟩ := requests_paired_with_replies opened wrapped
  have told : .settle (.answer 2 (.ok (.message (.response 0 (.data []))))) ∈
      ((machine.reach wrapping wrapped).react reply).2 := by
    rw [answered]
    exact List.mem_cons_self
  obtain ⟨heard, entry, latest, mine, named, _⟩ := traced reply 2 _ told
  exact ⟨opened, sent, dispatches _ _ _ _ _ standing mailbox dialogue (by decide) true, heard, entry,
    latest, mine, named⟩

end Service
end SecureShell.Sftp
