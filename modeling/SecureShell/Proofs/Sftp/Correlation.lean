import SecureShell.Proofs.Sftp.Conservation

namespace SecureShell.Sftp
open Settlement (fates)

namespace Pending

variable {id other : UInt32} {promise : Ticket} {pending : Pending}

theorem find_append (held : pending.find? id = some promise) (more : Pending) :
    find? (pending ++ more) id = some promise := by
  obtain ⟨entry, located, same⟩ := Option.map_eq_some_iff.mp held
  simp [find?, List.find?_append, located, same]

theorem find_last (free : pending.find? id = none) (promise : Ticket) :
    find? (pending ++ [(id, promise)]) id = some promise := by
  have absent := Option.map_eq_none_iff.mp free
  simp [find?, List.find?_append, absent]

theorem find_drop_other (different : other ≠ id) :
    (pending.drop id).find? other = pending.find? other := by
  induction pending with
  | nil => rfl
  | cons entry pending ih =>
    rw [drop_cons, find_cons]
    by_cases same : entry.1 = id
    · rw [if_pos same, ih, if_neg (fun equal => different (equal.symm.trans same))]
    · rw [if_neg same, find_cons, ih]

theorem has_of_find (held : pending.find? id = some promise) : pending.has id = true := by
  simp [has, held]

theorem has_eq_false : pending.has id = false ↔ pending.find? id = none := by
  simp [has]

theorem ticket_of_find (held : pending.find? id = some promise) : promise ∈ pending.tickets :=
  List.mem_map_of_mem (mem_of_find held)

end Pending

namespace Dialogue

def holder? : Dialogue → UInt32 → Option Ticket
  | .ready pending, id => pending.find? id
  | _, _ => none

-- What answers the request in flight under `id`, and how. Only the IDs in flight count
-- here; the table of promises is not looked at.
inductive Answers (inFlight : UInt32 → Bool) (id : UInt32) : Event → Answer → Prop
  | reply (named : message.id? = some id) :
      Answers inFlight id (.inbound message) (.ok (.message message))
  | unsent : Answers inFlight id (.unsent id) (.error .closed)
  | unnamed (named : message.id? = none) : Answers inFlight id (.inbound message) (.error .closed)
  | unmatched (named : message.id? = some other) (free : inFlight other = false) :
      Answers inFlight id (.inbound message) (.error .closed)
  | malformed : Answers inFlight id (.malformed fault) (.error .closed)
  | disconnect : Answers inFlight id (.disconnect promise) (.error .closed)
  | disconnected : Answers inFlight id .disconnected (.error .closed)

-- The later course of a request that was sent: nothing becomes of its promise up to the
-- first event that answers it, that event settles it, and nothing does so again.
inductive Course (id : UInt32) (promise : Ticket) : Dialogue → List Event → Prop
  | waits (held : dialogue.holder? id = some promise) : Course id promise dialogue []
  | passes (held : dialogue.holder? id = some promise)
      (unanswered : ∀ answer, ¬ Answers dialogue.inFlight id event answer)
      (silent : fates (dialogue.advance event).settled promise = [])
      (later : Course id promise (dialogue.advance event).next events) :
      Course id promise dialogue (event :: events)
  | answered (held : dialogue.holder? id = some promise)
      (answers : Answers dialogue.inFlight id event answer)
      (settled : fates (dialogue.advance event).settled promise = [.answered answer])
      (quiet : custody.Silent promise (custody.steps (dialogue.advance event).next events)) :
      Course id promise dialogue (event :: events)

-- What comes of a request made of a dialogue, by the state the dialogue is in and by the ID
-- the request bears. A request that is not sent is answered on the spot and changes nothing.
inductive Handled (dialogue : Dialogue) (message : Message) (promise : Ticket)
    (later : List Event) : Prop
  | unready (state : dialogue.view ≠ .ready)
      (refused : dialogue.advance (.request message promise) =
        { next := dialogue, settled := [.answer promise (.error .closed)] })
      (quiet : custody.Silent promise (custody.steps dialogue later))
  | unnamed (state : dialogue.view = .ready) (named : message.id? = none)
      (refused : dialogue.advance (.request message promise) =
        { next := dialogue, settled := [.answer promise (.error (.violation .notARequest))] })
      (quiet : custody.Silent promise (custody.steps dialogue later))
  | repeated {id : UInt32} (state : dialogue.view = .ready) (named : message.id? = some id)
      (kept : dialogue.holder? id = some older) (other : older ≠ promise)
      (refused : dialogue.advance (.request message promise) =
        { next := dialogue, settled := [.answer promise (.error (.violation .repeatedId))] })
      (quiet : custody.Silent promise (custody.steps dialogue later))
  | sent {id : UInt32} (state : dialogue.view = .ready) (named : message.id? = some id)
      (free : dialogue.inFlight id = false)
      (accepted : dialogue.advance (.request message promise) =
        { next := next, action := .send message })
      (course : Course id promise next later)

variable {dialogue : Dialogue} {event : Event} {message : Message} {id : UInt32}
  {promise : Ticket} {pending : Pending} {answer : Answer}

theorem answers_settles (held : pending.find? id = some promise)
    (answers : Answers (ready pending).inFlight id event answer) :
    .answer promise answer ∈ ((ready pending).advance event).settled := by
  have drained : .answer promise (.error .closed) ∈ drain pending :=
    Settlement.answer_mem_answerAll _ (Pending.ticket_of_find held)
  cases answers with
  | reply named => simp [advance, responded_known named held]
  | unsent => simp [advance, Dialogue.unsent, held, refuse]
  | @unnamed message named =>
    have unknown : ∀ id, message.id? = some id → pending.find? id = none := by simp [named]
    simp only [advance, responded_unknown unknown]
    exact drained
  | @unmatched other message named free =>
    have unknown : ∀ id, message.id? = some id → pending.find? id = none := by
      intro id same
      cases named.symm.trans same
      exact Pending.has_eq_false.mp free
    simp only [advance, responded_unknown unknown]
    exact drained
  | malformed => exact drained
  | disconnect => exact drained
  | disconnected => exact drained

theorem unanswered_keeps (held : pending.find? id = some promise)
    (unanswered : ∀ answer, ¬ Answers (ready pending).inFlight id event answer) :
    ((ready pending).advance event).next.holder? id = some promise := by
  cases event with
  | start extensions other => exact held
  | request message other =>
    cases named : message.id? with
    | none => simpa [advance, requested, named, holder?] using held
    | some asked =>
      cases taken : pending.has asked with
      | true => simpa [advance, requested_known named taken, holder?] using held
      | false =>
        simp only [advance, requested_new named taken]
        exact Pending.find_append held _
  | inbound message =>
    cases named : message.id? with
    | none => exact (unanswered _ (.unnamed named)).elim
    | some other =>
      cases found : pending.find? other with
      | none =>
        have free := Pending.has_eq_false.mpr found
        exact (unanswered _ (.unmatched named free)).elim
      | some ticket =>
        have different : id ≠ other := by
          rintro rfl
          exact unanswered _ (.reply named)
        simp only [advance, responded_known named found, holder?]
        rw [Pending.find_drop_other different]
        exact held
  | unsent other =>
    have different : id ≠ other := by
      rintro rfl
      exact unanswered _ .unsent
    simp only [advance, Dialogue.unsent, holder?]
    rw [Pending.find_drop_other different]
    exact held
  | malformed fault => exact (unanswered _ .malformed).elim
  | disconnect other => exact (unanswered _ .disconnect).elim
  | disconnected => exact (unanswered _ .disconnected).elim

theorem ready_of_holder (held : dialogue.holder? id = some promise) :
    ∃ pending, dialogue = .ready pending ∧ pending.find? id = some promise := by
  cases dialogue with
  | ready pending => exact ⟨pending, rfl, held⟩
  | _ => cases held

theorem owed_of_holder (held : dialogue.holder? id = some promise) : promise ∈ dialogue.owed := by
  obtain ⟨pending, rfl, found⟩ := ready_of_holder held
  exact Pending.ticket_of_find found

theorem course {dialogue : Dialogue} {events : List Event} (sound : dialogue.Sound)
    (held : dialogue.holder? id = some promise)
    (single : (dialogue.owed ++ custody.broughtBy events).count promise ≤ 1) :
    Course id promise dialogue events := by
  induction events generalizing dialogue with
  | nil => exact .waits held
  | cons event events ih =>
    obtain ⟨pending, rfl, found⟩ := ready_of_holder held
    by_cases answered : ∃ answer, Answers (ready pending).inFlight id event answer
    · obtain ⟨answer, answers⟩ := answered
      have settles := answers_settles found answers
      have kept : custody.Sound (ready pending) := sound
      obtain ⟨_, settled, quiet⟩ := custody.settled_once kept [] single settles
      exact .answered held answers settled quiet
    · have unanswered : ∀ answer, ¬ Answers (ready pending).inFlight id event answer :=
        fun answer answers => answered ⟨answer, answers⟩
      have kept := unanswered_keeps found unanswered
      have present := List.count_pos_iff.mpr (owed_of_holder kept)
      have balanced := advance_balances sound event promise
      simp only [Custody.broughtBy_cons, List.count_append] at single balanced
      have once : (custody.brought event).count promise = event.brought.count promise := rfl
      refine .passes held unanswered (List.eq_nil_of_length_eq_zero (by omega)) ?_
      refine ih (advance_sound sound event) kept ?_
      rw [List.count_append]
      omega

theorem unready_refuses (state : dialogue.view ≠ .ready) (message : Message) (promise : Ticket) :
    dialogue.advance (.request message promise) =
      { next := dialogue, settled := [.answer promise (.error .closed)] } := by
  cases dialogue with
  | ready pending => exact absurd rfl state
  | _ => rfl

theorem ready_of_view (state : dialogue.view = .ready) : ∃ pending, dialogue = .ready pending := by
  cases dialogue with
  | ready pending => exact ⟨pending, rfl⟩
  | _ => cases state

theorem handled (sound : dialogue.Sound) (message : Message) {later : List Event}
    (new : promise ∉ dialogue.owed) (unused : promise ∉ custody.broughtBy later) :
    Handled dialogue message promise later := by
  have quiet := custody.silent_of_absent sound new unused
  by_cases state : dialogue.view = .ready
  · obtain ⟨pending, rfl⟩ := ready_of_view state
    cases named : message.id? with
    | none => exact .unnamed state named (by simp [advance, requested, named, refuse]) quiet
    | some id =>
      cases found : pending.find? id with
      | some older =>
        have other : older ≠ promise := by
          rintro rfl
          exact new (Pending.ticket_of_find found)
        have refused : requested pending message promise = _ :=
          requested_known named (Pending.has_of_find found)
        exact .repeated state named found other refused quiet
      | none =>
        have free := Pending.has_eq_false.mpr found
        refine .sent state named free (requested_new named free) ?_
        refine course (Pending.append_distinct sound found) (Pending.find_last found promise) ?_
        have absent := List.count_eq_zero.mpr new
        have unbrought := List.count_eq_zero.mpr unused
        simp only [owed, Pending.tickets, List.map_append, List.count_append] at absent ⊢
        simp [absent, unbrought]
  · exact .unready state (unready_refuses state message promise) quiet

theorem responses_settle {pending : Pending} (replies : List (Message × Ticket))
    (known : ∀ reply ∈ replies, ∃ id, reply.1.id? = some id ∧ pending.find? id = some reply.2)
    (different : (replies.map fun reply => reply.1.id?).Nodup) :
    (custody.steps (.ready pending) (replies.map fun reply => .inbound reply.1)).map Step.settled =
      replies.map fun reply => [.answer reply.2 (.ok (.message reply.1))] := by
  induction replies generalizing pending with
  | nil => rfl
  | cons reply replies ih =>
    obtain ⟨id, named, found⟩ := known reply List.mem_cons_self
    obtain ⟨alone, rest⟩ := List.nodup_cons.mp different
    have step : (ready pending).advance (.inbound reply.1) =
        { next := .ready (pending.drop id)
          settled := [.answer reply.2 (.ok (.message reply.1))] } := responded_known named found
    have left : ∀ other ∈ replies,
        ∃ id', other.1.id? = some id' ∧ (pending.drop id).find? id' = some other.2 := by
      intro other member
      obtain ⟨id', named', found'⟩ := known other (List.mem_cons_of_mem _ member)
      have apart : id' ≠ id := by
        rintro rfl
        exact alone (List.mem_map.mpr ⟨other, member, named'.trans named.symm⟩)
      exact ⟨id', named', (Pending.find_drop_other apart).trans found'⟩
    have tail := ih left rest
    simp only [List.map_cons, Machine.steps]
    rw [show custody.advance (.ready pending) (.inbound reply.1) = _ from step]
    exact congrArg _ tail

theorem reply_correlation {events : List Event} (fresh : (custody.broughtBy events).Nodup) :
    (∀ earlier message promise later,
      events = earlier ++ .request message promise :: later →
        custody.Silent promise (custody.steps .idle earlier) ∧
        Handled (after earlier) message promise later) ∧
    ∀ replies order : List (Message × Ticket),
      (∀ reply ∈ replies, ∃ id,
        reply.1.id? = some id ∧ (after events).holder? id = some reply.2) →
      (replies.map fun reply => reply.1.id?).Nodup → order.Perm replies →
      (custody.steps (after events) (order.map fun reply => .inbound reply.1)).map Step.settled =
        order.map fun reply => [.answer reply.2 (.ok (.message reply.1))] := by
  constructor
  · rintro earlier message promise later rfl
    rw [Custody.broughtBy_append, Custody.broughtBy_cons] at fresh
    obtain ⟨_, rest, apart⟩ := List.nodup_append.mp fresh
    obtain ⟨_, _, unused⟩ := List.nodup_append.mp rest
    have unbrought : promise ∉ custody.broughtBy earlier := fun member =>
      apart promise member promise (List.mem_append_left _ (List.mem_singleton_self _)) rfl
    have new : promise ∉ (after earlier).owed :=
      (custody.unknown_of_unbrought sound_idle rfl unbrought).1
    refine ⟨custody.silent_of_absent sound_idle nofun unbrought, ?_⟩
    exact handled (after_sound earlier) message new fun member =>
      unused promise (List.mem_singleton_self _) promise member rfl
  · intro replies order known different same
    cases order with
    | nil => rfl
    | cons first order =>
      obtain ⟨id, _, held⟩ := known first (same.mem_iff.mp List.mem_cons_self)
      obtain ⟨pending, state, _⟩ := ready_of_holder held
      rw [state] at known ⊢
      exact responses_settle (first :: order) (fun reply member => known reply (same.mem_iff.mp member))
        ((same.map _).nodup_iff.mpr different)

-- Two requests, of which the second is answered first.
def exchange : List Event :=
  [.start [] 1, .inbound (.version protocolVersion []), .request (.request 7 (.stat [])) 2,
   .request (.request 8 (.readlink [])) 3]

theorem reply_correlation_exchange :
    (custody.broughtBy exchange).Nodup ∧
    Handled (after (exchange.take 2)) (.request 7 (.stat [])) 2 (exchange.drop 3) ∧
    (custody.steps (after exchange)
      [.inbound (.response 8 (.names [])), .inbound (.response 7 (.data []))]).map Step.settled =
      [[.answer 3 (.ok (.message (.response 8 (.names []))))],
       [.answer 2 (.ok (.message (.response 7 (.data []))))]] := by
  have fresh : (custody.broughtBy exchange).Nodup := by decide
  obtain ⟨handled, settled⟩ := reply_correlation fresh
  have known : ∀ reply ∈ [(Message.response 7 (.data []), 2), (.response 8 (.names []), 3)],
      ∃ id, reply.1.id? = some id ∧ (after exchange).holder? id = some reply.2 := by
    intro reply member
    rcases List.mem_cons.mp member with rfl | last
    · exact ⟨7, rfl, by decide⟩
    · cases List.mem_singleton.mp last
      exact ⟨8, rfl, by decide⟩
  exact ⟨fresh, (handled _ _ _ _ rfl).2, settled _ _ known (by decide) (.swap _ _ _)⟩

end Dialogue
end SecureShell.Sftp
