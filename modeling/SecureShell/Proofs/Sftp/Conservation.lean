import SecureShell.Proofs.Custody
import SecureShell.Sftp.Dialogue

namespace SecureShell.Sftp
open Settlement (fates length_fates promises_answerAll)

namespace Pending

variable {id : UInt32} {promise : Ticket} {pending : Pending}

def Distinct (pending : Pending) : Prop := (pending.map Prod.fst).Nodup

theorem mem_of_find (found : pending.find? id = some promise) : (id, promise) ∈ pending := by
  obtain ⟨⟨other, ticket⟩, located, rfl⟩ := Option.map_eq_some_iff.mp found
  have same := List.find?_some located
  simp only [decide_eq_true_eq] at same
  subst same
  exact List.mem_of_find?_eq_some located

theorem find_eq_none : pending.find? id = none ↔ id ∉ pending.map Prod.fst := by
  simp only [find?, Option.map_eq_none_iff, List.find?_eq_none, decide_eq_true_eq, List.mem_map,
    not_exists, not_and]

theorem find_cons (entry : UInt32 × Ticket) (pending : Pending) :
    find? (entry :: pending) id = if entry.1 = id then some entry.2 else pending.find? id := by
  by_cases same : entry.1 = id <;> simp [find?, same]

theorem drop_cons (entry : UInt32 × Ticket) (pending : Pending) :
    drop (entry :: pending) id =
      if entry.1 = id then pending.drop id else entry :: pending.drop id := by
  by_cases same : entry.1 = id <;> simp [drop, same]

theorem drop_absent (absent : id ∉ pending.map Prod.fst) : pending.drop id = pending := by
  refine List.filter_eq_self.mpr ?_
  intro entry member
  simp only [ne_eq, decide_not, Bool.not_eq_true', decide_eq_false_iff_not]
  rintro rfl
  exact absent (List.mem_map_of_mem member)

theorem drop_distinct (distinct : pending.Distinct) : (pending.drop id).Distinct :=
  distinct.sublist (List.filter_sublist.map _)

theorem append_distinct (distinct : pending.Distinct) (free : pending.find? id = none) :
    Distinct (pending ++ [(id, promise)]) := by
  simp only [Distinct, List.map_append, List.map_cons, List.map_nil]
  refine List.nodup_append.mpr ⟨distinct, by simp, ?_⟩
  intro other member new single same
  rw [List.mem_singleton.mp single] at same
  exact find_eq_none.mp free (same ▸ member)

theorem count_drop (distinct : pending.Distinct) (id : UInt32) (promise : Ticket) :
    (pending.drop id).tickets.count promise + (pending.find? id).toList.count promise =
      pending.tickets.count promise := by
  induction pending with
  | nil => rfl
  | cons entry pending ih =>
    obtain ⟨new, rest⟩ := List.nodup_cons.mp distinct
    by_cases same : entry.1 = id
    · subst same
      rw [drop_cons, if_pos rfl, find_cons, if_pos rfl, drop_absent new]
      simp only [tickets, List.map_cons, Option.toList_some, List.count_cons, List.count_nil]
      omega
    · have dropped := ih rest
      rw [drop_cons, if_neg same, find_cons, if_neg same]
      simp only [tickets, List.map_cons, List.count_cons] at dropped ⊢
      omega

end Pending

namespace Dialogue

variable {message : Message} {id : UInt32} {pending : Pending}

def Event.brought : Event → List Ticket
  | .start _ promise | .request _ promise | .disconnect promise => [promise]
  | .inbound _ | .unsent _ | .malformed _ | .disconnected => []

def Sound : Dialogue → Prop
  | .ready pending => pending.Distinct
  | _ => True

-- A step that takes over promises owes or settles each of them as often as it took it over.
def Step.Balances (step : Step) (taken : List Ticket) : Prop :=
  ∀ promise, step.next.owed.count promise + (fates step.settled promise).length =
    taken.count promise

theorem requested_known {promise : Ticket} (named : message.id? = some id)
    (taken : pending.has id = true) :
    requested pending message promise =
      { next := .ready pending, settled := [refuse promise (.violation .repeatedId)] } := by
  simp [requested, named, taken]

theorem requested_new {promise : Ticket} (named : message.id? = some id)
    (free : pending.has id = false) :
    requested pending message promise =
      { next := .ready (pending ++ [(id, promise)]), action := .send message } := by
  simp [requested, named, free]

theorem responded_known {promise : Ticket} (named : message.id? = some id)
    (held : pending.find? id = some promise) :
    responded pending message =
      { next := .ready (pending.drop id)
        settled := [.answer promise (.ok (.message message))] } := by
  simp [responded, named, held]

theorem responded_unknown (unknown : ∀ id, message.id? = some id → pending.find? id = none) :
    responded pending message = breakOff (.violation .unmatchedResponse) (drain pending) := by
  cases named : message.id? with
  | none => simp [responded, named]
  | some id => simp [responded, named, unknown id named]

theorem responded_cases (pending : Pending) (message : Message) :
    (∃ id promise, message.id? = some id ∧ pending.find? id = some promise) ∨
      ∀ id, message.id? = some id → pending.find? id = none := by
  cases named : message.id? with
  | none => exact .inr fun id found => nomatch found
  | some id =>
    cases held : pending.find? id with
    | none => exact .inr fun other found => by cases found; exact held
    | some promise => exact .inl ⟨id, promise, rfl, held⟩

theorem refused_balances (dialogue : Dialogue) (promise : Ticket) (answer : Answer) :
    Step.Balances { next := dialogue, settled := [.answer promise answer] }
      (dialogue.owed ++ [promise]) := by
  intro other
  simp [length_fates, Settlement.answer]

theorem drained_balances (pending : Pending) (next : Dialogue) (action : Action) :
    Step.Balances ⟨next, action, drain pending⟩ (next.owed ++ pending.tickets) := by
  intro other
  simp [drain, length_fates]

theorem refused_start_balances (start : Ticket) (fault : SftpFault) (next : Dialogue)
    (action : Action) :
    Step.Balances ⟨next, action, [refuse start fault]⟩ (next.owed ++ [start]) := by
  intro other
  simp [refuse, length_fates, Settlement.answer]

theorem greeted_balances (start : Ticket) (message : Message) :
    (greeted start message).Balances [start] := by
  unfold greeted
  split
  · split
    · exact refused_balances (.ready []) start _
    · exact refused_start_balances start _ (.closing [] _) .disconnect
  · exact refused_start_balances start _ (.closing [] _) .disconnect

theorem requested_balances (pending : Pending) (message : Message) (promise : Ticket) :
    (requested pending message promise).Balances (pending.tickets ++ [promise]) := by
  cases named : message.id? with
  | none =>
    simp only [requested, named]
    exact refused_balances (.ready pending) promise _
  | some id =>
    cases taken : pending.has id with
    | true =>
      rw [requested_known named taken]
      exact refused_balances (.ready pending) promise _
    | false =>
      rw [requested_new named taken]
      intro other
      simp [owed, Pending.tickets]

theorem responded_balances (distinct : pending.Distinct) (message : Message) :
    (responded pending message).Balances pending.tickets := by
  rcases responded_cases pending message with ⟨id, promise, named, held⟩ | unknown
  · intro other
    have dropped := Pending.count_drop distinct id other
    rw [held] at dropped
    rw [responded_known named held, ← dropped]
    simp [owed, length_fates, Settlement.answer]
  · rw [responded_unknown unknown]
    exact drained_balances pending (.closing [] _) .disconnect

theorem unsent_balances (distinct : pending.Distinct) (id : UInt32) :
    (unsent pending id).Balances pending.tickets := by
  intro other
  rw [← Pending.count_drop distinct id other]
  simp [unsent, owed, length_fates, Function.comp_def, refuse, Settlement.answer]

theorem advance_balances {dialogue : Dialogue} (sound : dialogue.Sound) (event : Event) :
    (dialogue.advance event).Balances (dialogue.owed ++ event.brought) := by
  cases event with
  | start extensions promise =>
    cases dialogue with
    | idle => intro other; simp [advance, owed, Event.brought]
    | _ => exact refused_balances _ promise _
  | request message promise =>
    cases dialogue with
    | ready pending => exact requested_balances pending message promise
    | _ => exact refused_balances _ promise _
  | inbound message =>
    simp only [Event.brought, List.append_nil]
    cases dialogue with
    | starting start => exact greeted_balances start message
    | ready pending => exact responded_balances sound message
    | _ => intro other; simp [advance]
  | unsent id =>
    simp only [Event.brought, List.append_nil]
    cases dialogue with
    | ready pending => exact unsent_balances sound id
    | _ => intro other; simp [advance]
  | malformed fault =>
    simp only [Event.brought, List.append_nil]
    cases dialogue with
    | starting start => exact refused_start_balances start fault (.closing [] _) .disconnect
    | ready pending => exact drained_balances pending (.closing [] _) .disconnect
    | _ => intro other; simp [advance]
  | disconnect promise =>
    cases dialogue with
    | idle => intro other; simp [advance, owed, Event.brought]
    | starting start =>
      intro other
      have balanced := refused_start_balances start .closed (.closing [promise] none) .disconnect other
      simp only [owed, Event.brought, List.count_append] at balanced ⊢
      simp only [advance]
      omega
    | ready pending =>
      intro other
      have balanced := drained_balances pending (.closing [promise] none) .disconnect other
      simp only [owed, Event.brought, List.count_append] at balanced ⊢
      simp only [advance]
      omega
    | closing closers fault => intro other; simp [advance, owed, Event.brought]
    | closed => exact refused_balances .closed promise _
    | failed fault => exact refused_balances (.failed fault) promise _
  | disconnected =>
    simp only [Event.brought, List.append_nil]
    cases dialogue with
    | idle => intro other; simp [advance, owed]
    | starting start => exact refused_start_balances start .closed (.failed .closed) .none
    | ready pending => exact drained_balances pending (.failed .closed) .none
    | closing closers fault =>
      intro other
      cases fault <;> simp [advance, owed, length_fates]
    | _ => intro other; simp [advance]

theorem requested_sound (distinct : pending.Distinct) (message : Message) (promise : Ticket) :
    (requested pending message promise).next.Sound := by
  cases named : message.id? with
  | none =>
    simp only [requested, named]
    exact distinct
  | some id =>
    cases held : pending.find? id with
    | some other =>
      rw [requested_known named (by simp [Pending.has, held])]
      exact distinct
    | none =>
      rw [requested_new named (by simp [Pending.has, held])]
      exact Pending.append_distinct distinct held

theorem responded_sound (distinct : pending.Distinct) (message : Message) :
    (responded pending message).next.Sound := by
  rcases responded_cases pending message with ⟨id, promise, named, held⟩ | unknown
  · rw [responded_known named held]
    exact Pending.drop_distinct distinct
  · rw [responded_unknown unknown]
    trivial

theorem greeted_sound (start : Ticket) (message : Message) : (greeted start message).next.Sound := by
  unfold greeted
  split
  · split
    · exact List.nodup_nil
    · trivial
  · trivial

theorem advance_sound {dialogue : Dialogue} (sound : dialogue.Sound) (event : Event) :
    (dialogue.advance event).next.Sound := by
  cases dialogue with
  | idle => cases event <;> trivial
  | starting start =>
    cases event with
    | inbound message => exact greeted_sound start message
    | _ => trivial
  | ready pending =>
    cases event with
    | request message promise => exact requested_sound sound message promise
    | inbound message => exact responded_sound sound message
    | unsent id => exact Pending.drop_distinct sound
    | start extensions promise => exact sound
    | _ => trivial
  | closing closers fault =>
    cases event with
    | disconnected => cases fault <;> trivial
    | _ => trivial
  | closed => cases event <;> trivial
  | failed fault => cases event <;> trivial

def custody : Custody Dialogue Event Step Answer where
  advance := advance
  next := Step.next
  brought := Event.brought
  owed := owed
  settled := Step.settled
  handed := fun _ => []
  Sound := Sound
  sound_advance := fun _ event sound => advance_sound sound event
  balance_advance := by
    intro dialogue event sound promise
    rw [← List.count_append]
    exact advance_balances sound event promise

theorem sound_idle : custody.Sound .idle := trivial

def after (events : List Event) : Dialogue := custody.reach .idle events

def settlements (events : List Event) : List (Settlement Answer) := custody.settledBy .idle events

theorem after_concat (events : List Event) (event : Event) :
    after (events ++ [event]) = ((after events).advance event).next :=
  custody.reach_append .idle events [event]

theorem settlements_concat (events : List Event) (event : Event) :
    settlements (events ++ [event]) = settlements events ++ ((after events).advance event).settled :=
  custody.settledBy_concat .idle events event

theorem after_sound (events : List Event) : (after events).Sound :=
  custody.sound_reach sound_idle events

open Settlement (Answered answered_nil answered_one answered_answerAll)

theorem requested_answers (pending : Pending) (message : Message) (promise : Ticket) :
    Answered (requested pending message promise).settled := by
  unfold requested
  split
  · exact answered_one promise _
  · split
    · exact answered_one promise _
    · exact answered_nil

theorem greeted_answers (start : Ticket) (message : Message) :
    Answered (greeted start message).settled := by
  unfold greeted
  split
  · split
    · exact answered_one start _
    · exact answered_one start _
  · exact answered_one start _

theorem responded_answers (pending : Pending) (message : Message) :
    Answered (responded pending message).settled := by
  rcases responded_cases pending message with ⟨id, promise, named, held⟩ | unknown
  · rw [responded_known named held]
    exact answered_one promise _
  · rw [responded_unknown unknown]
    exact answered_answerAll pending.tickets _

theorem unsent_answers (pending : Pending) (id : UInt32) :
    Answered (unsent pending id).settled := by
  unfold unsent
  cases pending.find? id with
  | none => exact answered_nil
  | some promise => exact answered_one promise _

theorem advance_answers (dialogue : Dialogue) (event : Event) :
    Answered (dialogue.advance event).settled := by
  cases event with
  | start extensions promise =>
    cases dialogue with
    | idle => exact answered_nil
    | _ => exact answered_one promise _
  | request message promise =>
    cases dialogue with
    | ready pending => exact requested_answers pending message promise
    | _ => exact answered_one promise _
  | inbound message =>
    cases dialogue with
    | starting start => exact greeted_answers start message
    | ready pending => exact responded_answers pending message
    | _ => exact answered_nil
  | unsent id =>
    cases dialogue with
    | ready pending => exact unsent_answers pending id
    | _ => exact answered_nil
  | malformed fault =>
    cases dialogue with
    | starting start => exact answered_one start _
    | ready pending => exact answered_answerAll pending.tickets _
    | _ => exact answered_nil
  | disconnect promise =>
    cases dialogue with
    | starting start => exact answered_one start _
    | ready pending => exact answered_answerAll pending.tickets _
    | closed => exact answered_one promise _
    | failed fault => exact answered_one promise _
    | _ => exact answered_nil
  | disconnected =>
    cases dialogue with
    | starting start => exact answered_one start _
    | ready pending => exact answered_answerAll pending.tickets _
    | closing closers fault => exact answered_answerAll closers _
    | _ => exact answered_nil

theorem settlements_answered (events : List Event) : Answered (settlements events) := by
  induction events using List.reverseRecOn with
  | nil => exact answered_nil
  | append_singleton events event ih =>
    rw [settlements_concat]
    exact ih.append (advance_answers (after events) event)

theorem nothing_handed (events : List Event) : custody.handedBy .idle events = [] :=
  List.flatMap_eq_nil_iff.mpr fun _ _ => rfl

theorem disconnect_joins (dialogue : Dialogue) (promise : Ticket) :
    (∃ closers fault, (dialogue.advance (.disconnect promise)).next = .closing closers fault ∧
      promise ∈ closers) ∨
    .answer promise (.ok .done) ∈ (dialogue.advance (.disconnect promise)).settled := by
  cases dialogue with
  | closed => exact .inr (by simp [advance])
  | failed fault => exact .inr (by simp [advance])
  | _ => exact .inl ⟨_, _, rfl, by simp⟩

theorem closing_waits {closers : List Ticket} {promise : Ticket} (waits : promise ∈ closers)
    (fault : Option SftpFault) (event : Event) :
    (∃ waiting, ((closing closers fault).advance event).next = .closing waiting fault ∧
      promise ∈ waiting) ∨
    .answer promise (.ok .done) ∈ ((closing closers fault).advance event).settled := by
  cases event with
  | disconnected => exact .inr (Settlement.answer_mem_answerAll _ waits)
  | disconnect other => exact .inl ⟨_, rfl, List.mem_append_left _ waits⟩
  | _ => exact .inl ⟨_, rfl, waits⟩

theorem disconnect_kept_or_done {events : List Event} {promise : Ticket}
    (asked : .disconnect promise ∈ events) :
    (∃ closers fault, after events = .closing closers fault ∧ promise ∈ closers) ∨
    .answer promise (.ok .done) ∈ settlements events := by
  induction events using List.reverseRecOn with
  | nil => cases asked
  | append_singleton events event ih =>
    rw [after_concat, settlements_concat, List.mem_append]
    rcases List.mem_append.mp asked with before | now
    · rcases ih before with ⟨closers, fault, state, waits⟩ | done
      · rw [state]
        rcases closing_waits waits fault event with ⟨waiting, still, among⟩ | done
        · exact .inl ⟨waiting, fault, still, among⟩
        · exact .inr (.inr done)
      · exact .inr (.inl done)
    · cases List.mem_singleton.mp now
      exact (disconnect_joins (after events) promise).imp_right .inr

theorem terminal_owes_nothing {dialogue : Dialogue} (terminal : dialogue.isTerminal = true) :
    dialogue.owed = [] := by
  cases dialogue <;> simp [isTerminal, owed] at terminal ⊢

theorem terminal_answers {dialogue : Dialogue} (terminal : dialogue.isTerminal = true) (event : Event) :
    (dialogue.advance event).next = dialogue ∧
      (dialogue.advance event).settled.map Settlement.promise = event.brought := by
  cases dialogue with
  | closed => cases event <;> exact ⟨rfl, rfl⟩
  | failed fault => cases event <;> exact ⟨rfl, rfl⟩
  | _ => cases terminal

theorem promise_conservation {events : List Event} (fresh : (custody.broughtBy events).Nodup) :
    (∀ promise ∈ custody.broughtBy events,
      (after events).owed.count promise + (fates (settlements events) promise).length = 1) ∧
    (∀ promise ∉ custody.broughtBy events,
      promise ∉ (after events).owed ∧ fates (settlements events) promise = []) ∧
    Answered (settlements events) ∧
    ((after events).isTerminal = true →
      (after events).owed = [] ∧
      (∀ promise, .disconnect promise ∈ events →
        fates (settlements events) promise = [.answered (.ok .done)]) ∧
      ∀ event, ((after events).advance event).next = after events ∧
        ((after events).advance event).settled.map Settlement.promise = event.brought) := by
  refine ⟨?_, ?_, settlements_answered events, ?_⟩
  · intro promise brought
    have once := custody.kept_once sound_idle rfl fresh brought
    rw [nothing_handed, List.count_nil, Nat.add_zero] at once
    exact once
  · intro promise unbrought
    obtain ⟨free, unsettled, _⟩ := custody.unknown_of_unbrought sound_idle rfl unbrought
    exact ⟨free, unsettled⟩
  · intro terminal
    refine ⟨terminal_owes_nothing terminal, ?_, terminal_answers terminal⟩
    intro promise asked
    rcases disconnect_kept_or_done asked with ⟨closers, fault, state, _⟩ | done
    · rw [state] at terminal
      cases terminal
    · exact custody.fates_single sound_idle
        (List.nodup_iff_count.mp fresh promise) done

-- A session in which an ID is repeated, a request is cut off by the end, the end is asked
-- for twice before it comes and once after.
def shutdown : List Event :=
  [.start [] 1, .inbound (.version protocolVersion []), .request (.request 7 (.stat [])) 2,
   .request (.request 7 (.stat [])) 3, .disconnect 4, .start [] 5, .disconnect 6, .disconnected,
   .disconnect 7]

theorem promise_conservation_shutdown :
    (custody.broughtBy shutdown).Nodup ∧ (after shutdown).isTerminal = true ∧
    (∀ promise ∈ custody.broughtBy shutdown,
      (after shutdown).owed.count promise + (fates (settlements shutdown) promise).length = 1) ∧
    fates (settlements shutdown) 4 = [.answered (.ok .done)] ∧
    fates (settlements shutdown) 7 = [.answered (.ok .done)] := by
  have fresh : (custody.broughtBy shutdown).Nodup := by decide
  have terminal : (after shutdown).isTerminal = true := by decide
  obtain ⟨once, _, _, ended⟩ := promise_conservation fresh
  obtain ⟨_, told, _⟩ := ended terminal
  exact ⟨fresh, terminal, once, told 4 (by decide), told 7 (by decide)⟩

end Dialogue
end SecureShell.Sftp
