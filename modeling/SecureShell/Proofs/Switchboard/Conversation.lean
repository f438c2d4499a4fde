import SecureShell.Proofs.Switchboard.Dealing
import SecureShell.Switchboard.Callers

namespace SecureShell.Switchboard.Conversation
open Interactive (Shell)
open Interactive.Shell (View)

-- A shell that has just started, with nobody at its reader.
def opened : ShellSeat := { session := { shell := .ready } }

-- What reaches a reader: the output that is dealt with while the shell is ready and somebody has
-- been attached by then.
def readable (attached : Bool) : List Dealing → List Octets
  | [] => []
  | .call .attachReader _ _ :: dealings => readable true dealings
  | .call _ _ _ :: dealings => readable attached dealings
  | .event event view :: dealings =>
    (if attached = true ∧ view = .ready then payload event else []) ++ readable attached dealings

def isAttached (dealings : List Dealing) : Bool :=
  dealings.any fun
    | .call .attachReader _ _ => true
    | _ => false

def written (dealings : List Dealing) : List Octets :=
  dealings.filterMap fun
    | .call (.write data _) .ready true => some data
    | _ => none

def inputOf? : Effect → Option Octets
  | .send (.data data) => some data
  | _ => none

def settlementOf? : Effect → Option (Settlement Interactive.Answer)
  | .shellSettled settlement => some settlement
  | _ => none

def seatAfter (occasions : List Occasion) : ShellSeat := machine.reach opened occasions

def dealings (occasions : List Occasion) : List Dealing :=
  (machine.steps opened occasions).filterMap Move.dealt

def sent (occasions : List Occasion) : List Octets :=
  machine.collect (fun step => step.effects.filterMap inputOf?) opened occasions

def gotten (occasions : List Occasion) : List Octets :=
  machine.collect Move.got opened occasions

def submitted (occasions : List Occasion) : List Interactive.Call := occasions.filterMap Occasion.call?

-- The calls that were dealt with, and those that wait, less the one that a reader makes.
def dealtCalls (dealings : List Dealing) : List Interactive.Call :=
  dealings.filterMap fun
    | .call .attachReader _ _ | .event _ _ => none
    | .call call _ _ => some call

def queued (seat : ShellSeat) : List Interactive.Call :=
  seat.session.mailbox.filter (· ≠ .attachReader)

def brought (occasion : Occasion) : List Ticket := occasion.call?.elim [] promisesOf

-- The promises of the calls that wait, and of those who want the shell to end.
def owed (seat : ShellSeat) : List Ticket :=
  seat.session.mailbox.flatMap promisesOf ++ seat.session.shell.owed

def settledBy (after : Move) : List (Settlement Interactive.Answer) :=
  after.effects.filterMap settlementOf?

variable {seat : ShellSeat} {occasion : Occasion}

theorem opened_sound : Sound opened := ⟨rfl, nofun, fun _ => .inl rfl, nofun⟩

theorem settlements_discards (promises : List Ticket) :
    (discards promises).filterMap settlementOf? = promises.map .discard := by
  simp [discards, settlementOf?, List.filterMap_map, Function.comp_def]

theorem settlements_answers (promises : List Ticket) (result : Except ShellFault Unit) :
    (promises.map fun promise => .shellSettled (Shell.answer promise result)).filterMap settlementOf? =
      promises.map fun promise => Shell.answer promise result := by
  simp [settlementOf?, List.filterMap_map, Function.comp_def]

theorem settlements_sent (goes : Prop) [Decidable goes] (command : ChannelCommand) :
    (if goes then [.send command] else []).filterMap settlementOf? = [] := by
  split <;> rfl

theorem owed_terminal {shell : Shell} (spent : shell.isTerminal = true) : shell.owed = [] := by
  cases shell with
  | closed | failed => rfl
  | idle | starting | ready | closing => cases spent

theorem Does.balances {after : Move} (does : Does seat occasion after) (promise : Ticket) :
    (owed after.seat).count promise + (Settlement.fates (settledBy after) promise).length =
      (owed seat).count promise + (brought occasion).count promise := by
  rw [Settlement.length_fates]
  cases does with
  | asks stays made => simp [owed, settledBy, brought, made]; omega
  | late gone made =>
    rw [settledBy, settlements_discards]
    simp [brought, made, Settlement.discard, Function.comp_def]
  | takes | takesLate | reads => simp [owed, settledBy, brought, Occasion.call?, promisesOf]
  | rests undealt => simp [settledBy, brought, undealt]
  | writes stays first =>
    rw [settledBy, List.filterMap_append, settlements_sent]
    simp [owed, first, brought, Occasion.call?, promisesOf, settlementOf?, Shell.answer, Settlement.answer,
      List.count_cons]
  | @closes rest closer _ stays first =>
    have wanted : (Shell.closing (seat.session.shell.owed ++ [closer])).owed =
        seat.session.shell.owed ++ [closer] := rfl
    rw [settledBy, settlements_sent]
    simp [owed, first, wanted, brought, Occasion.call?, promisesOf, List.count_cons]
    omega
  | attaches stays first => simp [owed, first, settledBy, brought, Occasion.call?, promisesOf]
  | hears => simp [owed, settledBy, brought, Occasion.call?]
  | ends stays spent =>
    rw [settledBy, List.filterMap_append, settlements_answers, settlements_discards]
    simp [owed, owed_terminal spent, brought, Occasion.call?, Shell.answer, Settlement.answer,
      Settlement.discard, Function.comp_def]
    omega

def custody : Custody ShellSeat Occasion Move Interactive.Answer where
  advance := move
  next := Move.seat
  brought := brought
  owed := owed
  settled := settledBy
  handed _ := []
  Sound := Sound
  sound_advance _ occasion sound := (move_does sound occasion).sound sound
  balance_advance _ occasion sound promise := (move_does sound occasion).balances promise

def settlements (occasions : List Occasion) : List (Settlement Interactive.Answer) :=
  custody.settledBy opened occasions

theorem sound_after (occasions : List Occasion) : Sound (seatAfter occasions) :=
  custody.sound_reach opened_sound occasions

theorem does_after (occasions : List Occasion) (occasion : Occasion) :
    Does (seatAfter occasions) occasion (move (seatAfter occasions) occasion) :=
  move_does (sound_after occasions) occasion

theorem seatAfter_concat (occasions : List Occasion) (occasion : Occasion) :
    seatAfter (occasions ++ [occasion]) = (move (seatAfter occasions) occasion).seat :=
  machine.reach_append opened occasions [occasion]

theorem dealings_concat (occasions : List Occasion) (occasion : Occasion) :
    dealings (occasions ++ [occasion]) =
      dealings occasions ++ (move (seatAfter occasions) occasion).dealt.toList :=
  machine.filterMap_steps_concat Move.dealt opened occasions occasion

theorem gotten_concat (occasions : List Occasion) (occasion : Occasion) :
    gotten (occasions ++ [occasion]) = gotten occasions ++ (move (seatAfter occasions) occasion).got :=
  machine.collect_concat Move.got opened occasions occasion

theorem sent_concat (occasions : List Occasion) (occasion : Occasion) :
    sent (occasions ++ [occasion]) =
      sent occasions ++ (move (seatAfter occasions) occasion).effects.filterMap inputOf? :=
  machine.collect_concat _ opened occasions occasion

theorem settlements_concat (occasions : List Occasion) (occasion : Occasion) :
    settlements (occasions ++ [occasion]) =
      settlements occasions ++ settledBy (move (seatAfter occasions) occasion) :=
  custody.settledBy_concat opened occasions occasion

theorem submitted_concat (occasions : List Occasion) (occasion : Occasion) :
    submitted (occasions ++ [occasion]) = submitted occasions ++ occasion.call?.toList := by
  rw [submitted, List.filterMap_append, ← submitted]
  cases made : occasion.call? <;> simp [made]

theorem readable_append (attached : Bool) (dealings more : List Dealing) :
    readable attached (dealings ++ more) =
      readable attached dealings ++ readable (attached || isAttached dealings) more := by
  induction dealings generalizing attached with
  | nil => simp [readable, isAttached]
  | cons dealing dealings ih =>
    cases dealing with
    | event event view => simp [readable, ih, isAttached]
    | call call view reachable => cases call <;> simp [readable, ih, isAttached]

structure Reads (got : List Octets) (dealings : List Dealing) (seat : ShellSeat) : Prop where
  shared : got ++ seat.reader.getD [] = readable false dealings
  attached : seat.session.reading = isAttached dealings
  held : seat.session.reading = true ∨ .attachReader ∈ seat.session.mailbox → seat.reader ≠ none
  untaken : seat.taken = false → seat.reader = none

variable {after : Move} {got : List Octets} {known : List Dealing}

theorem Reads.step (reads : Reads got known seat) (does : Does seat occasion after) :
    Reads (got ++ after.got) (known ++ after.dealt.toList) after.seat := by
  obtain ⟨shared, attached, held, untaken⟩ := reads
  cases does with
  | @asks _ call stays made =>
    refine ⟨by simpa using shared, by simpa using attached, ?_, untaken⟩
    rintro (reading | waiting)
    · exact held (.inl reading)
    · rcases List.mem_append.mp waiting with before | last
      · exact held (.inr before)
      · cases List.mem_singleton.mp last
        cases occasion <;> cases made
  | late | rests => exact ⟨by simpa using shared, by simpa using attached, held, untaken⟩
  | takes new | takesLate new =>
    have unread := untaken new
    rw [unread] at shared
    exact ⟨by simpa using shared, by simpa using attached, fun _ => nofun, nofun⟩
  | reads =>
    refine ⟨?_, by simpa using attached, ?_, ?_⟩
    · rw [Option.toList_none, List.append_nil, ← shared]
      cases seat.reader <;> simp
    · intro holds
      simpa using held holds
    · intro new
      simp [untaken new]
  | writes stays first | closes stays first =>
    refine ⟨?_, ?_, ?_, untaken⟩
    · simpa [readable_append, readable] using shared
    · simpa [isAttached] using attached
    · rintro (reading | waiting)
      · exact held (.inl reading)
      · exact held (.inr (first ▸ List.mem_cons_of_mem _ waiting))
  | attaches stays first =>
    refine ⟨?_, ?_, ?_, untaken⟩
    · simpa [readable_append, readable] using shared
    · simp [isAttached]
    · intro _
      exact held (.inr (first ▸ List.mem_cons_self))
  | @hears event _ stays unclosed =>
    by_cases delivers : seat.session.reading = true ∧ seat.session.shell.view = .ready
    · obtain ⟨queue, reader⟩ := Option.ne_none_iff_exists'.mp (held (.inl delivers.1))
      rw [reader] at shared
      refine ⟨?_, ?_, ?_, ?_⟩
      · simp [delivers, reader, readable_append, readable, ← shared, ← attached]
      · simpa [isAttached] using attached
      · intro _
        simp [delivers, reader]
      · intro new
        cases reader.symm.trans (untaken new)
    · refine ⟨?_, ?_, ?_, ?_⟩
      · simp [delivers, readable_append, readable, ← shared, ← attached]
      · simpa [isAttached] using attached
      · rwa [if_neg delivers]
      · rwa [if_neg delivers]
  | ends stays spent =>
    refine ⟨?_, ?_, ?_, untaken⟩
    · simpa [readable_append, readable, payload] using shared
    · simpa [isAttached] using attached
    · rintro (reading | waiting)
      · exact held (.inl reading)
      · cases waiting

-- No call is lost or overtaken: those that were dealt with, those that wait, and those that
-- came too late are the ones that were made, in order.
def Queues (made : List Interactive.Call) (known : List Dealing) (seat : ShellSeat) : Prop :=
  ∃ refused, made = dealtCalls known ++ queued seat ++ refused ∧
    (seat.session.left = false → refused = [])

theorem Queues.step {made : List Interactive.Call} (queues : Queues made known seat)
    (does : Does seat occasion after) :
    Queues (made ++ occasion.call?.toList) (known ++ after.dealt.toList) after.seat := by
  obtain ⟨refused, rfl, none⟩ := queues
  cases does with
  | @asks _ call stays makes =>
    have plain : call ≠ .attachReader := by
      rintro rfl
      cases occasion <;> cases makes
    refine ⟨[], ?_, fun _ => rfl⟩
    simp [none stays, makes, queued, plain]
  | late gone makes =>
    refine ⟨refused ++ occasion.call?.toList, by simp, ?_⟩
    intro stays
    cases gone.symm.trans stays
  | takes new stays => exact ⟨refused, by simp [queued, Occasion.call?], none⟩
  | takesLate | reads => exact ⟨refused, by simp [queued, Occasion.call?], none⟩
  | rests undealt => exact ⟨refused, by simp [undealt], none⟩
  | writes stays first | closes stays first | attaches stays first =>
    exact ⟨refused, by simp [queued, first, dealtCalls, Occasion.call?], none⟩
  | hears => exact ⟨refused, by simp [queued, dealtCalls, Occasion.call?], none⟩
  | ends stays spent =>
    refine ⟨queued seat ++ refused, ?_, nofun⟩
    simp [queued, dealtCalls, Occasion.call?]

theorem inputs_discards (promises : List Ticket) : (discards promises).filterMap inputOf? = [] := by
  simp [discards, inputOf?, List.filterMap_map, Function.comp_def]

theorem inputs_answers (promises : List Ticket) (result : Except ShellFault Unit) :
    (promises.map fun promise => .shellSettled (Shell.answer promise result)).filterMap inputOf? = [] := by
  simp [inputOf?, List.filterMap_map, Function.comp_def]

theorem written_append (known more : List Dealing) : written (known ++ more) = written known ++ written more :=
  List.filterMap_append

theorem Does.sends (does : Does seat occasion after) :
    after.effects.filterMap inputOf? = written after.dealt.toList := by
  cases does with
  | asks | takes | takesLate | reads | rests => rfl
  | late => exact inputs_discards _
  | attaches | hears => rfl
  | @writes data promise rest reachable stays first =>
    cases reachable <;> cases seen : seat.session.shell.view <;> simp [inputOf?, written]
  | @closes rest promise reachable stays first =>
    cases reachable <;> cases seen : seat.session.shell.view <;> rfl
  | ends =>
    rw [List.filterMap_append, inputs_answers, inputs_discards]
    rfl

inductive Settles (known : List Dealing) (seat : ShellSeat) : Settlement Interactive.Answer → Prop
  | dealt {data : Octets} {promise : Ticket} {view : View} {reachable : Bool}
      (dealing : .call (.write data promise) view reachable ∈ known) :
      Settles known seat (Shell.answer promise (verdict view reachable))
  | ended {promise : Ticket} (wanted : .close promise ∈ dealtCalls known) :
      Settles known seat (Shell.answer promise (.ok ()))
  | thrown {promise : Ticket} (gone : seat.session.left = true) : Settles known seat (.discard promise)

-- What is known of the answers: those that want the end are among the calls that were dealt with,
-- a write that was dealt with is answered, and there are no other answers.
structure Answers (known : List Dealing) (settled : List (Settlement Interactive.Answer))
    (seat : ShellSeat) : Prop where
  closers : ∀ promise ∈ seat.session.shell.owed, .close promise ∈ dealtCalls known
  written : ∀ data promise view reachable, .call (.write data promise) view reachable ∈ known →
    (view = .ready ∨ view = .closing) ∧ Shell.answer promise (verdict view reachable) ∈ settled
  only : ∀ settlement ∈ settled, Settles known seat settlement

theorem dealtCalls_append (known more : List Dealing) :
    dealtCalls (known ++ more) = dealtCalls known ++ dealtCalls more := List.filterMap_append

theorem Settles.mono {settlement : Settlement Interactive.Answer} (settles : Settles known seat settlement)
    (more : List Dealing) {later : ShellSeat} (stays : seat.session.left = true → later.session.left = true) :
    Settles (known ++ more) later settlement := by
  cases settles with
  | dealt dealing => exact .dealt (List.mem_append_left _ dealing)
  | ended wanted =>
    refine .ended ?_
    rw [dealtCalls_append]
    exact List.mem_append_left _ wanted
  | thrown gone => exact .thrown (stays gone)

theorem Does.stays_gone (does : Does seat occasion after) (gone : seat.session.left = true) :
    after.seat.session.left = true := by
  cases does with
  | ends => rfl
  | _ => exact gone

theorem view_ongoing (sound : Sound seat) (stays : seat.session.left = false) :
    seat.session.shell.view = .ready ∨ seat.session.shell.view = .closing := by
  rcases sound.stays stays with ready | ⟨closers, closing⟩
  · exact .inl (congrArg Shell.view ready)
  · exact .inr (congrArg Shell.view closing)

theorem Does.wanting (does : Does seat occasion after) {promise : Ticket}
    (waits : promise ∈ after.seat.session.shell.owed) :
    promise ∈ seat.session.shell.owed ∨
      ∃ view reachable, after.dealt = some (.call (.close promise) view reachable) := by
  cases does with
  | closes stays first =>
    rcases List.mem_append.mp waits with before | last
    · exact .inl before
    · cases List.mem_singleton.mp last
      exact .inr ⟨_, _, rfl⟩
  | ends stays spent =>
    rw [owed_terminal spent] at waits
    cases waits
  | _ => exact .inl waits

theorem Does.answering (does : Does seat occasion after) {data : Octets} {promise : Ticket} {view : View}
    {reachable : Bool} (deals : after.dealt = some (.call (.write data promise) view reachable)) :
    seat.session.left = false ∧ view = seat.session.shell.view ∧
      Shell.answer promise (verdict view reachable) ∈ settledBy after := by
  cases does with
  | writes stays first =>
    cases deals
    refine ⟨stays, rfl, ?_⟩
    rw [settledBy, List.filterMap_append]
    exact List.mem_append_right _ List.mem_cons_self
  | _ => cases deals

theorem Does.settling (does : Does seat occasion after) {settlement : Settlement Interactive.Answer}
    (found : settlement ∈ settledBy after) :
    (∃ data promise view reachable, after.dealt = some (.call (.write data promise) view reachable) ∧
      settlement = Shell.answer promise (verdict view reachable)) ∨
    (∃ promise ∈ seat.session.shell.owed, settlement = Shell.answer promise (.ok ())) ∨
    ∃ promise, settlement = .discard promise ∧ after.seat.session.left = true := by
  cases does with
  | asks | takes | takesLate | reads | rests | attaches | hears => cases found
  | late gone made =>
    rw [settledBy, settlements_discards] at found
    obtain ⟨promise, _, rfl⟩ := List.mem_map.mp found
    exact .inr (.inr ⟨promise, rfl, gone⟩)
  | writes stays first =>
    rw [settledBy, List.filterMap_append, settlements_sent] at found
    cases List.mem_singleton.mp found
    exact .inl ⟨_, _, _, _, rfl, rfl⟩
  | closes stays first =>
    rw [settledBy, settlements_sent] at found
    cases found
  | ends stays spent =>
    rw [settledBy, List.filterMap_append, settlements_answers, settlements_discards] at found
    rcases List.mem_append.mp found with wanted | refused
    · obtain ⟨promise, waits, rfl⟩ := List.mem_map.mp wanted
      exact .inr (.inl ⟨promise, waits, rfl⟩)
    · obtain ⟨promise, _, rfl⟩ := List.mem_map.mp refused
      exact .inr (.inr ⟨promise, rfl, rfl⟩)

theorem Answers.step {settled : List (Settlement Interactive.Answer)} (answers : Answers known settled seat)
    (sound : Sound seat) (does : Does seat occasion after) :
    Answers (known ++ after.dealt.toList) (settled ++ settledBy after) after.seat where
  closers promise waits := by
    rw [dealtCalls_append]
    rcases does.wanting waits with before | ⟨view, reachable, deals⟩
    · exact List.mem_append_left _ (answers.closers promise before)
    · rw [deals]
      exact List.mem_append_right _ List.mem_cons_self
  written data promise view reachable dealing := by
    rcases List.mem_append.mp dealing with before | now
    · obtain ⟨seen, answered⟩ := answers.written data promise view reachable before
      exact ⟨seen, List.mem_append_left _ answered⟩
    · obtain ⟨stays, same, answered⟩ := does.answering (Option.mem_toList.mp now)
      exact ⟨same ▸ view_ongoing sound stays, List.mem_append_right _ answered⟩
  only settlement found := by
    rcases List.mem_append.mp found with before | now
    · exact (answers.only settlement before).mono after.dealt.toList does.stays_gone
    · rcases does.settling now with ⟨data, promise, view, reachable, deals, rfl⟩ | ⟨promise, waits, rfl⟩ |
        ⟨promise, rfl, gone⟩
      · exact .dealt (List.mem_append_right known (Option.mem_toList.mpr deals))
      · refine .ended ?_
        rw [dealtCalls_append]
        exact List.mem_append_left _ (answers.closers promise waits)
      · exact .thrown gone

theorem reads_after (occasions : List Occasion) :
    Reads (gotten occasions) (dealings occasions) (seatAfter occasions) := by
  induction occasions using List.reverseRecOn with
  | nil => exact ⟨rfl, rfl, by simp [seatAfter, Machine.reach, opened], fun _ => rfl⟩
  | append_singleton occasions occasion ih =>
    rw [gotten_concat, dealings_concat, seatAfter_concat]
    exact ih.step (does_after occasions occasion)

theorem queues_after (occasions : List Occasion) :
    Queues (submitted occasions) (dealings occasions) (seatAfter occasions) := by
  induction occasions using List.reverseRecOn with
  | nil => exact ⟨[], rfl, fun _ => rfl⟩
  | append_singleton occasions occasion ih =>
    rw [submitted_concat, dealings_concat, seatAfter_concat]
    exact ih.step (does_after occasions occasion)

theorem sent_after (occasions : List Occasion) : sent occasions = written (dealings occasions) := by
  induction occasions using List.reverseRecOn with
  | nil => rfl
  | append_singleton occasions occasion ih =>
    rw [sent_concat, dealings_concat, written_append, ih, (does_after occasions occasion).sends]

theorem answers_after (occasions : List Occasion) :
    Answers (dealings occasions) (settlements occasions) (seatAfter occasions) := by
  induction occasions using List.reverseRecOn with
  | nil => exact ⟨nofun, nofun, nofun⟩
  | append_singleton occasions occasion ih =>
    rw [settlements_concat, dealings_concat, seatAfter_concat]
    exact ih.step (sound_after occasions) (does_after occasions occasion)

theorem left_iff (occasions : List Occasion) :
    (seatAfter occasions).session.left = (seatAfter occasions).session.shell.isTerminal := by
  have sound := sound_after occasions
  cases left : (seatAfter occasions).session.left with
  | true => exact (sound.spent left).1.symm
  | false => rcases sound.stays left with ready | ⟨closers, closing⟩ <;> simp [*, Shell.isTerminal]

theorem Does.rests_gone (does : Does seat occasion after) (gone : seat.session.left = true) :
    after.dealt = none ∧ after.seat.session.shell = seat.session.shell ∧ after.seat.session.left = true := by
  cases does with
  | asks stays | takes _ stays | writes stays | closes stays | attaches stays | hears stays | ends stays =>
    cases gone.symm.trans stays
  | late | takesLate | reads | rests => exact ⟨rfl, rfl, gone⟩

theorem over_after {earlier : List Occasion} (gone : (seatAfter earlier).session.left = true)
    (later : List Occasion) :
    dealings (earlier ++ later) = dealings earlier ∧
      (seatAfter (earlier ++ later)).session.shell = (seatAfter earlier).session.shell ∧
      (seatAfter (earlier ++ later)).session.left = true := by
  induction later using List.reverseRecOn with
  | nil => exact ⟨by rw [List.append_nil], by rw [List.append_nil], by rwa [List.append_nil]⟩
  | append_singleton later occasion ih =>
    obtain ⟨same, rests, left⟩ := ih
    obtain ⟨undealt, stays, stillLeft⟩ := (does_after (earlier ++ later) occasion).rests_gone left
    rw [← List.append_assoc, dealings_concat, seatAfter_concat, undealt]
    exact ⟨by simpa using same, stays.trans rests, stillLeft⟩

variable {occasions : List Occasion} {data : Octets} {promise : Ticket} {fate : Fate Interactive.Answer}

theorem submitted_of_dealt {call : Interactive.Call} (dealt : call ∈ dealtCalls (dealings occasions)) :
    call ∈ submitted occasions := by
  obtain ⟨refused, made, _⟩ := queues_after occasions
  rw [made]
  exact List.mem_append_left _ (List.mem_append_left _ dealt)

theorem writes_of_dealt {view : View} {reachable : Bool}
    (dealt : .call (.write data promise) view reachable ∈ dealings occasions) :
    .writes data promise ∈ occasions := by
  have called : .write data promise ∈ dealtCalls (dealings occasions) :=
    List.mem_filterMap.mpr ⟨_, dealt, rfl⟩
  obtain ⟨occasion, member, makes⟩ := List.mem_filterMap.mp (submitted_of_dealt called)
  cases occasion <;> cases makes
  exact member

theorem closes_of_dealt (dealt : .close promise ∈ dealtCalls (dealings occasions)) :
    .closes promise ∈ occasions := by
  obtain ⟨occasion, member, makes⟩ := List.mem_filterMap.mp (submitted_of_dealt dealt)
  cases occasion <;> cases makes
  exact member

theorem writeAnswer_discarded (session : Interactive.Session) :
    session.writeAnswer .discarded = .error session.shell.view.refusal := by
  simp only [Interactive.Session.writeAnswer, Interactive.Session.endedFault]
  cases session.shell.view <;> rfl

-- How a write ends: its data went out, or the channel refused it, or the shell was being closed,
-- or it was over before it came to this write.
inductive WriteTold (known : List Dealing) (seat : ShellSeat) (data : Octets) (promise : Ticket) :
    Except ShellFault Unit → Prop
  | put (dealt : .call (.write data promise) .ready true ∈ known) :
      WriteTold known seat data promise (.ok ())
  | unreachable (dealt : .call (.write data promise) .ready false ∈ known) :
      WriteTold known seat data promise (.error .unknown)
  | closing {reachable : Bool} (dealt : .call (.write data promise) .closing reachable ∈ known) :
      WriteTold known seat data promise (.error .notRunning)
  | late (undealt : ∀ view reachable, .call (.write data promise) view reachable ∉ known)
      (gone : seat.session.left = true) :
      WriteTold known seat data promise (.error seat.session.shell.view.refusal)

section Told

variable (fresh : (custody.broughtBy occasions).Nodup)

include fresh

theorem fates_one (found : ⟨promise, fate⟩ ∈ settlements occasions) :
    Settlement.fates (settlements occasions) promise = [fate] :=
  custody.fates_single opened_sound (List.nodup_iff_count_le_one.mp fresh promise) found

theorem fates_left (gone : (seatAfter occasions).session.left = true)
    (brought : promise ∈ custody.broughtBy occasions) :
    ∃ fate, Settlement.fates (settlements occasions) promise = [fate] := by
  have kept := custody.kept_once opened_sound rfl fresh brought
  obtain ⟨spent, empty⟩ := (sound_after occasions).spent gone
  have free : custody.owed (custody.reach opened occasions) = [] := by
    show (seatAfter occasions).session.mailbox.flatMap promisesOf ++ (seatAfter occasions).session.shell.owed = []
    rw [empty, owed_terminal spent]
    rfl
  have unhanded : custody.handedBy opened occasions = [] := List.flatMap_eq_nil_iff.mpr fun _ _ => rfl
  rw [free, unhanded] at kept
  exact List.length_eq_one_iff.mp (by simpa [settlements] using kept)

theorem write_told (asked : .writes data promise ∈ occasions)
    (found : ⟨promise, fate⟩ ∈ settlements occasions) :
    WriteTold (dealings occasions) (seatAfter occasions) data promise
      ((seatAfter occasions).session.writeAnswer fate) := by
  have answers := answers_after occasions
  have mine : promise ∈ custody.brought (.writes data promise) := List.mem_singleton_self _
  cases answers.only _ found with
  | @dealt other _ view reachable dealing =>
    cases custody.brought_by_one fresh asked (writes_of_dealt dealing) mine (List.mem_singleton_self _)
    rcases (answers.written data promise view reachable dealing).1 with rfl | rfl
    · cases reachable with
      | true => exact .put dealing
      | false => exact .unreachable dealing
    · exact .closing dealing
  | ended wanted =>
    cases custody.brought_by_one fresh asked (closes_of_dealt wanted) mine (List.mem_singleton_self _)
  | thrown gone =>
    rw [writeAnswer_discarded]
    refine .late ?_ gone
    intro view reachable dealing
    have answered := fates_one fresh (answers.written data promise view reachable dealing).2
    have discarded := fates_one fresh found
    cases discarded.symm.trans answered

theorem close_told (asked : .closes promise ∈ occasions)
    (found : ⟨promise, fate⟩ ∈ settlements occasions) :
    Interactive.Session.closeAnswer fate = .ok () := by
  have mine : promise ∈ custody.brought (.closes promise) := List.mem_singleton_self _
  cases (answers_after occasions).only _ found with
  | dealt dealing =>
    cases custody.brought_by_one fresh asked (writes_of_dealt dealing) mine (List.mem_singleton_self _)
  | ended | thrown => rfl

end Told

def requested : ShellSeat := (({} : ShellSeat).begin true).1

theorem requested_hears {event : ChannelEvent}
    (undecided : event ≠ .success ∧ event ≠ .failure ∧ event ≠ .closed) (reachable : Bool) :
    requested.hear reachable event = (requested, []) := by
  obtain ⟨unstarted, unfailed, unclosed⟩ := undecided
  cases event with
  | success => exact absurd rfl unstarted
  | failure => exact absurd rfl unfailed
  | closed => exact absurd rfl unclosed
  | data | extendedData | exitStatus | eof => rfl

theorem opened_started {early : List (Bool × ChannelEvent)}
    (undecided : ∀ heard ∈ early, heard.2 ≠ .success ∧ heard.2 ≠ .failure ∧ heard.2 ≠ .closed)
    (reachable : Bool) :
    (early.foldl (fun seat heard => (seat.hear heard.1 heard.2).1) requested).hear reachable .success =
      (opened, [.report (.ok ())]) := by
  induction early with
  | nil => rfl
  | cons heard early ih =>
    rw [List.foldl_cons, requested_hears (undecided heard List.mem_cons_self)]
    exact ih fun later member => undecided later (List.mem_cons_of_mem _ member)

theorem ask_move {call : Interactive.Call} (made : occasion.call? = some call) (seat : ShellSeat)
    (reachable : Bool) :
    let first := move seat occasion
    let second := move first.seat (.handles reachable)
    seat.ask reachable call = (second.seat, first.effects ++ second.effects) := by
  cases occasion <;> cases made <;> rfl

theorem ask_reader (untaken : seat.taken = false) (reachable : Bool) :
    let first := move seat .takesReader
    let second := move first.seat (.handles reachable)
    { seat with taken := true, reader := some [] }.ask reachable .attachReader =
      (second.seat, first.effects ++ second.effects) := by
  simp only [move, act, untaken, Bool.false_eq_true, if_false]
  rfl

section Boards

variable {board : Switchboard} {pending : Pending} {channel : Nat}

theorem settleShell_write (waits : board.waiter? promise = some pending)
    (writes : pending.waiting = .writing channel)
    (seated : (board.line? channel).bind (·.seat.shell?) = some seat) (fate : Fate Interactive.Answer) :
    board.settleShell ⟨promise, fate⟩ =
      board.complete pending.call (ofShell (seat.session.writeAnswer fate)) := by
  simp only [settleShell, waits, writes, seated]

theorem settleShell_close (waits : board.waiter? promise = some pending)
    (closes : pending.waiting = .closingShell channel) (fate : Fate Interactive.Answer) :
    board.settleShell ⟨promise, fate⟩ =
      board.complete pending.call (ofShell (Interactive.Session.closeAnswer fate)) := by
  simp only [settleShell, waits, closes]

theorem use_reads {shell : CallId} {line : Line} {queue : List Octets}
    (found : board.readerAt? shell = some (line, seat, queue)) :
    board.use (.readShell shell) =
      some (board.placeSeat line (.shell (move seat .reads).seat),
        .octets (move seat .reads).got seat.session.left) := by
  obtain ⟨_, _, rest⟩ := Option.bind_eq_some_iff.mp found
  obtain ⟨_, _, rest⟩ := Option.bind_eq_some_iff.mp rest
  obtain ⟨_, holds, same⟩ := Option.bind_eq_some_iff.mp rest
  cases same
  simp [use, found, move, act, holds]

end Boards

-- No write is lost: it is told what became of it, as the shell itself would tell it once it is over.
structure WriteAnswered (occasions : List Occasion) (data : Octets) (promise : Ticket) : Prop where
  decided : (seatAfter occasions).session.left = true →
    ∃ fate, Settlement.fates (settlements occasions) promise = [fate]
  dealt : ∀ view reachable, .call (.write data promise) view reachable ∈ dealings occasions →
    Settlement.fates (settlements occasions) promise = [.answered (.done (verdict view reachable))]
  told : ∀ fate, ⟨promise, fate⟩ ∈ settlements occasions →
    WriteTold (dealings occasions) (seatAfter occasions) data promise
      ((seatAfter occasions).session.writeAnswer fate)
  completed : ∀ fate, ⟨promise, fate⟩ ∈ settlements occasions →
    ∀ (board : Switchboard) pending channel, board.waiter? promise = some pending →
      pending.waiting = .writing channel →
      (board.line? channel).bind (·.seat.shell?) = some (seatAfter occasions) →
      board.settleShell ⟨promise, fate⟩ =
        board.complete pending.call (ofShell ((seatAfter occasions).session.writeAnswer fate))

structure CloseAnswered (occasions : List Occasion) (promise : Ticket) : Prop where
  decided : (seatAfter occasions).session.left = true →
    ∃ fate, Settlement.fates (settlements occasions) promise = [fate]
  once : ∀ fate, ⟨promise, fate⟩ ∈ settlements occasions →
    Settlement.fates (settlements occasions) promise = [fate]
  succeeds : ∀ fate, ⟨promise, fate⟩ ∈ settlements occasions →
    Interactive.Session.closeAnswer fate = .ok ()
  completed : ∀ fate, ⟨promise, fate⟩ ∈ settlements occasions →
    ∀ (board : Switchboard) pending channel, board.waiter? promise = some pending →
      pending.waiting = .closingShell channel →
      board.settleShell ⟨promise, fate⟩ = board.complete pending.call (ofShell (.ok ()))

-- What the user of a started shell sees, whatever order things come in.
structure Converses (occasions : List Occasion) : Prop where
  -- The reader is told what comes in while the shell is ready and the reader attached, and it ends
  -- with the shell.
  reads : gotten occasions ++ (seatAfter occasions).reader.getD [] =
    readable false (dealings occasions)
  ends : (seatAfter occasions).session.left = (seatAfter occasions).session.shell.isTerminal
  lasts : ∀ earlier later, occasions = earlier ++ later → (seatAfter earlier).session.left = true →
    dealings occasions = dealings earlier ∧
      (seatAfter occasions).session.shell = (seatAfter earlier).session.shell ∧
      (seatAfter occasions).session.left = true
  shown : ∀ (board : Switchboard) shell line queue,
    board.readerAt? shell = some (line, seatAfter occasions, queue) →
    board.use (.readShell shell) =
      some (board.placeSeat line (.shell (move (seatAfter occasions) .reads).seat),
        .octets (move (seatAfter occasions) .reads).got (seatAfter occasions).session.left)
  -- What goes out are the writes that are dealt with while the shell is ready.
  sends : sent occasions = written (dealings occasions)
  queues : Queues (submitted occasions) (dealings occasions) (seatAfter occasions)
  writes : ∀ data promise, .writes data promise ∈ occasions → WriteAnswered occasions data promise
  closes : ∀ promise, .closes promise ∈ occasions → CloseAnswered occasions promise
  refuses : (seatAfter occasions).session.left = true → ∀ data promise,
    ((seatAfter occasions).session.shell.advance (.write data promise)).settled =
      [Shell.answer promise ((seatAfter occasions).session.writeAnswer .discarded)]

-- Nothing that comes before the word of the start is kept, and on a board a call is taken as soon
-- as it is made.
structure Begins : Prop where
  starts : ∀ early : List (Bool × ChannelEvent),
    (∀ heard ∈ early, heard.2 ≠ .success ∧ heard.2 ≠ .failure ∧ heard.2 ≠ .closed) → ∀ reachable,
    (early.foldl (fun seat heard => (seat.hear heard.1 heard.2).1) requested).hear reachable .success =
      (opened, [.report (.ok ())])
  asks : ∀ (seat : ShellSeat) (reachable : Bool) (occasion : Occasion) call,
    occasion.call? = some call →
      let first := move seat occasion
      let second := move first.seat (.handles reachable)
      seat.ask reachable call = (second.seat, first.effects ++ second.effects)
  attaches : ∀ (seat : ShellSeat) (reachable : Bool), seat.taken = false →
    let first := move seat .takesReader
    let second := move first.seat (.handles reachable)
    { seat with taken := true, reader := some [] }.ask reachable .attachReader =
      (second.seat, first.effects ++ second.effects)

section Answered

variable (fresh : (custody.broughtBy occasions).Nodup)
include fresh

theorem write_answered (asked : .writes data promise ∈ occasions) :
    WriteAnswered occasions data promise where
  decided gone := fates_left fresh gone (custody.mem_broughtBy asked (List.mem_singleton_self _))
  dealt view reachable dealt :=
    fates_one fresh ((answers_after occasions).written data promise view reachable dealt).2
  told _ := write_told fresh asked
  completed fate _ _ _ _ waits writes seated := settleShell_write waits writes seated fate

theorem close_answered (asked : .closes promise ∈ occasions) : CloseAnswered occasions promise where
  decided gone := fates_left fresh gone (custody.mem_broughtBy asked (List.mem_singleton_self _))
  once _ := fates_one fresh
  succeeds _ := close_told fresh asked
  completed _ found _ _ _ waits closes := by
    rw [settleShell_close waits closes, close_told fresh asked found]

theorem conversation_answered : Converses occasions ∧ Begins where
  left :=
    { reads := (reads_after occasions).shared
      ends := left_iff occasions
      lasts := by
        rintro earlier later rfl gone
        exact over_after gone later
      shown := fun _ _ _ _ found => use_reads found
      sends := sent_after occasions
      queues := queues_after occasions
      writes := fun _ _ => write_answered fresh
      closes := fun _ => close_answered fresh
      refuses := by
        intro gone data promise
        rw [writeAnswer_discarded, Shell.terminal_refuses ((sound_after occasions).spent gone).1] }
  right :=
    { starts := fun _ => opened_started
      asks := fun seat reachable _ _ made => ask_move made seat reachable
      attaches := fun _ reachable untaken => ask_reader untaken reachable }

end Answered

-- Output before there is a reader and before it is attached; a write that goes out and one that
-- does not; a close with two writes behind it, of which the shell gets to one; and calls that are
-- made when all is over.
def goodbye : List Occasion :=
  [.writes [1] 2, .hears true (.data [7]), .takesReader, .handles true, .hears true (.data [8]),
    .handles true, .hears true (.extendedData [9]), .reads, .writes [2] 3, .handles false, .closes 4,
    .writes [3] 5, .writes [4] 6, .handles true, .handles true, .hears true (.data [10]),
    .hears true .closed, .closes 7, .writes [5] 8]

theorem conversation_answered_goodbye :
    (custody.broughtBy goodbye).Nodup ∧
    gotten goodbye = [[9]] ∧ sent goodbye = [[1]] ∧ (seatAfter goodbye).session.shell = .closed ∧
    settlements goodbye = [Shell.answer 2 (.ok ()), Shell.answer 3 (.error .unknown),
      Shell.answer 5 (.error .notRunning), Shell.answer 4 (.ok ()), .discard 6, .discard 7, .discard 8] ∧
    readable false (dealings goodbye) = [[9]] ∧ written (dealings goodbye) = [[1]] ∧
    WriteTold (dealings goodbye) (seatAfter goodbye) [2] 3 (.error .unknown) ∧
    WriteTold (dealings goodbye) (seatAfter goodbye) [4] 6 (.error .notRunning) ∧
    Interactive.Session.closeAnswer .discarded = .ok () := by
  have fresh : (custody.broughtBy goodbye).Nodup := by decide
  have settled : settlements goodbye = [Shell.answer 2 (.ok ()), Shell.answer 3 (.error .unknown),
      Shell.answer 5 (.error .notRunning), Shell.answer 4 (.ok ()), .discard 6, .discard 7, .discard 8] := by
    decide
  have converses := (conversation_answered fresh).1
  have got : gotten goodbye = [[9]] := by decide
  have put : sent goodbye = [[1]] := by decide
  have unreachable := (converses.writes [2] 3 (by decide)).told
    (.answered (.done (.error .unknown))) (by decide)
  have late := (converses.writes [4] 6 (by decide)).told .discarded (by decide)
  have closed := (converses.closes 7 (by decide)).succeeds .discarded (by decide)
  exact ⟨fresh, got, put, by decide, settled, converses.reads.symm.trans (by decide),
    converses.sends.symm.trans put, unreachable, late, closed⟩

end SecureShell.Switchboard.Conversation
