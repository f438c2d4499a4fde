import SecureShell.Proofs.Interactive.Lifetime
import SecureShell.Switchboard.Line

namespace SecureShell.Switchboard.Conversation
open Interactive (Shell)
open Interactive.Shell (View)

-- The user of a shell calls it and reads what comes; the shell takes one call after the other
-- and hears of its channel. All of that comes in any order.
inductive Occasion
  | writes (data : Octets) (promise : Ticket)
  | closes (promise : Ticket)
  | takesReader
  | reads
  | handles (reachable : Bool)
  | hears (reachable : Bool) (event : ChannelEvent)
  deriving DecidableEq

-- What a shell that is still there deals with, and in which state it does.
inductive Dealing
  | call (call : Interactive.Call) (view : View) (reachable : Bool)
  | event (event : ChannelEvent) (view : View)
  deriving DecidableEq

structure Move where
  seat : ShellSeat
  effects : List Effect := []
  got : List Octets := []
  dealt : Option Dealing := none

def act (seat : ShellSeat) : Occasion → ShellSeat × List Effect
  | .writes data promise => seat.follow (seat.session.submit (.write data promise))
  | .closes promise => seat.follow (seat.session.submit (.close promise))
  | .takesReader =>
    if seat.taken then (seat, [])
    else
      let seat := { seat with taken := true, reader := some [] }
      seat.follow (seat.session.submit .attachReader)
  | .reads => ({ seat with reader := seat.reader.map fun _ => [] }, [])
  | .handles reachable => seat.follow (seat.session.takeCall reachable)
  | .hears reachable event => seat.hear reachable event

def dealing? (session : Interactive.Session) : Occasion → Option Dealing
  | .handles reachable =>
    if session.left then none
    else session.mailbox.head?.map fun call => .call call session.shell.view reachable
  | .hears _ event => if session.left then none else some (.event event session.shell.view)
  | .writes .. | .closes _ | .takesReader | .reads => none

def move (seat : ShellSeat) (occasion : Occasion) : Move where
  seat := (act seat occasion).1
  effects := (act seat occasion).2
  got := if occasion = .reads then seat.reader.getD [] else []
  dealt := dealing? seat.session occasion

def machine : Machine ShellSeat Occasion Move := ⟨move, Move.seat⟩

def verdict (view : View) (reachable : Bool) : Except ShellFault Unit :=
  if view = .ready then if reachable then .ok () else .error .unknown
  else .error view.refusal

def payload : ChannelEvent → List Octets
  | .data data | .extendedData data => [data]
  | .exitStatus _ | .success | .failure | .eof | .closed => []

-- Nobody observes the shell, and it stays until it is over.
structure Sound (seat : ShellSeat) : Prop where
  unobserved : seat.session.observers = {}
  plain : ∀ call ∈ seat.session.mailbox, call = .attachReader ∨ (∃ promise, call = .close promise) ∨
    ∃ data promise, call = .write data promise
  stays : seat.session.left = false → seat.session.shell = .ready ∨
    ∃ closers, seat.session.shell = .closing closers
  spent : seat.session.left = true → seat.session.shell.isTerminal = true ∧ seat.session.mailbox = []

def Occasion.call? : Occasion → Option Interactive.Call
  | .writes data promise => some (.write data promise)
  | .closes promise => some (.close promise)
  | .takesReader | .reads | .handles _ | .hears .. => none

def promisesOf : Interactive.Call → List Ticket
  | .write _ promise | .close promise | .observe _ promise => [promise]
  | .unobserve _ | .attachReader => []

def discards (promises : List Ticket) : List Effect :=
  promises.map fun promise => .shellSettled (.discard promise)

inductive Does (seat : ShellSeat) : Occasion → Move → Prop
  | asks {call : Interactive.Call} (stays : seat.session.left = false) (made : occasion.call? = some call) :
      Does seat occasion
        { seat := { seat with session := { seat.session with mailbox := seat.session.mailbox ++ [call] } } }
  | late {call : Interactive.Call} (gone : seat.session.left = true) (made : occasion.call? = some call) :
      Does seat occasion { seat, effects := discards (promisesOf call) }
  | takes (untaken : seat.taken = false) (stays : seat.session.left = false) :
      Does seat .takesReader
        { seat := { seat with
            taken := true
            reader := some []
            session := { seat.session with mailbox := seat.session.mailbox ++ [.attachReader] } } }
  | takesLate (untaken : seat.taken = false) (gone : seat.session.left = true) :
      Does seat .takesReader { seat := { seat with taken := true, reader := some [] } }
  | reads : Does seat .reads
      { seat := { seat with reader := seat.reader.map fun _ => [] }, got := seat.reader.getD [] }
  | rests (undealt : occasion.call? = none) (quiet : occasion ≠ .reads) : Does seat occasion { seat }
  | writes (stays : seat.session.left = false) (first : seat.session.mailbox = .write data promise :: rest) :
      Does seat (.handles reachable)
        { seat := { seat with session := { seat.session with mailbox := rest } }
          effects := (if seat.session.shell.view = .ready ∧ reachable = true then [.send (.data data)] else []) ++
            [.shellSettled (Shell.answer promise (verdict seat.session.shell.view reachable))]
          dealt := some (.call (.write data promise) seat.session.shell.view reachable) }
  | closes (stays : seat.session.left = false) (first : seat.session.mailbox = .close promise :: rest) :
      Does seat (.handles reachable)
        { seat := { seat with session := { seat.session with
            mailbox := rest
            shell := .closing (seat.session.shell.owed ++ [promise]) } }
          effects := if seat.session.shell.view = .ready ∧ reachable = true then [.send .close] else []
          dealt := some (.call (.close promise) seat.session.shell.view reachable) }
  | attaches (stays : seat.session.left = false) (first : seat.session.mailbox = .attachReader :: rest) :
      Does seat (.handles reachable)
        { seat := { seat with session := { seat.session with mailbox := rest, reading := true } }
          dealt := some (.call .attachReader seat.session.shell.view reachable) }
  | hears (stays : seat.session.left = false) (goes : event ≠ .closed) :
      Does seat (.hears reachable event)
        { seat := { seat with
            reader := if seat.session.reading = true ∧ seat.session.shell.view = .ready then
                seat.reader.map (· ++ payload event) else seat.reader }
          dealt := some (.event event seat.session.shell.view) }
  | ends {shell : Shell} (stays : seat.session.left = false) (spent : shell.isTerminal = true) :
      Does seat (.hears reachable .closed)
        { seat := { seat with session := { seat.session with shell, mailbox := [], left := true } }
          effects := (seat.session.shell.owed.map fun promise => .shellSettled (Shell.answer promise (.ok ()))) ++
            discards (seat.session.mailbox.flatMap promisesOf)
          dealt := some (.event .closed seat.session.shell.view) }

variable {seat : ShellSeat} {occasion : Occasion}

theorem absorb_refused (seat : ShellSeat) (call : Interactive.Call) :
    absorb ShellSeat.take seat (Interactive.Session.refuse call) = (seat, discards (promisesOf call)) := by
  cases call <;> rfl

theorem follow_submit (seat : ShellSeat) (call : Interactive.Call) :
    seat.follow (seat.session.submit call) =
      if seat.session.left then (seat, discards (promisesOf call))
      else ({ seat with session := { seat.session with mailbox := seat.session.mailbox ++ [call] } }, []) := by
  rw [Interactive.Session.submit, ShellSeat.follow]
  split
  · exact absorb_refused seat call
  · rfl

theorem asks_does {call : Interactive.Call} (made : occasion.call? = some call) :
    Does seat occasion (move seat occasion) := by
  have acts : act seat occasion = seat.follow (seat.session.submit call) := by
    cases occasion <;> cases made <;> rfl
  have ungot : (if occasion = .reads then seat.reader.getD [] else []) = ([] : List Octets) := by
    cases occasion <;> cases made <;> rfl
  have undealt : dealing? seat.session occasion = none := by
    cases occasion <;> cases made <;> rfl
  rw [move, acts, ungot, undealt, follow_submit]
  cases left : seat.session.left with
  | true => exact .late left made
  | false => exact .asks left made

theorem takes_does (seat : ShellSeat) : Does seat .takesReader (move seat .takesReader) := by
  cases taken : seat.taken with
  | true =>
    have same : move seat .takesReader = { seat } := by simp [move, act, taken, dealing?]
    rw [same]
    exact .rests rfl nofun
  | false =>
    have submits := follow_submit { seat with taken := true, reader := some [] } .attachReader
    cases left : seat.session.left with
    | true =>
      have acts : move seat .takesReader = { seat := { seat with taken := true, reader := some [] } } := by
        simp [move, act, taken, dealing?, submits, left, discards, promisesOf]
      rw [acts]
      exact .takesLate taken left
    | false =>
      have acts : move seat .takesReader =
          { seat := { seat with
              taken := true
              reader := some []
              session := { seat.session with mailbox := seat.session.mailbox ++ [.attachReader] } } } := by
        simp [move, act, taken, dealing?, submits, left]
      rw [acts]
      exact .takes taken left

-- What becomes of the first call in the queue, and of what comes in over the channel.
section Steps

variable {session : Interactive.Session} {rest : List Interactive.Call} {data : Octets} {promise : Ticket}
  {event : ChannelEvent}
  (stays : session.left = false) (unobserved : session.observers = {})
  (goes : session.shell = .ready ∨ ∃ closers, session.shell = .closing closers)

include stays unobserved goes

theorem takeCall_attach (first : session.mailbox = .attachReader :: rest) (reachable : Bool) :
    session.takeCall reachable = ({ session with mailbox := rest, reading := true }, []) := by
  obtain ⟨shell, mailbox, observers, reading, abandoned, left⟩ := session
  cases stays
  cases unobserved
  cases first
  rcases goes with rfl | ⟨closers, rfl⟩ <;> rfl

theorem takeCall_write (first : session.mailbox = .write data promise :: rest) (reachable : Bool) :
    session.takeCall reachable =
      ({ session with mailbox := rest },
        (if session.shell.view = .ready ∧ reachable = true then [.put (.data data)] else []) ++
          [.settle (Shell.answer promise (verdict session.shell.view reachable))]) := by
  obtain ⟨shell, mailbox, observers, reading, abandoned, left⟩ := session
  cases stays
  cases unobserved
  cases first
  rcases goes with rfl | ⟨closers, rfl⟩ <;> cases reachable <;> rfl

theorem takeCall_close (first : session.mailbox = .close promise :: rest) (reachable : Bool) :
    session.takeCall reachable =
      ({ session with mailbox := rest, shell := .closing (session.shell.owed ++ [promise]) },
        if session.shell.view = .ready ∧ reachable = true then [.put .close] else []) := by
  obtain ⟨shell, mailbox, observers, reading, abandoned, left⟩ := session
  cases stays
  cases unobserved
  cases first
  rcases goes with rfl | ⟨closers, rfl⟩ <;> cases reachable <;> rfl

theorem onEvent_goes (unclosed : event ≠ .closed) (reachable : Bool) :
    session.onEvent reachable event =
      (session, if session.reading = true ∧ session.shell.view = .ready then (payload event).map .deliver
        else []) := by
  obtain ⟨shell, mailbox, observers, reading, abandoned, left⟩ := session
  cases stays
  cases unobserved
  cases event with
  | closed => exact absurd rfl unclosed
  | data | extendedData | exitStatus | success | failure | eof =>
    rcases goes with rfl | ⟨closers, rfl⟩ <;> cases reading <;> rfl

theorem onEvent_closed (reachable : Bool) :
    ∃ shell : Shell, shell.isTerminal = true ∧ session.onEvent reachable .closed =
      ({ session with shell, mailbox := [], left := true },
        (session.shell.owed.map fun promise => .settle (Shell.answer promise (.ok ()))) ++
          session.mailbox.flatMap Interactive.Session.refuse ++ [.leave]) := by
  obtain ⟨shell, mailbox, observers, reading, abandoned, left⟩ := session
  cases stays
  cases unobserved
  rcases goes with rfl | ⟨closers, rfl⟩
  · exact ⟨.failed .unknown, rfl, rfl⟩
  · refine ⟨.closed, rfl, ?_⟩
    have settles : Interactive.Session.settleAll (Settlement.answerAll closers (.done (.ok ()))) =
        closers.map fun promise => .settle (Shell.answer promise (.ok ())) := by
      simp [Interactive.Session.settleAll, Settlement.answerAll, Shell.answer, Function.comp_def]
    simp only [Shell.owed, ← settles]
    simp [Interactive.Session.onEvent, Interactive.Session.ofChannel?, Interactive.Session.trigger,
      Shell.advance, Interactive.Session.perform, Interactive.Session.told, Registry.observers,
      Interactive.Session.conclude, Shell.isTerminal]

end Steps

theorem absorb_append (seat : ShellSeat) (first more : List Interactive.Session.Effect) :
    absorb ShellSeat.take seat (first ++ more) =
      ((absorb ShellSeat.take (absorb ShellSeat.take seat first).1 more).1,
        (absorb ShellSeat.take seat first).2 ++
          (absorb ShellSeat.take (absorb ShellSeat.take seat first).1 more).2) := by
  induction first generalizing seat with
  | nil => rfl
  | cons effect first ih => simp only [List.cons_append, absorb, ih, List.append_assoc]

theorem absorb_answers (seat : ShellSeat) (promises : List Ticket) (result : Except ShellFault Unit) :
    absorb ShellSeat.take seat (promises.map fun promise => .settle (Shell.answer promise result)) =
      (seat, promises.map fun promise => .shellSettled (Shell.answer promise result)) := by
  induction promises with
  | nil => rfl
  | cons promise promises ih =>
    rw [List.map_cons, absorb]
    simp only [ShellSeat.take, Shell.answer, Settlement.answer] at ih ⊢
    rw [ih]
    rfl

theorem absorb_refusals (seat : ShellSeat) (calls : List Interactive.Call) :
    absorb ShellSeat.take seat (calls.flatMap Interactive.Session.refuse) =
      (seat, discards (calls.flatMap promisesOf)) := by
  induction calls with
  | nil => rfl
  | cons call calls ih =>
    rw [List.flatMap_cons, absorb_append, absorb_refused, ih]
    simp [discards]

theorem absorb_put (seat : ShellSeat) (goes : Prop) [Decidable goes] (command : ChannelCommand) :
    absorb ShellSeat.take seat (if goes then [.put command] else []) =
      (seat, if goes then [.send command] else []) := by
  split <;> rfl

theorem absorb_deliver (seat : ShellSeat) (octets : List Octets) :
    absorb ShellSeat.take seat (octets.map .deliver) =
      ({ seat with reader := seat.reader.map (· ++ octets) }, []) := by
  induction octets generalizing seat with
  | nil => simp [absorb]
  | cons data octets ih =>
    rw [List.map_cons, absorb]
    simp [ShellSeat.take, ih, Function.comp_def]

theorem handles_does (sound : Sound seat) (reachable : Bool) :
    Does seat (.handles reachable) (move seat (.handles reachable)) := by
  cases left : seat.session.left with
  | true =>
    have same : move seat (.handles reachable) = { seat } := by
      simp [move, act, dealing?, left, Interactive.Session.takeCall, ShellSeat.follow, absorb]
    rw [same]
    exact .rests rfl nofun
  | false =>
    have goes := sound.stays left
    cases waiting : seat.session.mailbox with
    | nil =>
      have same : move seat (.handles reachable) = { seat } := by
        simp [move, act, dealing?, left, waiting, Interactive.Session.takeCall, ShellSeat.follow, absorb]
      rw [same]
      exact .rests rfl nofun
    | cons call rest =>
      have dealt : dealing? seat.session (.handles reachable) =
          some (.call call seat.session.shell.view reachable) := by simp [dealing?, left, waiting]
      rcases sound.plain call (waiting ▸ List.mem_cons_self) with rfl | ⟨promise, rfl⟩ | ⟨data, promise, rfl⟩
      · rw [move, act, dealt, takeCall_attach left sound.unobserved goes waiting]
        exact .attaches left waiting
      · rw [move, act, dealt, takeCall_close left sound.unobserved goes waiting, ShellSeat.follow, absorb_put]
        exact .closes left waiting
      · rw [move, act, dealt, takeCall_write left sound.unobserved goes waiting, ShellSeat.follow,
          absorb_append, absorb_put]
        exact .writes left waiting

theorem hears_does (sound : Sound seat) (reachable : Bool) (event : ChannelEvent) :
    Does seat (.hears reachable event) (move seat (.hears reachable event)) := by
  cases left : seat.session.left with
  | true =>
    have same : move seat (.hears reachable event) = { seat } := by
      simp [move, act, dealing?, left, ShellSeat.hear, Interactive.Session.onEvent, ShellSeat.follow, absorb]
    rw [same]
    exact .rests rfl nofun
  | false =>
    have goes := sound.stays left
    have dealt : dealing? seat.session (.hears reachable event) =
        some (.event event seat.session.shell.view) := by simp [dealing?, left]
    by_cases closed : event = .closed
    · subst closed
      obtain ⟨shell, spent, ends⟩ := onEvent_closed left sound.unobserved goes reachable
      rw [move, act, dealt, ShellSeat.hear, ends, ShellSeat.follow, absorb_append, absorb_append,
        absorb_answers, absorb_refusals]
      have does : Does seat (.hears reachable .closed) _ := .ends left spent
      rw [← List.append_nil (_ ++ _)] at does
      exact does
    · have hears : Does seat (.hears reachable event) _ := .hears left closed
      rw [move, act, dealt, ShellSeat.hear, onEvent_goes left sound.unobserved goes closed]
      rw [ShellSeat.follow]
      split at hears
      · rw [if_pos ‹_›, absorb_deliver]
        exact hears
      · rw [if_neg ‹_›]
        exact hears

theorem move_does (sound : Sound seat) (occasion : Occasion) : Does seat occasion (move seat occasion) := by
  cases occasion with
  | writes | closes => exact asks_does rfl
  | takesReader => exact takes_does seat
  | reads => exact .reads
  | handles reachable => exact handles_does sound reachable
  | hears reachable event => exact hears_does sound reachable event

namespace Does

variable {after : Move} (does : Does seat occasion after)

include does

theorem sound (sound : Sound seat) : Sound after.seat := by
  cases does with
  | @asks _ call stays made =>
    refine ⟨sound.unobserved, ?_, sound.stays, fun gone => absurd (stays.symm.trans gone) nofun⟩
    intro other member
    rcases List.mem_append.mp member with before | last
    · exact sound.plain other before
    · cases List.mem_singleton.mp last
      cases occasion <;> cases made
      · exact .inr (.inr ⟨_, _, rfl⟩)
      · exact .inr (.inl ⟨_, rfl⟩)
  | takes untaken stays =>
    refine ⟨sound.unobserved, ?_, sound.stays, fun gone => absurd (stays.symm.trans gone) nofun⟩
    intro other member
    rcases List.mem_append.mp member with before | last
    · exact sound.plain other before
    · exact .inl (List.mem_singleton.mp last)
  | late | takesLate | reads | rests => exact ⟨sound.unobserved, sound.plain, sound.stays, sound.spent⟩
  | hears => exact ⟨sound.unobserved, sound.plain, sound.stays, sound.spent⟩
  | writes stays first | attaches stays first =>
    refine ⟨sound.unobserved, ?_, sound.stays, fun gone => absurd (stays.symm.trans gone) nofun⟩
    intro other member
    exact sound.plain other (first ▸ List.mem_cons_of_mem _ member)
  | closes stays first =>
    refine ⟨sound.unobserved, ?_, fun _ => .inr ⟨_, rfl⟩, fun gone => absurd (stays.symm.trans gone) nofun⟩
    intro other member
    exact sound.plain other (first ▸ List.mem_cons_of_mem _ member)
  | ends stays spent => exact ⟨sound.unobserved, nofun, nofun, fun _ => ⟨spent, rfl⟩⟩

end Does

end SecureShell.Switchboard.Conversation
