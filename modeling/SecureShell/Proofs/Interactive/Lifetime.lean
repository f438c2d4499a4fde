import Mathlib.Data.List.Nodup
import SecureShell.Interactive.Shell
import SecureShell.Proofs.Custody

namespace SecureShell.Interactive.Shell
open Settlement (fates Answered answered_nil answered_one answered_answerAll)

def Event.brought : Event → List Ticket
  | .start promise | .write _ promise | .close promise => [promise]
  | .started | .startFailed | .read _ | .closed => []

-- Whoever puts the data into the channel answers for the write from then on.
def Action.handed : Action → List Ticket
  | .write _ promise => [promise]
  | .none | .sendRequest | .close | .deliver _ => []

def Event.decides? : Event → Option (Except ConnectionFault Unit)
  | .started => some (.ok ())
  | .close _ => some (.error .cancelled)
  | .startFailed | .closed => some (.error .unknown)
  | .start _ | .write .. | .read _ => none

-- The end was asked for while there was something to end.
def Wanted : Shell → Prop
  | .closing _ | .closed => True
  | .idle | .starting _ | .ready | .failed _ => False

def View.refusal : View → ShellFault
  | .failed fault => fault
  | .idle | .starting | .ready | .closing | .closed => .notRunning

inductive Settles (shell : Shell) : Event → Settlement Answer → Prop
  | started (state : shell = .starting start) (decides : event.decides? = some result) :
      Settles shell event (startAnswer start result)
  | ended (state : shell = .closing closers) (among : promise ∈ closers) :
      Settles shell .closed (answer promise (.ok ()))
  | late (spent : shell.isTerminal = true) : Settles shell (.close promise) (answer promise (.ok ()))
  | early (state : shell = .idle) :
      Settles shell (.close promise) (answer promise (.error .notRunning))
  | refused (state : shell ≠ .ready) :
      Settles shell (.write data promise) (answer promise (.error shell.view.refusal))
  | repeated (state : shell ≠ .idle) : Settles shell (.start promise) (.discard promise)

variable {shell : Shell} {event : Event} {start promise : Ticket} {events run : List Event}
  {settlement : Settlement Answer}

theorem settles (found : settlement ∈ (shell.advance event).settled) :
    Settles shell event settlement := by
  cases event with
  | start promise =>
    cases shell with
    | idle => cases found
    | _ =>
      cases List.mem_singleton.mp found
      exact .repeated nofun
  | write data promise =>
    cases shell with
    | ready => cases found
    | _ =>
      cases List.mem_singleton.mp found
      exact .refused nofun
  | close promise =>
    cases shell with
    | idle =>
      cases List.mem_singleton.mp found
      exact .early rfl
    | starting start =>
      cases List.mem_singleton.mp found
      exact .started rfl rfl
    | closed | failed =>
      cases List.mem_singleton.mp found
      exact .late rfl
    | ready | closing => cases found
  | closed =>
    cases shell with
    | starting start =>
      cases List.mem_singleton.mp found
      exact .started rfl rfl
    | closing closers =>
      obtain ⟨promise, among, rfl⟩ := List.mem_map.mp found
      exact .ended rfl among
    | _ => cases found
  | started | startFailed =>
    cases shell with
    | starting start =>
      cases List.mem_singleton.mp found
      exact .started rfl rfl
    | _ => cases found
  | read data => cases shell <;> cases found

theorem advance_balances (shell : Shell) (event : Event) (promise : Ticket) :
    (shell.advance event).next.owed.count promise +
        (fates (shell.advance event).settled promise).length +
        (shell.advance event).action.handed.count promise =
      shell.owed.count promise + event.brought.count promise := by
  rw [Settlement.length_fates]
  cases shell <;> cases event
  all_goals simp [advance, owed, Event.brought, Action.handed, startAnswer, answer,
    Settlement.answer, Settlement.discard]
  exact Nat.add_comm _ _

def custody : Custody Shell Event Step Answer where
  advance := advance
  next := Step.next
  brought := Event.brought
  owed := owed
  settled := Step.settled
  handed step := step.action.handed
  Sound _ := True
  sound_advance _ _ _ := trivial
  balance_advance shell event _ promise := advance_balances shell event promise

def after (events : List Event) : Shell := custody.reach .idle events

def settlements (events : List Event) : List (Settlement Answer) := custody.settledBy .idle events

def handedOn (events : List Event) : List Ticket := custody.handedBy .idle events

def actions (events : List Event) : List Action := (custody.steps .idle events).map Step.action

theorem after_append (earlier later : List Event) :
    after (earlier ++ later) = custody.reach (after earlier) later :=
  custody.reach_append .idle earlier later

theorem after_concat (events : List Event) (event : Event) :
    after (events ++ [event]) = ((after events).advance event).next :=
  after_append events [event]

-- A run as a session makes it: the start comes first and only then, and promises are new.
structure Regular (start : Ticket) (run : List Event) : Prop where
  begins : ∃ events, run = .start start :: events ∧ ∀ promise, .start promise ∉ events
  fresh : (custody.broughtBy run).Nodup

theorem terminal_stays (spent : shell.isTerminal = true) (event : Event) :
    (shell.advance event).next = shell := by
  cases shell with
  | closed | failed => cases event <;> rfl
  | idle | starting | ready | closing => cases spent

theorem terminal_lasts (spent : shell.isTerminal = true) (events : List Event) :
    custody.reach shell events = shell := by
  have keeps : ∀ state event, state = shell →
      custody.next (custody.advance state event) = shell := by
    rintro state event rfl
    exact terminal_stays spent event
  exact custody.reach_keeps keeps rfl events

theorem terminal_refuses (spent : shell.isTerminal = true) (data : Octets) (promise : Ticket) :
    shell.advance (.write data promise) =
      { next := shell, settled := [answer promise (.error shell.view.refusal)] } := by
  cases shell with
  | closed | failed => rfl
  | idle | starting | ready | closing => cases spent

theorem begun_stays (begun : shell ≠ .idle) (event : Event) : (shell.advance event).next ≠ .idle := by
  cases shell with
  | idle => exact absurd rfl begun
  | _ => cases event <;> nofun

theorem starting_from (begun : shell ≠ .idle) (starts : (shell.advance event).next = .starting promise) :
    shell = .starting promise := by
  cases shell with
  | idle => exact absurd rfl begun
  | starting start =>
    cases event with
    | start | write | read => exact starts
    | started | startFailed | close | closed => cases starts
  | ready | closing | closed | failed => cases event <;> cases starts

theorem wanted_stays (wanted : shell.Wanted) (event : Event) : (shell.advance event).next.Wanted := by
  cases shell with
  | closing | closed => cases event <;> trivial
  | idle | starting | ready | failed => cases wanted

theorem wanted_from (begun : shell ≠ .idle) (wanted : (shell.advance event).next.Wanted) :
    shell.Wanted ∨ shell.isTerminal = false ∧ ∃ promise, event = .close promise := by
  cases shell with
  | idle => exact absurd rfl begun
  | starting | ready =>
    cases event with
    | close promise => exact .inr ⟨rfl, promise, rfl⟩
    | _ => cases wanted
  | closing | closed => exact .inl trivial
  | failed fault => cases event <;> cases wanted

theorem close_wanted (begun : shell ≠ .idle) (ongoing : shell.isTerminal = false) (promise : Ticket) :
    (shell.advance (.close promise)).next.Wanted := by
  cases shell with
  | idle => exact absurd rfl begun
  | starting | ready | closing => trivial
  | closed | failed => cases ongoing

theorem closed_iff (spent : shell.isTerminal = true) : shell.view = .closed ↔ shell.Wanted := by
  cases shell with
  | closed => exact ⟨fun _ => trivial, fun _ => rfl⟩
  | failed => constructor <;> nofun
  | idle | starting | ready | closing => cases spent

theorem closes_once_step (closes : (shell.advance event).action = .close) :
    (shell.advance event).next.Wanted ∨ (shell.advance event).next.isTerminal = true := by
  cases shell with
  | starting start =>
    cases event with
    | close => exact .inl trivial
    | startFailed => exact .inr rfl
    | _ => cases closes
  | ready =>
    cases event with
    | close => exact .inl trivial
    | _ => cases closes
  | idle | closing | closed | failed => cases event <;> cases closes

theorem leaving_rests (leaving : shell.Wanted ∨ shell.isTerminal = true) (event : Event) :
    (shell.advance event).action ≠ .close ∧
      ((shell.advance event).next.Wanted ∨ (shell.advance event).next.isTerminal = true) := by
  constructor
  · cases shell with
    | closing | closed | failed => cases event <;> nofun
    | idle | starting | ready => rcases leaving with wanted | spent <;> contradiction
  · rcases leaving with wanted | spent
    · exact .inl (wanted_stays wanted event)
    · right
      rwa [terminal_stays spent event]

theorem closes_once (events : List Event) : (actions events).count .close ≤ 1 := by
  rw [actions, List.count, List.countP_map]
  have enters : ∀ (shell : Shell) (event : Event), ((shell.advance event).action == .close) = true →
      (shell.advance event).next.Wanted ∨ (shell.advance event).next.isTerminal = true := by
    intro shell event closes
    exact closes_once_step (beq_iff_eq.mp closes)
  have past : ∀ (shell : Shell) (event : Event), shell.Wanted ∨ shell.isTerminal = true →
      ¬ ((shell.advance event).action == .close) = true ∧
        ((shell.advance event).next.Wanted ∨ (shell.advance event).next.isTerminal = true) := by
    intro shell event leaving
    rw [beq_iff_eq]
    exact leaving_rests leaving event
  exact custody.at_most_one_step (fun step => step.action == .close)
    (fun shell => shell.Wanted ∨ shell.isTerminal = true) enters past .idle events

theorem writes_ready {data : Octets} (writes : (shell.advance event).action = .write data promise) :
    event = .write data promise ∧ shell.view = .ready ∧ (shell.advance event).next.view = .ready := by
  cases shell with
  | ready =>
    cases event with
    | write data promise =>
      cases writes
      exact ⟨rfl, rfl, rfl⟩
    | _ => cases writes
  | _ => cases event <;> cases writes

theorem delivers_ready {data : Octets} (delivers : (shell.advance event).action = .deliver data) :
    event = .read data ∧ shell.view = .ready ∧ (shell.advance event).next.view = .ready := by
  cases shell with
  | ready =>
    cases event with
    | read data =>
      cases delivers
      exact ⟨rfl, rfl, rfl⟩
    | _ => cases delivers
  | _ => cases event <;> cases delivers

theorem undecided_stays (undecided : event.decides? = none) :
    ((starting start).advance event).next = .starting start := by
  cases event with
  | start | write | read => rfl
  | started | startFailed | close | closed => cases undecided

theorem decided_settles {result : Except ConnectionFault Unit}
    (decides : event.decides? = some result) :
    startAnswer start result ∈ ((starting start).advance event).settled := by
  cases event with
  | started | startFailed | close | closed =>
    cases decides
    exact List.mem_singleton_self _
  | start | write | read => cases decides

theorem start_waits (undecided : events.findSome? Event.decides? = none) :
    custody.reach (.starting start) events = .starting start := by
  induction events with
  | nil => rfl
  | cons event events ih =>
    rw [List.findSome?_cons] at undecided
    cases decides : event.decides? with
    | some result =>
      rw [decides] at undecided
      cases undecided
    | none =>
      rw [decides] at undecided
      have stays : custody.next (custody.advance (.starting start) event) = .starting start :=
        undecided_stays decides
      rw [Machine.reach, stays]
      exact ih undecided

theorem start_decided {result : Except ConnectionFault Unit}
    (decided : events.findSome? Event.decides? = some result) :
    startAnswer start result ∈ custody.settledBy (.starting start) events := by
  induction events with
  | nil => cases decided
  | cons event events ih =>
    rw [List.findSome?_cons] at decided
    rw [Custody.settledBy_cons]
    cases decides : event.decides? with
    | some first =>
      rw [decides] at decided
      cases decided
      exact List.mem_append_left _ (decided_settles decides)
    | none =>
      rw [decides] at decided
      have stays : custody.next (custody.advance (.starting start) event) = .starting start :=
        undecided_stays decides
      rw [stays]
      exact List.mem_append_right _ (ih decided)

theorem asked_of_wanted (begun : shell ≠ .idle) (unwanted : ¬ shell.Wanted)
    (wanted : (custody.reach shell events).Wanted) :
    ∃ earlier promise later, events = earlier ++ .close promise :: later ∧
      (custody.reach shell earlier).isTerminal = false := by
  induction events generalizing shell with
  | nil => exact absurd wanted unwanted
  | cons event events ih =>
    by_cases here : (shell.advance event).next.Wanted
    · rcases wanted_from begun here with before | ⟨ongoing, promise, rfl⟩
      · exact absurd before unwanted
      · exact ⟨[], promise, events, rfl, ongoing⟩
    · obtain ⟨earlier, promise, later, rfl, ongoing⟩ := ih (begun_stays begun event) here wanted
      exact ⟨event :: earlier, promise, later, rfl, ongoing⟩

theorem wanted_of_asked {earlier later : List Event} (begun : after earlier ≠ .idle)
    (ongoing : (after earlier).isTerminal = false) :
    (after (earlier ++ .close promise :: later)).Wanted := by
  rw [List.append_cons, after_append, after_concat]
  exact custody.reach_keeps_under Wanted (fun event _ _ wanted => wanted_stays wanted event)
    (close_wanted begun ongoing promise)

namespace Regular

variable (regular : Regular start run) {earlier later : List Event}

include regular

-- The first event is the start; every other one finds a shell that has begun.
theorem first_or_begun (split : run = earlier ++ event :: later) :
    earlier = [] ∧ event = .start start ∨
      after earlier ≠ .idle ∧ ∀ promise, event ≠ .start promise := by
  obtain ⟨events, rfl, only⟩ := regular.begins
  cases earlier with
  | nil =>
    obtain ⟨rfl, _⟩ := List.cons.inj split
    exact .inl ⟨rfl, rfl⟩
  | cons first earlier =>
    obtain ⟨rfl, rfl⟩ := List.cons.inj split
    have begun : custody.reach (starting start) earlier ≠ .idle :=
      custody.reach_keeps_under (· ≠ .idle) (fun event _ _ begun => begun_stays begun event) nofun
    refine .inr ⟨begun, ?_⟩
    rintro promise rfl
    exact only promise (List.mem_append_right _ List.mem_cons_self)

theorem start_kept (split : run = earlier ++ later) (state : after earlier = .starting promise) :
    promise = start := by
  obtain ⟨events, rfl, _⟩ := regular.begins
  cases earlier with
  | nil => cases state
  | cons first earlier =>
    obtain ⟨rfl, _⟩ := List.cons.inj split
    have keeps : ∀ event ∈ earlier, ∀ shell : Shell,
        (shell ≠ .idle ∧ ∀ promise, shell = .starting promise → promise = start) →
        (shell.advance event).next ≠ .idle ∧
          ∀ promise, (shell.advance event).next = .starting promise → promise = start := by
      rintro event _ shell ⟨begun, only⟩
      exact ⟨begun_stays begun event, fun promise starts => only promise (starting_from begun starts)⟩
    have kept := custody.reach_keeps_under _ keeps
      (show starting start ≠ .idle ∧ ∀ promise, starting start = .starting promise → promise = start
        from ⟨nofun, fun _ same => (starting.inj same).symm⟩)
    exact kept.2 promise state

theorem answered (split : run = earlier ++ later) : Answered (settlements earlier) := by
  intro settlement found
  obtain ⟨before, event, between, rfl, here⟩ := custody.settled_at_event found
  rw [List.append_assoc] at split
  rcases regular.first_or_begun split with ⟨rfl, rfl⟩ | ⟨_, fresh⟩
  · cases here
  · cases settles here with
    | repeated => exact absurd rfl (fresh _)
    | _ => exact ⟨_, rfl⟩

theorem start_fate : fates (settlements run) start =
    ((run.findSome? Event.decides?).map fun result => .answered (.start result)).toList := by
  obtain ⟨events, rfl, _⟩ := regular.begins
  have single : ((starting start).owed ++ custody.broughtBy events).count start ≤ 1 :=
    List.nodup_iff_count_le_one.mp regular.fresh start
  show fates (custody.settledBy (.starting start) events) start =
    ((events.findSome? Event.decides?).map _).toList
  cases decided : events.findSome? Event.decides? with
  | none =>
    have kept : start ∈ (custody.reach (starting start) events).owed := by
      rw [start_waits decided]
      exact List.mem_singleton_self _
    exact (custody.silent_iff start _ events).mp (custody.silent_of_owed trivial single kept)
  | some result => exact custody.fates_single trivial single (start_decided decided)

theorem closer_told (split : run = earlier ++ event :: later) {closer : Ticket} {fate : Fate Answer}
    (asked : .close closer ∈ run) (found : ⟨closer, fate⟩ ∈ ((after earlier).advance event).settled) :
    fate = .answered (.done (.ok ())) ∧ ((after earlier).advance event).next.isTerminal = true := by
  have only : ∀ other ∈ run, closer ∈ other.brought → other = .close closer := fun other member mine =>
    custody.brought_by_one regular.fresh member asked mine (List.mem_singleton_self _)
  have here : event ∈ run := by
    rw [split]
    exact List.mem_append_right _ List.mem_cons_self
  rcases regular.first_or_begun split with ⟨rfl, rfl⟩ | ⟨begun, fresh⟩
  · cases found
  · cases settles found with
    | started state =>
      have mine := regular.start_kept split state
      obtain ⟨events, rfl, _⟩ := regular.begins
      cases only _ List.mem_cons_self (mine ▸ List.mem_singleton_self _)
    | ended state among =>
      rw [state]
      exact ⟨rfl, rfl⟩
    | late spent =>
      rw [terminal_stays spent]
      exact ⟨rfl, spent⟩
    | early state => exact absurd state begun
    | refused state => cases only _ here (List.mem_singleton_self _)
    | repeated state => exact absurd rfl (fresh _)

theorem closed_iff_asked (spent : (after run).isTerminal = true) :
    (after run).view = .closed ↔ ∃ earlier promise later,
      run = earlier ++ .close promise :: later ∧ (after earlier).isTerminal = false := by
  rw [closed_iff spent]
  constructor
  · intro wanted
    obtain ⟨events, rfl, _⟩ := regular.begins
    have begun : starting start ≠ .idle := nofun
    obtain ⟨earlier, promise, later, rfl, ongoing⟩ := asked_of_wanted begun not_false wanted
    exact ⟨.start start :: earlier, promise, later, rfl, ongoing⟩
  · rintro ⟨earlier, promise, later, split, ongoing⟩
    rcases regular.first_or_begun split with ⟨_, mismatch⟩ | ⟨begun, _⟩
    · cases mismatch
    · rw [split]
      exact wanted_of_asked begun ongoing

end Regular

-- What one event does: whoever asks for the end is told once there is one, and input and output
-- pass while the shell is ready.
structure Tells (run earlier : List Event) (event : Event) : Prop where
  closers : ∀ closer fate, .close closer ∈ run →
    ⟨closer, fate⟩ ∈ ((after earlier).advance event).settled →
    fate = .answered (.done (.ok ())) ∧ ((after earlier).advance event).next.isTerminal = true
  writes : ∀ data promise, ((after earlier).advance event).action = .write data promise →
    event = .write data promise ∧ (after earlier).view = .ready ∧
      ((after earlier).advance event).next.view = .ready
  delivers : ∀ data, ((after earlier).advance event).action = .deliver data →
    event = .read data ∧ (after earlier).view = .ready ∧
      ((after earlier).advance event).next.view = .ready
  refuses : ∀ data promise, event = .write data promise → (after earlier).isTerminal = true →
    ((after earlier).advance event).settled =
      [answer promise (.error (after earlier).view.refusal)]

-- A shell keeps every promise until it answers it or hands it on with the input it is for.
structure Lives (start : Ticket) (run : List Event) : Prop where
  once : ∀ earlier later, run = earlier ++ later → ∀ promise ∈ custody.broughtBy earlier,
    (after earlier).owed.count promise + (fates (settlements earlier) promise).length +
      (handedOn earlier).count promise = 1
  unbrought : ∀ earlier later, run = earlier ++ later →
    ∀ promise, promise ∉ custody.broughtBy earlier →
      promise ∉ (after earlier).owed ∧ fates (settlements earlier) promise = [] ∧
        promise ∉ handedOn earlier
  answered : ∀ earlier later, run = earlier ++ later → Answered (settlements earlier)
  -- The first event that can decide the start does.
  started : fates (settlements run) start =
    ((run.findSome? Event.decides?).map fun result => .answered (.start result)).toList
  steps : ∀ earlier event later, run = earlier ++ event :: later → Tells run earlier event
  closes : (actions run).count .close ≤ 1
  final : ∀ earlier later, run = earlier ++ later → (after earlier).isTerminal = true →
    after run = after earlier
  -- The end is the one asked for if anybody asked in time.
  ended : (after run).isTerminal = true →
    ((after run).view = .closed ↔ ∃ earlier promise later,
      run = earlier ++ .close promise :: later ∧ (after earlier).isTerminal = false)

theorem Regular.tells (regular : Regular start run) (split : run = earlier ++ event :: later) :
    Tells run earlier event where
  closers _ _ := regular.closer_told split
  writes _ _ := writes_ready
  delivers _ := delivers_ready
  refuses data promise asked spent := by
    subst asked
    rw [terminal_refuses spent]

theorem Regular.fresh_earlier (regular : Regular start run) (split : run = earlier ++ later) :
    (custody.broughtBy earlier).Nodup := by
  have fresh := regular.fresh
  rw [split, Custody.broughtBy_append] at fresh
  exact (List.nodup_append.mp fresh).1

theorem lifetime (regular : Regular start run) : Lives start run where
  once _ _ split _ := custody.kept_once trivial rfl (regular.fresh_earlier split)
  unbrought _ _ _ _ := custody.unknown_of_unbrought trivial rfl
  answered _ _ := regular.answered
  started := regular.start_fate
  steps _ _ _ := regular.tells
  closes := closes_once run
  final earlier later split spent := by
    rw [split, after_append]
    exact terminal_lasts spent later
  ended := regular.closed_iff_asked

-- The end is asked for twice while output is still coming in, and once more when all is over.
def logout : List Event :=
  [.start 1, .started, .write [101, 120, 105, 116] 2, .read [62], .close 3, .read [46], .close 4,
   .closed, .write [10] 5, .close 6]

theorem lifetime_logout :
    Regular 1 logout ∧
    fates (settlements logout) 1 = [.answered (.start (.ok ()))] ∧
    (after (logout.take 9)).owed.count 3 + (fates (settlements (logout.take 9)) 3).length +
      (handedOn (logout.take 9)).count 3 = 1 ∧
    after logout = .closed ∧
    ((after logout).view = .closed ↔ ∃ earlier promise later,
      logout = earlier ++ .close promise :: later ∧ (after earlier).isTerminal = false) ∧
    ((after (logout.take 8)).advance (.write [10] 5)).settled =
      [answer 5 (.error .notRunning)] := by
  have regular : Regular 1 logout := by
    refine ⟨⟨logout.drop 1, rfl, ?_⟩, by decide⟩
    intro promise
    simp [logout]
  have lives := lifetime regular
  have spent : (after (logout.take 8)).isTerminal = true := by decide
  have closed : after logout = .closed := lives.final (logout.take 8) (logout.drop 8) rfl spent
  refine ⟨regular, lives.started, lives.once (logout.take 9) (logout.drop 9) rfl 3 (by decide),
    closed, ?_, ?_⟩
  · exact lives.ended (by decide)
  · exact (lives.steps (logout.take 8) _ (logout.drop 9) rfl).refuses _ _ rfl spent

end SecureShell.Interactive.Shell
