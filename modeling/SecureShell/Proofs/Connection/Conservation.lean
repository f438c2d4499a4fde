import SecureShell.Connection.Lifecycle
import SecureShell.Proofs.Custody

namespace SecureShell.Connection.Lifecycle
open Settlement (fates Answered answered_nil answered_one answered_answerAll)

def Event.brought : Event → List Ticket
  | .connect _ promise | .disconnect promise => [promise]
  | .session request => [request.promise]
  | .connected .. | .authenticated _ | .disconnected _ | .fault .. => []

-- Whoever starts the session looks after its promise from then on.
def Action.handed : Action → List Ticket
  | .startSession _ request => [request.promise]
  | .none | .connect .. | .disconnect _ | .discard _ => []

def Stale (lifecycle : Lifecycle) (event : Event) : Prop :=
  ∃ attempt, event.attempt? = some attempt ∧ lifecycle.attempt? ≠ some attempt

variable {lifecycle : Lifecycle} {event : Event}

theorem advance_stale (stale : lifecycle.Stale event) :
    lifecycle.advance event = { next := lifecycle, action := Lifecycle.stale event } := by
  obtain ⟨attempt, named, other⟩ := stale
  simp only [advance, named]
  rw [if_neg other]

theorem advance_current (fresh : ¬ lifecycle.Stale event) :
    lifecycle.advance event = lifecycle.current event := by
  unfold advance
  split
  · rename_i attempt named
    have same : lifecycle.attempt? = some attempt :=
      Decidable.byContradiction fun other => fresh ⟨attempt, named, other⟩
    rw [if_pos same]
  · rfl

theorem stale_brings_nothing (stale : lifecycle.Stale event) : event.brought = [] := by
  obtain ⟨_, named, _⟩ := stale
  cases event with
  | connect | disconnect | session => cases named
  | connected | authenticated | disconnected | fault => rfl

theorem stale_hands_nothing (event : Event) : (Lifecycle.stale event).handed = [] := by
  cases event <;> rfl

@[simp] theorem torn_owes_nothing (lifecycle : Lifecycle) (connects disconnects : List Ticket)
    (fault : Option ConnectionFault) :
    (lifecycle.torn connects disconnects fault).next.owed = [] := by
  cases fault <;> rfl

@[simp] theorem promises_torn (lifecycle : Lifecycle) (connects disconnects : List Ticket)
    (fault : Option ConnectionFault) :
    (lifecycle.torn connects disconnects fault).settled.map Settlement.promise =
      disconnects ++ connects := by
  simp [torn, enter]

def Step.Balances (lifecycle : Lifecycle) (event : Event) (step : Step) : Prop :=
  ∀ promise,
    step.next.owed.count promise + (fates step.settled promise).length +
      step.action.handed.count promise =
    lifecycle.owed.count promise + event.brought.count promise

theorem current_balances (lifecycle : Lifecycle) (event : Event) :
    (lifecycle.current event).Balances lifecycle event := by
  intro promise
  rw [Settlement.length_fates]
  obtain ⟨phase, attempts⟩ := lifecycle
  cases phase <;> cases event
  all_goals simp [current, enter, begin, answer, Event.brought, Action.handed, Settlement.answer]
  all_goals simp [owed, torn, enter]
  all_goals omega

theorem advance_balances (lifecycle : Lifecycle) (event : Event) :
    (lifecycle.advance event).Balances lifecycle event := by
  by_cases stale : lifecycle.Stale event
  · intro promise
    rw [advance_stale stale, stale_hands_nothing, stale_brings_nothing stale]
    rfl
  · rw [advance_current stale]
    exact current_balances lifecycle event

def underway? (lifecycle : Lifecycle) : Option Nat :=
  match lifecycle.phase with
  | .connecting attempt _ | .authenticating attempt _ _ => some attempt
  | .idle | .ready .. | .disconnecting .. | .failed _ => none

def waiting (lifecycle : Lifecycle) (attempt : Nat) : List Ticket :=
  match lifecycle.phase with
  | .connecting current connects | .authenticating current _ connects
  | .disconnecting current _ connects _ _ => if current = attempt then connects else []
  | .idle | .ready .. | .failed _ => []

@[simp] theorem torn_waits_for_nothing (lifecycle : Lifecycle) (connects disconnects : List Ticket)
    (fault : Option ConnectionFault) (attempt : Nat) :
    (lifecycle.torn connects disconnects fault).next.waiting attempt = [] := by
  cases fault <;> rfl

-- Where no fault was recorded, nobody is left to be told of one.
def Phase.Calm : Phase → Prop
  | .disconnecting _ _ connects _ recorded => recorded = none → connects = []
  | .idle | .connecting .. | .authenticating .. | .ready .. | .failed _ => True

-- Attempts are numbered as they are made, and none is made that nobody waits for.
structure Sound (lifecycle : Lifecycle) : Prop where
  numbered : ∀ attempt, lifecycle.attempt? = some attempt → attempt ≤ lifecycle.attempts
  sought : ∀ attempt, lifecycle.underway? = some attempt → lifecycle.waiting attempt ≠ []
  calm : Phase.Calm lifecycle.phase

theorem torn_sound (lifecycle : Lifecycle) (connects disconnects : List Ticket)
    (fault : Option ConnectionFault) : (lifecycle.torn connects disconnects fault).next.Sound := by
  cases fault <;> exact ⟨nofun, nofun, trivial⟩

theorem current_sound (sound : lifecycle.Sound) (event : Event) :
    (lifecycle.current event).next.Sound := by
  obtain ⟨phase, attempts⟩ := lifecycle
  obtain ⟨numbered, sought, calm⟩ := sound
  cases phase <;> cases event
  all_goals simp only [current, torn_sound]
  all_goals constructor
  all_goals simp_all [enter, begin, attempt?, underway?, waiting, Phase.Calm]

theorem advance_sound (sound : lifecycle.Sound) (event : Event) :
    (lifecycle.advance event).next.Sound := by
  by_cases stale : lifecycle.Stale event
  · rw [advance_stale stale]
    exact sound
  · rw [advance_current stale]
    exact current_sound sound event

theorem current_answers (lifecycle : Lifecycle) (event : Event) :
    Answered (lifecycle.current event).settled := by
  obtain ⟨phase, attempts⟩ := lifecycle
  cases phase with
  | idle =>
    cases event with
    | disconnect promise => exact answered_one promise _
    | session request => exact answered_one request.promise _
    | _ => exact answered_nil
  | connecting attempt connects =>
    cases event with
    | disconnect promise => exact (answered_answerAll connects _).append (answered_one promise _)
    | session request => exact answered_one request.promise _
    | fault => exact answered_answerAll connects _
    | _ => exact answered_nil
  | authenticating attempt link connects =>
    cases event with
    | disconnect | authenticated | disconnected => exact answered_answerAll connects _
    | session request => exact answered_one request.promise _
    | _ => exact answered_nil
  | ready attempt link =>
    cases event with
    | connect timeout promise => exact answered_one promise _
    | _ => exact answered_nil
  | disconnecting attempt link connects disconnects fault =>
    cases event with
    | connect timeout promise => exact answered_one promise _
    | session request => exact answered_one request.promise _
    | disconnected =>
      exact (answered_answerAll disconnects _).append (answered_answerAll connects _)
    | _ => exact answered_nil
  | failed fault =>
    cases event with
    | disconnect promise => exact answered_one promise _
    | session request => exact answered_one request.promise _
    | _ => exact answered_nil

theorem advance_answers (lifecycle : Lifecycle) (event : Event) :
    Answered (lifecycle.advance event).settled := by
  by_cases stale : lifecycle.Stale event
  · rw [advance_stale stale]
    exact answered_nil
  · rw [advance_current stale]
    exact current_answers lifecycle event

def custody : Custody Lifecycle Event Step Verdict where
  advance := advance
  next := Step.next
  brought := Event.brought
  owed := owed
  settled := Step.settled
  handed step := step.action.handed
  Sound := Sound
  sound_advance _ event sound := advance_sound sound event
  balance_advance lifecycle event _ promise := advance_balances lifecycle event promise

theorem sound_idle : custody.Sound {} := ⟨nofun, nofun, trivial⟩

def after (events : List Event) : Lifecycle := custody.reach {} events

def settlements (events : List Event) : List (Settlement Verdict) := custody.settledBy {} events

def handedOn (events : List Event) : List Ticket := custody.handedBy {} events

theorem after_append (earlier later : List Event) :
    after (earlier ++ later) = custody.reach (after earlier) later :=
  custody.reach_append {} earlier later

theorem after_append_cons (earlier : List Event) (event : Event) (later : List Event) :
    after (earlier ++ event :: later) = custody.reach ((after earlier).advance event).next later :=
  after_append earlier (event :: later)

theorem after_concat (events : List Event) (event : Event) :
    after (events ++ [event]) = ((after events).advance event).next :=
  after_append events [event]

theorem after_sound (events : List Event) : (after events).Sound :=
  custody.sound_reach sound_idle events

theorem settlements_answered (events : List Event) : Answered (settlements events) := by
  induction events using List.reverseRecOn with
  | nil => exact answered_nil
  | append_singleton events event ih =>
    have settled : settlements (events ++ [event]) = _ := custody.settledBy_concat {} events event
    rw [settled]
    exact ih.append (advance_answers (after events) event)

end SecureShell.Connection.Lifecycle
