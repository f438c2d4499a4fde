import SecureShell.Proofs.Connection.Conservation

namespace SecureShell.Connection.Lifecycle

-- The promise that an attempt takes along by one event: the request that starts the attempt
-- and every one that is queued while it is under way.
def joins (lifecycle : Lifecycle) (event : Event) (attempt : Nat) : List Ticket :=
  match event with
  | .connect _ promise =>
    if (lifecycle.advance event).next.underway? = some attempt then [promise] else []
  | _ => []

def joinedFrom (attempt : Nat) : Lifecycle → List Event → List Ticket
  | _, [] => []
  | lifecycle, event :: events =>
    lifecycle.joins event attempt ++ joinedFrom attempt (lifecycle.advance event).next events

def joined (attempt : Nat) (events : List Event) : List Ticket := joinedFrom attempt {} events

-- What decides an attempt, told by the phase alone.
inductive Settles (attempt : Nat) : Phase → Event → Verdict → Prop
  | authenticated :
      Settles attempt (.authenticating attempt link connects) (.authenticated attempt) (.ok ())
  | withdrawn :
      Settles attempt (.connecting attempt connects) (.disconnect promise) (.error .cancelled)
  | cancelled :
      Settles attempt (.authenticating attempt link connects) (.disconnect promise)
        (.error .cancelled)
  | failed {fault : ConnectionFault} :
      Settles attempt (.connecting attempt connects) (.fault attempt fault) (.error fault)
  | lost :
      Settles attempt (.authenticating attempt link connects) (.disconnected attempt)
        (.error .unknown)
  | torn {fault : ConnectionFault} :
      Settles attempt (.disconnecting attempt link connects disconnects (some fault))
        (.disconnected attempt) (.error fault)

-- What decides an attempt, told by the events alone: after `earlier`, this event brings this
-- verdict. A fault met while authenticating counts when the link is gone, and then the first.
inductive Decides (attempt : Nat) : List Event → Event → Verdict → Prop
  | authenticated {earlier : List Event}
      (state : (after earlier).phase = .authenticating attempt link connects) :
      Decides attempt earlier (.authenticated attempt) (.ok ())
  | cancelled {earlier : List Event} (state : (after earlier).underway? = some attempt) :
      Decides attempt earlier (.disconnect promise) (.error .cancelled)
  | failed {earlier : List Event} {fault : ConnectionFault}
      (state : (after earlier).phase = .connecting attempt connects) :
      Decides attempt earlier (.fault attempt fault) (.error fault)
  | lost {earlier : List Event}
      (state : (after earlier).phase = .authenticating attempt link connects) :
      Decides attempt earlier (.disconnected attempt) (.error .unknown)
  | torn {earlier between : List Event} {fault : ConnectionFault}
      (state : (after earlier).phase = .authenticating attempt link connects)
      (kept : .disconnected attempt ∉ between) :
      Decides attempt (earlier ++ .fault attempt fault :: between) (.disconnected attempt)
        (.error fault)

variable {lifecycle : Lifecycle} {event : Event} {attempt link : Nat} {promise : Ticket}
  {events earlier later : List Event} {connects disconnects : List Ticket}
  {recorded : Option ConnectionFault} {verdict : Verdict}

theorem own_attempt (fresh : ¬ lifecycle.Stale event) (number : Nat)
    (named : event.attempt? = some number) : lifecycle.attempt? = some number :=
  Decidable.byContradiction fun other => fresh ⟨number, named, other⟩

theorem stale_joins_nothing (stale : lifecycle.Stale event) : lifecycle.joins event attempt = [] := by
  obtain ⟨_, named, _⟩ := stale
  cases event with
  | connect => cases named
  | _ => rfl

theorem current_keeps_or_settles (fresh : ¬ lifecycle.Stale event) (sound : lifecycle.Sound)
    (attempt : Nat) :
    (lifecycle.current event).next.waiting attempt =
        lifecycle.waiting attempt ++ lifecycle.joins event attempt ∨
      ∃ verdict, Settles attempt lifecycle.phase event verdict := by
  have own := own_attempt fresh
  have calm := sound.calm
  obtain ⟨phase, attempts⟩ := lifecycle
  cases phase with
  | idle | failed fault =>
    left
    cases event <;> simp [current, begin, waiting, joins, advance, Event.attempt?, underway?]
  | connecting running connects =>
    by_cases same : running = attempt
    · subst same
      cases event with
      | disconnect promise => exact .inr ⟨_, .withdrawn⟩
      | fault number fault =>
        cases own number rfl
        exact .inr ⟨_, .failed⟩
      | _ => left; simp [current, enter, waiting, joins, advance, Event.attempt?, underway?]
    · left
      cases event <;> simp [current, enter, waiting, joins, advance, Event.attempt?, underway?, same]
  | authenticating running link connects =>
    by_cases same : running = attempt
    · subst same
      cases event with
      | disconnect promise => exact .inr ⟨_, .cancelled⟩
      | authenticated number =>
        cases own number rfl
        exact .inr ⟨_, .authenticated⟩
      | disconnected number =>
        cases own number rfl
        exact .inr ⟨_, .lost⟩
      | _ => left; simp [current, enter, waiting, joins, advance, Event.attempt?, underway?]
    · left
      cases event <;> simp [current, enter, waiting, joins, advance, Event.attempt?, underway?, same]
  | ready running link =>
    left
    cases event <;> simp [current, enter, waiting, joins, advance, Event.attempt?, underway?]
  | disconnecting running link connects disconnects recorded =>
    by_cases same : running = attempt
    · subst same
      cases event with
      | disconnected number =>
        cases own number rfl
        cases recorded with
        | none =>
          left
          simp only [current, torn_waits_for_nothing, joins]
          simp [waiting, show connects = [] from calm rfl]
        | some fault => exact .inr ⟨_, .torn⟩
      | _ => left; simp [current, enter, waiting, joins, advance, Event.attempt?, underway?]
    · left
      cases event with
      | disconnected number =>
        simp only [current, torn_waits_for_nothing, joins]
        simp [waiting, same]
      | _ => simp [current, enter, waiting, joins, advance, Event.attempt?, underway?, same]

theorem keeps_or_settles (sound : lifecycle.Sound) (event : Event) (attempt : Nat) :
    (lifecycle.advance event).next.waiting attempt =
        lifecycle.waiting attempt ++ lifecycle.joins event attempt ∨
      ∃ verdict, Settles attempt lifecycle.phase event verdict := by
  by_cases stale : lifecycle.Stale event
  · left
    rw [advance_stale stale, stale_joins_nothing stale, List.append_nil]
  · rw [advance_current stale]
    exact current_keeps_or_settles stale sound attempt

theorem settles_fresh (settles : Settles attempt lifecycle.phase event verdict) :
    ¬ lifecycle.Stale event := by
  obtain ⟨phase, attempts⟩ := lifecycle
  rintro ⟨number, named, other⟩
  cases settles with
  | withdrawn | cancelled => cases named
  | authenticated | failed | lost | torn => exact other named

theorem settles_answers (settles : Settles attempt lifecycle.phase event verdict)
    (waits : promise ∈ lifecycle.waiting attempt) :
    .answer promise verdict ∈ (lifecycle.advance event).settled := by
  rw [advance_current (settles_fresh settles)]
  obtain ⟨phase, attempts⟩ := lifecycle
  cases settles with
  | withdrawn | torn =>
    simp only [waiting, if_true] at waits
    simp [current, enter, torn, Settlement.answer_mem_answerAll _ waits]
  | authenticated | cancelled | failed | lost =>
    simp only [waiting, if_true] at waits
    exact Settlement.answer_mem_answerAll _ waits

theorem settles_ends (settles : Settles attempt lifecycle.phase event verdict) :
    (lifecycle.advance event).next.waiting attempt = [] ∧ lifecycle.joins event attempt = [] := by
  rw [advance_current (settles_fresh settles)]
  obtain ⟨phase, attempts⟩ := lifecycle
  cases settles with
  | torn => exact ⟨torn_waits_for_nothing _ _ _ _ _, rfl⟩
  | cancelled => exact ⟨if_pos rfl, rfl⟩
  | authenticated | withdrawn | failed | lost => exact ⟨rfl, rfl⟩

theorem attempts_advance (lifecycle : Lifecycle) (event : Event) :
    lifecycle.attempts ≤ (lifecycle.advance event).next.attempts := by
  by_cases stale : lifecycle.Stale event
  · exact Nat.le_of_eq (congrArg (·.next.attempts) (advance_stale stale)).symm
  · rw [advance_current stale]
    obtain ⟨phase, attempts⟩ := lifecycle
    cases phase <;> cases event <;> simp [current, begin, enter, torn]

theorem joins_underway (taken : promise ∈ lifecycle.joins event attempt) :
    lifecycle.underway? = some attempt ∨ attempt = lifecycle.attempts + 1 := by
  cases event with
  | connect timeout asked =>
    obtain ⟨begun, _⟩ := List.mem_ite_nil_right.mp taken
    obtain ⟨phase, attempts⟩ := lifecycle
    cases phase with
    | idle | failed fault => exact .inr (Option.some.inj begun).symm
    | connecting running connects => exact .inl begun
    | authenticating running link connects => exact .inl begun
    | ready running link => cases begun
    | disconnecting running link connects disconnects recorded => cases begun
  | _ => cases taken

-- An attempt that was made and for which nobody waits any more.
def Passed (lifecycle : Lifecycle) (attempt : Nat) : Prop :=
  attempt ≤ lifecycle.attempts ∧ lifecycle.waiting attempt = []

theorem passed_joins_nothing (sound : lifecycle.Sound) (passed : lifecycle.Passed attempt)
    (event : Event) : lifecycle.joins event attempt = [] := by
  rw [List.eq_nil_iff_forall_not_mem]
  intro promise taken
  rcases joins_underway taken with running | new
  · exact sound.sought attempt running passed.2
  · have made := passed.1
    omega

theorem passed_advance (sound : lifecycle.Sound) (passed : lifecycle.Passed attempt)
    (event : Event) : (lifecycle.advance event).next.Passed attempt := by
  refine ⟨Nat.le_trans passed.1 (attempts_advance lifecycle event), ?_⟩
  rcases keeps_or_settles sound event attempt with kept | ⟨verdict, settles⟩
  · rw [kept, passed.2, passed_joins_nothing sound passed event, List.append_nil]
  · exact (settles_ends settles).1

theorem joinedFrom_passed (sound : lifecycle.Sound) (passed : lifecycle.Passed attempt)
    (events : List Event) : joinedFrom attempt lifecycle events = [] := by
  induction events generalizing lifecycle with
  | nil => rfl
  | cons event events ih =>
    have later := ih (advance_sound sound event) (passed_advance sound passed event)
    rw [joinedFrom, passed_joins_nothing sound passed event, later, List.append_nil]

theorem settles_passes (sound : lifecycle.Sound)
    (settles : Settles attempt lifecycle.phase event verdict) :
    (lifecycle.advance event).next.Passed attempt := by
  have running : lifecycle.attempt? = some attempt := by
    obtain ⟨phase, attempts⟩ := lifecycle
    cases settles <;> rfl
  have made := sound.numbered attempt running
  exact ⟨Nat.le_trans made (attempts_advance lifecycle event), (settles_ends settles).1⟩

theorem disconnecting_stays
    (state : lifecycle.phase = .disconnecting attempt link connects disconnects recorded)
    (other : event ≠ .disconnected attempt) :
    ∃ more kept,
      (lifecycle.advance event).next.phase =
        .disconnecting attempt link connects (disconnects ++ more) kept ∧
      ∀ fault, recorded = some fault → kept = some fault := by
  by_cases stale : lifecycle.Stale event
  · rw [advance_stale stale]
    exact ⟨[], recorded, by rw [state, List.append_nil], fun _ same => same⟩
  rw [advance_current stale]
  have own := own_attempt stale
  obtain ⟨phase, attempts⟩ := lifecycle
  cases state
  cases event with
  | disconnect promise => exact ⟨[promise], recorded, rfl, fun _ same => same⟩
  | fault number fault =>
    refine ⟨[], recorded.or (some fault), by rw [List.append_nil]; rfl, ?_⟩
    rintro first rfl
    rfl
  | disconnected number =>
    cases own number rfl
    exact absurd rfl other
  | connect | session | connected | authenticated =>
    exact ⟨[], recorded, by rw [List.append_nil]; rfl, fun _ same => same⟩

theorem disconnecting_from
    (arrived : (lifecycle.advance event).next.phase =
      .disconnecting attempt link connects disconnects recorded)
    (waited : connects ≠ []) :
    (∃ fault, event = .fault attempt fault ∧ recorded = some fault ∧
      lifecycle.phase = .authenticating attempt link connects) ∨
    (event ≠ .disconnected attempt ∧ ∃ before older,
      lifecycle.phase = .disconnecting attempt link connects before older ∧
      ∀ fault, older = some fault → recorded = some fault) := by
  by_cases stale : lifecycle.Stale event
  · rw [advance_stale stale] at arrived
    refine .inr ⟨?_, disconnects, recorded, arrived, fun _ same => same⟩
    rintro rfl
    obtain ⟨number, named, other⟩ := stale
    cases named
    exact other (by simp [attempt?, show lifecycle.phase = _ from arrived])
  rw [advance_current stale] at arrived
  have own := own_attempt stale
  obtain ⟨phase, attempts⟩ := lifecycle
  cases phase with
  | idle | failed | connecting => cases event <;> cases arrived
  | authenticating running was connected =>
    cases event with
    | fault number fault =>
      cases own number rfl
      cases arrived
      exact .inl ⟨fault, rfl, rfl, rfl⟩
    | disconnect promise =>
      cases arrived
      exact absurd rfl waited
    | _ => cases arrived
  | ready running was =>
    cases event with
    | fault | disconnect =>
      cases arrived
      exact absurd rfl waited
    | _ => cases arrived
  | disconnecting running was connected before older =>
    cases event with
    | disconnected number => cases older <;> cases arrived
    | fault number fault =>
      cases arrived
      refine .inr ⟨by rintro ⟨⟩, _, older, rfl, ?_⟩
      rintro first rfl
      rfl
    | connect | disconnect | session | connected | authenticated =>
      cases arrived
      exact .inr ⟨by rintro ⟨⟩, _, _, rfl, fun _ same => same⟩

theorem fault_traced
    (state : (after events).phase = .disconnecting attempt link connects disconnects recorded)
    (waited : connects ≠ []) :
    ∃ fault earlier between, recorded = some fault ∧
      events = earlier ++ .fault attempt fault :: between ∧
      (after earlier).phase = .authenticating attempt link connects ∧
      .disconnected attempt ∉ between := by
  induction events using List.reverseRecOn generalizing disconnects recorded with
  | nil => cases state
  | append_singleton events event ih =>
    rw [after_concat] at state
    rcases disconnecting_from state waited with
      ⟨fault, rfl, same, began⟩ | ⟨other, _, older, going, first⟩
    · exact ⟨fault, events, [], same, rfl, began, List.not_mem_nil⟩
    · obtain ⟨fault, earlier, between, same, rfl, began, kept⟩ := ih going
      refine ⟨fault, earlier, between ++ [event], first fault same, by simp, began, ?_⟩
      simp [kept, other.symm]

-- A teardown for a fault, and those who wait to hear of it.
def TearsDown (attempt : Nat) (connects : List Ticket) (fault : ConnectionFault)
    (lifecycle : Lifecycle) : Prop :=
  ∃ link disconnects,
    lifecycle.phase = .disconnecting attempt link connects disconnects (some fault)

def Closes (attempt : Nat) (promise : Ticket) (lifecycle : Lifecycle) : Prop :=
  ∃ link connects disconnects recorded,
    lifecycle.phase = .disconnecting attempt link connects disconnects recorded ∧
      promise ∈ disconnects

theorem tearsDown_stays {fault : ConnectionFault} (going : TearsDown attempt connects fault lifecycle)
    (kept : .disconnected attempt ∉ events) :
    TearsDown attempt connects fault (custody.reach lifecycle events) := by
  refine custody.reach_keeps_under (TearsDown attempt connects fault) ?_ going
  rintro event member lifecycle ⟨link, disconnects, state⟩
  have other : event ≠ .disconnected attempt := by
    rintro rfl
    exact kept member
  obtain ⟨more, recorded, stays, first⟩ := disconnecting_stays state other
  exact ⟨link, _, first fault rfl ▸ stays⟩

theorem closes_stays (going : Closes attempt promise lifecycle)
    (kept : .disconnected attempt ∉ events) :
    Closes attempt promise (custody.reach lifecycle events) := by
  refine custody.reach_keeps_under (Closes attempt promise) ?_ going
  rintro event member lifecycle ⟨link, connects, disconnects, recorded, state, waits⟩
  have other : event ≠ .disconnected attempt := by
    rintro rfl
    exact kept member
  obtain ⟨more, recorded, stays, _⟩ := disconnecting_stays state other
  exact ⟨link, connects, _, recorded, stays, List.mem_append_left more waits⟩

theorem fault_begins_teardown (state : lifecycle.phase = .authenticating attempt link connects)
    (fault : ConnectionFault) :
    TearsDown attempt connects fault (lifecycle.advance (.fault attempt fault)).next := by
  obtain ⟨phase, attempts⟩ := lifecycle
  cases state
  refine ⟨link, [], ?_⟩
  simp [advance, Event.attempt?, attempt?, current, enter]

theorem settles_of_decides (decides : Decides attempt earlier event verdict) :
    Settles attempt (after earlier).phase event verdict := by
  cases decides with
  | authenticated state =>
    rw [state]
    exact .authenticated
  | cancelled state =>
    unfold underway? at state
    split at state
    · rename_i phase
      cases state
      rw [phase]
      exact .withdrawn
    · rename_i phase
      cases state
      rw [phase]
      exact .cancelled
    all_goals cases state
  | failed state =>
    rw [state]
    exact .failed
  | lost state =>
    rw [state]
    exact .lost
  | torn state kept =>
    rw [after_append]
    obtain ⟨link, disconnects, going⟩ := tearsDown_stays (fault_begins_teardown state _) kept
    have arrived : (custody.reach (after _) (.fault attempt _ :: _)).phase = _ := going
    rw [arrived]
    exact .torn

theorem decides_of_settles (settles : Settles attempt (after events).phase event verdict)
    (waited : (after events).waiting attempt ≠ []) : Decides attempt events event verdict := by
  generalize state : (after events).phase = phase at settles
  cases settles with
  | authenticated => exact .authenticated state
  | withdrawn => exact .cancelled (by rw [underway?, state])
  | cancelled => exact .cancelled (by rw [underway?, state])
  | failed => exact .failed state
  | lost => exact .lost state
  | torn =>
    rw [waiting, state] at waited
    have connected := by simpa using waited
    obtain ⟨fault, earlier, between, same, rfl, began, kept⟩ := fault_traced state connected
    cases same
    exact .torn began kept

theorem joinedFrom_append (attempt : Nat) (lifecycle : Lifecycle) (earlier later : List Event) :
    joinedFrom attempt lifecycle (earlier ++ later) =
      joinedFrom attempt lifecycle earlier ++
        joinedFrom attempt (custody.reach lifecycle earlier) later := by
  induction earlier generalizing lifecycle with
  | nil => rfl
  | cons event earlier ih =>
    rw [List.cons_append, joinedFrom, ih, joinedFrom, List.append_assoc]
    rfl

theorem joined_concat (attempt : Nat) (events : List Event) (event : Event) :
    joined attempt (events ++ [event]) =
      joined attempt events ++ (after events).joins event attempt := by
  rw [joined, joinedFrom_append, joinedFrom, joinedFrom, List.append_nil]
  rfl

theorem decides_waited (decides : Decides attempt earlier event verdict) :
    (after earlier).waiting attempt ≠ [] := by
  have sought : ∀ events, (after events).underway? = some attempt →
      (after events).waiting attempt ≠ [] := fun events => (after_sound events).sought attempt
  cases decides with
  | authenticated state => exact sought earlier (by rw [underway?, state])
  | cancelled state => exact sought earlier state
  | failed state => exact sought earlier (by rw [underway?, state])
  | lost state => exact sought earlier (by rw [underway?, state])
  | @torn connects link earlier between fault state kept =>
    have waited := sought earlier (by rw [underway?, state])
    obtain ⟨link, disconnects, going⟩ := tearsDown_stays (fault_begins_teardown state fault) kept
    have arrived : (after (earlier ++ .fault attempt fault :: between)).phase = _ :=
      (congrArg Lifecycle.phase (after_append _ _)).trans going
    rw [waiting, state] at waited
    rw [waiting, arrived]
    exact waited

theorem waiting_or_decided (events : List Event) (attempt : Nat) :
    (after events).waiting attempt = joined attempt events ∨
      ∃ earlier event later verdict,
        events = earlier ++ event :: later ∧ Decides attempt earlier event verdict := by
  induction events using List.reverseRecOn with
  | nil => exact .inl rfl
  | append_singleton events event ih =>
    rcases ih with kept | ⟨earlier, deciding, later, verdict, rfl, decides⟩
    · rcases keeps_or_settles (after_sound events) event attempt with keeps | ⟨verdict, settles⟩
      · left
        rw [after_concat, keeps, kept, joined_concat]
      · by_cases waited : (after events).waiting attempt = []
        · left
          obtain ⟨ended, nobody⟩ := settles_ends settles
          rw [after_concat, ended, joined_concat, nobody, ← kept, waited, List.append_nil]
        · exact .inr ⟨events, event, [], verdict, rfl, decides_of_settles settles waited⟩
    · exact .inr ⟨earlier, deciding, later ++ [event], verdict, by simp, decides⟩

theorem passed_after_decides (decides : Decides attempt earlier event verdict)
    (later : List Event) : (after (earlier ++ event :: later)).Passed attempt := by
  have settles := settles_of_decides decides
  have sound := after_sound earlier
  rw [after_append]
  refine (custody.reach_keeps_under (fun lifecycle => lifecycle.Sound ∧ lifecycle.Passed attempt) ?_
    ⟨advance_sound sound event, settles_passes sound settles⟩).2
  intro event _ lifecycle ⟨sound, passed⟩
  exact ⟨advance_sound sound event, passed_advance sound passed event⟩

theorem waiting_of_decides (decides : Decides attempt earlier event verdict) :
    (after earlier).waiting attempt = joined attempt earlier := by
  rcases waiting_or_decided earlier attempt with kept | ⟨first, deciding, between, other, rfl, before⟩
  · exact kept
  · exact absurd (passed_after_decides before between).2 (decides_waited decides)

theorem joined_of_decides (decides : Decides attempt earlier event verdict) (later : List Event) :
    joined attempt (earlier ++ event :: later) = (after earlier).waiting attempt := by
  have settles := settles_of_decides decides
  have sound := after_sound earlier
  have nobody := joinedFrom_passed (advance_sound sound event) (settles_passes sound settles) later
  have here : joinedFrom attempt (after earlier) (event :: later) = [] := by
    rw [joinedFrom, (settles_ends settles).2, nobody, List.append_nil]
  rw [waiting_of_decides decides, joined, joinedFrom_append]
  exact (congrArg (joinedFrom attempt {} earlier ++ ·) here).trans (List.append_nil _)

end SecureShell.Connection.Lifecycle
