import SecureShell.Proofs.Connection.Attempt

namespace SecureShell.Connection.Lifecycle

def Begun (attempt : Nat) (events : List Event) : Prop :=
  ∃ earlier timeout promise later, events = earlier ++ .connect timeout promise :: later ∧
    ((after earlier).advance (.connect timeout promise)).action = .connect attempt timeout

-- The attempt was begun, and it brought the link while it was the current one and had none yet.
def Linked (attempt link : Nat) (events : List Event) : Prop :=
  ∃ earlier later, events = earlier ++ .connected attempt link :: later ∧
    (after earlier).attempt? = some attempt ∧ (after earlier).view = .connecting ∧
    Begun attempt earlier

-- What puts an end to the use of the attempt's link, or asks for it.
def Event.Ends (attempt : Nat) : Event → Prop
  | .disconnect _ => True
  | .disconnected other | .fault other _ => other = attempt
  | .connect .. | .session _ | .connected .. | .authenticated _ => False

-- The link of the attempt came up, then it was authenticated while that was under way, and
-- nothing has ended its use since.
def Live (attempt link : Nat) (events : List Event) : Prop :=
  ∃ earlier since, events = earlier ++ .authenticated attempt :: since ∧
    Linked attempt link earlier ∧
    (∃ connects, (after earlier).phase = .authenticating attempt link connects) ∧
    ∀ event ∈ since, ¬ event.Ends attempt

-- Moments at which word of an authentication counts for nothing.
inductive Untimely (attempt : Nat) : List Event → Prop
  | early {events : List Event} (unlinked : ∀ link, ¬ Linked attempt link events) :
      Untimely attempt events
  | foreign {events : List Event} (other : (after events).attempt? ≠ some attempt) :
      Untimely attempt events
  | withdrawn {earlier since : List Event} {promise : Ticket} (begun : Begun attempt earlier) :
      Untimely attempt (earlier ++ .disconnect promise :: since)
  | closing {events : List Event} (state : (after events).view = .disconnecting) :
      Untimely attempt events

variable {lifecycle : Lifecycle} {event : Event} {attempt link timeout : Nat} {promise : Ticket}
  {events : List Event} {connects : List Ticket} {request : SessionRequest}

theorem session_started (started : (lifecycle.advance event).action = .startSession link request) :
    event = .session request ∧ ∃ attempt, lifecycle.phase = .ready attempt link := by
  by_cases stale : lifecycle.Stale event
  · rw [advance_stale stale] at started
    cases event <;> cases started
  rw [advance_current stale] at started
  obtain ⟨phase, attempts⟩ := lifecycle
  cases phase with
  | ready attempt link =>
    cases event with
    | session request =>
      cases started
      exact ⟨rfl, attempt, rfl⟩
    | _ => cases started
  | _ => cases event <;> cases started

theorem connecting_from (arrived : (lifecycle.advance event).next.phase = .connecting attempt connects) :
    (∃ timeout promise, event = .connect timeout promise ∧
      (lifecycle.advance event).action = .connect attempt timeout) ∨
    ∃ before, lifecycle.phase = .connecting attempt before := by
  by_cases stale : lifecycle.Stale event
  · rw [advance_stale stale] at arrived
    exact .inr ⟨connects, arrived⟩
  rw [advance_current stale] at arrived ⊢
  obtain ⟨phase, attempts⟩ := lifecycle
  cases phase with
  | idle | failed =>
    cases event with
    | connect timeout promise =>
      cases arrived
      exact .inl ⟨timeout, promise, rfl, rfl⟩
    | _ => cases arrived
  | connecting running before =>
    right
    cases event with
    | connected | fault | disconnect => cases arrived
    | _ => cases arrived; exact ⟨_, rfl⟩
  | disconnecting running was waiting leaving recorded =>
    cases event with
    | disconnected => cases recorded <;> cases arrived
    | _ => cases arrived
  | authenticating | ready => cases event <;> cases arrived

theorem authenticating_from
    (arrived : (lifecycle.advance event).next.phase = .authenticating attempt link connects) :
    (event = .connected attempt link ∧ lifecycle.phase = .connecting attempt connects) ∨
    ∃ before, lifecycle.phase = .authenticating attempt link before := by
  by_cases stale : lifecycle.Stale event
  · rw [advance_stale stale] at arrived
    exact .inr ⟨connects, arrived⟩
  rw [advance_current stale] at arrived
  have own := own_attempt stale
  obtain ⟨phase, attempts⟩ := lifecycle
  cases phase with
  | connecting running before =>
    cases event with
    | connected number came =>
      cases own number rfl
      cases arrived
      exact .inl ⟨rfl, rfl⟩
    | _ => cases arrived
  | authenticating running was before =>
    right
    cases event with
    | authenticated | disconnected | fault | disconnect => cases arrived
    | _ => cases arrived; exact ⟨_, rfl⟩
  | disconnecting running was waiting leaving recorded =>
    cases event with
    | disconnected => cases recorded <;> cases arrived
    | _ => cases arrived
  | idle | ready | failed => cases event <;> cases arrived

theorem ready_from (arrived : (lifecycle.advance event).next.phase = .ready attempt link) :
    (event = .authenticated attempt ∧
      ∃ connects, lifecycle.phase = .authenticating attempt link connects) ∨
    (lifecycle.phase = .ready attempt link ∧ ¬ event.Ends attempt) := by
  by_cases stale : lifecycle.Stale event
  · rw [advance_stale stale] at arrived
    refine .inr ⟨arrived, ?_⟩
    obtain ⟨number, named, other⟩ := stale
    have state : lifecycle.phase = .ready attempt link := arrived
    intro ends
    cases event with
    | disconnected | fault =>
      cases named
      exact other (by rw [attempt?, state, show number = attempt from ends])
    | connected | authenticated => exact ends
    | connect | disconnect | session => cases named
  rw [advance_current stale] at arrived
  have own := own_attempt stale
  obtain ⟨phase, attempts⟩ := lifecycle
  cases phase with
  | authenticating running was connects =>
    cases event with
    | authenticated number =>
      cases own number rfl
      cases arrived
      exact .inl ⟨rfl, connects, rfl⟩
    | _ => cases arrived
  | ready running was =>
    right
    cases event with
    | disconnected | fault | disconnect => cases arrived
    | _ => cases arrived; exact ⟨rfl, id⟩
  | disconnecting running was waiting leaving recorded =>
    cases event with
    | disconnected => cases recorded <;> cases arrived
    | _ => cases arrived
  | idle | connecting | failed => cases event <;> cases arrived

theorem Begun.append (begun : Begun attempt events) (later : List Event) :
    Begun attempt (events ++ later) := by
  obtain ⟨earlier, timeout, promise, between, rfl, made⟩ := begun
  exact ⟨earlier, timeout, promise, between ++ later, by simp, made⟩

theorem Linked.append (linked : Linked attempt link events) (later : List Event) :
    Linked attempt link (events ++ later) := by
  obtain ⟨earlier, between, rfl, current, state, begun⟩ := linked
  exact ⟨earlier, between ++ later, by simp, current, state, begun⟩

theorem begun_of_connecting (state : (after events).phase = .connecting attempt connects) :
    Begun attempt events := by
  induction events using List.reverseRecOn generalizing connects with
  | nil => cases state
  | append_singleton events event ih =>
    rw [after_concat] at state
    rcases connecting_from state with ⟨timeout, promise, rfl, made⟩ | ⟨before, same⟩
    · exact ⟨events, timeout, promise, [], rfl, made⟩
    · exact (ih same).append [event]

theorem linked_of_authenticating
    (state : (after events).phase = .authenticating attempt link connects) :
    Linked attempt link events := by
  induction events using List.reverseRecOn generalizing connects with
  | nil => cases state
  | append_singleton events event ih =>
    rw [after_concat] at state
    rcases authenticating_from state with ⟨rfl, came⟩ | ⟨before, same⟩
    · refine ⟨events, [], rfl, ?_, ?_, begun_of_connecting came⟩
      · rw [attempt?, came]
      · rw [view, came]
    · exact (ih same).append [event]

theorem live_of_ready (state : (after events).phase = .ready attempt link) :
    Live attempt link events := by
  induction events using List.reverseRecOn with
  | nil => cases state
  | append_singleton events event ih =>
    rw [after_concat] at state
    rcases ready_from state with ⟨rfl, connects, came⟩ | ⟨same, kept⟩
    · exact ⟨events, [], rfl, linked_of_authenticating came, ⟨connects, came⟩, nofun⟩
    · obtain ⟨earlier, since, rfl, linked, going, quiet⟩ := ih same
      refine ⟨earlier, since ++ [event], by simp, linked, going, ?_⟩
      intro other member
      rcases List.mem_append.mp member with before | last
      · exact quiet other before
      · cases List.mem_singleton.mp last
        exact kept

theorem authenticated_ignored
    (other : ∀ link connects, lifecycle.phase ≠ .authenticating attempt link connects) :
    lifecycle.advance (.authenticated attempt) = { next := lifecycle } := by
  by_cases stale : lifecycle.Stale (.authenticated attempt)
  · exact advance_stale stale
  rw [advance_current stale]
  have own := own_attempt stale
  obtain ⟨phase, attempts⟩ := lifecycle
  cases phase with
  | authenticating running link connects =>
    cases own attempt rfl
    exact absurd rfl (other link connects)
  | _ => rfl

-- An attempt that was made and is on no way to a link in use, nor has one.
def Over (lifecycle : Lifecycle) (attempt : Nat) : Prop :=
  attempt ≤ lifecycle.attempts ∧ lifecycle.underway? ≠ some attempt

theorem underway_from (running : (lifecycle.advance event).next.underway? = some attempt) :
    lifecycle.underway? = some attempt ∨ attempt = lifecycle.attempts + 1 := by
  by_cases stale : lifecycle.Stale event
  · rw [advance_stale stale] at running
    exact .inl running
  rw [advance_current stale] at running
  obtain ⟨phase, attempts⟩ := lifecycle
  cases phase with
  | idle | failed =>
    cases event with
    | connect timeout promise => exact .inr (Option.some.inj running).symm
    | _ => cases running
  | connecting =>
    cases event with
    | fault | disconnect => cases running
    | _ => exact .inl running
  | authenticating =>
    cases event with
    | fault | disconnect | disconnected | authenticated => cases running
    | _ => exact .inl running
  | ready => cases event <;> cases running
  | disconnecting going was waiting leaving recorded =>
    cases event with
    | disconnected => cases recorded <;> cases running
    | _ => cases running

theorem over_advance (passed : lifecycle.Over attempt) (event : Event) :
    (lifecycle.advance event).next.Over attempt := by
  obtain ⟨made, idle⟩ := passed
  refine ⟨Nat.le_trans made (attempts_advance lifecycle event), ?_⟩
  intro running
  rcases underway_from running with before | new
  · exact idle before
  · omega

theorem disconnect_over (made : attempt ≤ lifecycle.attempts) (promise : Ticket) :
    (lifecycle.advance (.disconnect promise)).next.Over attempt := by
  refine ⟨Nat.le_trans made (attempts_advance lifecycle _), ?_⟩
  obtain ⟨phase, attempts⟩ := lifecycle
  cases phase <;> nofun

theorem attempt_numbered (made : (lifecycle.advance event).action = .connect attempt timeout) :
    (lifecycle.advance event).next.attempts = attempt := by
  by_cases stale : lifecycle.Stale event
  · rw [advance_stale stale] at made
    cases event <;> cases made
  rw [advance_current stale] at made ⊢
  obtain ⟨phase, attempts⟩ := lifecycle
  cases phase with
  | idle | failed =>
    cases event with
    | connect => cases made; rfl
    | _ => cases made
  | _ => cases event <;> cases made

theorem begun_made (begun : Begun attempt events) : attempt ≤ (after events).attempts := by
  obtain ⟨earlier, timeout, promise, later, rfl, made⟩ := begun
  have numbered := attempt_numbered made
  have kept : ∀ lifecycle event, attempt ≤ lifecycle.attempts →
      attempt ≤ (custody.next (custody.advance lifecycle event)).attempts :=
    fun lifecycle event bound => Nat.le_trans bound (attempts_advance lifecycle event)
  rw [after_append_cons]
  exact custody.reach_keeps kept (Nat.le_of_eq numbered.symm) later

theorem withdrawn_over (begun : Begun attempt events) (promise : Ticket) (since : List Event) :
    (after (events ++ .disconnect promise :: since)).Over attempt := by
  have kept : ∀ lifecycle event, lifecycle.Over attempt →
      (custody.next (custody.advance lifecycle event)).Over attempt :=
    fun _ event passed => over_advance passed event
  rw [after_append_cons]
  exact custody.reach_keeps kept (disconnect_over (begun_made begun) promise) since

theorem untimely_ignored (untimely : Untimely attempt events) :
    (after events).advance (.authenticated attempt) = { next := after events } := by
  apply authenticated_ignored
  intro link connects state
  cases untimely with
  | early unlinked => exact unlinked link (linked_of_authenticating state)
  | foreign other => exact other (by rw [attempt?, state])
  | withdrawn begun => exact (withdrawn_over begun _ _).2 (by rw [underway?, state])
  | closing closing =>
    rw [view, state] at closing
    cases closing

-- Word of an authentication that is early, late or from elsewhere starts nothing.
theorem sessions_run_on_live_links (events : List Event) :
    (∀ event link request, ((after events).advance event).action = .startSession link request →
      event = .session request ∧ ∃ attempt, Live attempt link events) ∧
    ∀ attempt, Untimely attempt events →
      (after events).advance (.authenticated attempt) = { next := after events } := by
  refine ⟨?_, fun attempt => untimely_ignored⟩
  intro event link request started
  obtain ⟨asked, attempt, state⟩ := session_started started
  exact ⟨asked, attempt, live_of_ready state⟩

-- The first attempt is called off while it authenticates, and its authentication comes too
-- late. The second is told of before it has a link, and then gets through.
def secondAttempt : List Event :=
  [.connect 30 1, .connected 1 8, .disconnect 2, .authenticated 1, .disconnected 1,
   .connect 30 3, .authenticated 2, .connected 2 9, .connected 2 7, .authenticated 2]

theorem sessions_run_on_live_links_second :
    ((after secondAttempt).advance (.session ⟨30, 4⟩)).action = .startSession 9 ⟨30, 4⟩ ∧
    (∃ attempt, Live attempt 9 secondAttempt) ∧
    Begun 1 (secondAttempt.take 2) ∧
    (after (secondAttempt.take 3)).advance (.authenticated 1) =
      { next := after (secondAttempt.take 3) } := by
  have started : ((after secondAttempt).advance (.session ⟨30, 4⟩)).action =
      .startSession 9 ⟨30, 4⟩ := rfl
  have begun : Begun 1 (secondAttempt.take 2) := ⟨[], 30, 1, _, rfl, rfl⟩
  have late : Untimely 1 (secondAttempt.take 2 ++ .disconnect 2 :: []) := .withdrawn begun
  obtain ⟨sessions, _⟩ := sessions_run_on_live_links secondAttempt
  exact ⟨started, (sessions _ _ _ started).2, begun,
    (sessions_run_on_live_links (secondAttempt.take 3)).2 1 late⟩

end SecureShell.Connection.Lifecycle
