import SecureShell.Proofs.Connection.Attempt

namespace SecureShell.Connection.Lifecycle
open Settlement (fates Answered)

-- One outcome for all whom an attempt has taken along: they get the verdict in the step of
-- the deciding event and in no other, and until there is one they wait.
structure FansOut (attempt : Nat) (events : List Event) : Prop where
  decided : ∀ earlier event later verdict, events = earlier ++ event :: later →
    Decides attempt earlier event verdict → ∀ promise ∈ joined attempt events,
      custody.SettledAt {} earlier event later promise (.answered verdict)
  undecided :
    (∀ earlier event later verdict, events = earlier ++ event :: later →
      ¬ Decides attempt earlier event verdict) →
    (after events).waiting attempt = joined attempt events ∧
      ∀ promise ∈ joined attempt events, fates (settlements events) promise = []

-- What comes of the request for a connection made after `earlier`. Where it is not answered
-- at once, it belongs to the attempt that is under way with it.
def Connects (earlier : List Event) (timeout : Nat) (promise : Ticket) (later : List Event) :
    Prop :=
  match (after earlier).phase with
  | .ready .. =>
    custody.SettledAt {} earlier (.connect timeout promise) later promise (.answered (.ok ()))
  | .disconnecting .. =>
    custody.SettledAt {} earlier (.connect timeout promise) later promise
      (.answered (.error .requiresActive))
  | .idle | .connecting .. | .authenticating .. | .failed _ =>
    ∃ attempt, (after (earlier ++ [.connect timeout promise])).underway? = some attempt ∧
      promise ∈ joined attempt (earlier ++ .connect timeout promise :: later)

-- What comes of the wish to disconnect: granted at once where no link is up, and otherwise as
-- soon as the link of the attempt is gone.
def Disconnects (earlier : List Event) (promise : Ticket) (later : List Event) : Prop :=
  match (after earlier).phase with
  | .idle | .connecting .. | .failed _ =>
    custody.SettledAt {} earlier (.disconnect promise) later promise (.answered (.ok ()))
  | .authenticating attempt _ _ | .ready attempt _ | .disconnecting attempt _ _ _ _ =>
    (.disconnected attempt ∉ later ∧
      promise ∈ (after (earlier ++ .disconnect promise :: later)).owed) ∨
    ∃ between rest, later = between ++ .disconnected attempt :: rest ∧
      .disconnected attempt ∉ between ∧
      custody.SettledAt {} (earlier ++ .disconnect promise :: between) (.disconnected attempt) rest
        promise (.answered (.ok ()))

-- What comes of the request for a session: over a link that is ready it is handed on with the
-- start, and from then on it is not this lifecycle that answers it.
def StartsSession (earlier : List Event) (request : SessionRequest) (later : List Event) : Prop :=
  match (after earlier).phase with
  | .ready _ link =>
    ((after earlier).advance (.session request)).action = .startSession link request ∧
      (handedOn (earlier ++ .session request :: later)).count request.promise = 1
  | .idle | .connecting .. | .authenticating .. | .disconnecting .. | .failed _ =>
    custody.SettledAt {} earlier (.session request) later request.promise
      (.answered (.error .requiresActive))

def Handled (earlier : List Event) (event : Event) (later : List Event) : Prop :=
  match event with
  | .connect timeout promise => Connects earlier timeout promise later
  | .disconnect promise => Disconnects earlier promise later
  | .session request => StartsSession earlier request later
  | .connected .. | .authenticated _ | .disconnected _ | .fault .. => event.brought = []

variable {earlier later events : List Event} {event : Event} {promise : Ticket} {verdict : Verdict}
  {attempt : Nat} {lifecycle : Lifecycle} {request : SessionRequest}

theorem settled_at (fresh : (custody.broughtBy (earlier ++ event :: later)).Nodup)
    (found : .answer promise verdict ∈ ((after earlier).advance event).settled) :
    custody.SettledAt {} earlier event later promise (.answered verdict) :=
  custody.settled_once sound_idle earlier (List.nodup_iff_count.mp fresh promise) found

theorem mem_owed_of_waiting (waits : promise ∈ lifecycle.waiting attempt) :
    promise ∈ lifecycle.owed := by
  obtain ⟨phase, attempts⟩ := lifecycle
  cases phase with
  | idle | ready | failed => cases waits
  | connecting | authenticating => exact (List.mem_ite_nil_right.mp waits).2
  | disconnecting => exact List.mem_append_left _ (List.mem_ite_nil_right.mp waits).2

theorem owed_of_closes (going : Closes attempt promise lifecycle) : promise ∈ lifecycle.owed := by
  obtain ⟨link, connects, disconnects, recorded, state, waits⟩ := going
  rw [owed, state]
  exact List.mem_append_right connects waits

theorem unsettled_of_owed (fresh : (custody.broughtBy events).Nodup)
    (kept : promise ∈ (after events).owed) : fates (settlements events) promise = [] := by
  have silent : custody.Silent promise (custody.steps {} events) :=
    custody.silent_of_owed sound_idle (List.nodup_iff_count.mp fresh promise) kept
  exact (custody.silent_iff promise {} events).mp silent

theorem fansOut (fresh : (custody.broughtBy events).Nodup) (attempt : Nat) :
    FansOut attempt events := by
  constructor
  · rintro earlier event later verdict rfl decides promise taken
    rw [joined_of_decides decides later] at taken
    exact settled_at fresh (settles_answers (settles_of_decides decides) taken)
  · intro undecided
    rcases waiting_or_decided events attempt with
      kept | ⟨earlier, event, later, verdict, split, decides⟩
    · refine ⟨kept, ?_⟩
      intro promise taken
      rw [← kept] at taken
      exact unsettled_of_owed fresh (mem_owed_of_waiting taken)
    · exact absurd decides (undecided earlier event later verdict split)

theorem joined_takes {timeout : Nat}
    (running : (after (earlier ++ [.connect timeout promise])).underway? = some attempt)
    (later : List Event) : promise ∈ joined attempt (earlier ++ .connect timeout promise :: later) := by
  rw [after_concat] at running
  have taken : promise ∈ (after earlier).joins (.connect timeout promise) attempt :=
    List.mem_ite_nil_right.mpr ⟨running, List.mem_singleton_self promise⟩
  rw [joined, joinedFrom_append]
  exact List.mem_append_right _ (List.mem_append_left _ taken)

theorem connect_outcome {timeout : Nat}
    (fresh : (custody.broughtBy (earlier ++ .connect timeout promise :: later)).Nodup) :
    Connects earlier timeout promise later := by
  have begun := after_concat earlier (.connect timeout promise)
  unfold Connects
  cases state : (after earlier).phase with
  | ready running link =>
    exact settled_at fresh (by simp [advance, Event.attempt?, current, state, answer])
  | disconnecting running link connects disconnects recorded =>
    exact settled_at fresh (by simp [advance, Event.attempt?, current, state, answer])
  | connecting running connects | authenticating running link connects =>
    have running : (after (earlier ++ [.connect timeout promise])).underway? = some running := by
      simp [begun, advance, Event.attempt?, current, state, enter, underway?]
    exact ⟨_, running, joined_takes running later⟩
  | idle | failed fault =>
    have running : (after (earlier ++ [.connect timeout promise])).underway? =
        some ((after earlier).attempts + 1) := by
      simp [begun, advance, Event.attempt?, current, state, begin, underway?]
    exact ⟨_, running, joined_takes running later⟩

theorem disconnect_closes (state : lifecycle.attempt? = some attempt) (up : lifecycle.link? ≠ none)
    (promise : Ticket) : Closes attempt promise (lifecycle.advance (.disconnect promise)).next := by
  obtain ⟨phase, attempts⟩ := lifecycle
  cases phase with
  | idle | failed => cases state
  | connecting => exact absurd rfl up
  | authenticating | ready =>
    cases state
    exact ⟨_, _, _, _, rfl, List.mem_singleton_self promise⟩
  | disconnecting running link connects disconnects recorded =>
    cases state
    exact ⟨_, _, _, _, rfl, List.mem_append_right disconnects (List.mem_singleton_self promise)⟩

theorem closes_answers (going : Closes attempt promise lifecycle) :
    .answer promise (.ok ()) ∈ (lifecycle.advance (.disconnected attempt)).settled := by
  obtain ⟨link, connects, disconnects, recorded, state, waits⟩ := going
  have running : lifecycle.attempt? = some attempt := by rw [attempt?, state]
  simp only [advance, Event.attempt?, running, if_true, current, state]
  exact List.mem_append_left _ (Settlement.answer_mem_answerAll _ waits)

theorem closing_outcome
    (fresh : (custody.broughtBy (earlier ++ .disconnect promise :: later)).Nodup)
    (state : (after earlier).attempt? = some attempt) (up : (after earlier).link? ≠ none) :
    (.disconnected attempt ∉ later ∧
      promise ∈ (after (earlier ++ .disconnect promise :: later)).owed) ∨
    ∃ between rest, later = between ++ .disconnected attempt :: rest ∧
      .disconnected attempt ∉ between ∧
      custody.SettledAt {} (earlier ++ .disconnect promise :: between) (.disconnected attempt) rest
        promise (.answered (.ok ())) := by
  have closes := disconnect_closes state up promise
  by_cases gone : .disconnected attempt ∈ later
  · obtain ⟨between, rest, rfl, kept⟩ := List.eq_append_cons_of_mem gone
    have split : earlier ++ .disconnect promise :: (between ++ .disconnected attempt :: rest) =
        (earlier ++ .disconnect promise :: between) ++ .disconnected attempt :: rest := by
      simp
    have going : Closes attempt promise (after (earlier ++ .disconnect promise :: between)) := by
      rw [after_append_cons]
      exact closes_stays closes kept
    rw [split] at fresh
    exact .inr ⟨between, rest, rfl, kept, settled_at fresh (closes_answers going)⟩
  · refine .inl ⟨gone, ?_⟩
    rw [after_append_cons]
    exact owed_of_closes (closes_stays closes gone)

theorem disconnect_outcome
    (fresh : (custody.broughtBy (earlier ++ .disconnect promise :: later)).Nodup) :
    Disconnects earlier promise later := by
  unfold Disconnects
  cases state : (after earlier).phase with
  | idle | connecting | failed =>
    exact settled_at fresh (by simp [advance, Event.attempt?, current, enter, state, answer])
  | authenticating | ready | disconnecting =>
    exact closing_outcome fresh (by rw [attempt?, state]) (by simp [link?, state])

theorem session_outcome
    (fresh : (custody.broughtBy (earlier ++ .session request :: later)).Nodup) :
    StartsSession earlier request later := by
  unfold StartsSession
  cases state : (after earlier).phase with
  | ready running link =>
    have started : ((after earlier).advance (.session request)).action = .startSession link request := by
      simp [advance, Event.attempt?, current, state]
    have brought : request.promise ∈ custody.broughtBy (earlier ++ .session request :: later) := by
      rw [Custody.broughtBy_append, Custody.broughtBy_cons]
      exact List.mem_append_right _ (List.mem_append_left _ (List.mem_singleton_self _))
    have handed : request.promise ∈ handedOn (earlier ++ .session request :: later) := by
      have here : custody.handed ((after earlier).advance (.session request)) = [request.promise] :=
        congrArg Action.handed started
      rw [handedOn, Custody.handedBy_append, Custody.handedBy_cons]
      refine List.mem_append_right _ (List.mem_append_left _ ?_)
      exact here ▸ List.mem_singleton_self request.promise
    have once := custody.kept_once sound_idle rfl fresh brought
    have present := List.count_pos_iff.mpr handed
    refine ⟨started, ?_⟩
    unfold handedOn at present ⊢
    omega
  | idle | connecting | authenticating | disconnecting | failed =>
    exact settled_at fresh (by simp [advance, Event.attempt?, current, state, answer])

theorem handled (fresh : (custody.broughtBy (earlier ++ event :: later)).Nodup) :
    Handled earlier event later := by
  cases event with
  | connect timeout promise => exact connect_outcome fresh
  | disconnect promise => exact disconnect_outcome fresh
  | session request => exact session_outcome fresh
  | connected | authenticated | disconnected | fault => rfl

-- All whom an attempt has taken along get one verdict, and every other request what its moment says.
theorem completion_outcomes {events : List Event} (fresh : (custody.broughtBy events).Nodup) :
    (∀ promise ∈ custody.broughtBy events,
      (after events).owed.count promise + (fates (settlements events) promise).length +
        (handedOn events).count promise = 1) ∧
    (∀ promise ∉ custody.broughtBy events,
      promise ∉ (after events).owed ∧ fates (settlements events) promise = [] ∧
        promise ∉ handedOn events) ∧
    Answered (settlements events) ∧
    (∀ attempt, FansOut attempt events) ∧
    (∀ earlier event later, events = earlier ++ event :: later → Handled earlier event later) := by
  refine ⟨?_, ?_, settlements_answered events, fansOut fresh, ?_⟩
  · intro promise brought
    exact custody.kept_once sound_idle rfl fresh brought
  · intro promise unbrought
    exact custody.unknown_of_unbrought sound_idle rfl unbrought
  · rintro earlier event later rfl
    exact handled fresh

-- Two wait for an attempt that meets a fault while it authenticates. Others ask for the end,
-- for a connection and for a session before the link is gone; an attempt after that gets through.
def refusedThenReady : List Event :=
  [.connect 30 1, .connect 30 2, .connected 1 8, .fault 1 .closed, .disconnect 3,
   .fault 1 .unknown, .connect 30 4, .session ⟨30, 5⟩, .disconnected 1,
   .connect 30 6, .connected 1 8, .connected 2 9, .authenticated 2, .session ⟨30, 7⟩]

theorem completion_outcomes_refused :
    (custody.broughtBy refusedThenReady).Nodup ∧
    (∀ promise ∈ custody.broughtBy refusedThenReady,
      (after refusedThenReady).owed.count promise +
        (fates (settlements refusedThenReady) promise).length +
        (handedOn refusedThenReady).count promise = 1) ∧
    joined 1 refusedThenReady = [1, 2] ∧
    (∀ promise ∈ joined 1 refusedThenReady,
      custody.SettledAt {} (refusedThenReady.take 8) (.disconnected 1) (refusedThenReady.drop 9)
        promise (.answered (.error .closed))) ∧
    Handled (refusedThenReady.take 13) (.session ⟨30, 7⟩) [] := by
  have fresh : (custody.broughtBy refusedThenReady).Nodup := by decide
  obtain ⟨once, _, _, fansOut, handled⟩ := completion_outcomes fresh
  have began : (after (refusedThenReady.take 3)).phase = .authenticating 1 8 [1, 2] := rfl
  have decides : Decides 1 (refusedThenReady.take 8) (.disconnected 1) (.error .closed) :=
    .torn began (by decide)
  refine ⟨fresh, once, by decide, ?_, handled _ _ _ rfl⟩
  exact (fansOut 1).decided _ _ _ _ rfl decides

end SecureShell.Connection.Lifecycle
