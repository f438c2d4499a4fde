import SecureShell.Proofs.Connection.Authentication

namespace SecureShell.Connection.Lifecycle

def Action.begun? : Action → Option Nat
  | .connect attempt _ => some attempt
  | .none | .disconnect _ | .discard _ | .startSession .. => .none

def begunBy (lifecycle : Lifecycle) (events : List Event) : List Nat :=
  (custody.steps lifecycle events).filterMap fun step => step.action.begun?

-- Word from any attempt but the current one: nothing is changed by it and nobody hears of it.
structure Deaf (lifecycle : Lifecycle) : Prop where
  connected : ∀ attempt link, lifecycle.attempt? ≠ some attempt →
    lifecycle.advance (.connected attempt link) = ⟨lifecycle, .discard link, []⟩
  authenticated : ∀ attempt, lifecycle.attempt? ≠ some attempt →
    lifecycle.advance (.authenticated attempt) = ⟨lifecycle, .none, []⟩
  disconnected : ∀ attempt, lifecycle.attempt? ≠ some attempt →
    lifecycle.advance (.disconnected attempt) = ⟨lifecycle, .none, []⟩
  fault : ∀ attempt fault, lifecycle.attempt? ≠ some attempt →
    lifecycle.advance (.fault attempt fault) = ⟨lifecycle, .none, []⟩

-- What is left of a list when all that is marked false is struck out.
def kept (marked : List (α × Bool)) : List α := (marked.filter Prod.snd).map Prod.fst

def Strikes (lifecycle : Lifecycle) (marked : List (Event × Bool)) : Prop :=
  ∀ earlier event later, marked = earlier ++ (event, false) :: later →
    (custody.reach lifecycle (earlier.map Prod.fst)).Stale event

variable {lifecycle : Lifecycle} {event : Event} {attempt timeout : Nat}
  {marked : List (Event × Bool)}

theorem attempt_new (made : (lifecycle.advance event).action = .connect attempt timeout) :
    lifecycle.attempt? = none ∧ attempt = lifecycle.attempts + 1 := by
  by_cases stale : lifecycle.Stale event
  · rw [advance_stale stale] at made
    cases event <;> cases made
  rw [advance_current stale] at made
  obtain ⟨phase, attempts⟩ := lifecycle
  cases phase with
  | idle | failed =>
    cases event with
    | connect => cases made; exact ⟨rfl, rfl⟩
    | _ => cases made
  | _ => cases event <;> cases made

theorem begun_ascend (lifecycle : Lifecycle) (events : List Event) :
    (∀ attempt ∈ begunBy lifecycle events, lifecycle.attempts < attempt) ∧
      (begunBy lifecycle events).Pairwise (· < ·) := by
  induction events generalizing lifecycle with
  | nil => exact ⟨nofun, .nil⟩
  | cons event events ih =>
    obtain ⟨above, ascend⟩ := ih (lifecycle.advance event).next
    have grown := attempts_advance lifecycle event
    have split : begunBy lifecycle (event :: events) =
        (lifecycle.advance event).action.begun?.toList ++
          begunBy (lifecycle.advance event).next events :=
      custody.filterMap_steps_cons _ lifecycle event events
    rw [split]
    cases made : (lifecycle.advance event).action with
    | connect attempt timeout =>
      have new := (attempt_new made).2
      have numbered := attempt_numbered made
      rw [numbered] at above
      refine ⟨?_, List.pairwise_cons.mpr ⟨above, ascend⟩⟩
      intro later member
      rcases List.mem_cons.mp member with rfl | more
      · omega
      · have := above later more
        omega
    | none | disconnect | discard | startSession =>
      exact ⟨fun later member => Nat.lt_of_le_of_lt grown (above later member), ascend⟩

theorem deaf (lifecycle : Lifecycle) : lifecycle.Deaf where
  connected attempt _ other := advance_stale ⟨attempt, rfl, other⟩
  authenticated attempt other := advance_stale ⟨attempt, rfl, other⟩
  disconnected attempt other := advance_stale ⟨attempt, rfl, other⟩
  fault attempt _ other := advance_stale ⟨attempt, rfl, other⟩

@[simp] theorem kept_struck (value : α) (marked : List (α × Bool)) :
    kept ((value, false) :: marked) = kept marked := rfl

theorem Strikes.tail {mark : Bool} (strikes : Strikes lifecycle ((event, mark) :: marked)) :
    Strikes (lifecycle.advance event).next marked := by
  rintro earlier other later rfl
  exact strikes ((event, mark) :: earlier) other later rfl

theorem struck_steps (strikes : Strikes lifecycle marked) :
    custody.steps lifecycle (kept marked) =
        kept ((custody.steps lifecycle (marked.map Prod.fst)).zip (marked.map Prod.snd)) ∧
      custody.reach lifecycle (kept marked) =
        custody.reach lifecycle (marked.map Prod.fst) := by
  induction marked generalizing lifecycle with
  | nil => exact ⟨rfl, rfl⟩
  | cons entry marked ih =>
    obtain ⟨event, mark⟩ := entry
    obtain ⟨same, ends⟩ := ih strikes.tail
    cases mark with
    | true => exact ⟨congrArg (lifecycle.advance event :: ·) same, ends⟩
    | false =>
      have stale : lifecycle.Stale event := strikes [] event marked rfl
      have unchanged : (lifecycle.advance event).next = lifecycle := by rw [advance_stale stale]
      have begins : custody.reach lifecycle (event :: marked.map Prod.fst) =
          custody.reach (lifecycle.advance event).next (marked.map Prod.fst) := rfl
      have steps : kept ((custody.steps lifecycle (event :: marked.map Prod.fst)).zip
            (false :: marked.map Prod.snd)) =
          kept ((custody.steps (lifecycle.advance event).next (marked.map Prod.fst)).zip
            (marked.map Prod.snd)) := rfl
      rw [List.map_cons, List.map_cons, begins, steps, kept_struck, unchanged]
      rw [unchanged] at same ends
      exact ⟨same, ends⟩

-- A run in which stale word is left out takes the same steps otherwise.
theorem stale_events_cannot_interfere (events : List Event) :
    (begunBy {} events).Pairwise (· < ·) ∧
    (after events).Deaf ∧
    ∀ marked : List (Event × Bool), marked.map Prod.fst = events → Strikes {} marked →
      custody.steps {} (kept marked) =
          kept ((custody.steps {} events).zip (marked.map Prod.snd)) ∧
        after (kept marked) = after events := by
  refine ⟨(begun_ascend {} events).2, deaf _, ?_⟩
  rintro marked rfl strikes
  exact struck_steps strikes

-- The first attempt is called off while it connects and comes up all the same; the second meets
-- a fault, and word of its end comes when the third is ready. What is stale is struck out, but
-- for the last of it.
def lateArrivals : List (Event × Bool) :=
  [(.connect 30 1, true), (.disconnect 2, true), (.connect 30 3, true), (.connected 1 8, false),
   (.authenticated 1, false), (.fault 2 .closed, true), (.connect 30 4, true),
   (.disconnected 1, false), (.connected 3 9, true), (.fault 2 .unknown, false),
   (.authenticated 3, true), (.disconnected 2, true)]

theorem lateArrivals_strikes : Strikes {} lateArrivals := by
  have position : ∀ place < lateArrivals.length, (lateArrivals[place]?.map Prod.snd) = some false →
      (after ((lateArrivals.take place).map Prod.fst)).attempt? ≠
        (lateArrivals[place]?.bind fun entry => entry.1.attempt?) ∧
      (lateArrivals[place]?.bind fun entry => entry.1.attempt?).isSome := by
    decide
  intro earlier event later split
  have place := position earlier.length (by simp [split]) (by simp [split])
  rw [split, List.take_left, List.getElem?_append_right (Nat.le_refl _)] at place
  obtain ⟨other, some⟩ := place
  obtain ⟨attempt, named⟩ := Option.isSome_iff_exists.mp some
  rw [named] at other
  exact ⟨attempt, by simpa using named, other⟩

theorem stale_events_cannot_interfere_late :
    Strikes {} lateArrivals ∧
    (begunBy {} (lateArrivals.map Prod.fst)).Pairwise (· < ·) ∧
    begunBy {} (lateArrivals.map Prod.fst) = [1, 2, 3] ∧
    (after (lateArrivals.map Prod.fst)).advance (.connected 2 7) =
      ⟨after (lateArrivals.map Prod.fst), .discard 7, []⟩ ∧
    custody.steps {} (kept lateArrivals) =
      kept ((custody.steps {} (lateArrivals.map Prod.fst)).zip (lateArrivals.map Prod.snd)) := by
  obtain ⟨ascend, deaf, struck⟩ := stale_events_cannot_interfere (lateArrivals.map Prod.fst)
  exact ⟨lateArrivals_strikes, ascend, rfl, deaf.connected 2 7 (by decide),
    (struck lateArrivals rfl lateArrivals_strikes).1⟩

end SecureShell.Connection.Lifecycle
