import Mathlib.Data.List.Nodup
import SecureShell.Proofs.Connection.Staleness

namespace SecureShell.Connection.Lifecycle

def Event.link? : Event → Option Nat
  | .connected _ link => some link
  | .connect .. | .disconnect _ | .session _ | .authenticated _ | .disconnected _ | .fault .. =>
    none

def Action.closed? : Action → Option Nat
  | .disconnect link => some link
  | .none | .connect .. | .discard _ | .startSession .. => .none

def closedBy (lifecycle : Lifecycle) (events : List Event) : List Nat :=
  (custody.steps lifecycle events).filterMap fun step => step.action.closed?

def inUse? (lifecycle : Lifecycle) : Option Nat :=
  match lifecycle.phase with
  | .authenticating _ link _ | .ready _ link => some link
  | .idle | .connecting .. | .disconnecting .. | .failed _ => none

-- All that a step can do with links: it takes the one that the current attempt brings, gives up
-- its own on word that it is gone, or leaves matters as they are.
inductive Carries (lifecycle : Lifecycle) : Event → Lifecycle → Prop
  | takes (running : lifecycle.attempt? = some attempt) (bare : lifecycle.link? = none)
      (owned : next.link? = some link) (same : next.attempt? = some attempt) :
      Carries lifecycle (.connected attempt link) next
  | gives (running : lifecycle.attempt? = some attempt) (owned : lifecycle.link? = some link)
      (bare : next.link? = none) : Carries lifecycle (.disconnected attempt) next
  | keeps (owned : lifecycle.link? = some link) (still : next.link? = some link)
      (same : next.attempt? = lifecycle.attempt?) : Carries lifecycle event next
  | lacks (bare : lifecycle.link? = none) (still : next.link? = none)
      (foreign : ∀ attempt link, event = .connected attempt link →
        lifecycle.attempt? ≠ some attempt) : Carries lifecycle event next

variable {lifecycle : Lifecycle} {event : Event} {attempt link : Nat} {events : List Event}

theorem connected_of_link (brings : event.link? = some link) :
    ∃ attempt, event = .connected attempt link := by
  cases event <;> cases brings
  exact ⟨_, rfl⟩

theorem advance_carries (lifecycle : Lifecycle) (event : Event) :
    lifecycle.Carries event (lifecycle.advance event).next := by
  by_cases stale : lifecycle.Stale event
  · rw [advance_stale stale]
    cases owned : lifecycle.link? with
    | some link => exact .keeps owned owned rfl
    | none =>
      refine .lacks owned owned ?_
      rintro attempt link rfl running
      obtain ⟨_, named, other⟩ := stale
      cases named
      exact other running
  rw [advance_current stale]
  have own := own_attempt stale
  obtain ⟨phase, attempts⟩ := lifecycle
  cases phase with
  | idle | failed => cases event <;> exact .lacks rfl rfl fun _ _ _ => nofun
  | connecting running connects =>
    cases event with
    | connected number link =>
      cases own number rfl
      exact .takes rfl rfl rfl rfl
    | _ => exact .lacks rfl rfl fun _ _ => nofun
  | authenticating | ready =>
    cases event with
    | disconnected number =>
      cases own number rfl
      exact .gives rfl rfl rfl
    | _ => exact .keeps rfl rfl rfl
  | disconnecting running link connects disconnects recorded =>
    cases event with
    | disconnected number =>
      cases own number rfl
      cases recorded <;> exact .gives rfl rfl rfl
    | _ => exact .keeps rfl rfl rfl

theorem link_kept (event : Event) (owned : lifecycle.link? = some link) :
    (lifecycle.advance event).next.link? = some link ∨
      ∃ attempt, lifecycle.attempt? = some attempt ∧ event = .disconnected attempt := by
  cases advance_carries lifecycle event with
  | takes running bare => rw [owned] at bare; cases bare
  | gives running => exact .inr ⟨_, running, rfl⟩
  | keeps before still => exact .inl (still.trans (before.symm.trans owned))
  | lacks bare => rw [owned] at bare; cases bare

theorem link_taken (running : lifecycle.attempt? = some attempt) :
    (lifecycle.advance (.connected attempt link)).next.link? = some link ∨
      ∃ other, lifecycle.link? = some other := by
  cases advance_carries lifecycle (.connected attempt link) with
  | takes _ _ owned => exact .inl owned
  | keeps owned => exact .inr ⟨_, owned⟩
  | lacks _ _ foreign => exact absurd running (foreign attempt link rfl)

theorem link_brought (owned : (after events).link? = some link) :
    ∃ attempt, (after events).attempt? = some attempt ∧ .connected attempt link ∈ events := by
  induction events using List.reverseRecOn with
  | nil => cases owned
  | append_singleton events event ih =>
    rw [after_concat] at owned ⊢
    cases advance_carries (after events) event with
    | @takes attempt next brought running bare came same =>
      cases came.symm.trans owned
      exact ⟨attempt, same, List.mem_append_right _ List.mem_cons_self⟩
    | gives _ _ bare | lacks _ bare => cases bare.symm.trans owned
    | keeps before still same =>
      obtain ⟨attempt, running, brought⟩ := ih (before.trans (still.symm.trans owned))
      exact ⟨attempt, same.trans running, List.mem_append_left _ brought⟩

theorem closed_advance (lifecycle : Lifecycle) (event : Event) (link : Nat) :
    (lifecycle.advance event).action.closed?.toList.count link +
        (lifecycle.advance event).next.inUse?.toList.count link ≤
      lifecycle.inUse?.toList.count link + event.link?.toList.count link := by
  by_cases stale : lifecycle.Stale event
  · rw [advance_stale stale]
    cases event <;> simp [Lifecycle.stale, Action.closed?]
  rw [advance_current stale]
  obtain ⟨phase, attempts⟩ := lifecycle
  cases phase with
  | disconnecting _ _ _ _ recorded =>
    cases event with
    | disconnected => cases recorded <;> exact Nat.zero_le _
    | _ => exact Nat.zero_le _
  | _ => cases event <;> simp [current, begin, enter, inUse?, Event.link?, Action.closed?]

theorem count_closedBy (lifecycle : Lifecycle) (events : List Event) (link : Nat) :
    (closedBy lifecycle events).count link +
        (custody.reach lifecycle events).inUse?.toList.count link ≤
      lifecycle.inUse?.toList.count link + (events.filterMap Event.link?).count link := by
  induction events generalizing lifecycle with
  | nil => exact Nat.le_of_eq (Nat.add_comm _ _)
  | cons event events ih =>
    have step := closed_advance lifecycle event link
    have rest := ih (lifecycle.advance event).next
    have split : closedBy lifecycle (event :: events) =
        (lifecycle.advance event).action.closed?.toList ++
          closedBy (lifecycle.advance event).next events :=
      custody.filterMap_steps_cons _ lifecycle event events
    have reached : custody.reach lifecycle (event :: events) =
        custody.reach (lifecycle.advance event).next events := rfl
    rw [split, reached, List.count_append]
    rw [List.filterMap_eq_flatMap_toList] at rest ⊢
    rw [List.flatMap_cons, List.count_append]
    omega

theorem closedBy_nodup (distinct : (events.filterMap Event.link?).Nodup) :
    (closedBy {} events).Nodup := by
  rw [List.nodup_iff_count_le_one] at distinct ⊢
  intro link
  have closed := count_closedBy {} events link
  have unused : (inUse? {}).toList.count link = 0 := rfl
  have once := distinct link
  omega

end SecureShell.Connection.Lifecycle
