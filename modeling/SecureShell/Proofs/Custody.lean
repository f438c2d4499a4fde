import Mathlib.Data.List.Induction
import SecureShell.Promise

namespace SecureShell

-- A machine answers one event after the other with a step; every step holds the next state.
structure Machine (State Event Step : Type) where
  advance : State → Event → Step
  next : Step → State

namespace Machine

variable {State Event Step : Type} (machine : Machine State Event Step)

def reach (state : State) : List Event → State
  | [] => state
  | event :: events => reach (machine.next (machine.advance state event)) events

def steps (state : State) : List Event → List Step
  | [] => []
  | event :: events =>
    machine.advance state event :: steps (machine.next (machine.advance state event)) events

@[simp] theorem reach_append (state : State) (earlier later : List Event) :
    machine.reach state (earlier ++ later) = machine.reach (machine.reach state earlier) later := by
  induction earlier generalizing state with
  | nil => rfl
  | cons event earlier ih => exact ih _

@[simp] theorem steps_append (state : State) (earlier later : List Event) :
    machine.steps state (earlier ++ later) =
      machine.steps state earlier ++ machine.steps (machine.reach state earlier) later := by
  induction earlier generalizing state with
  | nil => rfl
  | cons event earlier ih => exact congrArg (machine.advance state event :: ·) (ih _)

theorem filterMap_steps_cons (pick : Step → Option α) (state : State) (event : Event)
    (events : List Event) :
    (machine.steps state (event :: events)).filterMap pick =
      (pick (machine.advance state event)).toList ++
        (machine.steps (machine.next (machine.advance state event)) events).filterMap pick := by
  rw [steps, List.filterMap_cons]
  cases pick (machine.advance state event) <;> rfl

theorem filterMap_steps_concat (pick : Step → Option α) (state : State) (events : List Event)
    (event : Event) :
    (machine.steps state (events ++ [event])).filterMap pick =
      (machine.steps state events).filterMap pick ++
        (pick (machine.advance (machine.reach state events) event)).toList := by
  rw [steps_append, List.filterMap_append, filterMap_steps_cons]
  exact congrArg _ (List.append_nil _)

def collect (pick : Step → List α) (state : State) (events : List Event) : List α :=
  (machine.steps state events).flatMap pick

@[simp] theorem collect_nil (pick : Step → List α) (state : State) :
    machine.collect pick state [] = [] := rfl

theorem collect_cons (pick : Step → List α) (state : State) (event : Event) (events : List Event) :
    machine.collect pick state (event :: events) =
      pick (machine.advance state event) ++
        machine.collect pick (machine.next (machine.advance state event)) events := rfl

theorem collect_append (pick : Step → List α) (state : State) (earlier later : List Event) :
    machine.collect pick state (earlier ++ later) =
      machine.collect pick state earlier ++ machine.collect pick (machine.reach state earlier) later := by
  rw [collect, steps_append, List.flatMap_append]
  rfl

theorem collect_concat (pick : Step → List α) (state : State) (events : List Event) (event : Event) :
    machine.collect pick state (events ++ [event]) =
      machine.collect pick state events ++
        pick (machine.advance (machine.reach state events) event) := by
  rw [collect_append, collect_cons]
  exact congrArg _ (List.append_nil _)

theorem reach_keeps_under (Holds : State → Prop) {events : List Event}
    (keeps : ∀ event ∈ events, ∀ state, Holds state →
      Holds (machine.next (machine.advance state event)))
    {state : State} (holds : Holds state) : Holds (machine.reach state events) := by
  induction events generalizing state with
  | nil => exact holds
  | cons event events ih =>
    refine ih (fun later member => keeps later (List.mem_cons_of_mem _ member)) ?_
    exact keeps event List.mem_cons_self state holds

theorem reach_keeps {Holds : State → Prop}
    (keeps : ∀ state event, Holds state → Holds (machine.next (machine.advance state event)))
    {state : State} (holds : Holds state) (events : List Event) :
    Holds (machine.reach state events) :=
  machine.reach_keeps_under Holds (fun event _ state => keeps state event) holds

theorem steps_keep (Kind : Step → Prop) {Holds : State → Prop}
    (keeps : ∀ state event, Holds state →
      Kind (machine.advance state event) ∧ Holds (machine.next (machine.advance state event)))
    {state : State} (holds : Holds state) (events : List Event) :
    ∀ step ∈ machine.steps state events, Kind step := by
  induction events generalizing state with
  | nil => nofun
  | cons event events ih =>
    obtain ⟨kind, stays⟩ := keeps state event holds
    intro step member
    rcases List.mem_cons.mp member with rfl | later
    · exact kind
    · exact ih stays step later

theorem at_most_one_step (kind : Step → Bool) (Past : State → Prop)
    (enters : ∀ state event, kind (machine.advance state event) = true →
      Past (machine.next (machine.advance state event)))
    (past : ∀ state event, Past state →
      ¬ kind (machine.advance state event) = true ∧
        Past (machine.next (machine.advance state event)))
    (state : State) (events : List Event) : (machine.steps state events).countP kind ≤ 1 := by
  induction events generalizing state with
  | nil => exact Nat.zero_le 1
  | cons event events ih =>
    rw [steps, List.countP_cons]
    by_cases here : kind (machine.advance state event) = true
    · have none := machine.steps_keep (fun step => ¬ kind step = true) past (enters state event here) events
      simp only [List.countP_eq_zero.mpr none, if_pos here, Nat.zero_add, Nat.le_refl]
    · rw [if_neg here]
      exact ih _

end Machine

namespace Settlement

def fates (settled : List (Settlement α)) (promise : Ticket) : List (Fate α) :=
  (settled.filter fun settlement => settlement.promise == promise).map Settlement.fate

@[simp] theorem fates_nil (promise : Ticket) : fates ([] : List (Settlement α)) promise = [] := rfl

@[simp] theorem fates_append (left right : List (Settlement α)) (promise : Ticket) :
    fates (left ++ right) promise = fates left promise ++ fates right promise := by
  simp [fates]

theorem mem_fates {settled : List (Settlement α)} {promise : Ticket} {fate : Fate α} :
    fate ∈ fates settled promise ↔ ⟨promise, fate⟩ ∈ settled := by
  simp only [fates, List.mem_map, List.mem_filter, beq_iff_eq]
  constructor
  · rintro ⟨settlement, ⟨member, rfl⟩, rfl⟩
    exact member
  · intro member
    exact ⟨_, ⟨member, rfl⟩, rfl⟩

theorem length_fates (settled : List (Settlement α)) (promise : Ticket) :
    (fates settled promise).length = (settled.map Settlement.promise).count promise := by
  rw [List.count, List.countP_map, List.countP_eq_length_filter, fates, List.length_map]
  rfl

@[simp] theorem promises_answerAll (promises : List Ticket) (value : α) :
    (answerAll promises value).map Settlement.promise = promises := by
  simp [answerAll, answer, Function.comp_def]

def Answered (settled : List (Settlement α)) : Prop :=
  ∀ settlement ∈ settled, ∃ value, settlement.fate = .answered value

theorem answered_nil : Answered ([] : List (Settlement α)) := nofun

theorem answered_one (promise : Ticket) (value : α) : Answered [answer promise value] := by
  intro settlement member
  rw [List.mem_singleton.mp member]
  exact ⟨value, rfl⟩

theorem answered_answerAll (promises : List Ticket) (value : α) :
    Answered (answerAll promises value) := by
  intro settlement member
  obtain ⟨promise, _, rfl⟩ := List.mem_map.mp member
  exact ⟨value, rfl⟩

theorem Answered.append {left right : List (Settlement α)} (first : Answered left)
    (second : Answered right) : Answered (left ++ right) := by
  intro settlement member
  exact (List.mem_append.mp member).elim (first settlement) (second settlement)

theorem answer_mem_answerAll {promises : List Ticket} {promise : Ticket} (value : α)
    (member : promise ∈ promises) : answer promise value ∈ answerAll promises value :=
  List.mem_map_of_mem member

end Settlement

-- A machine that looks after promises. An event brings some of them; a step settles some
-- and hands some on with what it does; all others are owed by the state. `Sound` holds of
-- every state the machine can get into.
structure Custody (State Event Step Answer : Type) extends Machine State Event Step where
  brought : Event → List Ticket
  owed : State → List Ticket
  settled : Step → List (Settlement Answer)
  handed : Step → List Ticket
  Sound : State → Prop
  sound_advance : ∀ state event, Sound state → Sound (next (advance state event))
  balance_advance : ∀ state event, Sound state → ∀ promise,
    (owed (next (advance state event))).count promise +
      (Settlement.fates (settled (advance state event)) promise).length +
      (handed (advance state event)).count promise =
    (owed state).count promise + (brought event).count promise

namespace Custody

variable {State Event Step Answer : Type} (custody : Custody State Event Step Answer)

def broughtBy (events : List Event) : List Ticket := events.flatMap custody.brought

def settledBy (state : State) (events : List Event) : List (Settlement Answer) :=
  custody.collect custody.settled state events

def handedBy (state : State) (events : List Event) : List Ticket :=
  custody.collect custody.handed state events

def Silent (promise : Ticket) (steps : List Step) : Prop :=
  ∀ step ∈ steps, Settlement.fates (custody.settled step) promise = []

@[simp] theorem broughtBy_append (earlier later : List Event) :
    custody.broughtBy (earlier ++ later) = custody.broughtBy earlier ++ custody.broughtBy later := by
  simp [broughtBy]

@[simp] theorem broughtBy_cons (event : Event) (events : List Event) :
    custody.broughtBy (event :: events) = custody.brought event ++ custody.broughtBy events := by
  simp [broughtBy]

theorem mem_broughtBy {events : List Event} {event : Event} (member : event ∈ events)
    {promise : Ticket} (mine : promise ∈ custody.brought event) :
    promise ∈ custody.broughtBy events :=
  List.mem_flatMap.mpr ⟨event, member, mine⟩

theorem brought_by_one {events : List Event} (fresh : (custody.broughtBy events).Nodup)
    {one two : Event} (first : one ∈ events) (second : two ∈ events) {promise : Ticket}
    (mine : promise ∈ custody.brought one) (too : promise ∈ custody.brought two) : one = two := by
  induction events with
  | nil => exact absurd first List.not_mem_nil
  | cons event events ih =>
    rw [broughtBy_cons, List.nodup_append] at fresh
    obtain ⟨_, fresh, apart⟩ := fresh
    rcases List.mem_cons.mp first with rfl | later
    · rcases List.mem_cons.mp second with there | after
      · exact there.symm
      · exact absurd rfl (apart _ mine _ (custody.mem_broughtBy after too))
    · rcases List.mem_cons.mp second with rfl | after
      · exact absurd rfl (apart _ too _ (custody.mem_broughtBy later mine))
      · exact ih fresh later after

@[simp] theorem settledBy_append (state : State) (earlier later : List Event) :
    custody.settledBy state (earlier ++ later) =
      custody.settledBy state earlier ++ custody.settledBy (custody.reach state earlier) later :=
  custody.collect_append custody.settled state earlier later

@[simp] theorem settledBy_cons (state : State) (event : Event) (events : List Event) :
    custody.settledBy state (event :: events) =
      custody.settled (custody.advance state event) ++
        custody.settledBy (custody.next (custody.advance state event)) events := rfl

theorem settled_at_event {state : State} {events : List Event} {settlement : Settlement Answer}
    (found : settlement ∈ custody.settledBy state events) :
    ∃ earlier event later, events = earlier ++ event :: later ∧
      settlement ∈ custody.settled (custody.advance (custody.reach state earlier) event) := by
  induction events generalizing state with
  | nil => cases found
  | cons event events ih =>
    rw [settledBy_cons] at found
    rcases List.mem_append.mp found with here | after
    · exact ⟨[], event, events, rfl, here⟩
    · obtain ⟨earlier, other, later, rfl, there⟩ := ih after
      exact ⟨event :: earlier, other, later, rfl, there⟩

theorem settledBy_concat (state : State) (events : List Event) (event : Event) :
    custody.settledBy state (events ++ [event]) =
      custody.settledBy state events ++
        custody.settled (custody.advance (custody.reach state events) event) :=
  custody.collect_concat custody.settled state events event

@[simp] theorem handedBy_append (state : State) (earlier later : List Event) :
    custody.handedBy state (earlier ++ later) =
      custody.handedBy state earlier ++ custody.handedBy (custody.reach state earlier) later :=
  custody.collect_append custody.handed state earlier later

@[simp] theorem handedBy_cons (state : State) (event : Event) (events : List Event) :
    custody.handedBy state (event :: events) =
      custody.handed (custody.advance state event) ++
        custody.handedBy (custody.next (custody.advance state event)) events := rfl

theorem silent_iff (promise : Ticket) (state : State) (events : List Event) :
    custody.Silent promise (custody.steps state events) ↔
      Settlement.fates (custody.settledBy state events) promise = [] := by
  induction events generalizing state with
  | nil => simp [Silent, settledBy, Machine.steps]
  | cons event events ih =>
    simp only [settledBy_cons, Settlement.fates_append, List.append_eq_nil_iff, ← ih]
    simp [Silent, Machine.steps]

theorem sound_reach {state : State} (sound : custody.Sound state) (events : List Event) :
    custody.Sound (custody.reach state events) :=
  custody.reach_keeps custody.sound_advance sound events

-- What comes in is owed, settled or handed on, and counted once.
theorem balance {state : State} (sound : custody.Sound state) (events : List Event)
    (promise : Ticket) :
    (custody.owed (custody.reach state events)).count promise +
      (Settlement.fates (custody.settledBy state events) promise).length +
      (custody.handedBy state events).count promise =
    (custody.owed state).count promise + (custody.broughtBy events).count promise := by
  induction events generalizing state with
  | nil => simp [Machine.reach, settledBy, handedBy, broughtBy]
  | cons event events ih =>
    have first := custody.balance_advance state event sound promise
    have rest := ih (custody.sound_advance state event sound)
    simp only [Machine.reach, settledBy_cons, broughtBy_cons, handedBy_cons, List.count_append,
      Settlement.fates_append, List.length_append] at rest ⊢
    omega

theorem silent_of_absent {state : State} (sound : custody.Sound state) {events : List Event}
    {promise : Ticket} (free : promise ∉ custody.owed state)
    (unbrought : promise ∉ custody.broughtBy events) :
    custody.Silent promise (custody.steps state events) := by
  have total := custody.balance sound events promise
  rw [List.count_eq_zero.mpr free, List.count_eq_zero.mpr unbrought] at total
  exact (custody.silent_iff promise state events).mpr (List.eq_nil_of_length_eq_zero (by omega))

theorem silent_of_owed {state : State} (sound : custody.Sound state) {events : List Event}
    {promise : Ticket}
    (single : (custody.owed state ++ custody.broughtBy events).count promise ≤ 1)
    (kept : promise ∈ custody.owed (custody.reach state events)) :
    custody.Silent promise (custody.steps state events) := by
  have total := custody.balance sound events promise
  have present := List.count_pos_iff.mpr kept
  rw [List.count_append] at single
  exact (custody.silent_iff promise state events).mpr (List.eq_nil_of_length_eq_zero (by omega))

theorem fates_single {state : State} (sound : custody.Sound state) {events : List Event}
    {promise : Ticket} {fate : Fate Answer}
    (single : (custody.owed state ++ custody.broughtBy events).count promise ≤ 1)
    (found : ⟨promise, fate⟩ ∈ custody.settledBy state events) :
    Settlement.fates (custody.settledBy state events) promise = [fate] := by
  have total := custody.balance sound events promise
  have member := Settlement.mem_fates.mpr found
  have present := List.length_pos_of_mem member
  rw [List.count_append] at single
  obtain ⟨only, same⟩ := List.length_eq_one_iff.mp
    (show (Settlement.fates (custody.settledBy state events) promise).length = 1 by omega)
  rw [same] at member ⊢
  rw [List.mem_singleton.mp member]

-- The fate comes in the step of one event of the run; nothing becomes of the promise in
-- any step before or after it.
def SettledAt (state : State) (earlier : List Event) (event : Event) (later : List Event)
    (promise : Ticket) (fate : Fate Answer) : Prop :=
  custody.Silent promise (custody.steps state earlier) ∧
    Settlement.fates (custody.settled (custody.advance (custody.reach state earlier) event))
      promise = [fate] ∧
    custody.Silent promise (custody.steps
      (custody.next (custody.advance (custody.reach state earlier) event)) later)

theorem settled_once {state : State} (sound : custody.Sound state) (earlier : List Event)
    {later : List Event} {event : Event} {promise : Ticket} {fate : Fate Answer}
    (single : (custody.owed state ++
      custody.broughtBy (earlier ++ event :: later)).count promise ≤ 1)
    (found : ⟨promise, fate⟩ ∈
      custody.settled (custody.advance (custody.reach state earlier) event)) :
    custody.SettledAt state earlier event later promise fate := by
  have total := custody.balance sound (earlier ++ event :: later) promise
  have member := Settlement.mem_fates.mpr found
  have here := List.length_pos_of_mem member
  rw [List.count_append] at single
  simp only [settledBy_append, settledBy_cons, Settlement.fates_append, List.length_append] at total
  refine ⟨?_, ?_, ?_⟩
  · exact (custody.silent_iff promise _ _).mpr (List.eq_nil_of_length_eq_zero (by omega))
  · obtain ⟨only, same⟩ := List.length_eq_one_iff.mp
      (show (Settlement.fates (custody.settled
        (custody.advance (custody.reach state earlier) event)) promise).length = 1 by omega)
    rw [same] at member ⊢
    rw [List.mem_singleton.mp member]
  · exact (custody.silent_iff promise _ _).mpr (List.eq_nil_of_length_eq_zero (by omega))

section Fresh

variable {state : State} {events : List Event}
  (sound : custody.Sound state) (empty : custody.owed state = [])

include sound empty

theorem kept_once (fresh : (custody.broughtBy events).Nodup) {promise : Ticket}
    (brought : promise ∈ custody.broughtBy events) :
    (custody.owed (custody.reach state events)).count promise +
      (Settlement.fates (custody.settledBy state events) promise).length +
      (custody.handedBy state events).count promise = 1 := by
  have total := custody.balance sound events promise
  rw [empty, List.count_nil, Nat.zero_add, fresh.count, if_pos brought] at total
  exact total

theorem unknown_of_unbrought {promise : Ticket} (unbrought : promise ∉ custody.broughtBy events) :
    promise ∉ custody.owed (custody.reach state events) ∧
      Settlement.fates (custody.settledBy state events) promise = [] ∧
      promise ∉ custody.handedBy state events := by
  have total := custody.balance sound events promise
  rw [empty, List.count_nil, Nat.zero_add, List.count_eq_zero.mpr unbrought] at total
  refine ⟨List.count_eq_zero.mp (by omega), List.eq_nil_of_length_eq_zero (by omega), ?_⟩
  exact List.count_eq_zero.mp (by omega)

end Fresh

end Custody
end SecureShell
