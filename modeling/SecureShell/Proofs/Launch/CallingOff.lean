import SecureShell.Proofs.Custody
import SecureShell.Switchboard.Line

namespace SecureShell.Launch.Cancellation
open Switchboard (CommandSeat absorb)

variable {Closer : Type}

namespace Event

-- From here on there is nothing left to call off.
def isEnd : Event Closer → Bool
  | .ended | .failed => true
  | .cancel | .launching _ => false

def isCancel : Event Closer → Bool
  | .cancel => true
  | .launching _ | .ended | .failed => false

def closer? : Event Closer → Option Closer
  | .launching closer => some closer
  | .cancel | .ended | .failed => none

end Event

-- What is known of a start after some events. Of its launches only the first one counts.

def isOver (events : List (Event Closer)) : Bool := events.any Event.isEnd

def isCalledOff (events : List (Event Closer)) : Bool := events.any Event.isCancel

def launchedOn? (events : List (Event Closer)) : Option Closer := events.findSome? Event.closer?

def beforeEnd (events : List (Event Closer)) : List (Event Closer) :=
  events.takeWhile fun event => !event.isEnd

def due? (events : List (Event Closer)) : Option Closer :=
  if isCalledOff (beforeEnd events) then launchedOn? (beforeEnd events) else none

-- The event with which a start has been both called off and launched.
inductive Completes (earlier : List (Event Closer)) : Event Closer → Closer → Prop
  | cancels (first : isCalledOff earlier = false) (launched : launchedOn? earlier = some closer) :
      Completes earlier .cancel closer
  | launches (called : isCalledOff earlier = true) (first : launchedOn? earlier = none) :
      Completes earlier (.launching closer) closer

def standing (events : List (Event Closer)) : Cancellation Closer :=
  if isOver events then .ended
  else match isCalledOff events, launchedOn? events with
    | false, none => .untouched
    | true, none => .calledOff
    | false, some closer => .launched closer
    | true, some closer => .closing closer

def machine : Machine (Cancellation Closer) (Event Closer) (Cancellation Closer × Option Closer) :=
  ⟨advance, Prod.fst⟩

def after (events : List (Event Closer)) : Cancellation Closer := machine.reach .untouched events

def closings (events : List (Event Closer)) : List Closer :=
  (machine.steps .untouched events).filterMap Prod.snd

variable {events earlier later before between others : List (Event Closer)} {event : Event Closer}
  {closer : Closer}

theorem isOver_append (earlier later : List (Event Closer)) :
    isOver (earlier ++ later) = (isOver earlier || isOver later) := List.any_append

theorem isCalledOff_append (earlier later : List (Event Closer)) :
    isCalledOff (earlier ++ later) = (isCalledOff earlier || isCalledOff later) := List.any_append

theorem launchedOn_append (earlier later : List (Event Closer)) :
    launchedOn? (earlier ++ later) = (launchedOn? earlier).or (launchedOn? later) :=
  List.findSome?_append

theorem after_concat (events : List (Event Closer)) (event : Event Closer) :
    after (events ++ [event]) = ((after events).advance event).1 :=
  machine.reach_append .untouched events [event]

theorem closings_concat (events : List (Event Closer)) (event : Event Closer) :
    closings (events ++ [event]) = closings events ++ ((after events).advance event).2.toList :=
  machine.filterMap_steps_concat Prod.snd .untouched events event

theorem beforeEnd_over (ended : isOver earlier = true) (later : List (Event Closer)) :
    beforeEnd (earlier ++ later) = beforeEnd earlier := by
  induction earlier with
  | nil => cases ended
  | cons event earlier ih =>
    cases ends : event.isEnd with
    | true => simp [beforeEnd, ends]
    | false =>
      have rest : isOver earlier = true := by simpa [isOver, ends] using ended
      simpa [beforeEnd, ends] using ih rest

theorem beforeEnd_ongoing (ongoing : isOver earlier = false) (later : List (Event Closer)) :
    beforeEnd (earlier ++ later) = earlier ++ beforeEnd later := by
  refine List.takeWhile_append_of_pos fun event member => ?_
  have stays := List.any_eq_false.mp ongoing event member
  simpa using stays

theorem beforeEnd_all (ongoing : isOver events = false) : beforeEnd events = events := by
  simpa [beforeEnd] using beforeEnd_ongoing ongoing []

theorem beforeEnd_stays (events : List (Event Closer)) : isOver (beforeEnd events) = false := by
  refine List.any_eq_false.mpr fun event member => ?_
  have stays := List.all_eq_true.mp List.all_takeWhile event member
  simpa using stays

theorem after_standing (events : List (Event Closer)) : after events = standing events := by
  induction events using List.reverseRecOn with
  | nil => rfl
  | append_singleton events event ih =>
    rw [after_concat, ih, standing, standing, isOver_append, isCalledOff_append, launchedOn_append]
    cases isOver events <;> cases isCalledOff events <;> cases launchedOn? events <;> cases event <;> rfl

theorem finished_iff (events : List (Event Closer)) : (after events).isFinished = isOver events := by
  rw [after_standing, standing]
  cases isOver events <;> cases isCalledOff events <;> cases launchedOn? events <;> rfl

theorem closes_iff (earlier : List (Event Closer)) (event : Event Closer) (closer : Closer) :
    ((after earlier).advance event).2 = some closer ↔
      isOver earlier = false ∧ Completes earlier event closer := by
  rw [after_standing, standing]
  constructor
  · intro closes
    cases ended : isOver earlier with
    | true =>
      rw [ended] at closes
      cases event <;> cases closes
    | false =>
      refine ⟨rfl, ?_⟩
      rw [ended] at closes
      cases called : isCalledOff earlier <;> cases launched : launchedOn? earlier <;>
        rw [called, launched] at closes <;> cases event <;> cases closes
      · exact .cancels called launched
      · exact .launches called launched
  · rintro ⟨ongoing, completes⟩
    cases completes with
    | cancels first launched => simp [ongoing, first, launched, advance]
    | launches called first => simp [ongoing, called, first, advance]

theorem due_concat (events : List (Event Closer)) (event : Event Closer) :
    (due? (events ++ [event])).toList =
      (due? events).toList ++ ((after events).advance event).2.toList := by
  rw [after_standing, standing]
  cases ended : isOver events with
  | true =>
    rw [due?, beforeEnd_over ended, ← due?]
    cases event <;> exact (List.append_nil _).symm
  | false =>
    rw [due?, due?, beforeEnd_ongoing ended, beforeEnd_all ended, isCalledOff_append, launchedOn_append]
    cases isCalledOff events <;> cases launchedOn? events <;> cases event <;> rfl

theorem closings_due (events : List (Event Closer)) : closings events = (due? events).toList := by
  induction events using List.reverseRecOn with
  | nil => rfl
  | append_singleton events event ih => rw [closings_concat, ih, due_concat]

theorem closings_before_end (events : List (Event Closer)) :
    closings (beforeEnd events) = closings events := by
  rw [closings_due, closings_due, due?, due?, beforeEnd_all (beforeEnd_stays events)]

theorem closings_over (ended : isOver earlier = true) (later : List (Event Closer)) :
    closings (earlier ++ later) = closings earlier := by
  rw [closings_due, closings_due, due?, due?, beforeEnd_over ended]

theorem closings_congr (called : isCalledOff (beforeEnd others) = isCalledOff (beforeEnd events))
    (launched : launchedOn? (beforeEnd others) = launchedOn? (beforeEnd events)) :
    closings others = closings events := by
  rw [closings_due, closings_due, due?, due?, called, launched]

theorem closings_of_uncalled (uncalled : isCalledOff events = false) : closings events = [] := by
  have none : isCalledOff (beforeEnd events) = false := by
    rw [isCalledOff, List.any_eq_false] at uncalled ⊢
    exact fun event member => uncalled event (List.takeWhile_subset _ member)
  rw [closings_due, due?, none]
  rfl

theorem closings_of_unlaunched (unlaunched : launchedOn? events = none) : closings events = [] := by
  have none : launchedOn? (beforeEnd events) = none := by
    rw [launchedOn?, List.findSome?_eq_none_iff] at unlaunched ⊢
    exact fun event member => unlaunched event (List.takeWhile_subset _ member)
  rw [closings_due, due?, none, ite_self]
  rfl

theorem closings_swap (uncalled : isCalledOff before = false)
    (unlaunched : launchedOn? (before ++ between) = none)
    (apart : isCalledOff between = false ∨ isOver between = false) (closer : Closer)
    (later : List (Event Closer)) :
    closings (before ++ .cancel :: between ++ .launching closer :: later) =
      closings (before ++ .launching closer :: between ++ .cancel :: later) := by
  rw [launchedOn_append, Option.or_eq_none_iff] at unlaunched
  obtain ⟨early, middle⟩ := unlaunched
  have calledFirst : isOver (before ++ .cancel :: between) = isOver (before ++ between) := by
    simp [isOver, Event.isEnd]
  have launchedFirst : isOver (before ++ .launching closer :: between) = isOver (before ++ between) := by
    simp [isOver, Event.isEnd]
  have first : launchedOn? (before ++ .cancel :: between) = none := by
    rw [launchedOn_append, early]
    exact middle
  cases ended : isOver (before ++ between) with
  | true =>
    rw [closings_over (calledFirst.trans ended), closings_over (launchedFirst.trans ended),
      closings_of_unlaunched first]
    rcases apart with unrepeated | ongoing
    · have never : isCalledOff (before ++ .launching closer :: between) = false := by
        rw [isCalledOff_append, uncalled]
        exact unrepeated
      rw [closings_of_uncalled never]
    · have spent : isOver before = true := by rwa [isOver_append, ongoing, Bool.or_false] at ended
      rw [closings_over spent, closings_of_uncalled uncalled]
  | false =>
    have second : launchedOn? (before ++ .launching closer :: between) = some closer := by
      rw [launchedOn_append, early]
      rfl
    apply closings_congr
    · rw [beforeEnd_ongoing (calledFirst.trans ended), beforeEnd_ongoing (launchedFirst.trans ended)]
      simp [isCalledOff, beforeEnd, Event.isEnd, Event.isCancel]
    · rw [beforeEnd_ongoing (calledFirst.trans ended), beforeEnd_ongoing (launchedFirst.trans ended),
        launchedOn_append (before ++ .cancel :: between), first,
        launchedOn_append (before ++ .launching closer :: between), second]
      rfl

theorem track_closes (seat : CommandSeat) (told : List (Event Unit)) :
    (absorb CommandSeat.track seat told).2 =
      ((machine.steps seat.cancellation told).filterMap Prod.snd).map fun () => .send .close := by
  induction told generalizing seat with
  | nil => rfl
  | cons event told ih =>
    rw [Machine.filterMap_steps_cons, List.map_append]
    exact congrArg (_ ++ ·) (ih _)

-- The channel of the first launch is closed at most once, however the events are ordered.
theorem called_off_once (events : List (Event Closer)) :
    closings events = (due? events).toList ∧
    (∀ earlier event later, events = earlier ++ event :: later → ∀ closer,
      ((after earlier).advance event).2 = some closer ↔
        isOver earlier = false ∧ Completes earlier event closer) ∧
    (∀ earlier later, events = earlier ++ later → isOver earlier = true →
      closings events = closings earlier) ∧
    (after events).isFinished = isOver events ∧
    closings (beforeEnd events) = closings events ∧
    (∀ others, isCalledOff (beforeEnd others) = isCalledOff (beforeEnd events) →
      launchedOn? (beforeEnd others) = launchedOn? (beforeEnd events) →
      closings others = closings events) ∧
    (∀ before between later : List (Event Closer), isCalledOff before = false →
      launchedOn? (before ++ between) = none → isCalledOff between = false ∨ isOver between = false →
      ∀ closer, closings (before ++ .cancel :: between ++ .launching closer :: later) =
        closings (before ++ .launching closer :: between ++ .cancel :: later)) ∧
    ∀ (seat : CommandSeat) told, seat.cancellation = .untouched →
      (absorb CommandSeat.track seat told).2 = (due? told).toList.map fun () => .send .close := by
  refine ⟨closings_due events, ?_, ?_, finished_iff events, closings_before_end events,
    fun others => closings_congr, ?_, ?_⟩
  · intro earlier event later _ closer
    exact closes_iff earlier event closer
  · rintro earlier later rfl ended
    exact closings_over ended later
  · intro before between later uncalled unlaunched apart closer
    exact closings_swap uncalled unlaunched apart closer later
  · intro seat told untouched
    rw [track_closes, untouched, ← closings_due]
    rfl

-- Called off twice before there is a channel, and again when all is over.
def hasty : List (Event Nat) :=
  [.cancel, .cancel, .launching 3, .launching 4, .failed, .launching 5, .cancel]

theorem called_off_once_hasty :
    closings hasty = [3] ∧
    ((after [.cancel, .cancel]).advance (.launching 3)).2 = some 3 ∧
    closings (hasty.take 5) = closings hasty ∧
    closings (.launching 3 :: [.cancel] ++ .cancel :: hasty.drop 3) = closings hasty ∧
    (absorb CommandSeat.track ⟨.fresh "date", {}, .untouched⟩ [.launching (), .cancel, .cancel]).2 =
      [.send .close] := by
  obtain ⟨closes, whenever, stays, _, _, _, swaps, tracks⟩ := called_off_once hasty
  refine ⟨closes, ?_, ?_, ?_, ?_⟩
  · exact (whenever [.cancel, .cancel] (.launching 3) (hasty.drop 3) rfl 3).mpr ⟨rfl, .launches rfl rfl⟩
  · exact (stays (hasty.take 5) (hasty.drop 5) rfl rfl).symm
  · exact (swaps [] [.cancel] (hasty.drop 3) rfl rfl (.inr rfl) 3).symm
  · exact tracks ⟨.fresh "date", {}, .untouched⟩ [.launching (), .cancel, .cancel] rfl

end SecureShell.Launch.Cancellation
