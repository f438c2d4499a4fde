import SecureShell.Launch.Start
import SecureShell.Proofs.Custody

namespace SecureShell.Launch.Start

namespace Event

-- What ends the wait for a channel without one, and what ends the wait for the session.

def refusal? : Event → Option Verdict
  | .refused fault => some (.error (.transport fault))
  | .deadline => some (.error .timeout)
  | .opened | .reported _ | .withdrawn => none

def outcome? : Event → Option Verdict
  | .reported verdict => some verdict
  | .withdrawn => some (.error .unknown)
  | .deadline => some (.error .timeout)
  | .opened | .refused _ => none

def isAnswer : Event → Bool
  | .opened | .refused _ => true
  | .reported _ | .withdrawn | .deadline => false

end Event

-- Up to here a channel could still come in time.
def Awaits (events : List Event) : Prop := ∀ event ∈ events, event ≠ .opened ∧ event.refusal? = none

def InTime (events : List Event) : Prop :=
  ∃ early later, events = early ++ .opened :: later ∧ Awaits early

-- How a start ends, by the first event that ends the wait it is in: without a channel, or with one.
inductive Comes : List Event → Bool → Verdict → Prop
  | unopened (awaits : Awaits early) (refuses : event.refusal? = some verdict) (later : List Event) :
      Comes (early ++ event :: later) false verdict
  | opened (awaits : Awaits early) (waits : ∀ event ∈ between, event.outcome? = none)
      (ends : event.outcome? = some verdict) (later : List Event) :
      Comes (early ++ .opened :: (between ++ event :: later)) true verdict

-- A start that has not ended yet, and whether it has its channel.
inductive Waits : List Event → Bool → Prop
  | unopened (awaits : Awaits events) : Waits events false
  | opened (awaits : Awaits early) (waits : ∀ event ∈ between, event.outcome? = none) :
      Waits (early ++ .opened :: between) true

def Effect.verdict? : Effect → Option Verdict
  | .settle verdict => some verdict
  | .attach | .close => none

def machine : Machine Start Event (Start × List Effect) := ⟨advance, Prod.fst⟩

def effectsBy (start : Start) (events : List Event) : List Effect :=
  machine.collect Prod.snd start events

theorem effectsBy_cons (start : Start) (event : Event) (events : List Event) :
    effectsBy start (event :: events) =
      (start.advance event).2 ++ effectsBy (start.advance event).1 events := rfl

def closing : Verdict → List Effect
  | .ok () => []
  | .error _ => [.close]

section Advance

variable {start : Start} {event : Event} {verdict : Verdict}

theorem advance_awaits (opening : start.stage = .opening) (awaits : event ≠ .opened)
    (waits : event.refusal? = none) : start.advance event = (start, []) := by
  cases event with
  | opened => exact absurd rfl awaits
  | refused | deadline => cases waits
  | reported | withdrawn => simp only [advance, opening]

theorem advance_refused (opening : start.stage = .opening) (refuses : event.refusal? = some verdict) :
    start.advance event = (⟨.over, start.answered || event.isAnswer⟩, [.settle verdict]) := by
  cases event with
  | opened | reported | withdrawn => cases refuses
  | refused | deadline =>
    cases refuses
    simp [advance, opening, fail, Event.isAnswer]

theorem advance_waits (starting : start.stage = .starting) (waits : event.outcome? = none) :
    start.advance event = (start, []) := by
  cases event with
  | opened | refused => simp only [advance, starting]
  | reported | withdrawn | deadline => cases waits

theorem advance_ends (starting : start.stage = .starting) (ends : event.outcome? = some verdict) :
    start.advance event = ({ start with stage := .over }, closing verdict ++ [.settle verdict]) := by
  cases event with
  | opened | refused => cases ends
  | reported verdict =>
    cases ends
    cases verdict with
    | ok done => simp only [advance, starting, closing, List.nil_append]
    | error fault => simp [advance, starting, fail, closing]
  | withdrawn | deadline =>
    cases ends
    simp [advance, starting, fail, closing]

theorem advance_over (ended : start.stage = .over) (event : Event) :
    start.advance event =
      (⟨.over, start.answered || event.isAnswer⟩,
        if event = .opened ∧ start.answered = false then [.close] else []) := by
  obtain ⟨stage, answered⟩ := start
  dsimp only at ended
  subst ended
  cases event <;> cases answered <;> rfl

theorem attaches_iff (start : Start) (event : Event) :
    .attach ∈ (start.advance event).2 ↔ start.stage = .opening ∧ event = .opened := by
  cases stage : start.stage with
  | opening =>
    by_cases opened : event = .opened
    · subst opened
      simp [advance, stage]
    · cases refusal : event.refusal? with
      | none => simp [advance_awaits stage opened refusal, opened]
      | some verdict => simp [advance_refused stage refusal, opened]
  | starting =>
    cases outcome : event.outcome? with
    | none => simp [advance_waits stage outcome]
    | some verdict =>
      rw [advance_ends stage outcome]
      cases verdict <;> simp [closing]
  | «over» =>
    rw [advance_over stage]
    split <;> simp

end Advance

section Run

variable {start : Start} {early between later : List Event} {event : Event} {verdict : Verdict}

theorem effectsBy_awaits (opening : start.stage = .opening) (awaits : Awaits early) (later : List Event) :
    effectsBy start (early ++ later) = effectsBy start later := by
  induction early with
  | nil => rfl
  | cons event early ih =>
    obtain ⟨other, waits⟩ := awaits event List.mem_cons_self
    have rest : Awaits early := fun event member => awaits event (List.mem_cons_of_mem _ member)
    rw [List.cons_append, effectsBy_cons, advance_awaits opening other waits]
    exact ih rest

theorem effectsBy_waits (starting : start.stage = .starting)
    (waits : ∀ event ∈ between, event.outcome? = none) (later : List Event) :
    effectsBy start (between ++ later) = effectsBy start later := by
  induction between with
  | nil => rfl
  | cons event between ih =>
    have here := waits event List.mem_cons_self
    rw [List.cons_append, effectsBy_cons, advance_waits starting here]
    exact ih fun event member => waits event (List.mem_cons_of_mem _ member)

theorem effectsBy_spent (ended : start.stage = .over) (answered : start.answered = true)
    (events : List Event) : effectsBy start events = [] := by
  induction events generalizing start with
  | nil => rfl
  | cons event events ih =>
    have still : (⟨.over, true || event.isAnswer⟩ : Start).answered = true := rfl
    rw [effectsBy_cons, advance_over ended, answered, if_neg (fun both => nomatch both.2), List.nil_append]
    exact ih rfl still

theorem effectsBy_late (ended : start.stage = .over) (unanswered : start.answered = false)
    (events : List Event) (once : events.countP Event.isAnswer ≤ 1) :
    effectsBy start events = if .opened ∈ events then [.close] else [] := by
  induction events generalizing start with
  | nil => rfl
  | cons event events ih =>
    rw [effectsBy_cons, advance_over ended, unanswered]
    cases answers : event.isAnswer with
    | false =>
      have other : event ≠ .opened := by
        rintro rfl
        cases answers
      have rest : events.countP Event.isAnswer ≤ 1 := by simpa [answers] using once
      have missed : .opened ∈ event :: events ↔ .opened ∈ events := by simp [other.symm]
      rw [if_neg fun both => other both.1, List.nil_append]
      simp only [missed]
      exact ih rfl rfl rest
    | true =>
      have none : events.countP Event.isAnswer = 0 := by
        rw [List.countP_cons_of_pos answers] at once
        omega
      have absent : .opened ∉ events := fun member => List.countP_eq_zero.mp none _ member rfl
      rw [effectsBy_spent rfl rfl, List.append_nil]
      simp [absent, eq_comm]

end Run

variable {events : List Event} {verdict : Verdict}

theorem effectsBy_opened (comes : Comes events true verdict) :
    effectsBy {} events = .attach :: (closing verdict ++ [.settle verdict]) := by
  cases comes with
  | @opened early between event verdict awaits waits ends later =>
    rw [effectsBy_awaits rfl awaits, effectsBy_cons]
    have opens : ({} : Start).advance .opened = (⟨.starting, true⟩, [.attach]) := rfl
    rw [opens, effectsBy_waits rfl waits, effectsBy_cons, advance_ends rfl ends, effectsBy_spent rfl rfl]
    simp

theorem effectsBy_unopened (once : events.countP Event.isAnswer ≤ 1) (comes : Comes events false verdict) :
    effectsBy {} events = .settle verdict :: if .opened ∈ events then [.close] else [] := by
  cases comes with
  | unopened awaits refuses later =>
    rename_i early event
    have other : event ≠ .opened := by
      rintro rfl
      cases refuses
    have missed : .opened ∈ early ++ event :: later ↔ .opened ∈ later := by
      have before : .opened ∉ early := fun member => (awaits _ member).1 rfl
      simp [before, other.symm]
    simp only [missed]
    rw [List.countP_append] at once
    rw [effectsBy_awaits rfl awaits, effectsBy_cons, advance_refused rfl refuses, List.singleton_append]
    congr 1
    cases answers : event.isAnswer with
    | true =>
      have none : later.countP Event.isAnswer = 0 := by
        rw [List.countP_cons_of_pos answers] at once
        omega
      have absent : .opened ∉ later := fun member => List.countP_eq_zero.mp none _ member rfl
      rw [if_neg absent]
      exact effectsBy_spent rfl rfl later
    | false =>
      have rest : later.countP Event.isAnswer ≤ 1 := by
        rw [List.countP_cons_of_neg (by simp [answers])] at once
        omega
      exact effectsBy_late rfl rfl later rest

theorem effectsBy_waiting {opened : Bool} (waiting : Waits events opened) :
    effectsBy {} events = if opened then [.attach] else [] := by
  cases waiting with
  | unopened awaits =>
    have done : effectsBy {} (events ++ []) = [] := effectsBy_awaits rfl awaits []
    rwa [List.append_nil] at done
  | opened awaits waits =>
    rename_i early between
    have opens : ({} : Start).advance .opened = (⟨.starting, true⟩, [.attach]) := rfl
    have done : effectsBy ⟨.starting, true⟩ (between ++ []) = [] := effectsBy_waits rfl waits []
    rw [List.append_nil] at done
    rw [effectsBy_awaits rfl awaits, effectsBy_cons, opens, done]
    rfl

theorem comes_or_waits (events : List Event) :
    (∃ opened verdict, Comes events opened verdict) ∨
      .deadline ∉ events ∧ ∃ opened, Waits events opened := by
  let stops (event : Event) : Option (Option Verdict) :=
    if event = .opened then some none else event.refusal?.map some
  have passes (event : Event) (goes : stops event = none) :
      event ≠ .opened ∧ event.refusal? = none := by
    simp only [stops] at goes
    split at goes
    · cases goes
    · rename_i other
      exact ⟨other, Option.map_eq_none_iff.mp goes⟩
  have timely (between : List Event) (waits : ∀ event ∈ between, event.outcome? = none) :
      .deadline ∉ between := fun member => nomatch waits .deadline member
  have early (events : List Event) (awaits : Awaits events) : .deadline ∉ events :=
    fun member => nomatch (awaits .deadline member).2
  cases first : events.findSome? stops with
  | none =>
    have awaits : Awaits events := fun event member =>
      passes event (List.findSome?_eq_none_iff.mp first event member)
    exact .inr ⟨early events awaits, false, .unopened awaits⟩
  | some stop =>
    obtain ⟨front, event, rest, rfl, hit, before⟩ := List.findSome?_eq_some_iff.mp first
    have awaits : Awaits front := fun event member => passes event (before event member)
    by_cases opened : event = .opened
    · subst opened
      cases second : rest.findSome? Event.outcome? with
      | none =>
        have waits := List.findSome?_eq_none_iff.mp second
        refine .inr ⟨?_, true, .opened awaits waits⟩
        simpa using ⟨early front awaits, timely rest waits⟩
      | some verdict =>
        obtain ⟨between, event, later, rfl, ends, waits⟩ := List.findSome?_eq_some_iff.mp second
        exact .inl ⟨true, verdict, .opened awaits waits ends later⟩
    · simp only [stops, if_neg opened] at hit
      obtain ⟨verdict, refuses, rfl⟩ := Option.map_eq_some_iff.mp hit
      exact .inl ⟨false, verdict, .unopened awaits refuses rest⟩

theorem past_stays {start : Start} (past : start.stage ≠ .opening) (event : Event) :
    (start.advance event).1.stage ≠ .opening := by
  cases stage : start.stage with
  | opening => exact absurd stage past
  | starting =>
    cases outcome : event.outcome? with
    | none =>
      rw [advance_waits stage outcome, stage]
      nofun
    | some verdict =>
      rw [advance_ends stage outcome]
      nofun
  | «over» =>
    rw [advance_over stage]
    nofun

theorem attaches_no_more {start : Start} (past : start.stage ≠ .opening) (events : List Event) :
    .attach ∉ effectsBy start events := by
  induction events generalizing start with
  | nil => exact List.not_mem_nil
  | cons event events ih =>
    rw [effectsBy_cons, List.mem_append, not_or]
    exact ⟨fun attaches => past ((attaches_iff start event).mp attaches).1, ih (past_stays past event)⟩

theorem in_time_of_attach {start : Start} (opening : start.stage = .opening)
    (attaches : .attach ∈ effectsBy start events) : InTime events := by
  induction events with
  | nil => exact absurd attaches List.not_mem_nil
  | cons event events ih =>
    by_cases opened : event = .opened
    · subst opened
      exact ⟨[], events, rfl, List.forall_mem_nil _⟩
    · rw [effectsBy_cons] at attaches
      cases refusal : event.refusal? with
      | none =>
        rw [advance_awaits opening opened refusal] at attaches
        obtain ⟨early, later, rfl, awaits⟩ := ih attaches
        exact ⟨event :: early, later, rfl, List.forall_mem_cons.mpr ⟨⟨opened, refusal⟩, awaits⟩⟩
      | some verdict =>
        rw [advance_refused opening refusal, List.singleton_append, List.mem_cons] at attaches
        rcases attaches with here | later
        · cases here
        · have past : (⟨.over, start.answered || event.isAnswer⟩ : Start).stage ≠ .opening := nofun
          exact absurd later (attaches_no_more past events)

theorem attached_iff (events : List Event) :
    ((effectsBy {} events).count .attach = 1 ↔ InTime events) ∧
      (.attach ∈ effectsBy {} events ↔ InTime events) := by
  have counted (timely : InTime events) : (effectsBy {} events).count .attach = 1 := by
    obtain ⟨early, later, rfl, awaits⟩ := timely
    have opens : ({} : Start).advance .opened = (⟨.starting, true⟩, [.attach]) := rfl
    have begun : (⟨.starting, true⟩ : Start).stage ≠ .opening := nofun
    have rest := List.count_eq_zero.mpr (attaches_no_more begun later)
    rw [effectsBy_awaits rfl awaits, effectsBy_cons, opens, List.singleton_append, List.count_cons_self,
      rest]
  have timely (attaches : .attach ∈ effectsBy {} events) : InTime events :=
    in_time_of_attach rfl attaches
  have member (once : (effectsBy {} events).count .attach = 1) : .attach ∈ effectsBy {} events :=
    List.count_pos_iff.mp (once ▸ Nat.zero_lt_one)
  exact ⟨⟨timely ∘ member, counted⟩, timely, member ∘ counted⟩

theorem verdicts_opened (comes : Comes events true verdict) :
    (effectsBy {} events).filterMap Effect.verdict? = [verdict] := by
  rw [effectsBy_opened comes]
  cases verdict <;> rfl

theorem verdicts_unopened (once : events.countP Event.isAnswer ≤ 1) (comes : Comes events false verdict) :
    (effectsBy {} events).filterMap Effect.verdict? = [verdict] := by
  rw [effectsBy_unopened once comes]
  split <;> rfl

theorem verdicts_waiting {opened : Bool} (waiting : Waits events opened) :
    (effectsBy {} events).filterMap Effect.verdict? = [] := by
  rw [effectsBy_waiting waiting]
  split <;> rfl

theorem settled_iff (once : events.countP Event.isAnswer ≤ 1) (verdict : Verdict) :
    (effectsBy {} events).filterMap Effect.verdict? = [verdict] ↔ ∃ opened, Comes events opened verdict := by
  constructor
  · intro settled
    rcases comes_or_waits events with ⟨opened, other, comes⟩ | ⟨_, opened, waiting⟩
    · have same : [other] = [verdict] := by
        cases opened with
        | true => exact (verdicts_opened comes).symm.trans settled
        | false => exact (verdicts_unopened once comes).symm.trans settled
      cases same
      exact ⟨opened, comes⟩
    · rw [verdicts_waiting waiting] at settled
      cases settled
  · rintro ⟨opened, comes⟩
    cases opened with
    | true => exact verdicts_opened comes
    | false => exact verdicts_unopened once comes

theorem settled_at_most_once (once : events.countP Event.isAnswer ≤ 1) :
    ((effectsBy {} events).filterMap Effect.verdict?).length ≤ 1 := by
  rcases comes_or_waits events with ⟨opened, verdict, comes⟩ | ⟨_, opened, waiting⟩
  · rw [(settled_iff once verdict).mpr ⟨opened, comes⟩]
    exact Nat.le_refl 1
  · rw [verdicts_waiting waiting]
    exact Nat.zero_le 1

theorem in_time_of_comes (once : events.countP Event.isAnswer ≤ 1) {opened : Bool}
    (comes : Comes events opened verdict) : opened = true ↔ InTime events := by
  rw [← (attached_iff events).2]
  cases opened with
  | true => simp [effectsBy_opened comes]
  | false =>
    rw [effectsBy_unopened once comes]
    split <;> simp

theorem closed_late (once : events.countP Event.isAnswer ≤ 1) (late : ¬ InTime events)
    (opened : .opened ∈ events) : .close ∈ effectsBy {} events := by
  rcases comes_or_waits events with ⟨had, verdict, comes⟩ | ⟨_, had, waiting⟩
  · cases had with
    | true => exact absurd ((in_time_of_comes once comes).mp rfl) late
    | false =>
      rw [effectsBy_unopened once comes, if_pos opened]
      simp
  · cases waiting with
    | unopened awaits => exact absurd rfl (awaits .opened opened).1
    | opened awaits waits => exact absurd ⟨_, _, rfl, awaits⟩ late

theorem closed_of_failure (once : events.countP Event.isAnswer ≤ 1) {had : Bool} {fault : ConnectionFault}
    (comes : Comes events had (.error fault)) (opened : .opened ∈ events) :
    .close ∈ effectsBy {} events := by
  cases had with
  | true =>
    rw [effectsBy_opened comes]
    simp [closing]
  | false =>
    rw [effectsBy_unopened once comes, if_pos opened]
    simp

theorem left_open_of_success {had : Bool} (comes : Comes events had (.ok ())) :
    had = true ∧ .close ∉ effectsBy {} events := by
  cases had with
  | true =>
    rw [effectsBy_opened comes]
    simp [closing]
  | false =>
    cases comes with
    | unopened awaits refuses later =>
      rename_i early event
      cases event <;> cases refuses

-- One event more.

theorem reach_concat (events : List Event) (event : Event) :
    machine.reach {} (events ++ [event]) = ((machine.reach {} events).advance event).1 := by
  rw [Machine.reach_append]
  rfl

theorem effectsBy_concat (events : List Event) (event : Event) :
    effectsBy {} (events ++ [event]) =
      effectsBy {} events ++ ((machine.reach {} events).advance event).2 :=
  machine.collect_concat Prod.snd {} events event

theorem awaits_of_opening (opening : (machine.reach {} events).stage = .opening) : Awaits events := by
  induction events using List.reverseRecOn with
  | nil => exact List.forall_mem_nil _
  | append_singleton events event ih =>
    rw [reach_concat] at opening
    have before : (machine.reach {} events).stage = .opening := by
      by_contra past
      exact past_stays past event opening
    refine List.forall_mem_append.mpr ⟨ih before, List.forall_mem_singleton.mpr ?_⟩
    constructor
    · rintro rfl
      simp [advance, before] at opening
    · cases refusal : event.refusal? with
      | none => rfl
      | some verdict =>
        rw [advance_refused before refusal] at opening
        cases opening

theorem answered_exact (events : List Event) :
    (machine.reach {} events).answered = events.any Event.isAnswer ∧
      ((machine.reach {} events).stage = .starting → (machine.reach {} events).answered = true) := by
  induction events using List.reverseRecOn with
  | nil => exact ⟨rfl, nofun⟩
  | append_singleton events event ih =>
    obtain ⟨same, begun⟩ := ih
    rw [reach_concat, List.any_append, ← same]
    cases stage : (machine.reach {} events).stage with
    | opening =>
      by_cases opened : event = .opened
      · subst opened
        simp [advance, stage, Event.isAnswer]
      · cases refusal : event.refusal? with
        | none =>
          have other : event.isAnswer = false := by
            cases event with
            | opened => exact absurd rfl opened
            | refused => cases refusal
            | _ => rfl
          simp [advance_awaits stage opened refusal, stage, other]
        | some verdict => simp [advance_refused stage refusal]
    | starting =>
      have answered := begun stage
      cases outcome : event.outcome? with
      | none => simp [advance_waits stage outcome, answered]
      | some verdict => simp [advance_ends stage outcome, answered]
    | «over» => simp [advance_over stage]

theorem in_time_concat (events : List Event) (event : Event) :
    InTime (events ++ [event]) ↔
      InTime events ∨ .attach ∈ ((machine.reach {} events).advance event).2 := by
  rw [← (attached_iff (events ++ [event])).2, effectsBy_concat, List.mem_append, (attached_iff events).2]

theorem settles_iff (once : events.countP Event.isAnswer ≤ 1) (verdict : Verdict) :
    .settle verdict ∈ effectsBy {} events ↔ ∃ opened, Comes events opened verdict := by
  rw [← settled_iff once]
  have named : .settle verdict ∈ effectsBy {} events ↔
      verdict ∈ (effectsBy {} events).filterMap Effect.verdict? := by
    rw [List.mem_filterMap]
    constructor
    · exact fun settles => ⟨_, settles, rfl⟩
    · rintro ⟨effect, member, same⟩
      cases effect <;> cases same
      exact member
  rw [named]
  constructor
  · intro member
    obtain ⟨only, same⟩ := List.length_eq_one_iff.mp
      (Nat.le_antisymm (settled_at_most_once once) (List.length_pos_of_mem member))
    rw [same] at member ⊢
    rw [List.mem_singleton.mp member]
  · intro same
    rw [same]
    exact List.mem_singleton_self verdict

theorem comes_up_iff : (∃ opened, Comes events opened (.ok ())) ↔
    ∃ early between later, events = early ++ .opened :: (between ++ .reported (.ok ()) :: later) ∧
      Awaits early ∧ ∀ event ∈ between, event.outcome? = none := by
  constructor
  · rintro ⟨opened, comes⟩
    generalize up : (Except.ok () : Verdict) = verdict at comes
    cases comes with
    | unopened awaits refuses later =>
      subst up
      rename_i event
      cases event <;> cases refuses
    | opened awaits waits ends later =>
      subst up
      rename_i early between event
      cases event <;> cases ends
      exact ⟨early, between, later, rfl, awaits, waits⟩
  · rintro ⟨early, between, later, rfl, awaits, waits⟩
    exact ⟨true, .opened awaits waits rfl later⟩

-- What comes of a start, for whatever it hears: its promise is kept once, and its channel gets the
-- session or is closed.
structure Accounts (events : List Event) (done : List Effect) : Prop where
  once : (done.filterMap Effect.verdict?).length ≤ 1
  timely : .deadline ∈ events → (done.filterMap Effect.verdict?).length = 1
  settles : ∀ verdict, .settle verdict ∈ done ↔ ∃ opened, Comes events opened verdict
  succeeds : .settle (.ok ()) ∈ done ↔
    ∃ early between later, events = early ++ .opened :: (between ++ .reported (.ok ()) :: later) ∧
      Awaits early ∧ ∀ event ∈ between, event.outcome? = none
  attaches : (InTime events → done.count .attach = 1) ∧ (¬ InTime events → .attach ∉ done)
  closes : .opened ∈ events → (¬ InTime events ∨ ∃ fault, .settle (.error fault) ∈ done) → .close ∈ done
  spares : .settle (.ok ()) ∈ done → .close ∉ done

theorem accounts (once : events.countP Event.isAnswer ≤ 1) : Accounts events (effectsBy {} events) where
  once := settled_at_most_once once
  timely ends := by
    rcases comes_or_waits events with ⟨opened, verdict, comes⟩ | ⟨early, _⟩
    · rw [(settled_iff once verdict).mpr ⟨opened, comes⟩]
      rfl
    · exact absurd ends early
  settles := settles_iff once
  succeeds := (settles_iff once (.ok ())).trans comes_up_iff
  attaches := ⟨(attached_iff events).1.mpr, fun late => late ∘ (attached_iff events).2.mp⟩
  closes opened fails := by
    rcases fails with late | ⟨fault, settles⟩
    · exact closed_late once late opened
    · obtain ⟨had, comes⟩ := (settles_iff once (.error fault)).mp settles
      exact closed_of_failure once comes opened
  spares settles := by
    obtain ⟨had, comes⟩ := (settles_iff once (.ok ())).mp settles
    exact (left_open_of_success comes).2

end SecureShell.Launch.Start
