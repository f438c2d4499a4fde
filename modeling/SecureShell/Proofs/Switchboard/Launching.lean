import SecureShell.Proofs.Switchboard.Admission
import SecureShell.Proofs.Switchboard.OpenFiles

namespace SecureShell
open Launch (Cancellation Start Verdict)
open Launch.Start

namespace Switchboard

-- How a line has come to where it is by now, step by step: all that its start has heard, and all that
-- whoever tracks it was told.
inductive Line.Course (now : Nat) : List Event → List (Cancellation.Event Unit) → Line → Prop
  | fresh (channel : Nat) (origin : CallId) (ticket : Ticket) (deadline : Nat) (venture : Venture) :
      Course now [] [] { channel, origin, ticket, deadline, seat := .ofVenture venture }
  | goes {events heard : List Event} {told more : List (Cancellation.Event Unit)} {line after : Line}
      (course : Course now events told line) (steps : line.Steps (line.deadline ≤ now) heard more after) :
      Course now (events ++ heard) (told ++ more) after

-- What a line keeps of that. A session is attached if and only if the channel came in time, and
-- whoever tracks the start of a command was told so once, then.
structure Line.Traced (line : Line) (now : Nat) (events : List Event)
    (told : List (Cancellation.Event Unit)) : Prop where
  once : events.countP Event.isAnswer ≤ 1
  start : line.start = machine.reach {} events
  attached : line.attached = true ↔ InTime events
  launched : told.count (.launching ()) = line.attached.toNat
  knows : ∀ seat, line.seat = .command seat → seat.cancellation = heardOf .untouched told
  lapsed : .deadline ∈ events → line.deadline ≤ now

structure Traced (board : Switchboard) : Prop where
  numbered : board.lines.map Line.channel = List.range' 1 board.lines.length
  lines : ∀ line ∈ board.lines, ∃ events told, line.Course board.now events told

variable {board : Switchboard} {channel now : Nat} {line : Line} {event : Event} {events : List Event}
  {told : List (Cancellation.Event Unit)}

theorem Line.Steps.mono {due later : Prop} {heard : List Event} {after : Line}
    (steps : line.Steps due heard told after) (imp : due → later) : line.Steps later heard told after := by
  cases steps with
  | sits untold goes engine => exact .sits untold goes engine
  | starts event late once lapses engine => exact .starts event late once (imp ∘ lapses) engine
  | attaches timely goes engine => exact .attaches timely goes engine

theorem Line.Course.later {later : Nat} (course : line.Course now events told) (le : now ≤ later) :
    line.Course later events told := by
  induction course with
  | fresh => exact .fresh _ _ _ _ _
  | goes course steps ih => exact .goes ih (steps.mono fun due => due.trans le)

theorem told_on {before after : Seat} {more : List (Cancellation.Event Unit)} (goes : before.Goes more after)
    (knows : ∀ seat, before = .command seat → seat.cancellation = heardOf .untouched told) :
    ∀ seat, after = .command seat → seat.cancellation = heardOf .untouched (told ++ more) := by
  intro seat sits
  cases goes with
  | command heard =>
    cases sits
    rw [heard, knows _ rfl, heardOf, heardOf, heardOf, List.foldl_append]
  | shell | files => cases sits

theorem Line.Traced.fresh (channel : Nat) (origin : CallId) (ticket : Ticket) (deadline : Nat)
    (venture : Venture) (now : Nat) : Line.Traced
      { channel, origin, ticket, deadline, seat := .ofVenture venture } now [] [] := by
  refine ⟨Nat.zero_le 1, rfl, ⟨nofun, ?_⟩, rfl, ?_, nofun⟩
  · rintro ⟨early, later, split, _⟩
    simp at split
  · intro seat sits
    cases venture with
    | command text collected =>
      cases sits
      rfl
    | shell | files => cases sits

theorem Line.Traced.starts (traced : line.Traced now events told)
    (late : .attach ∉ (line.start.advance event).2)
    (once : event.isAnswer = true → line.start.answered = false)
    (lapses : event = .deadline → line.deadline ≤ now) (engine : Engine) :
    ({ line with start := (line.start.advance event).1, engine } : Line).Traced now (events ++ [event])
      (told ++ []) := by
  rw [List.append_nil]
  refine ⟨?_, ?_, ?_, traced.launched, traced.knows, ?_⟩
  · rw [List.countP_append]
    cases answers : event.isAnswer with
    | false =>
      rw [List.countP_cons_of_neg (by simp [answers])]
      exact traced.once
    | true =>
      have unanswered := once answers
      rw [traced.start, (answered_exact events).1] at unanswered
      rw [List.countP_eq_zero.mpr (by simpa using unanswered), List.countP_cons_of_pos answers]
      exact Nat.le_refl 1
  · rw [reach_concat, ← traced.start]
  · rw [in_time_concat, ← traced.start]
    exact traced.attached.trans (by simp [late])
  · intro ends
    rcases List.mem_append.mp ends with before | here
    · exact traced.lapsed before
    · exact lapses (List.mem_singleton.mp here).symm

theorem Line.Traced.attaches {seat : Seat} (traced : line.Traced now events told)
    (timely : .attach ∈ (line.start.advance .opened).2) (goes : line.seat.Goes [.launching ()] seat)
    (engine : Engine) :
    ({ line with start := (line.start.advance .opened).1, engine, seat, attached := true } : Line).Traced now
      (events ++ [.opened]) (told ++ [.launching ()]) := by
  have opening : (machine.reach {} events).stage = .opening :=
    traced.start ▸ ((attaches_iff line.start .opened).mp timely).1
  have awaits := awaits_of_opening opening
  have untimely : ¬ InTime events := by
    rintro ⟨early, later, rfl, _⟩
    exact (awaits .opened (by simp)).1 rfl
  have unattached : line.attached = false := Bool.eq_false_iff.mpr (untimely ∘ traced.attached.mp)
  refine ⟨?_, ?_, ?_, ?_, told_on goes traced.knows, ?_⟩
  · have unanswered : events.countP Event.isAnswer = 0 := by
      refine List.countP_eq_zero.mpr fun event member answers => ?_
      obtain ⟨other, refusal⟩ := awaits event member
      cases event with
      | opened => exact other rfl
      | refused => cases refusal
      | _ => cases answers
    rw [List.countP_append, unanswered]
    exact Nat.le_refl 1
  · rw [reach_concat, ← traced.start]
  · exact iff_of_true rfl ⟨events, [], rfl, awaits⟩
  · rw [List.count_append, traced.launched, unattached]
    rfl
  · intro ends
    exact traced.lapsed (by simpa using ends)

theorem Line.Course.traced (course : line.Course now events told) : line.Traced now events told := by
  induction course with
  | fresh => exact .fresh _ _ _ _ _ _
  | goes course steps traced =>
    cases steps with
    | sits untold goes engine =>
      rw [List.append_nil]
      refine ⟨traced.once, traced.start, traced.attached, ?_, told_on goes traced.knows, traced.lapsed⟩
      rw [List.count_append, List.count_eq_zero.mpr untold]
      exact traced.launched
    | starts event late once lapses engine => exact traced.starts late once lapses engine
    | attaches timely goes engine => exact traced.attaches timely goes engine

theorem Shift.traced {after : Switchboard} (shift : Shift grows board after) (traced : board.Traced) :
    after.Traced := by
  have apart : (board.lines.map Line.channel).Nodup := traced.numbered ▸ List.nodup_range'
  cases shift with
  | aside pending handles lines turn now tickets =>
    refine ⟨by rw [lines, traced.numbered], fun line member => ?_⟩
    rw [now]
    exact traced.lines line (lines ▸ member)
  | elapses may time =>
    refine ⟨traced.numbered, fun line member => ?_⟩
    obtain ⟨events, told, course⟩ := traced.lines line member
    exact ⟨events, told, course.later (Nat.le_add_right _ _)⟩
  | @places line moved member goes =>
    refine ⟨by rw [place_channels, traced.numbered, place, List.length_map], fun other there => ?_⟩
    obtain ⟨old, among, rfl⟩ := List.mem_map.mp there
    split
    · obtain ⟨events, told, course⟩ := traced.lines line member
      obtain ⟨heard, more, steps⟩ := goes
      exact ⟨events ++ heard, told ++ more, .goes course (steps.mono fun due => due apart)⟩
    · exact traced.lines old among
  | opens may origin ticket deadline venture =>
    refine ⟨by simp [traced.numbered, List.range'_concat, Nat.add_comm], fun line there => ?_⟩
    rcases List.mem_append.mp there with old | new
    · exact traced.lines line old
    · rw [List.mem_singleton.mp new]
      exact ⟨[], [], .fresh _ origin ticket deadline venture⟩
  | forgets | passes | hands => exact ⟨traced.numbered, traced.lines⟩

theorem Traced.step (traced : board.Traced) (orderly : board.Orderly board.turn) (stimulus : Stimulus) :
    (board.step stimulus).1.Traced := by
  obtain ⟨after, way, same⟩ := step_evolves orderly.distinct orderly.new stimulus
  have without : (board.without (board.takenBy stimulus)).Traced := by
    cases board.takenBy stimulus <;> exact ⟨traced.numbered, traced.lines⟩
  have later : after.Traced := way.keeps Shift.traced without
  rw [same]
  exact ⟨later.numbered, later.lines⟩

theorem Traced.after (traced : board.Traced) (orderly : board.Orderly board.turn) (stimuli : List Stimulus) :
    (board.after stimuli).Traced :=
  orderly.keeps Traced (fun orderly stimulus traced => traced.step orderly stimulus) traced stimuli

-- No start is left to go on past its deadline.

def Over (board : Switchboard) (channel : Nat) : Prop :=
  ∀ line ∈ board.lines, line.channel = channel → line.start.stage = .over

theorem Over.rests {after : Switchboard} (all : board.Over channel) (rests : Rests board after) :
    after.Over channel := by
  intro line member mine
  obtain ⟨old, among, same, _, ended⟩ := rests.lines line member
  exact ended (all old among (same.symm.trans mine))

variable {call : CallId} {ticket : Ticket} {venture : Venture} {fault : ConnectionFault}

theorem granted (link : Nat) (request : Connection.SessionRequest)
    (waits : board.waiter? request.promise = some ⟨call, ticket, .venture venture⟩) :
    board.openLine link request =
      { board with
        lines := board.lines ++ [{
          channel := board.lines.length + 1, origin := call, ticket
          deadline := board.now + request.timeout, seat := .ofVenture venture }]
        notices := board.notices ++ [.openChannel (board.lines.length + 1) link] } := by
  rw [openLine, waits]
  rfl

def asked : List Stimulus := opening.take 4

end Switchboard
end SecureShell
