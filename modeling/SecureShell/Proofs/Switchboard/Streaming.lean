import SecureShell.Proofs.Exec.Reading
import SecureShell.Proofs.Exec.Utterance
import SecureShell.Switchboard.Line

namespace SecureShell.Switchboard.Streaming
open Exec (Output Verdict Stream isAccepted isClean endVerdict)
open Exec.Stream (Polled)
open Exec.Session (Heard said)

-- What the session lets out arrives piece by piece; in between, whoever holds the stream polls
-- it or calls the command off, whenever they like.
inductive Occasion
  | arrives (piece : Exec.Session.Effect)
  | polls
  | cancels
  deriving DecidableEq

structure Move where
  seat : CommandSeat
  effects : List Effect := []
  told : Option Polled := none

def move (seat : CommandSeat) : Occasion → Move
  | .arrives piece => { seat := (seat.take piece).1, effects := (seat.take piece).2 }
  | .polls => { seat := seat.read seat.stream.poll.2, told := some seat.stream.poll.1 }
  | .cancels => { seat := seat.cancel.1, effects := seat.cancel.2 }

def machine : Machine CommandSeat Occasion Move := ⟨move, Move.seat⟩

def launched (command : String) : CommandSeat :=
  (({ session := .fresh command } : CommandSeat).track (.launching ())).1

def seatAfter (command : String) (occasions : List Occasion) : CommandSeat :=
  machine.reach (launched command) occasions

def unread (command : String) (heard : List Heard) : CommandSeat :=
  heard.foldl (fun seat heard => (seat.hear heard.1 heard.2).1)
    (({ session := .fresh command } : CommandSeat).begin true).1

def arrivals (occasions : List Occasion) : List Exec.Session.Effect :=
  occasions.filterMap fun
    | .arrives piece => some piece
    | .polls | .cancels => none

def outputsOf (pieces : List Exec.Session.Effect) : List Output :=
  pieces.filterMap fun
    | .forward output => some output
    | .put _ | .started _ | .ended _ | .leave => none

def results (command : String) (occasions : List Occasion) : List Polled :=
  ((machine.steps (launched command) occasions).filterMap Move.told).filter (· ≠ .pending)

def items (outputs : List Output) : List Polled := outputs.map fun output => .item (.ok output)

def ending (clean cancelled : Bool) : Polled :=
  if clean then .ended else .item (.error (if cancelled then .cancelled else .unknown))

-- One of the polls has told the end, after all outputs. From then on there is nothing to tell.
def Over (command : String) (outputs : List Output) (clean : Bool) (occasions : List Occasion) : Prop :=
  ∃ earlier later count, occasions = earlier ++ .polls :: later ∧
    .leave ∈ arrivals earlier ∧ results command earlier = items outputs ∧
    results command occasions =
      items outputs ++ ending clean (.cancels ∈ earlier) :: List.replicate count .ended

-- Some of the outputs that have arrived have been told by now, in order, and nothing else.
def Underway (command : String) (outputs : List Output) (occasions : List Occasion) : Prop :=
  ∃ delivered, delivered <+: outputsOf (arrivals occasions) ∧ delivered <+: outputs ∧
    results command occasions = items delivered

def closeVerdict (clean : Bool) : Verdict := if clean then .ok () else .error .unknown

-- What arrives is the account of a command, as far as it has come: its outputs, then its verdict,
-- then its leave.
def Recounts (outputs : List Output) (clean : Bool) (pieces : List Exec.Session.Effect) : Prop :=
  pieces.filter Exec.Session.Effect.isAudible <+:
    outputs.map .forward ++ [.ended (closeVerdict clean)] ++ [.leave]

-- How the stream stands by now. Before the end it holds what has arrived and has not been told.
inductive Stands (command : String) (outputs : List Output) (clean : Bool)
    (occasions : List Occasion) (stream : Stream) : Prop
  | reading {delivered : List Output} (unfinished : stream.finished = false)
      (shared : outputsOf (arrivals occasions) = delivered ++ stream.queue)
      (informed : .ended (closeVerdict clean) ∈ arrivals occasions →
        stream.verdict = some (closeVerdict clean))
      (gone : stream.sourceGone = decide (.leave ∈ arrivals occasions))
      (cancelled : stream.cancelled = decide (.cancels ∈ occasions))
      (told : results command occasions = items delivered)
  | done (finished : stream.finished = true) (ended : Over command outputs clean occasions)

variable {command : String} {outputs : List Output} {clean : Bool} {seat : CommandSeat}
  {occasions : List Occasion} {pieces more : List Exec.Session.Effect} {stream : Stream}

theorem seatAfter_concat (command : String) (occasions : List Occasion) (occasion : Occasion) :
    seatAfter command (occasions ++ [occasion]) = (move (seatAfter command occasions) occasion).seat :=
  machine.reach_append (launched command) occasions [occasion]

theorem results_append (command : String) (earlier later : List Occasion) :
    results command (earlier ++ later) =
      results command earlier ++
        ((machine.steps (seatAfter command earlier) later).filterMap Move.told).filter (· ≠ .pending) := by
  rw [results, Machine.steps_append, List.filterMap_append, List.filter_append]
  rfl

theorem results_unpolled (command : String) (occasions : List Occasion) {occasion : Occasion}
    (unpolled : occasion ≠ .polls) :
    results command (occasions ++ [occasion]) = results command occasions := by
  rw [results_append]
  cases occasion with
  | polls => exact absurd rfl unpolled
  | arrives | cancels => exact List.append_nil _

theorem results_polls (command : String) (occasions : List Occasion) :
    results command (occasions ++ [.polls]) =
      results command occasions ++
        [(seatAfter command occasions).stream.poll.1].filter (· ≠ .pending) := results_append _ _ _

theorem arrivals_append (earlier later : List Occasion) :
    arrivals (earlier ++ later) = arrivals earlier ++ arrivals later := List.filterMap_append

theorem arrivals_polls (count : Nat) : arrivals (List.replicate count .polls) = [] := by
  simp [arrivals]

theorem outputsOf_append (pieces more : List Exec.Session.Effect) :
    outputsOf (pieces ++ more) = outputsOf pieces ++ outputsOf more := List.filterMap_append

theorem items_inj {one other : List Output} : items one = items other ↔ one = other := by
  refine List.map_inj_right fun first second same => ?_
  cases same
  rfl

theorem outputsOf_audible (pieces : List Exec.Session.Effect) :
    outputsOf (pieces.filter Exec.Session.Effect.isAudible) = outputsOf pieces := by
  rw [outputsOf, List.filterMap_filter]
  congr
  funext piece
  cases piece <;> rfl

theorem outputsOf_forwards (outputs : List Output) : outputsOf (outputs.map .forward) = outputs := by
  rw [outputsOf, List.filterMap_map]
  exact List.filterMap_some

theorem ending_ne_pending (clean cancelled : Bool) : ending clean cancelled ≠ .pending := by
  cases clean <;> nofun

theorem poll_finished (finished : stream.finished = true) : stream.poll = (.ended, stream) := by
  simp [Stream.poll, finished]

theorem poll_queued (unfinished : stream.finished = false) (waiting : stream.queue = output :: queue) :
    stream.poll = (.item (.ok output), { stream with queue }) := by
  simp [Stream.poll, unfinished, waiting]

theorem poll_waiting (unfinished : stream.finished = false) (empty : stream.queue = [])
    (goes : stream.sourceGone = false) : stream.poll = (.pending, stream) := by
  simp [Stream.poll, unfinished, empty, goes]

theorem poll_gone (unfinished : stream.finished = false) (empty : stream.queue = [])
    (gone : stream.sourceGone = true) (knows : stream.verdict = some (closeVerdict clean)) :
    stream.poll = (ending clean stream.cancelled, { stream with finished := true }) := by
  cases clean <;> simp [Stream.poll, unfinished, empty, gone, knows, closeVerdict, ending]

namespace Recounts

theorem of_prefix (recounts : Recounts outputs clean (pieces ++ more)) : Recounts outputs clean pieces := by
  rw [Recounts, List.filter_append] at recounts
  exact (List.prefix_append _ _).trans recounts

theorem verdict (recounts : Recounts outputs clean pieces) {verdict : Verdict}
    (member : .ended verdict ∈ pieces) : verdict = closeVerdict clean := by
  have told := recounts.subset (List.mem_filter.mpr ⟨member, rfl⟩)
  simpa using told

theorem whole (recounts : Recounts outputs clean pieces) (left : .leave ∈ pieces) :
    .ended (closeVerdict clean) ∈ pieces ∧ outputsOf pieces = outputs := by
  rcases List.prefix_concat_iff.mp recounts with whole | before
  · constructor
    · have told : .ended (closeVerdict clean) ∈ pieces.filter Exec.Session.Effect.isAudible := by simp [whole]
      exact (List.mem_filter.mp told).1
    · rw [← outputsOf_audible, whole, outputsOf_append, outputsOf_append, outputsOf_forwards]
      simp [outputsOf]
  · have told := before.subset (List.mem_filter.mpr ⟨left, rfl⟩)
    simp at told

theorem outputs_prefix (recounts : Recounts outputs clean pieces) : outputsOf pieces <+: outputs := by
  have told := recounts.filterMap (fun
    | .forward output => some output
    | .put _ | .started _ | .ended _ | .leave => none)
  rw [← outputsOf_audible]
  refine told.trans ?_
  rw [← outputsOf, outputsOf_append, outputsOf_append, outputsOf_forwards]
  simp [outputsOf]

end Recounts

namespace Over

variable (ended : Over command outputs clean occasions)

include ended

theorem concat {occasion : Occasion} (count : Nat)
    (silent : results command (occasions ++ [occasion]) =
      results command occasions ++ List.replicate count .ended) :
    Over command outputs clean (occasions ++ [occasion]) := by
  obtain ⟨earlier, later, ends, rfl, left, before, told⟩ := ended
  refine ⟨earlier, later ++ [occasion], ends + count, by simp, left, before, ?_⟩
  rw [silent, told, List.append_assoc, List.cons_append, List.replicate_append_replicate]

theorem left : .leave ∈ arrivals occasions := by
  obtain ⟨earlier, later, _, rfl, left, _⟩ := ended
  rw [arrivals_append]
  exact List.mem_append_left _ left

end Over

namespace Stands

theorem begun (command : String) (outputs : List Output) (clean : Bool) :
    Stands command outputs clean [] (seatAfter command []).stream := by
  have shared : outputsOf (arrivals []) = [] ++ (seatAfter command []).stream.queue := rfl
  exact .reading rfl shared nofun rfl rfl rfl

theorem arrives (stands : Stands command outputs clean occasions seat.stream)
    {piece : Exec.Session.Effect} (recounts : Recounts outputs clean (arrivals occasions ++ [piece])) :
    Stands command outputs clean (occasions ++ [.arrives piece]) (seat.take piece).1.stream := by
  have same : results command (occasions ++ [.arrives piece]) = results command occasions :=
    results_unpolled command occasions nofun
  have brought : arrivals (occasions ++ [.arrives piece]) = arrivals occasions ++ [piece] :=
    arrivals_append _ _
  have calm : Occasion.cancels ∈ occasions ++ [.arrives piece] ↔ .cancels ∈ occasions := by simp
  cases stands with
  | done finished ended =>
    refine .done ?_ (ended.concat 0 (same.trans (List.append_nil _).symm))
    cases piece <;> exact finished
  | @reading delivered unfinished shared informed gone cancelled told =>
    rw [← same] at told
    rw [← decide_eq_decide.mpr calm] at cancelled
    cases piece with
    | forward output =>
      refine .reading unfinished ?_ ?_ ?_ cancelled told
      · rw [brought, outputsOf_append, shared, List.append_assoc]
        rfl
      · simpa [brought, CommandSeat.take] using informed
      · simpa [brought, CommandSeat.take] using gone
    | ended verdict =>
      have right := recounts.verdict (List.mem_append_right _ List.mem_cons_self)
      refine .reading unfinished ?_ ?_ ?_ cancelled told
      · rw [brought, outputsOf_append, shared]
        exact List.append_nil _
      · intro _
        rw [right]
        rfl
      · simpa [brought, CommandSeat.take] using gone
    | leave =>
      refine .reading unfinished ?_ ?_ ?_ cancelled told
      · rw [brought, outputsOf_append, shared]
        exact List.append_nil _
      · simpa [brought, CommandSeat.take] using informed
      · simp [brought, CommandSeat.take]
    | put | started =>
      refine .reading unfinished ?_ ?_ ?_ cancelled told
      · rw [brought, outputsOf_append, shared]
        exact List.append_nil _
      · simpa [brought, CommandSeat.take] using informed
      · simpa [brought, CommandSeat.take] using gone

theorem cancels (stands : Stands command outputs clean occasions seat.stream) :
    Stands command outputs clean (occasions ++ [.cancels]) seat.cancel.1.stream := by
  have same : results command (occasions ++ [.cancels]) = results command occasions :=
    results_unpolled command occasions nofun
  have brought : arrivals (occasions ++ [.cancels]) = arrivals occasions := by
    rw [arrivals_append]
    exact List.append_nil _
  cases stands with
  | done finished ended =>
    refine .done ?_ (ended.concat 0 (same.trans (List.append_nil _).symm))
    simp [CommandSeat.cancel, Stream.cancel, finished]
  | reading unfinished shared informed gone cancelled told =>
    have asks : seat.cancel.1.stream = { seat.stream with cancelled := true } := by
      simp [CommandSeat.cancel, Stream.cancel, unfinished, CommandSeat.track]
    rw [asks]
    rw [← brought] at shared informed gone
    rw [← same] at told
    exact .reading unfinished shared informed gone (by simp) told

theorem read_stream (seat : CommandSeat) (stream : Stream) : (seat.read stream).stream = stream := by
  rw [CommandSeat.read]
  split <;> rfl

theorem polls (stands : Stands command outputs clean occasions (seatAfter command occasions).stream)
    (recounts : Recounts outputs clean (arrivals occasions)) :
    Stands command outputs clean (occasions ++ [.polls])
      (seatAfter command (occasions ++ [.polls])).stream := by
  have next : (seatAfter command (occasions ++ [.polls])).stream =
      (seatAfter command occasions).stream.poll.2 := by
    rw [seatAfter_concat]
    exact read_stream _ _
  have answers := results_polls command occasions
  have brought : arrivals (occasions ++ [.polls]) = arrivals occasions := by
    rw [arrivals_append]
    exact List.append_nil _
  have calm : Occasion.cancels ∈ occasions ++ [.polls] ↔ .cancels ∈ occasions := by simp
  rw [next]
  generalize (seatAfter command occasions).stream = stream at stands answers ⊢
  cases stands with
  | done finished ended =>
    rw [poll_finished finished] at answers ⊢
    exact .done finished (ended.concat 1 answers)
  | @reading delivered unfinished shared informed gone cancelled told =>
    rw [told] at answers
    cases waiting : stream.queue with
    | cons output queue =>
      rw [poll_queued unfinished waiting] at answers ⊢
      rw [waiting, List.append_cons delivered, ← brought] at shared
      rw [← brought] at informed gone
      rw [← decide_eq_decide.mpr calm] at cancelled
      refine .reading unfinished shared informed gone cancelled (answers.trans ?_)
      simp [items]
    | nil =>
      by_cases left : .leave ∈ arrivals occasions
      · obtain ⟨said, all⟩ := recounts.whole left
        rw [shared, waiting, List.append_nil] at all
        have polled := poll_gone unfinished waiting (gone.trans (decide_eq_true left)) (informed said)
        rw [all] at told answers
        rw [polled, cancelled] at answers
        rw [polled]
        refine .done rfl ⟨occasions, [], 0, rfl, left, told, answers.trans ?_⟩
        simp [ending_ne_pending]
      · have polled := poll_waiting unfinished waiting (gone.trans (decide_eq_false left))
        rw [polled] at answers ⊢
        rw [← brought] at shared informed gone
        rw [← decide_eq_decide.mpr calm] at cancelled
        exact .reading unfinished shared informed gone cancelled (answers.trans (List.append_nil _))

theorem reached (command : String) (occasions : List Occasion)
    (recounts : Recounts outputs clean (arrivals occasions)) :
    Stands command outputs clean occasions (seatAfter command occasions).stream := by
  induction occasions using List.reverseRecOn with
  | nil => exact begun command outputs clean
  | append_singleton occasions occasion ih =>
    rw [arrivals_append] at recounts
    have stands := ih recounts.of_prefix
    cases occasion with
    | arrives piece =>
      rw [seatAfter_concat]
      exact stands.arrives recounts
    | polls => exact stands.polls recounts.of_prefix
    | cancels =>
      rw [seatAfter_concat]
      exact stands.cancels

theorem settled (stands : Stands command outputs clean occasions stream)
    (recounts : Recounts outputs clean (arrivals occasions)) :
    Underway command outputs occasions ∧ stream.finished = false ∨
      Over command outputs clean occasions ∧ stream.finished = true := by
  cases stands with
  | done finished ended => exact .inr ⟨ended, finished⟩
  | reading unfinished shared _ _ _ told =>
    have first : _ <+: outputsOf (arrivals occasions) := ⟨stream.queue, shared.symm⟩
    exact .inl ⟨⟨_, first, first.trans recounts.outputs_prefix, told⟩, unfinished⟩

theorem pending_iff (stands : Stands command outputs clean occasions stream)
    (recounts : Recounts outputs clean (arrivals occasions)) :
    stream.poll.1 = .pending ↔
      results command occasions = items (outputsOf (arrivals occasions)) ∧ .leave ∉ arrivals occasions := by
  cases stands with
  | done finished ended =>
    rw [poll_finished finished]
    exact ⟨nofun, fun waits => absurd ended.left waits.2⟩
  | @reading delivered unfinished shared informed gone cancelled told =>
    rw [told, items_inj, shared, List.self_eq_append_right]
    cases waiting : stream.queue with
    | cons output queue =>
      rw [poll_queued unfinished waiting]
      exact ⟨nofun, fun waits => absurd waits.1 (List.cons_ne_nil _ _)⟩
    | nil =>
      by_cases left : .leave ∈ arrivals occasions
      · have knows := informed (recounts.whole left).1
        rw [poll_gone unfinished waiting (gone.trans (decide_eq_true left)) knows]
        exact ⟨fun pends => absurd pends (ending_ne_pending _ _), fun waits => absurd left waits.2⟩
      · rw [poll_waiting unfinished waiting (gone.trans (decide_eq_false left))]
        exact ⟨fun _ => ⟨rfl, left⟩, fun _ => rfl⟩

end Stands

theorem length_polls (recounts : Recounts outputs clean (arrivals occasions))
    (left : .leave ∈ arrivals occasions) (count : Nat) :
    (results command (occasions ++ List.replicate count .polls)).length =
      (results command occasions).length + count := by
  induction count with
  | zero => simp
  | succ count ih =>
    have same : arrivals (occasions ++ List.replicate count .polls) = arrivals occasions := by
      rw [arrivals_append, arrivals_polls, List.append_nil]
    have stands := Stands.reached command (occasions ++ List.replicate count .polls) (same ▸ recounts)
    have waits := mt (stands.pending_iff (same ▸ recounts)).mp
    have tells := waits fun pends => pends.2 (same ▸ left)
    rw [List.replicate_succ', ← List.append_assoc, results_polls, List.length_append, ih]
    simp [tells, Nat.add_assoc]

theorem over_polls (recounts : Recounts outputs clean (arrivals occasions))
    (left : .leave ∈ arrivals occasions) {count : Nat} (enough : outputs.length < count) :
    Over command outputs clean (occasions ++ List.replicate count .polls) := by
  have same : arrivals (occasions ++ List.replicate count .polls) = arrivals occasions := by
    rw [arrivals_append, arrivals_polls, List.append_nil]
  have stands := Stands.reached command (occasions ++ List.replicate count .polls) (same ▸ recounts)
  rcases stands.settled (same ▸ recounts) with ⟨⟨delivered, _, first, told⟩, _⟩ | ⟨ended, _⟩
  · have total : (results command _).length = _ := length_polls recounts left count
    rw [told, items, List.length_map] at total
    have short := first.length_le
    omega
  · exact ended

theorem cancel_unfinished (unfinished : seat.stream.finished = false) :
    seat.stream.cancel.1 = true ∧ seat.stream.asksOnDrop = true ∧
      seat.cancel = { seat with stream := seat.stream.cancel.2 }.track .cancel ∧
      seat.dropStream = seat.track .cancel := by
  simp [CommandSeat.cancel, Stream.cancel, CommandSeat.dropStream, Stream.asksOnDrop, unfinished]

theorem cancel_finished (finished : seat.stream.finished = true) :
    seat.stream.cancel.1 = false ∧ seat.stream.asksOnDrop = false ∧
      seat.cancel = (seat, []) ∧ seat.dropStream = (seat, []) := by
  simp [CommandSeat.cancel, Stream.cancel, CommandSeat.dropStream, Stream.asksOnDrop, finished]

theorem absorb_arrives (seat : CommandSeat) (session : Exec.Session)
    (pieces : List Exec.Session.Effect) :
    (absorb CommandSeat.take { seat with session } pieces).1 =
      { machine.reach seat (pieces.map .arrives) with session } := by
  induction pieces generalizing seat with
  | nil => rfl
  | cons piece pieces ih =>
    have apart : (CommandSeat.take { seat with session } piece).1 =
        { (seat.take piece).1 with session } := by cases piece <;> rfl
    rw [absorb]
    simp only [apart]
    exact ih _

theorem unread_arrivals (command : String) (heard : List Heard) :
    unread command heard =
      { seatAfter command ((said command heard).map .arrives) with
        session := Exec.Session.machine.reach ((Exec.Session.fresh command).begin true).1 heard } := by
  induction heard using List.reverseRecOn with
  | nil => rfl
  | append_singleton heard event ih =>
    rw [unread, List.foldl_append, ← unread, ih]
    simp only [List.foldl_cons, List.foldl_nil, CommandSeat.hear, CommandSeat.follow]
    rw [absorb_arrives, said, said, Machine.collect_concat, Machine.reach_append,
      ← List.append_assoc, List.map_append, seatAfter, seatAfter, Machine.reach_append]
    simp [Machine.reach, Exec.Session.machine]

theorem endVerdict_accepted {events : List ChannelEvent} (accepted : isAccepted events = true) :
    endVerdict events = closeVerdict (isClean events) := by
  simp [endVerdict, accepted, closeVerdict]

theorem recounts_said {heard : List Heard} (accepted : isAccepted (heard.map Prod.snd) = true)
    (brought : pieces <+: said command heard) :
    Recounts (Exec.outputs (heard.map Prod.snd)) (isClean (heard.map Prod.snd)) pieces := by
  refine (brought.filter _).trans ?_
  rw [Exec.Session.audible_said command heard accepted, endVerdict_accepted accepted]
  split
  · simp
  · rw [List.append_nil, List.append_assoc]
    exact List.prefix_append _ _

theorem leave_said (command : String) {heard : List Heard}
    (accepted : isAccepted (heard.map Prod.snd) = true) :
    .leave ∈ said command heard ↔ .closed ∈ heard.map Prod.snd := by
  have audible : .leave ∈ (said command heard).filter Exec.Session.Effect.isAudible ↔
      .leave ∈ said command heard := by simp [List.mem_filter, Exec.Session.Effect.isAudible]
  rw [← audible, Exec.Session.audible_said command heard accepted]
  split <;> simp_all

theorem read_read (seat : CommandSeat) {before after : Stream}
    (kept : before.finished = true → after.finished = true) :
    (seat.read before).read after = seat.read after := by
  cases ended : before.finished with
  | true => simp [CommandSeat.read, ended, kept ended]
  | false => simp [CommandSeat.read, ended]

theorem takeAll_polls (seat : CommandSeat) :
    ∃ count, machine.reach seat (List.replicate count .polls) = seat.read seat.stream.takeAll.2.2 ∧
      (machine.steps seat (List.replicate count .polls)).filterMap Move.told =
        seat.stream.takeAll.1.map .item ++ [if seat.stream.takeAll.2.1 then .ended else .pending] := by
  generalize measured : seat.stream.remaining = remaining
  induction remaining using Nat.strongRecOn generalizing seat with
  | ind remaining ih =>
    have next : (move seat .polls).seat.stream = seat.stream.poll.2 := Stands.read_stream _ _
    cases polled : seat.stream.poll with
    | mk answer after =>
      cases answer with
      | pending =>
        rw [Stream.takeAll_pending polled]
        exact ⟨1, by simp [Machine.reach, machine, move, polled], by simp [Machine.steps, machine, move, polled]⟩
      | ended =>
        rw [Stream.takeAll_ended polled]
        exact ⟨1, by simp [Machine.reach, machine, move, polled], by simp [Machine.steps, machine, move, polled]⟩
      | item item =>
        rw [polled] at next
        have shorter := Stream.poll_item_shortens polled
        obtain ⟨count, reaches, tells⟩ := ih _ (measured ▸ next ▸ shorter) (move seat .polls).seat rfl
        rw [next] at reaches tells
        rw [Stream.takeAll_item polled]
        refine ⟨count + 1, ?_, ?_⟩
        · rw [List.replicate_succ, Machine.reach]
          refine reaches.trans ?_
          have here : (move seat .polls).seat = seat.read after := by rw [move, polled]
          rw [here]
          refine read_read seat fun finished => ?_
          rw [Stream.takeAll_ended (poll_finished finished)]
          exact finished
        · have here : (machine.advance seat .polls).told = some (.item item) := by
            simp [machine, move, polled]
          rw [List.replicate_succ, Machine.filterMap_steps_cons, here]
          exact congrArg (Polled.item item :: ·) tells

-- However the polls and the call-offs fall between the arrivals.
theorem stream_delivers_and_ends (command : String) (heard : List Heard) (occasions : List Occasion)
    (accepted : isAccepted (heard.map Prod.snd) = true)
    (brought : arrivals occasions <+: said command heard) :
    let events := heard.map Prod.snd
    let seat := seatAfter command occasions
    (Underway command (Exec.outputs events) occasions ∧
        seat.stream.cancel.1 = true ∧ seat.stream.asksOnDrop = true ∧
        seat.cancel = { seat with stream := seat.stream.cancel.2 }.track .cancel ∧
        seat.dropStream = seat.track .cancel ∨
      Over command (Exec.outputs events) (isClean events) occasions ∧ .closed ∈ events ∧
        seat.stream.cancel.1 = false ∧ seat.stream.asksOnDrop = false ∧
        seat.cancel = (seat, []) ∧ seat.dropStream = (seat, [])) ∧
    (seat.stream.poll.1 = .pending ↔
      results command occasions = items (outputsOf (arrivals occasions)) ∧ .leave ∉ arrivals occasions) ∧
    (arrivals occasions = said command heard → .closed ∈ events →
      ∀ count > (Exec.outputs events).length,
        Over command (Exec.outputs events) (isClean events) (occasions ++ List.replicate count .polls)) ∧
    (unread command heard).stream = (seatAfter command ((said command heard).map .arrives)).stream ∧
    ∃ count, machine.reach seat (List.replicate count .polls) = seat.read seat.stream.takeAll.2.2 ∧
      (machine.steps seat (List.replicate count .polls)).filterMap Move.told =
        seat.stream.takeAll.1.map .item ++ [if seat.stream.takeAll.2.1 then .ended else .pending] := by
  intro events seat
  have recounts := recounts_said accepted brought
  have stands := Stands.reached command occasions recounts
  refine ⟨?_, stands.pending_iff recounts, ?_, ?_, takeAll_polls seat⟩
  · rcases stands.settled recounts with ⟨underway, unfinished⟩ | ⟨ended, finished⟩
    · exact .inl ⟨underway, cancel_unfinished unfinished⟩
    · have closed := (leave_said command accepted).mp (brought.subset ended.left)
      exact .inr ⟨ended, closed, cancel_finished finished⟩
  · intro everything closed count enough
    have left : .leave ∈ arrivals occasions := by
      rw [everything]
      exact (leave_said command accepted).mpr closed
    exact over_polls recounts left enough
  · rw [unread_arrivals]

-- A command that says two things, is called off and breaks off: polled too early once, then in
-- between, then called off before the end arrives and again after it.
def brokenOff : List Heard :=
  [(true, .data [7]), (true, .success), (true, .extendedData [8]), (false, .closed), (true, .data [9])]

def pollsBetween : List Occasion :=
  [.polls, .arrives (.put (.request (.exec "date" true))), .arrives (.forward (.standard [7])), .polls,
    .arrives (.started (.ok ())), .arrives (.forward (.error [8])), .cancels,
    .arrives (.ended (.error .unknown)), .polls, .polls, .arrives .leave, .polls, .cancels, .polls]

theorem stream_delivers_and_ends_broken :
    isAccepted (brokenOff.map Prod.snd) = true ∧ arrivals pollsBetween = said "date" brokenOff ∧
    results "date" pollsBetween =
      [.item (.ok (.standard [7])), .item (.ok (.error [8])), .item (.error .cancelled), .ended] ∧
    Over "date" [.standard [7], .error [8]] false pollsBetween ∧
    (seatAfter "date" pollsBetween).cancel = (seatAfter "date" pollsBetween, []) := by
  have brought : arrivals pollsBetween = said "date" brokenOff := by decide
  obtain ⟨course, _⟩ := stream_delivers_and_ends "date" brokenOff pollsBetween rfl (brought ▸ List.prefix_rfl)
  have told : results "date" pollsBetween =
      [.item (.ok (.standard [7])), .item (.ok (.error [8])), .item (.error .cancelled), .ended] := by decide
  rcases course with ⟨underway, asks, _⟩ | ⟨ended, _, _, _, ignored, _⟩
  · exact absurd asks (by decide)
  · exact ⟨rfl, brought, told, ended, ignored⟩

end SecureShell.Switchboard.Streaming
