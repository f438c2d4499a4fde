import SecureShell.Proofs.Sftp.Greeting
import SecureShell.Proofs.Switchboard.Execute

namespace SecureShell.Switchboard
open Sftp (Starts)
open Sftp.Service (hears news effectsBy machine)

-- The start of a session with a file server, from its channel to whoever asked for it.

-- What the session reports of its start. The channel is kept as the occasion of a failure.
def reportOf (channel : Nat) : Except SftpFault (List Text.Pair) → Launch.Verdict
  | .ok _ => .ok ()
  | .error fault => .error (.sessionStart channel (.sftp fault))

def admissionOf (channel : Nat) : Except SftpFault (List Text.Pair) → Answer
  | .ok extensions => .ok (.extensions extensions)
  | .error fault => .error (.connection (.sessionStart channel (.sftp fault)))

namespace FilesSeat

def passed (channel : Nat) : Sftp.Service.Effect → Option Effect
  | .put command => some (.send command)
  | .settle settlement => some (.filesSettled settlement)
  | .ready extensions => some (.report (reportOf channel (.ok extensions)))
  | .unready fault => some (.report (reportOf channel (.error fault)))
  | .leave => none

-- What it keeps are the last extensions it has been told.
def announced (extensions : List Text.Pair) (told : List (Except SftpFault (List Text.Pair))) :
    List Text.Pair :=
  told.foldl (fun before outcome => outcome.toOption.getD before) extensions

def begun (settings : Sftp.Settings) : FilesSeat :=
  { settings, service := (Sftp.Service.begin true settings.extensions).1 }

-- What it learns of its start on a channel that is live, and what becomes of it there.
def learned (seat : FilesSeat) (events : List ChannelEvent) : List (Except SftpFault (List Text.Pair)) :=
  news (effectsBy seat.service (hears events))

def after (seat : FilesSeat) (events : List ChannelEvent) : FilesSeat :=
  { seat with
    service := machine.reach seat.service (hears events)
    extensions := announced seat.extensions (seat.learned events) }

def started (channel : Nat) (settings : Sftp.Settings) (events : List ChannelEvent) : Seat × List Effect :=
  let (seat, asked) := Seat.begin channel true (.files { settings })
  let (seat, heard) := seat.hearAll channel true events
  (seat, asked ++ heard)

variable {channel : Nat}

theorem absorb_take (seat : FilesSeat) (effects : List Sftp.Service.Effect) :
    absorb (take channel) seat effects =
      ({ seat with extensions := announced seat.extensions (news effects) },
        effects.filterMap (passed channel)) := by
  induction effects generalizing seat with
  | nil => rfl
  | cons effect effects ih => cases effect <;> simp only [absorb, take, ih] <;> rfl

theorem effectsBy_after (seat : FilesSeat) (event : ChannelEvent) (events : List ChannelEvent) :
    effectsBy seat.service (hears (event :: events)) =
      effectsBy seat.service (hears [event]) ++ effectsBy (seat.after [event]).service (hears events) :=
  Sftp.Service.effectsBy_append seat.service (hears [event]) (hears events)

theorem learned_cons (seat : FilesSeat) (event : ChannelEvent) (events : List ChannelEvent) :
    seat.learned (event :: events) = seat.learned [event] ++ (seat.after [event]).learned events := by
  rw [learned, effectsBy_after, Sftp.Service.news_append]
  rfl

theorem after_cons (seat : FilesSeat) (event : ChannelEvent) (events : List ChannelEvent) :
    seat.after (event :: events) = (seat.after [event]).after events := by
  rw [after, learned_cons, announced, List.foldl_append]
  rfl

theorem hear_files (seat : FilesSeat) (event : ChannelEvent) :
    seat.hear channel true event =
      (seat.after [event], (effectsBy seat.service (hears [event])).filterMap (passed channel)) := by
  have single : effectsBy seat.service (hears [event]) = (seat.service.onEvent true event).2 :=
    List.append_nil _
  rw [hear, follow, absorb_take, after, learned, single]
  rfl

theorem hearAll_files (seat : FilesSeat) (events : List ChannelEvent) :
    Seat.hearAll channel true (.files seat) events =
      (.files (seat.after events),
        (effectsBy seat.service (hears events)).filterMap (passed channel)) := by
  induction events generalizing seat with
  | nil => rfl
  | cons event events ih =>
    have rest := ih (seat.after [event])
    simp only [Seat.hearAll, absorb, Seat.hear, Prod.map, id] at rest ⊢
    rw [hear_files, rest, after_cons seat event events, effectsBy_after seat event events,
      List.filterMap_append]

theorem announces {seat : FilesSeat} {event : ChannelEvent} {outcome : Except SftpFault (List Text.Pair)}
    {later : List (Except SftpFault (List Text.Pair))}
    (tells : seat.learned [event] ++ later = [outcome]) :
    ∀ extensions, .ok extensions ∈ seat.learned [event] → (seat.after [event]).extensions = extensions := by
  intro extensions member
  obtain ⟨early, late, split⟩ := List.append_of_mem member
  rw [split] at tells
  have single : early = [] ∧ late = [] := by
    cases early <;> simp_all
  rw [after, split, single.1, single.2]
  rfl

theorem started_eq (settings : Sftp.Settings) (events : List ChannelEvent) :
    started channel settings events =
      (.files ((begun settings).after events),
        .send (.request (.subsystem "sftp" true)) ::
          (effectsBy (begun settings).service (hears events)).filterMap (passed channel)) := by
  have asks : Seat.begin channel true (.files { settings }) =
      (.files (begun settings), [.send (.request (.subsystem "sftp" true))]) := rfl
  rw [started, asks]
  simp only [hearAll_files]
  rfl

theorem reports_of_news (effects : List Sftp.Service.Effect) :
    (effects.filterMap (passed channel)).filterMap Effect.report? =
      (news effects).map (reportOf channel) := by
  rw [List.filterMap_filterMap, news, List.map_filterMap]
  apply List.filterMap_congr
  intro effect _
  cases effect <;> rfl

end FilesSeat

variable {board : Switchboard} {channel : Nat} {line : Line}

theorem line?_place (found : board.line? channel = some line) {after : Line}
    (same : after.channel = line.channel) : (board.place after).line? channel = some after := by
  have mine : line.channel = channel := channel_of_line? found
  have kept : (fun other : Line => decide (other.channel = channel)) ∘
      (fun other => if other.channel = after.channel then after else other) =
        fun other => decide (other.channel = channel) := by
    funext other
    by_cases hit : other.channel = after.channel <;> simp [hit]
  simp only [line?, place] at found ⊢
  rw [List.find?_map, kept, found]
  simp [same]

theorem advanceStart_at {next : Launch.Start} {event : Launch.Start.Event}
    {effects : List Launch.Start.Effect} (found : board.line? channel = some line)
    (advanced : line.start.advance event = (next, effects)) :
    board.advanceStart channel event =
      (board.place { line with start := next }).followStart channel effects := by
  simp only [advanceStart, found, advanced]

theorem followStart_settles (found : board.line? channel = some line) (verdict : Launch.Verdict) :
    board.followStart channel [.settle verdict] = board.settleVenture line verdict := by
  simp only [followStart, List.foldl_cons, List.foldl_nil, found]

variable {call : CallId} {ticket : Ticket} {settings : Sftp.Settings} {seat : FilesSeat}
  {outcome : Except SftpFault (List Text.Pair)}

theorem settleVenture_files (channel : Nat) (seated : line.seat = .files seat)
    (waits : board.waiter? line.ticket = some ⟨call, ticket, .venture (.files settings)⟩)
    (kept : ∀ extensions, outcome = .ok extensions → seat.extensions = extensions) :
    ∃ lines handles, (board.lines = [line] → lines = [line]) ∧
      board.settleVenture line (reportOf channel outcome) =
        ({ board with lines, handles } : Switchboard).complete call (admissionOf channel outcome) := by
  cases outcome with
  | ok extensions =>
    refine ⟨board.lines, board.handles ++ [(call, .client line.channel)], id, ?_⟩
    simp only [settleVenture, waits, reportOf, launched, seated, Seat.files?, Option.map_some,
      Option.getD_some, kept extensions rfl]
    rfl
  | error fault =>
    refine ⟨(board.place line).lines, board.handles, fun only => ?_, ?_⟩
    · rw [place_single only rfl]
      rfl
    · simp only [settleVenture, waits, reportOf, failed, seated]
      rfl

theorem report_completes (found : board.line? channel = some line)
    (starting : line.start.stage = .starting) (seated : line.seat = .files seat)
    (waits : board.waiter? line.ticket = some ⟨call, ticket, .venture (.files settings)⟩)
    (kept : ∀ extensions, outcome = .ok extensions → seat.extensions = extensions) :
    ∃ lines handles more, answersTo call more = [] ∧
      (board.lines = [line] → lines = [{ line with start := { line.start with stage := .over } }]) ∧
      board.follow channel (.report (reportOf channel outcome)) =
        ({ board with lines, handles, notices := board.notices ++ more } : Switchboard).complete call
          (admissionOf channel outcome) := by
  let after : Line := { line with start := { line.start with stage := .over } }
  let placed (more : List Notice) : Switchboard :=
    { board.place after with notices := board.notices ++ more }
  have settled (more : List Notice) : ∃ lines handles, (board.lines = [line] → lines = [after]) ∧
      (placed more).followStart channel [.settle (reportOf channel outcome)] =
        ({ board with lines, handles, notices := board.notices ++ more } : Switchboard).complete call
          (admissionOf channel outcome) := by
    have there : (placed more).line? channel = some after := line?_place found rfl
    have sits : after.seat = .files seat := seated
    have waiting : (placed more).waiter? after.ticket = board.waiter? line.ticket := rfl
    obtain ⟨lines, handles, single, settled⟩ :=
      settleVenture_files channel sits (waiting.trans waits) kept
    have only (alone : board.lines = [line]) : (placed more).lines = [after] := by
      have lone : board.place after = board.alone after := place_single alone rfl
      simp only [placed, lone]
      rfl
    refine ⟨lines, handles, single ∘ only, ?_⟩
    rw [followStart_settles there, settled]
    rfl
  rw [follow]
  cases verdict : reportOf channel outcome with
  | ok done =>
    have advanced : line.start.advance (.reported (.ok done)) = (after.start, [.settle (.ok done)]) := by
      simp only [Launch.Start.advance, starting, after]
    have same : board.place after = placed [] := by simp [placed, place]
    obtain ⟨lines, handles, single, told⟩ := settled []
    refine ⟨lines, handles, [], rfl, single, ?_⟩
    rw [advanceStart_at found advanced, ← verdict, ← told, ← same]
  | error fault =>
    have advanced : line.start.advance (.reported (.error fault)) =
        (after.start, [.close, .settle (.error fault)]) := by
      simp [Launch.Start.advance, Launch.Start.fail, starting, after]
    obtain ⟨more, silent, sent⟩ := send_notices call (board.place after) channel .close
    obtain ⟨lines, handles, single, told⟩ := settled more
    refine ⟨lines, handles, more, silent, single, ?_⟩
    rw [advanceStart_at found advanced, followStart_close, sent, ← verdict, ← told]
    rfl

theorem report_reaches (found : board.line? channel = some line) (starting : line.start.stage = .starting)
    (seated : line.seat = .files seat)
    (waits : board.waiter? line.ticket = some ⟨call, ticket, .venture (.files settings)⟩)
    (kept : ∀ extensions, outcome = .ok extensions → seat.extensions = extensions) :
    answersTo call (board.follow channel (.report (reportOf channel outcome))).notices =
      answersTo call board.notices ++ [admissionOf channel outcome] := by
  obtain ⟨lines, handles, more, silent, _, told⟩ := report_completes found starting seated waits kept
  have notices : (board.follow channel (.report (reportOf channel outcome))).notices =
      board.notices ++ more ++ [.completed call (admissionOf channel outcome)] := by
    rw [told]
    rfl
  rw [notices, answersTo_append, answersTo_append, silent, List.append_nil, answersTo_completed]

-- How far the start has come, and what the board keeps of the call, before and after the caller has
-- been told.
def stageOf : Option (Except SftpFault (List Text.Pair)) → Launch.Stage
  | none => .starting
  | some _ => .over

def pendingOf (call : CallId) (line : Line) (settings : Sftp.Settings) :
    Option (Except SftpFault (List Text.Pair)) → List Pending
  | none => [⟨call, line.ticket, .venture (.files settings)⟩]
  | some _ => []

def Line.hosting (line : Line) (start : Launch.Start) (seat : FilesSeat) : Line :=
  { line with start, seat := .files seat }

theorem line?_hosting {start : Launch.Start} (only : board.lines = [line.hosting start seat]) :
    board.line? line.channel = some (line.hosting start seat) := by
  simp [line?, only, Line.hosting]

-- A board with a single line, on a channel that is live: one call waits there for a session with a
-- file server, or has been told of it. Nothing else is to be done, and nothing is out of time.
structure Admits (call : CallId) (settings : Sftp.Settings) (line : Line) (earlier : List Notice)
    (seat : FilesSeat) (told : Option (Except SftpFault (List Text.Pair))) (board : Switchboard) :
    Prop where
  only : ∃ start : Launch.Start, start.stage = stageOf told ∧ board.lines = [line.hosting start seat]
  carried : line.isReachable = true
  attached : line.attached = true
  timely : board.now < line.deadline
  pending : board.pending = pendingOf call line settings told
  answers : answersTo call (earlier ++ board.notices) = told.toList.map (admissionOf line.channel)
  held : board.holders ≠ 0
  read : board.supervisor.mailbox = []
  settled : ∀ errand ∈ board.supervisor.errands, errand.deadline ≤ board.now →
    errand.stage = .lingering ∨ errand.stage = .over

namespace Admits

variable {earlier : List Notice} {told : Option (Except SftpFault (List Text.Pair))}
  {effects : List Sftp.Service.Effect} {event : ChannelEvent} {events : List ChannelEvent}

theorem send (admits : Admits call settings line earlier seat told board) (said : ChannelCommand) :
    Admits call settings line earlier seat told (board.send line.channel said) := by
  obtain ⟨more, silent, sent⟩ := send_notices call board line.channel said
  rw [sent]
  refine { admits with answers := ?_ }
  rw [← List.append_assoc, answersTo_append, admits.answers, silent, List.append_nil]

theorem files_settled (admits : Admits call settings line earlier seat told board)
    (settlement : Settlement Sftp.Answer) : board.settleFiles settlement = board := by
  rw [settleFiles, waiter?, admits.pending]
  cases told with
  | none =>
    by_cases mine : line.ticket = settlement.promise <;> simp [pendingOf, mine]
  | some outcome => rfl

theorem reported (admits : Admits call settings line earlier seat told board)
    (kept : told = none → ∀ extensions, outcome = .ok extensions → seat.extensions = extensions) :
    Admits call settings line earlier seat (told.or (some outcome))
      (board.follow line.channel (.report (reportOf line.channel outcome))) := by
  obtain ⟨start, stage, only⟩ := admits.only
  cases told with
  | some before =>
    have ended : start.stage = .over := stage
    have late : (line.hosting start seat).start.advance (.reported (reportOf line.channel outcome)) =
        (start, []) := by
      simp only [Line.hosting, Launch.Start.advance, ended]
    have placed : board.place (line.hosting start seat) = board.alone (line.hosting start seat) :=
      place_single only rfl
    rw [follow, advanceStart_at (line?_hosting only) late]
    change Admits call settings line earlier seat (some before) (board.place (line.hosting start seat))
    rw [placed]
    exact { admits with only := ⟨start, stage, rfl⟩ }
  | none =>
    have waits : board.waiter? line.ticket = some ⟨call, line.ticket, .venture (.files settings)⟩ := by
      simp [waiter?, admits.pending, pendingOf]
    obtain ⟨lines, handles, more, silent, single, completes⟩ :=
      report_completes (line?_hosting only) stage rfl waits (kept rfl)
    rw [completes]
    refine { admits with only := ⟨_, rfl, single only⟩, pending := ?_, answers := ?_ }
    · simp [complete, Switchboard.note, forget, admits.pending, pendingOf]
    · have before : answersTo call (earlier ++ board.notices) = [] := admits.answers
      have said : answersTo call (earlier ++ (board.notices ++ more ++
          [.completed call (admissionOf line.channel outcome)])) =
            [admissionOf line.channel outcome] := by
        rw [← List.append_assoc, ← List.append_assoc, answersTo_append, answersTo_append, before, silent,
          answersTo_completed]
        rfl
      exact said

theorem followed (admits : Admits call settings line earlier seat told board)
    (kept : told = none → ∀ extensions, .ok extensions ∈ news effects → seat.extensions = extensions) :
    Admits call settings line earlier seat (told.or (news effects).head?)
      ((effects.filterMap (FilesSeat.passed line.channel)).foldl
        (fun board effect => board.follow line.channel effect) board) := by
  induction effects generalizing told board with
  | nil => simpa [news] using admits
  | cons effect effects ih =>
    -- Once there is news, what follows is not for the caller.
    have late (outcome : Except SftpFault (List Text.Pair))
        (reported : Admits call settings line earlier seat (told.or (some outcome))
          (board.follow line.channel (.report (reportOf line.channel outcome)))) :
        Admits call settings line earlier seat (told.or (some outcome))
          ((effects.filterMap (FilesSeat.passed line.channel)).foldl
            (fun board effect => board.follow line.channel effect)
            (board.follow line.channel (.report (reportOf line.channel outcome)))) := by
      have rest := ih reported (by simp)
      rwa [Option.or_assoc, Option.some_or] at rest
    cases effect with
    | put said => exact ih (admits.send said) kept
    | settle settlement =>
      have same : board.follow line.channel (.filesSettled settlement) = board :=
        admits.files_settled settlement
      have rest := ih admits kept
      rw [← same] at rest
      exact rest
    | ready extensions =>
      apply late (.ok extensions)
      apply admits.reported
      rintro unaware _ ⟨⟩
      exact kept unaware extensions List.mem_cons_self
    | unready fault => exact late (.error fault) (admits.reported (fun _ _ => nofun))
    | leave => exact ih admits kept

theorem follows {start : Launch.Start} {after : FilesSeat}
    (admits : Admits call settings line earlier seat told board) (stage : start.stage = stageOf told)
    (only : board.lines = [line.hosting start seat])
    (kept : told = none → ∀ extensions, .ok extensions ∈ news effects → after.extensions = extensions) :
    Admits call settings line earlier after (told.or (news effects).head?)
      (board.followAll
        (line.hosting start after, effects.filterMap (FilesSeat.passed line.channel))) := by
  have placed : board.place (line.hosting start after) = board.alone (line.hosting start after) :=
    place_single only rfl
  have there : Admits call settings line earlier after told (board.alone (line.hosting start after)) :=
    { admits with only := ⟨start, stage, rfl⟩ }
  rw [followAll, placed]
  exact there.followed kept

theorem heard (admits : Admits call settings line earlier seat told board) (event : ChannelEvent)
    (kept : told = none → ∀ extensions, .ok extensions ∈ seat.learned [event] →
      (seat.after [event]).extensions = extensions) :
    Admits call settings line earlier (seat.after [event]) (told.or (seat.learned [event]).head?)
      (board.react (.emitted line.channel event false)).1 := by
  obtain ⟨start, stage, only⟩ := admits.only
  have carried : (line.hosting start seat).isReachable = true := admits.carried
  have attached : (line.hosting start seat).attached = true := admits.attached
  have hears : (line.hosting start seat).hear [event] =
      (line.hosting start (seat.after [event]),
        (effectsBy seat.service (hears [event])).filterMap (FilesSeat.passed line.channel)) := by
    rw [Line.hear, if_pos attached, carried]
    simp only [Line.hosting, FilesSeat.hearAll_files]
  simp only [react, emitted, line?_hosting only, carried, if_true, Bool.false_eq_true, if_false,
    Switchboard.told, hears]
  exact admits.follows stage only kept

theorem left_closed (admits : Admits call settings line earlier seat told board) :
    ∃ after, (told = none → after = seat) ∧
      Admits call settings line earlier after told (closeLeft board line.channel) := by
  obtain ⟨start, stage, only⟩ := admits.only
  have carried : (line.hosting start seat).isReachable = true := admits.carried
  have attached : (line.hosting start seat).attached = true := admits.attached
  have sits : (line.hosting start seat).seat = .files seat := rfl
  cases held : board.isHeld (line.hosting start seat) with
  | true =>
    have same : closeLeft board line.channel = board := by
      simp only [closeLeft, line?_hosting only, held, Bool.or_true, if_true]
    rw [same]
    exact ⟨seat, fun _ => rfl, admits⟩
  | false =>
    cases told with
    | none =>
      have waits : (board.waiter? (line.hosting start seat).ticket).isSome = true := by
        simp [waiter?, admits.pending, pendingOf, Line.hosting]
      rw [isHeld, waits] at held
      cases held
    | some outcome =>
      have left : closeLeft board line.channel = board.followSeat (line.hosting start seat)
          ((seat.abandon line.channel true).map .files id) := by
        simp only [closeLeft, line?_hosting only, held, attached, sits, carried, Bool.not_true,
          Bool.or_false, Bool.false_eq_true, if_false]
      rw [left, FilesSeat.abandon, FilesSeat.follow, FilesSeat.absorb_take]
      exact ⟨_, by simp, admits.follows stage only (by simp)⟩

theorem tidied (admits : Admits call settings line earlier seat told board) :
    ∃ after, (told = none → after = seat) ∧ Admits call settings line earlier after told board.tidy := by
  obtain ⟨start, stage, only⟩ := admits.only
  have collected : board.collectAll = board := by
    rw [collectAll, admits.pending]
    cases told <;> rfl
  obtain ⟨after, same, closed⟩ := admits.left_closed
  have stays : (closeLeft board line.channel).letGo = closeLeft board line.channel := by
    simp only [letGo, closed.held, decide_false, Bool.false_and, Bool.false_eq_true, if_false]
  have whole : board.tidy = closeLeft board line.channel := by
    rw [tidy, collected, only, List.map_cons, List.map_nil, List.foldl_cons, List.foldl_nil]
    exact stays
  rw [whole]
  exact ⟨after, same, closed⟩

theorem expired (admits : Admits call settings line earlier seat told board) : board.expire = board := by
  obtain ⟨start, stage, only⟩ := admits.only
  exact expire_single only admits.timely admits.read admits.settled

theorem turned (admits : Admits call settings line earlier seat told board) (turn : CallId) :
    Admits call settings line earlier seat told { board with turn } := { admits with }

theorem steps (admits : Admits call settings line earlier seat told board) (event : ChannelEvent)
    (kept : told = none → ∀ extensions, .ok extensions ∈ seat.learned [event] →
      (seat.after [event]).extensions = extensions) :
    ∃ after, (told.or (seat.learned [event]).head? = none → after = seat.after [event]) ∧
      Admits call settings line (earlier ++ board.notices) after (told.or (seat.learned [event]).head?)
        (board.step (.emitted line.channel event false)).1 := by
  have anew : Admits call settings line (earlier ++ board.notices) seat told { board with notices := [] } :=
    { admits with answers := by simpa using admits.answers }
  obtain ⟨between, same, tidied⟩ := (anew.heard event kept).tidied
  obtain ⟨after, still, tidied'⟩ := tidied.tidied
  rw [← tidied.expired] at tidied'
  refine ⟨after, fun waits => (still waits).trans (same waits), ?_⟩
  exact tidied'.turned _

theorem run_told (admits : Admits call settings line earlier seat (some outcome) board)
    (events : List ChannelEvent) :
    answersTo call (earlier ++ board.notices ++
        (board.run (events.map (.emitted line.channel · false))).flatMap Report.notices) =
      [admissionOf line.channel outcome] := by
  induction events generalizing seat earlier board with
  | nil => simpa [Switchboard.run] using admits.answers
  | cons event events ih =>
    obtain ⟨after, _, stepped⟩ := admits.steps event (by simp)
    have rest := ih stepped
    simp only [List.append_assoc] at rest ⊢
    exact rest

theorem run (admits : Admits call settings line earlier seat none board)
    (tells : seat.learned events = [outcome]) :
    answersTo call (earlier ++ board.notices ++
        (board.run (events.map (.emitted line.channel · false))).flatMap Report.notices) =
      [admissionOf line.channel outcome] := by
  induction events generalizing seat earlier board with
  | nil => cases tells
  | cons event events ih =>
    rw [FilesSeat.learned_cons] at tells
    obtain ⟨after, same, stepped⟩ := admits.steps event fun _ => FilesSeat.announces tells
    cases now : seat.learned [event] with
    | nil =>
      rw [now] at tells same stepped
      rw [same rfl] at stepped
      have rest := ih stepped tells
      simp only [List.append_assoc] at rest ⊢
      exact rest
    | cons first others =>
      rw [now] at tells stepped
      cases (List.cons.inj tells).1
      have rest := stepped.run_told events
      simp only [List.append_assoc] at rest ⊢
      exact rest

end Admits

-- The session reports once how it started, and the call that waits for it is told once.
theorem started_as_heard {events : List ChannelEvent} (closed : .closed ∈ events) (channel : Nat)
    (settings : Sftp.Settings) :
    let session := FilesSeat.started channel settings events
    ∃ outcome, (∀ other, Starts events other ↔ other = outcome) ∧
      (∀ extensions, outcome = .ok extensions ↔ Sftp.Welcomes events extensions) ∧
      session.2.head? = some (.send (.request (.subsystem "sftp" true))) ∧
      session.2.filterMap Effect.report? = [reportOf channel outcome] ∧
      (∀ extensions, outcome = .ok extensions →
        session.1.files?.map FilesSeat.extensions = some extensions) ∧
      (∀ fault, outcome = .error fault → .send .close ∈ session.2) ∧
      (∀ (board : Switchboard) line call ticket wanted seat, board.line? channel = some line →
        line.start.stage = .starting → line.seat = .files seat →
        board.waiter? line.ticket = some ⟨call, ticket, .venture (.files wanted)⟩ →
        (∀ extensions, outcome = .ok extensions → seat.extensions = extensions) →
        answersTo call (board.follow channel (.report (reportOf channel outcome))).notices =
          answersTo call board.notices ++ [admissionOf channel outcome]) ∧
      ∀ call line wanted board, Admits call wanted line [] (.begun settings) none board →
        answersTo call
            ((board.run (events.map (.emitted line.channel · false))).flatMap Report.notices) =
          [admissionOf line.channel outcome] := by
  have requesting : (FilesSeat.begun settings).service.Requesting := ⟨rfl, rfl, rfl⟩
  obtain ⟨outcome, starts⟩ := Sftp.exists_starts closed
  obtain ⟨told, closes⟩ := Sftp.Service.starts_tells requesting starts
  have only : ∀ other, Starts events other ↔ other = outcome := by
    intro other
    refine ⟨fun also => ?_, fun same => same ▸ starts⟩
    have tells := (Sftp.Service.starts_tells requesting also).1
    rw [told] at tells
    exact (List.singleton_inj.mp tells).symm
  refine ⟨outcome, only, ?_, ?_, ?_, ?_, ?_, ?_, ?_⟩
  · intro extensions
    rw [← Sftp.starts_ok_iff, only]
    exact eq_comm
  · rw [FilesSeat.started_eq]
    rfl
  · rw [FilesSeat.started_eq, List.filterMap_cons_none rfl, FilesSeat.reports_of_news, told]
    rfl
  · rintro extensions rfl
    rw [FilesSeat.started_eq, FilesSeat.after, FilesSeat.learned, told]
    rfl
  · intro fault bad
    rw [FilesSeat.started_eq]
    exact List.mem_cons_of_mem _ (List.mem_filterMap.mpr ⟨_, closes fault bad, rfl⟩)
  · intro board line call ticket wanted seat found starting seated waits kept
    exact report_reaches found starting seated waits kept
  · intro call line wanted board admits
    have silent : answersTo call board.notices = [] := admits.answers
    have answered := admits.run told
    rwa [List.nil_append, answersTo_append, silent] at answered

def version (number : UInt32) : Octets := (Sftp.Message.version number [("limits", "1")]).write

-- Data come before the subsystem is accepted, the version comes in two pieces with something else in
-- between, and the framing breaks right behind it.
def hesitant : List ChannelEvent :=
  let stream := Octets.writeString (version 3) ++ [0, 0, 0, 0]
  [.data [1], .eof, .success, .extendedData [33], .data (stream.take 6), .success,
    .data (stream.drop 6), .closed, .failure]

def outdated : List ChannelEvent := [.success, .data (Octets.writeString (version 4)), .closed]

def browsing (settings : Sftp.Settings) : Switchboard :=
  [.called (.connect 5), .connectAnswered 1 (.ok ()), .authAnswered 1 (.ok ()),
    .called (.venture (.files settings) 5), .openAnswered 1 (.ok ()) false].foldl
    (fun board stimulus => (board.step stimulus).1)
    { host := "host", port := 22, credentials := { username := "user", method := .none } }

def browsingLine (settings : Sftp.Settings) : Line :=
  { channel := 1, origin := 3, ticket := 3, deadline := 5, seat := .ofVenture (.files settings)
    engine := .carrying, attached := true }

theorem started_as_heard_hesitant :
    .closed ∈ hesitant ∧ .closed ∈ outdated ∧
      (FilesSeat.started 1 {} hesitant).2.filterMap Effect.report? = [.ok ()] ∧
      (FilesSeat.started 1 {} hesitant).1.files?.map FilesSeat.extensions = some [("limits", "1")] ∧
      answersTo 3 (((browsing {}).run (hesitant.map (.emitted 1 · false))).flatMap Report.notices) =
        [.ok (.extensions [("limits", "1")])] ∧
      (FilesSeat.started 1 {} outdated).2.filterMap Effect.report? =
        [.error (.sessionStart 1 (.sftp (.unsupportedVersion 4)))] ∧
      .send .close ∈ (FilesSeat.started 1 {} outdated).2 ∧
      answersTo 3 (((browsing {}).run (outdated.map (.emitted 1 · false))).flatMap Report.notices) =
        [.error (.connection (.sessionStart 1 (.sftp (.unsupportedVersion 4))))] := by
  have heard : .closed ∈ hesitant := by decide
  have late : .closed ∈ outdated := by decide
  obtain ⟨outcome, _, welcomes, _, reports, keeps, _, _, admitted⟩ := started_as_heard heard 1 {}
  obtain ⟨other, only, _, _, refuses, _, closes, _, refusal⟩ := started_as_heard late 1 {}
  have short : Sftp.Proper (version 3) ∧ Sftp.Proper (version 4) := by
    refine ⟨⟨?_, ?_⟩, ?_, ?_⟩ <;> decide +kernel
  have welcomed : Sftp.Welcomes hesitant [("limits", "1")] :=
    ⟨[.data [1], .eof], [.extendedData [33], .data _, .success, .data _], [.failure], version 3,
      [0, 0, 0, 0], rfl, by decide, by decide, short.1, by decide +kernel, by decide +kernel⟩
  have judged : Sftp.Judged (Sftp.Message.read (version 4)) (.error (.unsupportedVersion 4)) := by
    have read : Sftp.Message.read (version 4) = .ok (.version 4 [("limits", "1")]) := by decide +kernel
    rw [read]
    exact .outdated (by decide) _
  have front : [] ++ Sftp.payload [.data (Octets.writeString (version 4))] =
      Octets.writeString (version 4) ++ [] := by decide +kernel
  have split : outdated = [] ++ .success :: [.data (Octets.writeString (version 4)), .closed] := rfl
  have refused := (only _).mp (.greets split nofun (.decided rfl (by decide) (.frame short.2 front judged)))
  have opened := (welcomes _).mpr welcomed
  have admits : Admits 3 {} (browsingLine {}) [] (.begun {}) none (browsing {}) :=
    { only := ⟨⟨.starting, true⟩, rfl, by rfl⟩
      carried := rfl
      attached := rfl
      timely := by decide +kernel
      pending := by rfl
      answers := by decide +kernel
      held := by decide +kernel
      read := by decide +kernel
      settled := by decide +kernel }
  subst refused opened
  exact ⟨heard, late, reports, keeps _ rfl, admitted 3 (browsingLine {}) {} (browsing {}) admits, refuses,
    closes _ rfl, refusal 3 (browsingLine {}) {} (browsing {}) admits⟩

end SecureShell.Switchboard
