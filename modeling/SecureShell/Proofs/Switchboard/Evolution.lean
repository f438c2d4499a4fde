import Mathlib.Data.List.Nodup
import Mathlib.Logic.Relation
import SecureShell.Proofs.Launch.Race
import SecureShell.Proofs.Sftp.Tasks
import SecureShell.Switchboard.Run

namespace SecureShell.Switchboard
open Launch (Cancellation)
open Sftp (Procedure)

-- Whatever happens at a switchboard comes about by few kinds of change. What holds through each of
-- them holds through all that the sessions, the connection and the callers do.

def heardOf (cancellation : Cancellation Unit) (told : List (Cancellation.Event Unit)) :
    Cancellation Unit :=
  told.foldl (fun cancellation event => (cancellation.advance event).1) cancellation

-- A seat stays of its kind. A command's seat has been told these things about its start.
inductive Seat.Goes (told : List (Cancellation.Event Unit)) : Seat → Seat → Prop
  | command {seat next : CommandSeat} (heard : next.cancellation = heardOf seat.cancellation told) :
      Goes told (.command seat) (.command next)
  | shell (seat next : ShellSeat) : Goes told (.shell seat) (.shell next)
  | files (seat next : FilesSeat) : Goes told (.files seat) (.files next)

def Seat.Stays (seat next : Seat) : Prop := ∃ told, .launching () ∉ told ∧ seat.Goes told next

-- The session goes on, its start goes on, or the channel comes in time and the session is attached
-- to it: each with what the start hears, and what whoever tracks it is told. A start runs out of time
-- only when it is due to.
inductive Line.Steps (line : Line) (due : Prop) :
    List Launch.Start.Event → List (Cancellation.Event Unit) → Line → Prop
  | sits {told : List (Cancellation.Event Unit)} {seat : Seat} (untold : .launching () ∉ told)
      (goes : line.seat.Goes told seat) (engine : Engine) : Steps line due [] told { line with seat, engine }
  | starts (event : Launch.Start.Event) (late : .attach ∉ (line.start.advance event).2)
      (once : event.isAnswer = true → line.start.answered = false) (lapses : event = .deadline → due)
      (engine : Engine) :
      Steps line due [event] [] { line with start := (line.start.advance event).1, engine }
  | attaches {seat : Seat} (timely : .attach ∈ (line.start.advance .opened).2)
      (goes : line.seat.Goes [.launching ()] seat) (engine : Engine) :
      Steps line due [.opened] [.launching ()]
        { line with start := (line.start.advance .opened).1, engine, seat, attached := true }

def Line.Goes (line : Line) (due : Prop) (after : Line) : Prop :=
  ∃ heard told, line.Steps due heard told after

-- A line that is out of time, as far as lines are told apart by their channels.
def OutOfTime (board : Switchboard) (line : Line) : Prop :=
  (board.lines.map Line.channel).Nodup → line.deadline ≤ board.now

def Waiting.isTask : Waiting → Bool
  | .task .. => true
  | _ => false

inductive Waiting.Leads : Waiting → Waiting → Prop
  | collects (venture : Venture) (channel : Nat) (capture : Exec.Capture) :
      Leads (.venture venture) (.collecting channel capture)
  | reads (channel : Nat) (capture : Exec.Capture) (other : Nat) (next : Exec.Capture) :
      Leads (.collecting channel capture) (.collecting other next)
  | resumes {procedure next : Procedure} (reply : Sftp.Reply) (replies : List Sftp.Reply)
      (stands : Procedure.reached (procedure.resume reply) replies = some next) (channel : Nat)
      (purpose : Purpose) :
      Leads (.task channel procedure purpose) (.task channel next purpose)

-- Where a call in progress stands: where some replies have brought its task. The file that a call
-- makes use of is held.
inductive Stands (board : Switchboard) : Waiting → Prop
  | elsewhere {waiting : Waiting} (other : waiting.isTask = false) : Stands board waiting
  | alone {settings : Sftp.Settings} {task : Sftp.Task} {replies : List Sftp.Reply} {procedure : Procedure}
      (stands : Procedure.reached (Procedure.start settings task) replies = some procedure) (channel : Nat)
      {purpose : Purpose} (plain : ∀ file, purpose ≠ .uses file) :
      Stands board (.task channel procedure purpose)
  | uses {file : CallId} {channel : Nat} {opened : Sftp.OpenFile} {path : String}
      (held : board.handle? file = some (.file channel opened path)) {settings : Sftp.Settings}
      {task : Sftp.FileTask} {replies : List Sftp.Reply} {procedure : Procedure}
      (stands : Procedure.reached (Procedure.start settings (.file opened task)) replies = some procedure) :
      Stands board (.task channel procedure (.uses file))

def IsNew (board : Switchboard) (call : CallId) : Prop :=
  call = board.turn ∧ (∀ pending ∈ board.pending, pending.call ≠ call) ∧
    ∀ held ∈ board.handles, held.1 ≠ call

def Progresses (board : Switchboard) (call : CallId) : Prop :=
  (∃ pending ∈ board.pending, pending.call = call) ∨ board.IsNew call

def Allows (board : Switchboard) (call : CallId) (waiting : Waiting) : Prop :=
  (∃ pending ∈ board.pending, pending.call = call ∧ pending.waiting.Leads waiting) ∨
    board.IsNew call ∧ board.Stands waiting

-- A call waits on under its ticket, or under one that was free.
def Grants (board : Switchboard) (call : CallId) (ticket next : Ticket) : Prop :=
  (∃ pending ∈ board.pending, pending.call = call ∧ pending.ticket = ticket) ∧ next = board.nextTicket ∨
    board.nextTicket ≤ ticket ∧ ticket < next

-- Where the board does not grow, no line is added to it, and no time passes.
inductive Shift (grows : Bool) : Switchboard → Switchboard → Prop
  -- Words, and the connection: nothing that is followed here.
  | aside {board after : Switchboard} (pending : after.pending = board.pending)
      (handles : after.handles = board.handles) (lines : after.lines = board.lines)
      (turn : after.turn = board.turn) (now : after.now = board.now)
      (tickets : board.nextTicket ≤ after.nextTicket) : Shift grows board after
  | elapses (board : Switchboard) (may : grows = true) (time : Nat) :
      Shift grows board { board with now := board.now + time }
  | places {board : Switchboard} {line after : Line} (member : line ∈ board.lines)
      (goes : line.Goes (board.OutOfTime line) after) : Shift grows board (board.place after)
  | opens (board : Switchboard) (may : grows = true) (origin : CallId) (ticket : Ticket) (deadline : Nat)
      (venture : Venture) : Shift grows board
        { board with lines := board.lines ++
            [{ channel := board.lines.length + 1, origin, ticket, deadline, seat := .ofVenture venture }] }
  | forgets (board : Switchboard) (call : CallId) : Shift grows board (board.forget call)
  | passes {board : Switchboard} {call : CallId} {waiting : Waiting} (allows : board.Allows call waiting)
      {ticket next : Ticket} (grants : board.Grants call ticket next) : Shift grows board
        (({ board with nextTicket := next }.forget call).await ⟨call, ticket, waiting⟩)
  | hands {board : Switchboard} {call : CallId} (on : board.Progresses call) (handle : Handle) :
      Shift grows board ((board.give call handle).forget call)

def Evolves (grows : Bool) : Switchboard → Switchboard → Prop := Relation.ReflTransGen (Shift grows)

theorem Grants.grows {board : Switchboard} {call : CallId} {ticket next : Ticket}
    (grants : board.Grants call ticket next) : board.nextTicket ≤ next := by
  rcases grants with ⟨_, rfl⟩ | ⟨least, below⟩
  · exact Nat.le_refl _
  · exact Nat.le_of_lt (Nat.lt_of_le_of_lt least below)

namespace Evolves

variable {grows : Bool} {board after later : Switchboard}

theorem refl (board : Switchboard) : Evolves grows board board := Relation.ReflTransGen.refl

theorem trans (first : Evolves grows board after) (second : Evolves grows after later) :
    Evolves grows board later :=
  Relation.ReflTransGen.trans first second

theorem of_shift (shift : Shift grows board after) : Evolves grows board after := .single shift

theorem aside (pending : after.pending = board.pending) (handles : after.handles = board.handles)
    (lines : after.lines = board.lines) (turn : after.turn = board.turn) (now : after.now = board.now)
    (tickets : board.nextTicket ≤ after.nextTicket) : Evolves grows board after :=
  of_shift (.aside pending handles lines turn now tickets)

theorem keeps {Holds : Switchboard → Prop}
    (each : ∀ {board after : Switchboard}, Shift grows board after → Holds board → Holds after)
    (way : Evolves grows board after) (holds : Holds board) : Holds after := by
  induction way with
  | refl => exact holds
  | tail _ shift ih => exact each shift ih

theorem fold {α : Type} {change : Switchboard → α → Switchboard}
    {items : List α} (each : ∀ board, ∀ item ∈ items, Evolves grows board (change board item))
    (board : Switchboard) : Evolves grows board (items.foldl change board) := by
  induction items generalizing board with
  | nil => exact refl board
  | cons item items ih =>
    have rest := ih fun board item member => each board item (List.mem_cons_of_mem _ member)
    exact (each board item List.mem_cons_self).trans (rest (change board item))

end Evolves

variable {grows : Bool} {board : Switchboard} {channel : Nat} {line : Line} {call : CallId}

theorem mem_of_line? (found : board.line? channel = some line) : line ∈ board.lines :=
  List.mem_of_find?_eq_some found

theorem mem_of_waiter? {ticket : Ticket} {pending : Pending} (found : board.waiter? ticket = some pending) :
    pending ∈ board.pending :=
  List.mem_of_find?_eq_some found

theorem Allows.progresses {waiting : Waiting} (allows : board.Allows call waiting) :
    board.Progresses call := by
  rcases allows with ⟨pending, member, same, _⟩ | ⟨new, _⟩
  · exact .inl ⟨pending, member, same⟩
  · exact .inr new

theorem Stands.keeps {after : Switchboard} {waiting : Waiting} (stands : board.Stands waiting)
    (keeps : ∀ file handle, waiting.usesFile file = true → board.handle? file = some handle →
      after.handle? file = some handle) : after.Stands waiting := by
  cases stands with
  | elsewhere other => exact .elsewhere other
  | alone stands channel plain => exact .alone stands channel plain
  | uses held stands => exact .uses (keeps _ _ (decide_eq_true rfl) held) stands

theorem Stands.same {after : Switchboard} {waiting : Waiting} (stands : board.Stands waiting)
    (same : after.handles = board.handles) : after.Stands waiting := by
  refine stands.keeps fun file handle _ held => ?_
  rw [handle?, same]
  exact held

theorem Waiting.isTask_of_uses {file : CallId} {waiting : Waiting} (uses : waiting.usesFile file = true) :
    waiting.isTask = true := by
  cases waiting with
  | task => rfl
  | _ => cases uses

theorem Stands.held {file : CallId} {waiting : Waiting} (stands : board.Stands waiting)
    (uses : waiting.usesFile file = true) :
    ∃ channel opened path, board.handle? file = some (.file channel opened path) := by
  cases stands with
  | elsewhere other => exact absurd (Waiting.isTask_of_uses uses) (by simp [other])
  | alone stands channel plain => exact absurd (of_decide_eq_true uses) (plain file)
  | uses held stands =>
    cases of_decide_eq_true uses
    exact ⟨_, _, _, held⟩

theorem Waiting.Leads.stands {earlier later : Waiting} (leads : earlier.Leads later)
    (stands : board.Stands earlier) : board.Stands later := by
  cases leads with
  | collects | reads => exact .elsewhere rfl
  | resumes reply replies onward channel purpose =>
    cases stands with
    | elsewhere other => cases other
    | alone stands channel plain => exact .alone ((Procedure.reached_on stands reply).trans onward) channel plain
    | uses held stands => exact .uses held ((Procedure.reached_on stands reply).trans onward)

theorem forget_new (new : board.IsNew call) : board.forget call = board := by
  have all : board.pending.filter (fun pending => pending.call ≠ call) = board.pending := by
    simpa using new.2.1
  rw [forget, all]

namespace Seat.Goes

variable {seat next last : Seat} {told more : List (Cancellation.Event Unit)}

theorem refl (seat : Seat) : seat.Goes [] seat := by
  cases seat with
  | command seat => exact .command rfl
  | shell seat => exact .shell seat seat
  | files seat => exact .files seat seat

theorem trans (first : seat.Goes told next) (second : next.Goes more last) :
    seat.Goes (told ++ more) last := by
  cases first with
  | shell seat next =>
    cases second
    exact .shell seat _
  | files seat next =>
    cases second
    exact .files seat _
  | command heard =>
    cases second with
    | command hears =>
      refine .command ?_
      rw [hears, heard, heardOf, heardOf, heardOf, List.foldl_append]

end Seat.Goes

theorem CommandSeat.follow_cancellation (seat : CommandSeat) (outcome : Exec.Session.Outcome) :
    (seat.follow outcome).1.cancellation = seat.cancellation := by
  have takes (seat : CommandSeat) (effects : List Exec.Session.Effect) :
      (absorb CommandSeat.take seat effects).1.cancellation = seat.cancellation := by
    induction effects generalizing seat with
    | nil => rfl
    | cons effect effects ih =>
      rw [absorb, ih]
      cases effect <;> rfl
  exact takes _ _

namespace Seat.Stays

theorem of_untold {seat next : Seat} (goes : seat.Goes [] next) : seat.Stays next :=
  ⟨[], List.not_mem_nil, goes⟩

theorem refl (seat : Seat) : seat.Stays seat := of_untold (.refl seat)

theorem abandon (seat : CommandSeat) : (Seat.command seat).Stays (.command seat.abandon) :=
  ⟨[.ended], by simp, .command (by cases seat.cancellation <;> rfl)⟩

theorem read (seat : CommandSeat) (stream : Exec.Stream) :
    (Seat.command seat).Stays (.command (seat.read stream)) := by
  unfold CommandSeat.read
  split
  · exact ⟨[.ended], by simp, .command (by cases seat.cancellation <;> rfl)⟩
  · exact of_untold (.command rfl)

theorem dropStream (seat : CommandSeat) : (Seat.command seat).Stays (.command seat.dropStream.1) := by
  unfold CommandSeat.dropStream
  split
  · exact ⟨[.cancel], by simp, .command rfl⟩
  · exact refl _

theorem cancel (seat : CommandSeat) : (Seat.command seat).Stays (.command seat.cancel.1) := by
  unfold CommandSeat.cancel
  dsimp only
  split
  · exact ⟨[.cancel], by simp, .command rfl⟩
  · exact refl _

theorem shell (seat next : ShellSeat) : (Seat.shell seat).Stays (.shell next) :=
  of_untold (.shell seat next)

theorem files (seat next : FilesSeat) : (Seat.files seat).Stays (.files next) :=
  of_untold (.files seat next)

end Seat.Stays

theorem Seat.begin_goes (channel : Nat) (reachable : Bool) (seat : Seat) :
    seat.Goes [.launching ()] (seat.begin channel reachable).1 := by
  cases seat with
  | command seat =>
    refine .command ?_
    exact CommandSeat.follow_cancellation _ _
  | shell seat => exact .shell seat _
  | files seat => exact .files seat _

theorem Seat.hear_goes (channel : Nat) (reachable : Bool) (seat : Seat) (event : ChannelEvent) :
    seat.Goes [] (seat.hear channel reachable event).1 := by
  cases seat with
  | command seat => exact .command (CommandSeat.follow_cancellation _ _)
  | shell seat => exact .shell seat _
  | files seat => exact .files seat _

theorem Seat.hearAll_goes (channel : Nat) (reachable : Bool) (seat : Seat) (events : List ChannelEvent) :
    seat.Goes [] (seat.hearAll channel reachable events).1 := by
  induction events generalizing seat with
  | nil => exact .refl seat
  | cons event events ih => exact (seat.hear_goes channel reachable event).trans (ih _)

theorem Line.hear_seat_goes (line : Line) (events : List ChannelEvent) :
    line.seat.Goes [] (line.hear events).1.seat := by
  unfold Line.hear
  split
  · exact line.seat.hearAll_goes line.channel line.isReachable events
  · exact .refl line.seat

theorem Line.Goes.sits {line : Line} {due : Prop} {seat : Seat} (stays : line.seat.Stays seat)
    (engine : Engine) : line.Goes due { line with seat, engine } := by
  obtain ⟨told, untold, goes⟩ := stays
  exact ⟨[], told, .sits untold goes engine⟩

theorem attach_goes {line : Line} {due : Prop} (timely : .attach ∈ (line.start.advance .opened).2) (engine : Engine)
    (events : List ChannelEvent) :
    line.Goes due (({ line with start := (line.start.advance .opened).1, engine } : Line).attach.1.hear
      events).1 := by
  let opened : Line := { line with start := (line.start.advance .opened).1, engine }
  have same : (opened.attach.1.hear events).1 =
      { line with
        start := (line.start.advance .opened).1, engine, attached := true
        seat := (opened.attach.1.hear events).1.seat } := by
    rw [Line.hear, if_pos (show opened.attach.1.attached = true from rfl)]
    rfl
  rw [same]
  refine ⟨_, _, .attaches timely ?_ engine⟩
  exact (line.seat.begin_goes opened.channel opened.isReachable).trans (opened.attach.1.hear_seat_goes events)

theorem hear_goes_without (line : Line) {due : Prop} (engine : Engine) (events : List ChannelEvent) :
    line.Goes due (({ line with engine } : Line).hear events).1 := by
  have same : (({ line with engine } : Line).hear events).1 =
      { line with engine, seat := (({ line with engine } : Line).hear events).1.seat } := by
    unfold Line.hear
    split <;> rfl
  have goes : line.seat.Goes [] (({ line with engine } : Line).hear events).1.seat :=
    ({ line with engine } : Line).hear_seat_goes events
  rw [same]
  exact .sits (.of_untold goes) engine

-- A board that does not grow keeps its time and its lines, and no start that is over begins again.

structure Rests (board after : Switchboard) : Prop where
  now : after.now = board.now
  channels : after.lines.map Line.channel = board.lines.map Line.channel
  lines : ∀ line ∈ after.lines, ∃ old ∈ board.lines, line.channel = old.channel ∧
    line.deadline = old.deadline ∧ (old.start.stage = .over → line.start.stage = .over)

namespace Rests

variable {after later : Switchboard}

theorem refl (board : Switchboard) : Rests board board :=
  ⟨rfl, rfl, fun line member => ⟨line, member, rfl, rfl, id⟩⟩

theorem trans (first : Rests board after) (second : Rests after later) : Rests board later := by
  refine ⟨second.now.trans first.now, second.channels.trans first.channels, fun line member => ?_⟩
  obtain ⟨old, among, channel, deadline, ends⟩ := second.lines line member
  obtain ⟨oldest, there, same, due, ended⟩ := first.lines old among
  exact ⟨oldest, there, channel.trans same, deadline.trans due, ends ∘ ended⟩

end Rests

theorem Line.Goes.keeps {due : Prop} {after : Line} (goes : line.Goes due after) :
    after.channel = line.channel ∧ after.deadline = line.deadline ∧
      (line.start.stage = .over → after.start.stage = .over) := by
  have ended (event : Launch.Start.Event) (ends : line.start.stage = .over) :
      (line.start.advance event).1.stage = .over := by rw [Launch.Start.advance_over ends]
  obtain ⟨heard, told, steps⟩ := goes
  cases steps with
  | sits => exact ⟨rfl, rfl, id⟩
  | starts event => exact ⟨rfl, rfl, ended event⟩
  | attaches => exact ⟨rfl, rfl, ended .opened⟩

theorem place_channels (board : Switchboard) (line : Line) :
    (board.place line).lines.map Line.channel = board.lines.map Line.channel := by
  rw [place, List.map_map]
  refine List.map_congr_left fun other _ => ?_
  by_cases mine : other.channel = line.channel
  · simp [mine]
  · simp [mine]

theorem Shift.rests {after : Switchboard} (shift : Shift false board after) : Rests board after := by
  have same (line : Line) (member : line ∈ board.lines) := (Rests.refl board).lines line member
  cases shift with
  | aside pending handles lines turn now tickets =>
    exact ⟨now, by rw [lines], by rwa [lines]⟩
  | elapses may | opens may => cases may
  | @places line moved member goes =>
    obtain ⟨channel, deadline, ends⟩ := goes.keeps
    refine ⟨rfl, place_channels board moved, fun other there => ?_⟩
    obtain ⟨old, among, rfl⟩ := List.mem_map.mp there
    split
    · exact ⟨line, member, channel, deadline, ends⟩
    · exact same old among
  | forgets | passes | hands => exact ⟨rfl, rfl, same⟩

theorem Evolves.rests {after : Switchboard} (way : Evolves false board after) : Rests board after :=
  way.keeps (fun shift rests => rests.trans shift.rests) (.refl board)

def Distinct (board : Switchboard) : Prop := (board.pending.map Pending.call).Nodup

theorem Distinct.finds {pending : Pending} (distinct : board.Distinct) (member : pending ∈ board.pending) :
    board.pending.find? (fun other => other.call = pending.call) = some pending := by
  obtain ⟨front, rest, split⟩ := List.append_of_mem member
  rw [Distinct, split, List.map_append, List.map_cons] at distinct
  have before (other : Pending) (there : other ∈ front) : other.call ≠ pending.call := by
    have apart := List.disjoint_of_nodup_append distinct
    exact fun same => apart (List.mem_map_of_mem there) (same ▸ List.mem_cons_self)
  rw [split, List.find?_append, List.find?_eq_none.mpr (by simpa using before)]
  simp

theorem Shift.distinct {after : Switchboard} (shift : Shift grows board after) (distinct : board.Distinct) :
    after.Distinct := by
  have left (call : CallId) :
      ((board.pending.filter fun pending => pending.call ≠ call).map Pending.call).Nodup :=
    List.Nodup.sublist (List.filter_sublist.map Pending.call) distinct
  cases shift with
  | aside pending =>
    rw [Distinct, pending]
    exact distinct
  | elapses | places | opens => exact distinct
  | forgets call => exact left call
  | hands on handle => exact left _
  | @passes call waiting allows ticket next grants =>
    have gone : call ∉ (board.pending.filter fun pending => pending.call ≠ call).map Pending.call := by
      simp
    rw [Distinct, await, forget, List.map_append]
    exact List.Nodup.append (left call) (List.nodup_singleton call) (List.disjoint_singleton.mpr gone)

theorem Evolves.distinct {after : Switchboard} (way : Evolves grows board after) :
    board.Distinct → after.Distinct :=
  way.keeps Shift.distinct

end SecureShell.Switchboard
