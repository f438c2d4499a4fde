import SecureShell.Proofs.Switchboard.Evolution

namespace SecureShell.Switchboard
open Sftp (Procedure)

-- All that the sessions and the connection do to a board is made up of such changes, and so is what
-- is tidied up after them.

variable {grows : Bool} {board : Switchboard} {channel : Nat} {line : Line} {call : CallId}

@[simp] theorem send_pending (board : Switchboard) (channel : Nat) (command : ChannelCommand) :
    (board.send channel command).pending = board.pending := by
  unfold send
  split <;> rfl

@[simp] theorem send_handles (board : Switchboard) (channel : Nat) (command : ChannelCommand) :
    (board.send channel command).handles = board.handles := by
  unfold send
  split <;> rfl

@[simp] theorem send_lines (board : Switchboard) (channel : Nat) (command : ChannelCommand) :
    (board.send channel command).lines = board.lines := by
  unfold send
  split <;> rfl

@[simp] theorem send_turn (board : Switchboard) (channel : Nat) (command : ChannelCommand) :
    (board.send channel command).turn = board.turn := by
  unfold send
  split <;> rfl

@[simp] theorem send_now (board : Switchboard) (channel : Nat) (command : ChannelCommand) :
    (board.send channel command).now = board.now := by
  unfold send
  split <;> rfl

@[simp] theorem send_nextTicket (board : Switchboard) (channel : Nat) (command : ChannelCommand) :
    (board.send channel command).nextTicket = board.nextTicket := by
  unfold send
  split <;> rfl

theorem send_evolves (board : Switchboard) (channel : Nat) (command : ChannelCommand) :
    Evolves grows board (board.send channel command) :=
  .aside (board.send_pending channel command) (board.send_handles channel command)
    (board.send_lines channel command) (board.send_turn channel command)
    (board.send_now channel command) (by simp)

theorem note_evolves (board : Switchboard) (notice : Notice) : Evolves grows board (board.note notice) :=
  .aside rfl rfl rfl rfl rfl (Nat.le_refl _)

theorem complete_evolves (board : Switchboard) (call : CallId) (answer : Answer) :
    Evolves grows board (board.complete call answer) :=
  (Evolves.of_shift (.forgets board call)).trans (.aside rfl rfl rfl rfl rfl (Nat.le_refl _))

theorem hand_evolves (on : board.Progresses call) (handle : Handle) (answer : Answer) :
    Evolves grows board ((board.give call handle).complete call answer) :=
  (Evolves.of_shift (.hands on handle)).trans (.aside rfl rfl rfl rfl rfl (Nat.le_refl _))

theorem place_evolves (found : line ∈ board.lines) {after : Line}
    (goes : line.Goes (board.OutOfTime line) after) :
    Evolves grows board (board.place after) :=
  .of_shift (.places found goes)

theorem placeSeat_evolves (found : line ∈ board.lines) {seat : Seat} (stays : line.seat.Stays seat) :
    Evolves grows board (board.placeSeat line seat) :=
  place_evolves found (.sits stays line.engine)

theorem launched_evolves {pending : Pending} (waits : pending ∈ board.pending) (line : Line)
    {venture : Venture} (ventures : pending.waiting = .venture venture) :
    Evolves grows board (board.launched line pending venture) := by
  have on : board.Progresses pending.call := .inl ⟨pending, waits, rfl⟩
  cases venture with
  | command text collected =>
    cases collected with
    | true =>
      refine .of_shift (.passes (.inl ⟨pending, waits, rfl, ?_⟩) (.inl ⟨⟨pending, waits, rfl, rfl⟩, rfl⟩))
      rw [ventures]
      exact .collects _ _ _
    | false => exact hand_evolves on _ _
  | shell => exact hand_evolves on _ _
  | files settings => exact hand_evolves on _ _

theorem failed_evolves (found : line ∈ board.lines) (pending : Pending) (fault : ConnectionFault) :
    Evolves grows board (board.failed line pending fault) := by
  unfold failed
  refine Evolves.trans ?_ (complete_evolves _ _ _)
  split
  · rename_i seat seated
    refine placeSeat_evolves found ?_
    rw [seated]
    exact .abandon seat
  · exact placeSeat_evolves found (.refl line.seat)

theorem settleVenture_evolves (found : line ∈ board.lines) (verdict : Launch.Verdict) :
    Evolves grows board (board.settleVenture line verdict) := by
  unfold settleVenture
  split
  · rename_i pending waits
    split
    · rename_i venture ventures
      exact launched_evolves (mem_of_waiter? waits) line ventures
    · exact failed_evolves found pending _
    · exact .refl board
  · exact .refl board

theorem followStart_evolves (board : Switchboard) (channel : Nat) (effects : List Launch.Start.Effect) :
    Evolves grows board (board.followStart channel effects) := by
  refine .fold (fun board effect _ => ?_) board
  split
  · exact send_evolves board channel .close
  · rename_i verdict line found _
    exact settleVenture_evolves (mem_of_line? found) verdict
  · exact .refl board

theorem advanceStart_evolves (board : Switchboard) (channel : Nat) {event : Launch.Start.Event}
    (other : event ≠ .opened) (once : event.isAnswer = true → ∀ line, board.line? channel = some line →
      line.start.answered = false)
    (lapses : event = .deadline → ∀ line, board.line? channel = some line → board.OutOfTime line) :
    Evolves grows board (board.advanceStart channel event) := by
  unfold advanceStart
  split
  · rename_i line found
    have late : .attach ∉ (line.start.advance event).2 := fun attaches =>
      other ((Launch.Start.attaches_iff line.start event).mp attaches).2
    have steps := Line.Steps.starts event late (fun answers => once answers line found)
      (fun ends => lapses ends line found) line.engine
    exact (place_evolves (mem_of_line? found) ⟨_, _, steps⟩).trans (followStart_evolves _ channel _)
  · exact .refl board

theorem settleShell_evolves (board : Switchboard) (settlement : Settlement Interactive.Answer) :
    Evolves grows board (board.settleShell settlement) := by
  unfold settleShell
  split
  · split
    · split
      · exact complete_evolves board _ _
      · exact .refl board
    · exact complete_evolves board _ _
    · exact complete_evolves board _ _
    · exact .refl board
  · exact .refl board

theorem register_evolves (board : Switchboard) (promise : Ticket) (token : Registry.Token) :
    Evolves grows board (board.register promise token) := by
  unfold register
  split
  · refine Evolves.trans ?_ (complete_evolves _ _ _)
    exact .aside rfl rfl rfl rfl rfl (Nat.le_refl _)
  · exact .refl board

theorem finishTask_evolves (on : board.Progresses call) (channel slice : Nat) (purpose : Purpose)
    (result : Except SftpFault Sftp.Result) :
    Evolves grows board (board.finishTask call channel slice purpose result) := by
  unfold finishTask
  split
  · exact complete_evolves board _ _
  · split
    · exact hand_evolves on _ _
    · exact complete_evolves board _ _

theorem pursue_reaches {reachable : Bool} {service : Sftp.Service} {next : Ticket}
    {move : Procedure.Move} {procedure : Procedure}
    (waits : (∃ promise, (Procedure.pursue reachable service next move).course =
        .waiting procedure promise) ∨
      (Procedure.pursue reachable service next move).course = .staying procedure) :
    ∃ replies, Procedure.reached move replies = some procedure := by
  obtain ⟨refusals, _, course⟩ := Procedure.pursue_asks reachable service next move
  rcases waits with ⟨promise, waits⟩ | waits <;>
  · rw [waits] at course
    exact ⟨_, course⟩

theorem placeFiles_evolves (found : line ∈ board.lines) (service : Sftp.Service) :
    Evolves grows board (board.placeFiles line service) := by
  unfold placeFiles
  split
  · rename_i seat seated
    refine placeSeat_evolves found ?_
    rw [seated]
    exact .files seat _
  · exact .refl board

-- How far a task gets is up to the file service; what else there is stays as it is.
structure Aloof (grows : Bool) (board after : Switchboard) : Prop where
  evolves : Evolves grows board after
  pending : after.pending = board.pending
  handles : after.handles = board.handles
  turn : after.turn = board.turn
  tickets : after.nextTicket = board.nextTicket

theorem Aloof.trans {after later : Switchboard} (first : Aloof grows board after)
    (second : Aloof grows after later) : Aloof grows board later :=
  ⟨first.evolves.trans second.evolves, second.pending.trans first.pending,
    second.handles.trans first.handles, second.turn.trans first.turn,
    second.tickets.trans first.tickets⟩

theorem send_aloof (board : Switchboard) (channel : Nat) (command : ChannelCommand) :
    Aloof grows board (board.send channel command) :=
  ⟨send_evolves board channel command, by simp, by simp, by simp, by simp⟩

theorem sends_aloof (board : Switchboard) (channel : Nat) (commands : List ChannelCommand) :
    Aloof grows board (commands.foldl (·.send channel ·) board) := by
  induction commands generalizing board with
  | nil => exact ⟨.refl board, rfl, rfl, rfl, rfl⟩
  | cons command commands ih => exact (send_aloof board channel command).trans (ih _)

theorem placeFiles_aloof (found : line ∈ board.lines) (service : Sftp.Service) :
    Aloof grows board (board.placeFiles line service) := by
  refine ⟨placeFiles_evolves found service, ?_, ?_, ?_, ?_⟩ <;>
  · unfold placeFiles
    split <;> rfl

theorem sends_numbered (board : Switchboard) (channel : Nat) (commands : List ChannelCommand)
    (next : Ticket) :
    commands.foldl (·.send channel ·) { board with nextTicket := next } =
      { commands.foldl (·.send channel ·) board with nextTicket := next } := by
  induction commands generalizing board with
  | nil => rfl
  | cons command commands ih =>
    have first : ({ board with nextTicket := next } : Switchboard).send channel command =
        { board.send channel command with nextTicket := next } := by
      have same : ({ board with nextTicket := next } : Switchboard).line? channel = board.line? channel := rfl
      rw [send, send, same]
      cases (board.line? channel).any Line.isReachable <;> rfl
    rw [List.foldl_cons, List.foldl_cons, first, ih]

theorem placeFiles_numbered (board : Switchboard) (line : Line) (service : Sftp.Service) (next : Ticket) :
    ({ board with nextTicket := next } : Switchboard).placeFiles line service =
      { board.placeFiles line service with nextTicket := next } := by
  unfold placeFiles
  split <;> rfl

theorem Progresses.aloof {after : Switchboard} (aloof : Aloof grows board after) (on : board.Progresses call) :
    after.Progresses call := by
  simpa only [Progresses, IsNew, aloof.pending, aloof.handles, aloof.turn] using on

theorem Allows.aloof {after : Switchboard} {waiting : Waiting} (aloof : Aloof grows board after)
    (allows : board.Allows call waiting) : after.Allows call waiting := by
  rcases allows with ⟨pending, member, leads⟩ | ⟨new, stands⟩
  · exact .inl ⟨pending, aloof.pending ▸ member, leads⟩
  · refine .inr ⟨?_, stands.same aloof.handles⟩
    simpa only [IsNew, aloof.pending, aloof.handles, aloof.turn] using new

theorem carryOn_evolves (on : board.Progresses call) (channel : Nat) (purpose : Purpose)
    {move : Procedure.Move}
    (allows : ∀ procedure replies, Procedure.reached move replies = some procedure →
      board.Allows call (.task channel procedure purpose)) :
    Evolves grows board (board.carryOn call channel purpose move) := by
  unfold carryOn
  split
  · rename_i line found
    split
    · rename_i seat seated
      let pursuit := Procedure.pursue line.isReachable seat.service board.nextTicket move
      let sent := pursuit.commands.foldl (·.send channel ·) (board.placeFiles line pursuit.service)
      obtain ⟨onward, within⟩ := Procedure.pursue_tickets line.isReachable seat.service board.nextTicket move
      have aloof : Aloof grows board sent :=
        (placeFiles_aloof (mem_of_line? found) _).trans (sends_aloof _ channel _)
      have numbered : pursuit.commands.foldl (·.send channel ·)
          ({ board with nextTicket := pursuit.next + 1 }.placeFiles line pursuit.service) =
          { sent with nextTicket := pursuit.next + 1 } := by
        rw [placeFiles_numbered, sends_numbered]
      have passes {procedure : Procedure} {ticket : Ticket}
          (waits : ∃ replies, Procedure.reached move replies = some procedure)
          (fresh : board.nextTicket ≤ ticket ∧ ticket < pursuit.next + 1) :
          Evolves grows board (({ sent with nextTicket := pursuit.next + 1 }.forget call).await
            ⟨call, ticket, .task channel procedure purpose⟩) := by
        obtain ⟨replies, stands⟩ := waits
        have grants : sent.Grants call ticket (pursuit.next + 1) :=
          .inr ⟨aloof.tickets ▸ fresh.1, fresh.2⟩
        exact aloof.evolves.trans (.of_shift (.passes ((allows procedure replies stands).aloof aloof) grants))
      dsimp only
      rw [numbered]
      split
      · rename_i procedure promise waits
        obtain ⟨least, below⟩ := within procedure promise waits
        exact passes (pursue_reaches (.inl ⟨promise, waits⟩)) ⟨least, Nat.lt_succ_of_lt below⟩
      · rename_i procedure stays
        exact passes (pursue_reaches (.inr stays)) ⟨onward, Nat.lt_succ_self _⟩
      · rename_i result finishes
        have next : Evolves grows sent { sent with nextTicket := pursuit.next + 1 } :=
          .aside rfl rfl rfl rfl rfl (aloof.tickets ▸ Nat.le_succ_of_le onward)
        have still : sent.Progresses call := on.aloof aloof
        have later : ({ sent with nextTicket := pursuit.next + 1 } : Switchboard).Progresses call := still
        exact (aloof.evolves.trans next).trans (finishTask_evolves later channel _ purpose _)
    · exact .refl board
  · exact .refl board

theorem settleFiles_evolves (board : Switchboard) (settlement : Settlement Sftp.Answer) :
    Evolves grows board (board.settleFiles settlement) := by
  unfold settleFiles
  split
  · rename_i pending waits
    have member := mem_of_waiter? waits
    split
    · rename_i channel procedure purpose waiting
      refine carryOn_evolves (.inl ⟨pending, member, rfl⟩) channel purpose ?_
      intro next replies stands
      refine .inl ⟨pending, member, rfl, ?_⟩
      rw [waiting]
      exact .resumes _ replies stands channel purpose
    · exact complete_evolves board _ _
    · exact .refl board
  · exact .refl board

theorem follow_evolves (board : Switchboard) (channel : Nat) (effect : Effect) :
    Evolves grows board (board.follow channel effect) := by
  cases effect with
  | send command => exact send_evolves board channel command
  | report verdict => exact advanceStart_evolves board channel nofun nofun nofun
  | shellSettled settlement => exact settleShell_evolves board settlement
  | shellRegistered promise token => exact register_evolves board promise token
  | shellSeen observer view => exact note_evolves board _
  | filesSettled settlement => exact settleFiles_evolves board settlement

theorem followAll_evolves (found : line ∈ board.lines) {outcome : Line × List Effect}
    (goes : line.Goes (board.OutOfTime line) outcome.1) : Evolves grows board (board.followAll outcome) :=
  (place_evolves found goes).trans
    (.fold (fun board effect _ => follow_evolves board outcome.1.channel effect) _)

theorem followSeat_evolves (found : line ∈ board.lines) {outcome : Seat × List Effect}
    (stays : line.seat.Stays outcome.1) : Evolves grows board (board.followSeat line outcome) :=
  followAll_evolves found (.sits stays line.engine)

theorem release_evolves (board : Switchboard) (channel : Nat) (file : Sftp.OpenFile) :
    Evolves grows board (board.release channel file) := by
  unfold release
  split
  · rename_i line found
    split
    · rename_i seat seated
      have next : Evolves grows board { board with nextTicket := board.nextTicket + 1 } :=
        .aside rfl rfl rfl rfl rfl (Nat.le_succ _)
      have there : line ∈ ({ board with nextTicket := board.nextTicket + 1 } : Switchboard).lines :=
        mem_of_line? found
      refine next.trans (followSeat_evolves there ?_)
      rw [seated]
      exact .files seat _
    · exact .refl board
  · exact .refl board

-- The connection, and what comes over the channels.

theorem settleConnection_evolves (board : Switchboard) (settlement : Settlement Connection.Verdict) :
    Evolves grows board (board.settleConnection settlement) := by
  unfold settleConnection
  split
  · exact complete_evolves board _ _
  · exact .refl board

theorem openLine_evolves (board : Switchboard) (link : Nat) (request : Connection.SessionRequest) :
    Evolves true board (board.openLine link request) := by
  unfold openLine
  split
  · exact (Evolves.of_shift (.opens board rfl _ _ _ _)).trans (note_evolves _ _)
  · exact .refl board

theorem followConnection_evolves (board : Switchboard) {effect : Connection.Supervisor.Effect}
    (may : ∀ link request, effect = .startSession link request → grows = true) :
    Evolves grows board (board.followConnection effect) := by
  cases effect with
  | connect | authenticate | close | observed => exact note_evolves board _
  | settle settlement => exact settleConnection_evolves board settlement
  | registered promise token => exact register_evolves board promise token
  | startSession link request =>
    cases may link request rfl
    exact openLine_evolves board link request

theorem followSupervisor_evolves (board : Switchboard) {outcome : Connection.Supervisor.Outcome}
    (may : ∀ link request, .startSession link request ∈ outcome.2 → grows = true) :
    Evolves grows board (board.followSupervisor outcome) := by
  have next : Evolves grows board { board with supervisor := outcome.1 } :=
    .aside rfl rfl rfl rfl rfl (Nat.le_refl _)
  refine next.trans (.fold (fun board effect member => ?_) _)
  refine followConnection_evolves board fun link request same => ?_
  exact may link request (same ▸ member)

theorem clearMail_evolves (board : Switchboard) : Evolves true board board.clearMail :=
  followSupervisor_evolves board fun _ _ _ => rfl

theorem connectAnswered_evolves (board : Switchboard) (link : Nat) (answer : Except TransportFault Unit) :
    Evolves true board (board.connectAnswered link answer).1 := by
  unfold connectAnswered
  split
  · exact (followSupervisor_evolves board fun _ _ _ => rfl).trans (clearMail_evolves _)
  · exact .refl board

theorem authAnswered_evolves (board : Switchboard) (link : Nat) (answer : Except TransportFault Unit) :
    Evolves true board (board.authAnswered link answer).1 := by
  unfold authAnswered
  split
  · refine Evolves.trans ?_ (clearMail_evolves _)
    exact .aside rfl rfl rfl rfl rfl (Nat.le_refl _)
  · exact .refl board

theorem linkClosed_evolves (board : Switchboard) (link : Nat) :
    Evolves true board (board.linkClosed link).1 := by
  unfold linkClosed
  refine Evolves.trans ?_ (clearMail_evolves _)
  exact .aside rfl rfl rfl rfl rfl (Nat.le_refl _)

theorem channelOpened_evolves (found : line ∈ board.lines) (unanswered : line.start.answered = false)
    (gone : Bool) :
    Evolves grows board (board.channelOpened line gone) := by
  unfold channelOpened
  dsimp only
  split
  · rename_i timely
    exact followAll_evolves found (attach_goes timely _ _)
  · rename_i late
    exact (place_evolves found ⟨_, _, .starts .opened late (fun _ => unanswered) nofun _⟩).trans
      (followStart_evolves _ _ _)

theorem openAnswered_evolves (board : Switchboard) (channel : Nat) (answer : Except TransportFault Unit)
    (gone : Bool) : Evolves grows board (board.openAnswered channel answer gone).1 := by
  unfold openAnswered
  split
  · rename_i line found
    split
    · exact .refl board
    · rename_i answered
      have unanswered : line.start.answered = false := Bool.eq_false_iff.mpr answered
      split
      · exact channelOpened_evolves (mem_of_line? found) unanswered gone
      · refine advanceStart_evolves board channel nofun (fun _ other also => ?_) nofun
        cases Option.some.inj (found.symm.trans also)
        exact unanswered
  · exact .refl board

theorem emitted_evolves {after : Switchboard} {event : ChannelEvent} {gone listens : Bool}
    (emits : board.emitted channel event gone = some (after, listens)) : Evolves grows board after := by
  unfold emitted at emits
  split at emits
  · rename_i line found
    split at emits
    · cases emits
      let heard := event :: if gone then [.closed] else []
      have goes (engine : Engine) :
          Evolves grows board (board.followAll (({ line with engine } : Line).hear heard)) :=
        followAll_evolves (mem_of_line? found) (hear_goes_without line engine heard)
      cases gone with
      | true => exact goes .gone
      | false => exact goes line.engine
    · cases emits
  · cases emits

theorem hungUp_evolves {after : Switchboard} (hangs : board.hungUp channel = some after) :
    Evolves grows board after := by
  unfold hungUp at hangs
  split at hangs
  · rename_i line found
    split at hangs
    · cases hangs
      exact followAll_evolves (mem_of_line? found) (hear_goes_without line .gone _)
    · cases hangs
  · cases hangs

theorem expireLine_evolves {ready : Switchboard} (rests : Rests ready board) (member : line ∈ ready.lines) :
    Evolves grows board (board.expireLine line) := by
  unfold expireLine
  split
  · rename_i due
    refine advanceStart_evolves board line.channel nofun nofun fun _ other found apart => ?_
    obtain ⟨old, among, channel, deadline, _⟩ := rests.lines other (mem_of_line? found)
    have mine : other.channel = line.channel := channel_of_line? found
    have one : old = line :=
      List.inj_on_of_nodup_map (rests.channels ▸ apart) among member (channel.symm.trans mine)
    rwa [deadline, one]
  · exact .refl board

theorem expireLines_evolves {ready : Switchboard} (rests : Rests ready board) {lines : List Line}
    (members : ∀ line ∈ lines, line ∈ ready.lines) :
    Evolves grows board (lines.foldl expireLine board) := by
  induction lines generalizing board with
  | nil => exact .refl board
  | cons line lines ih =>
    have first := members line List.mem_cons_self
    have later := rests.trans (expireLine_evolves rests first).rests
    exact (expireLine_evolves rests first).trans
      (ih later fun line member => members line (List.mem_cons_of_mem _ member))

theorem expire_evolves (board : Switchboard) : Evolves true board board.expire := by
  have next : Evolves true board { board with supervisor := board.supervisor.expireAll board.now } :=
    .aside rfl rfl rfl rfl rfl (Nat.le_refl _)
  exact (next.trans (clearMail_evolves _)).trans (expireLines_evolves (.refl _) fun _ member => member)

theorem collect_evolves {pending : Pending} (member : pending ∈ board.pending) :
    Evolves grows board (board.collect pending) := by
  unfold collect
  split
  · rename_i channel capture waiting
    split
    · rename_i line found
      split
      · rename_i seat seated
        have stays := Seat.Stays.read seat (capture.collect seat.stream).2.2
        rw [← seated] at stays
        have placed : Evolves grows board _ := placeSeat_evolves (mem_of_line? found) stays
        have allows (next : Exec.Capture) (seat : Seat) :
            (board.placeSeat line seat).Allows pending.call (.collecting channel next) := by
          refine .inl ⟨pending, member, rfl, ?_⟩
          rw [waiting]
          exact .reads _ _ _ _
        have grants (seat : Seat) : (board.placeSeat line seat).Grants pending.call pending.ticket
            board.nextTicket := .inl ⟨⟨pending, member, rfl, rfl⟩, rfl⟩
        have passes (next : Exec.Capture) := placed.trans (.of_shift (.passes (allows next _) (grants _)))
        dsimp only
        split
        · exact passes _
        · exact placed.trans (complete_evolves _ _ _)
        · exact placed.trans (complete_evolves _ _ _)
      · exact .refl board
    · exact .refl board
  · exact .refl board

theorem mem_collect {pending other : Pending} (member : other ∈ board.pending)
    (differs : other.call ≠ pending.call) : other ∈ (board.collect pending).pending := by
  have left (board : Switchboard) (member : other ∈ board.pending) :
      other ∈ (board.forget pending.call).pending := by
    simpa [forget] using ⟨member, differs⟩
  unfold collect
  split
  · split
    · split
      · dsimp only
        split
        · exact List.mem_append_left _ (left _ member)
        · exact left _ member
        · exact left _ member
      · exact member
    · exact member
  · exact member

theorem collects_evolves {pendings : List Pending} (members : ∀ pending ∈ pendings, pending ∈ board.pending)
    (distinct : (pendings.map Pending.call).Nodup) : Evolves grows board (pendings.foldl collect board) := by
  induction pendings generalizing board with
  | nil => exact .refl board
  | cons pending pendings ih =>
    rw [List.map_cons, List.nodup_cons] at distinct
    obtain ⟨new, rest⟩ := distinct
    have others (other : Pending) (member : other ∈ pendings) :
        other ∈ (board.collect pending).pending := by
      refine mem_collect (members other (List.mem_cons_of_mem _ member)) fun same => new ?_
      exact same ▸ List.mem_map_of_mem member
    exact (collect_evolves (members pending List.mem_cons_self)).trans (ih others rest)

theorem closeLeft_evolves (board : Switchboard) (channel : Nat) :
    Evolves grows board (board.closeLeft channel) := by
  unfold closeLeft
  split
  · rename_i line found
    split
    · exact .refl board
    · split
      · exact .refl board
      · rename_i seat seated
        refine followSeat_evolves (mem_of_line? found) ?_
        rw [seated]
        exact .shell seat _
      · rename_i seat seated
        refine followSeat_evolves (mem_of_line? found) ?_
        rw [seated]
        exact .files seat _
  · exact .refl board

theorem letGo_evolves (board : Switchboard) : Evolves grows board board.letGo := by
  unfold letGo
  split
  · refine followSupervisor_evolves board fun link request starts => ?_
    unfold Connection.Supervisor.exit at starts
    split at starts <;> simp at starts
  · exact .refl board

theorem tidy_evolves (distinct : board.Distinct) : Evolves grows board board.tidy := by
  have collects : Evolves grows board board.collectAll := collects_evolves (fun _ member => member) distinct
  exact (collects.trans (.fold (fun board channel _ => closeLeft_evolves board channel) _)).trans (letGo_evolves _)

theorem settled_evolves (distinct : board.Distinct) : Evolves true board board.tidy.expire.tidy := by
  have first := (tidy_evolves distinct).trans (expire_evolves _)
  exact first.trans (tidy_evolves (first.distinct distinct))

end SecureShell.Switchboard
