import SecureShell.Proofs.Switchboard.Conduct

namespace SecureShell.Switchboard
open Sftp (Procedure)

variable {board : Switchboard} {line : Line} {call : CallId}

-- What users do. Some of it takes a handle back.

def Stimulus.takes? : Stimulus → Option CallId
  | .called (.closeFile handle) | .used (.dropStream handle) | .used (.dropShell handle)
  | .used (.dropClient handle) | .used (.dropFile handle) => some handle
  | _ => none

def without (board : Switchboard) : Option CallId → Switchboard
  | some handle => board.takeBack handle
  | none => board

theorem takeBack_new (new : board.IsNew call) (handle : CallId) : (board.takeBack handle).IsNew call :=
  ⟨new.1, new.2.1, fun held member => new.2.2 held (List.mem_of_mem_filter member)⟩

theorem enter_evolves (new : board.IsNew call) {waiting : Waiting} (other : waiting.isTask = false) :
    Evolves true board (board.enter call waiting).1 := by
  have grants : board.Grants call board.nextTicket (board.nextTicket + 1) :=
    .inr ⟨Nat.le_refl _, Nat.lt_succ_self _⟩
  have passes : Evolves true board _ := .of_shift (.passes (.inr ⟨new, .elsewhere other⟩) grants)
  have fresh : ({ board with nextTicket := board.nextTicket + 1 } : Switchboard).IsNew call := new
  rw [forget_new fresh] at passes
  exact passes

theorem post_evolves (board : Switchboard) (mail : Connection.Mail) : Evolves true board (board.post mail) := by
  refine Evolves.trans ?_ (clearMail_evolves _)
  exact .aside rfl rfl rfl rfl rfl (Nat.le_refl _)

theorem callConnection_evolves (new : board.IsNew call) {waiting : Waiting} (other : waiting.isTask = false)
    {mail : Ticket → Connection.Mail} {after : Switchboard}
    (calls : board.callConnection call waiting mail = some after) : Evolves true board after := by
  unfold callConnection at calls
  split at calls
  · cases calls
  · cases calls
    exact (enter_evolves new other).trans (post_evolves _ _)

-- What is behind a handle sits on a line, and is of the handle's kind.

theorem Seat.command?_eq {seat : Seat} {sits : CommandSeat} (is : seat.command? = some sits) :
    seat = .command sits := by
  cases seat <;> cases is
  rfl

theorem Seat.shell?_eq {seat : Seat} {sits : ShellSeat} (is : seat.shell? = some sits) :
    seat = .shell sits := by
  cases seat <;> cases is
  rfl

theorem Seat.files?_eq {seat : Seat} {sits : FilesSeat} (is : seat.files? = some sits) :
    seat = .files sits := by
  cases seat <;> cases is
  rfl

theorem seat_found {kind : Type} {pick : Seat → Option kind} {channel : Nat} {seat : kind}
    (found : ((board.line? channel).bind fun line => (pick line.seat).map fun seat => (line, seat)) =
      some (line, seat)) : line ∈ board.lines ∧ pick line.seat = some seat := by
  obtain ⟨other, there, seated⟩ := Option.bind_eq_some_iff.mp found
  obtain ⟨sits, is, same⟩ := Option.map_eq_some_iff.mp seated
  cases same
  exact ⟨mem_of_line? there, is⟩

theorem streamAt?_found {handle : CallId} {seat : CommandSeat}
    (found : board.streamAt? handle = some (line, seat)) :
    (∃ channel, board.handle? handle = some (.stream channel)) ∧
      line ∈ board.lines ∧ line.seat = .command seat := by
  unfold streamAt? at found
  split at found
  · rename_i channel held
    obtain ⟨member, is⟩ := seat_found found
    exact ⟨⟨channel, held⟩, member, Seat.command?_eq is⟩
  · cases found

theorem shellAt?_found {handle : CallId} {seat : ShellSeat} (found : board.shellAt? handle = some (line, seat)) :
    (∃ channel, board.handle? handle = some (.shell channel)) ∧
      line ∈ board.lines ∧ line.seat = .shell seat := by
  unfold shellAt? at found
  split at found
  · rename_i channel held
    obtain ⟨member, is⟩ := seat_found found
    exact ⟨⟨channel, held⟩, member, Seat.shell?_eq is⟩
  · cases found

theorem clientAt?_found {handle : CallId} {seat : FilesSeat}
    (found : board.clientAt? handle = some (line, seat)) :
    (∃ channel, board.handle? handle = some (.client channel)) ∧
      line ∈ board.lines ∧ line.seat = .files seat := by
  unfold clientAt? at found
  split at found
  · rename_i channel held
    obtain ⟨member, is⟩ := seat_found found
    exact ⟨⟨channel, held⟩, member, Seat.files?_eq is⟩
  · cases found

theorem callShell_evolves (new : board.IsNew call) {shell : CallId} {waiting : Nat → Waiting}
    (other : ∀ channel, (waiting channel).isTask = false) {make : Ticket → Interactive.Call} {after : Switchboard}
    (calls : board.callShell call shell waiting make = some after) : Evolves true board after := by
  obtain ⟨⟨line, seat⟩, found, rfl⟩ := Option.map_eq_some_iff.mp calls
  obtain ⟨_, member, seated⟩ := shellAt?_found found
  have there : line ∈ (board.enter call (waiting line.channel)).1.lines := member
  refine (enter_evolves new (other line.channel)).trans (followSeat_evolves there ?_)
  rw [seated]
  exact .shell seat _

theorem leave_evolves (new : board.IsNew call) {client : CallId} {after : Switchboard}
    (calls : board.leave call client = some after) : Evolves true board after := by
  obtain ⟨⟨line, seat⟩, found, rfl⟩ := Option.map_eq_some_iff.mp calls
  obtain ⟨_, member, seated⟩ := clientAt?_found found
  have there : line ∈ (board.enter call (.leaving line.channel)).1.lines := member
  refine (enter_evolves new rfl).trans (followSeat_evolves there ?_)
  rw [seated]
  exact .files seat _

theorem callFiles_evolves (new : board.IsNew call) {client : CallId} {task : Sftp.Task} {after : Switchboard}
    (calls : board.callFiles call client task = some after) : Evolves true board after := by
  obtain ⟨⟨line, seat⟩, found, rfl⟩ := Option.map_eq_some_iff.mp calls
  refine carryOn_evolves (.inr new) line.channel _ fun procedure replies stands => ?_
  refine .inr ⟨new, .alone stands line.channel fun file => ?_⟩
  split <;> nofun

theorem held_of_fileAt? {handle : CallId} {channel : Nat} {opened : Sftp.OpenFile} {path : String}
    (found : board.fileAt? handle = some (channel, opened, path)) :
    board.handle? handle = some (.file channel opened path) := by
  unfold fileAt? at found
  split at found
  · cases found
    assumption
  · cases found

theorem callFile_evolves (new : board.IsNew call) {file : CallId} {task : Sftp.FileTask} {after : Switchboard}
    (calls : board.callFile call file task = some after) : Evolves true board after := by
  obtain ⟨⟨channel, opened, path⟩, found, rfl⟩ := Option.map_eq_some_iff.mp calls
  have held := held_of_fileAt? found
  refine carryOn_evolves (.inr new) channel (.uses file) fun procedure replies stands => ?_
  exact .inr ⟨new, .uses held stands⟩

theorem closeFile_evolves (new : board.IsNew call) {file : CallId} {after : Switchboard}
    (calls : board.closeFile call file = some after) : Evolves true (board.takeBack file) after := by
  unfold closeFile at calls
  split at calls
  · cases calls
  · obtain ⟨⟨channel, opened, path⟩, found, rfl⟩ := Option.map_eq_some_iff.mp calls
    refine carryOn_evolves (.inr (takeBack_new new file)) channel .plain fun procedure replies stands => ?_
    exact .inr ⟨takeBack_new new file, .alone stands channel nofun⟩

theorem call_evolves (new : board.IsNew call) {made : Call} {after : Switchboard}
    (calls : board.call call made = some after) :
    Evolves true (board.without (Stimulus.called made).takes?) after := by
  unfold Switchboard.call at calls
  cases made with
  | connect => exact callConnection_evolves new rfl calls
  | disconnect => exact callConnection_evolves new rfl calls
  | observe => exact callConnection_evolves new rfl calls
  | venture venture => exact callConnection_evolves new rfl calls
  | write | closeShell | observeShell => exact callShell_evolves new (fun channel => rfl) calls
  | files client task => exact callFiles_evolves new calls
  | leave client => exact leave_evolves new calls
  | file file task => exact callFile_evolves new calls
  | closeFile file => exact closeFile_evolves new calls

theorem useShell_evolves {shell : CallId} {call : Interactive.Call} {after : Switchboard}
    (uses : board.useShell shell call = some after) : Evolves true board after := by
  obtain ⟨⟨line, seat⟩, found, rfl⟩ := Option.map_eq_some_iff.mp uses
  obtain ⟨_, member, seated⟩ := shellAt?_found found
  refine followSeat_evolves member ?_
  rw [seated]
  exact .shell seat _

theorem takeReader_evolves {shell : CallId} {after : Switchboard} {reply : Reply}
    (uses : board.takeReader shell = some (after, reply)) : Evolves true board after := by
  unfold takeReader at uses
  split at uses
  · rename_i line seat found
    obtain ⟨_, member, seated⟩ := shellAt?_found found
    split at uses
    · cases uses
    · split at uses
      · cases uses
        exact .refl board
      · cases uses
        refine followSeat_evolves member ?_
        rw [seated]
        exact .shell seat _
  · cases uses

theorem readerAt?_line {shell : CallId} {seat : ShellSeat} {queue : List Octets}
    (found : board.readerAt? shell = some (line, seat, queue)) :
    line ∈ board.lines ∧ line.seat = .shell seat := by
  obtain ⟨other, there, rest⟩ := Option.bind_eq_some_iff.mp found
  obtain ⟨sits, is, rest⟩ := Option.bind_eq_some_iff.mp rest
  obtain ⟨items, reads, same⟩ := Option.bind_eq_some_iff.mp rest
  cases same
  exact ⟨List.mem_of_find?_eq_some there, Seat.shell?_eq is⟩

theorem use_evolves {use : Use} {after : Switchboard} {reply : Reply}
    (uses : board.use use = some (after, reply)) :
    Evolves true (board.without (Stimulus.used use).takes?) after := by
  unfold Switchboard.use at uses
  cases use with
  | unobserve token =>
    dsimp only at uses
    split at uses
    · split at uses
      · cases uses
      · cases uses
        exact post_evolves board _
    · cases uses
  | address =>
    dsimp only at uses
    split at uses
    · cases uses
    · cases uses
      exact .refl board
  | clone | drop =>
    dsimp only at uses
    split at uses
    · cases uses
    · cases uses
      exact .aside rfl rfl rfl rfl rfl (Nat.le_refl _)
  | readStream stream =>
    obtain ⟨⟨line, seat⟩, found, same⟩ := Option.map_eq_some_iff.mp uses
    obtain ⟨_, member, seated⟩ := streamAt?_found found
    cases same
    refine placeSeat_evolves member ?_
    rw [seated]
    exact .read seat _
  | cancelStream stream =>
    obtain ⟨⟨line, seat⟩, found, same⟩ := Option.map_eq_some_iff.mp uses
    obtain ⟨_, member, seated⟩ := streamAt?_found found
    cases same
    refine followSeat_evolves member ?_
    rw [seated]
    exact .cancel seat
  | dropStream stream =>
    obtain ⟨⟨line, seat⟩, found, same⟩ := Option.map_eq_some_iff.mp uses
    obtain ⟨_, member, seated⟩ := streamAt?_found found
    cases same
    have there : line ∈ (board.takeBack stream).lines := member
    refine followSeat_evolves there ?_
    rw [seated]
    exact .dropStream seat
  | shellState | filesState | extensions | filePath =>
    obtain ⟨_, found, same⟩ := Option.map_eq_some_iff.mp uses
    cases same
    exact .refl board
  | takeReader shell => exact takeReader_evolves uses
  | readShell shell | dropReader shell =>
    obtain ⟨⟨line, seat, queue⟩, found, same⟩ := Option.map_eq_some_iff.mp uses
    obtain ⟨member, seated⟩ := readerAt?_line found
    cases same
    refine placeSeat_evolves member ?_
    rw [seated]
    exact .shell seat _
  | unobserveShell shell token =>
    dsimp only at uses
    split at uses
    · obtain ⟨next, used, same⟩ := Option.map_eq_some_iff.mp uses
      cases same
      exact useShell_evolves used
    · cases uses
  | dropShell shell =>
    dsimp only at uses
    split at uses
    · split at uses
      · cases uses
      · cases uses
        exact .refl _
    · cases uses
  | dropClient client =>
    obtain ⟨_, found, same⟩ := Option.map_eq_some_iff.mp uses
    cases same
    exact .refl _
  | dropFile file =>
    dsimp only at uses
    split at uses
    · cases uses
    · obtain ⟨⟨channel, opened, path⟩, found, same⟩ := Option.map_eq_some_iff.mp uses
      cases same
      exact release_evolves _ channel opened

theorem callOff_evolves (board : Switchboard) (line? : Option Line) :
    (∀ line, line? = some line → line ∈ board.lines) →
      Evolves true board (match line?, line?.bind (·.seat.command?) with
        | some line, some seat => board.followSeat line (seat.dropStream.map .command id)
        | _, _ => board) := by
  split
  · rename_i line seat is
    intro there
    have seated : line.seat = .command seat := Seat.command?_eq is
    refine followSeat_evolves (there line rfl) ?_
    rw [seated]
    exact .dropStream seat
  · exact fun _ => .refl board

theorem abort_evolves {after : Switchboard} {uncompleted : Bool}
    (aborts : board.abort call = some (after, uncompleted)) : Evolves true board after := by
  unfold abort at aborts
  split at aborts
  · split at aborts
    · cases aborts
      exact .refl board
    · cases aborts
  · rename_i pending found
    have forgotten : Evolves true board (board.forget call) := .of_shift (.forgets board call)
    obtain ⟨number, ticket, waiting⟩ := pending
    cases waiting with
    | venture venture =>
      cases aborts
      exact forgotten.trans (callOff_evolves (board.forget call) _ fun line there =>
        List.mem_of_find?_eq_some there)
    | collecting channel capture =>
      cases aborts
      exact forgotten.trans (callOff_evolves (board.forget call) _ fun line there => mem_of_line? there)
    | task channel procedure purpose =>
      dsimp only at aborts
      split at aborts
      · cases aborts
        exact forgotten.trans (release_evolves _ channel _)
      · cases aborts
        exact forgotten
    | _ =>
      cases aborts
      exact forgotten

theorem abort_releases (distinct : board.Distinct) {ticket : Ticket} {channel : Nat} {procedure : Procedure}
    {purpose : Purpose} (waits : ⟨call, ticket, .task channel procedure purpose⟩ ∈ board.pending) :
    board.abort call =
      some (procedure.lost?.elim (board.forget call) ((board.forget call).release channel), true) := by
  rw [abort, distinct.finds waits]
  dsimp only
  cases procedure.lost? <;> rfl

-- One thing that happens, and all that follows from it. The number of the turn stays until the end.

theorem Evolves.turn {grows : Bool} {after : Switchboard} (way : Evolves grows board after) :
    after.turn = board.turn := by
  have each {before after : Switchboard} (shift : Shift grows before after) (same : before.turn = board.turn) :
      after.turn = board.turn := by
    cases shift with
    | aside pending handles lines turn now tickets => exact turn.trans same
    | _ => exact same
  exact way.keeps each rfl

theorem told_evolves {outcome : Option (Switchboard × Bool)}
    (goes : ∀ after answer, outcome = some (after, answer) → Evolves true board after) :
    Evolves true board (told outcome board).1 := by
  cases outcome with
  | none => exact .refl board
  | some outcome => exact goes outcome.1 outcome.2 rfl

theorem react_evolves (new : board.IsNew board.turn) (stimulus : Stimulus) :
    Evolves true (board.without (if (board.react stimulus).2 = .skipped then none else stimulus.takes?))
      (board.react stimulus).1 := by
  have untaken {taken : Option CallId} (nothing : taken = none) (after : Switchboard) (response : Response)
      (goes : Evolves true board after) :
      Evolves true (board.without (if response = .skipped then none else taken)) after := by
    subst nothing
    rw [ite_self]
    exact goes
  cases stimulus with
  | connectAnswered link answer => exact untaken rfl _ _ (connectAnswered_evolves board link answer)
  | authAnswered link answer => exact untaken rfl _ _ (authAnswered_evolves board link answer)
  | linkClosed link => exact untaken rfl _ _ (linkClosed_evolves board link)
  | openAnswered channel answer gone => exact untaken rfl _ _ (openAnswered_evolves board channel answer gone)
  | emitted channel event gone =>
    exact untaken rfl _ _ (told_evolves fun after whether same => emitted_evolves same)
  | hungUp channel =>
    refine untaken rfl _ _ ?_
    simp only [react]
    split
    · rename_i after hangs
      exact hungUp_evolves hangs
    · exact .refl board
  | passed time => exact untaken rfl _ _ (.of_shift (.elapses board rfl time))
  | called made =>
    cases calls : board.call board.turn made with
    | none =>
      simp only [react, calls, if_true]
      exact .refl board
    | some after =>
      simp only [react, calls, reduceCtorEq, if_false]
      exact (call_evolves new calls).trans (.aside rfl rfl rfl rfl rfl (Nat.le_refl _))
  | aborted call =>
    exact untaken rfl _ _ (told_evolves fun after whether same => abort_evolves same)
  | used use =>
    cases uses : board.use use with
    | none =>
      simp only [react, uses, if_true]
      exact .refl board
    | some outcome =>
      simp only [react, uses, reduceCtorEq, if_false]
      exact use_evolves uses

def quiet (board : Switchboard) : Switchboard := { board with notices := [] }

-- The handle that a stimulus takes back, if it is not skipped.
def takenBy (board : Switchboard) (stimulus : Stimulus) : Option CallId :=
  if (board.step stimulus).2.response = .skipped then none else stimulus.takes?

theorem step_settles (board : Switchboard) (stimulus : Stimulus) :
    (board.step stimulus).1 = { (board.quiet.react stimulus).1.tidy.expire.tidy with
      turn := (board.quiet.react stimulus).1.tidy.expire.tidy.turn + 1 } := rfl

theorem step_evolves (distinct : board.Distinct) (new : board.IsNew board.turn) (stimulus : Stimulus) :
    ∃ after, Evolves true (board.without (board.takenBy stimulus)) after ∧
      (board.step stimulus).1 = { after with turn := board.turn + 1 } := by
  have silent : Evolves true (board.without (board.takenBy stimulus))
      (board.quiet.without (board.takenBy stimulus)) := by
    cases board.takenBy stimulus <;> exact .aside rfl rfl rfl rfl rfl (Nat.le_refl _)
  have fresh : board.quiet.IsNew board.quiet.turn := new
  have reacts : Evolves true (board.quiet.without (board.takenBy stimulus)) (board.quiet.react stimulus).1 :=
    react_evolves fresh stimulus
  have apart : (board.without (board.takenBy stimulus)).Distinct := by
    cases board.takenBy stimulus <;> exact distinct
  have stays : (board.without (board.takenBy stimulus)).turn = board.turn := by
    cases board.takenBy stimulus <;> rfl
  have way := silent.trans reacts
  have whole := way.trans (settled_evolves (way.distinct apart))
  refine ⟨(board.quiet.react stimulus).1.tidy.expire.tidy, whole, ?_⟩
  rw [← stays, ← whole.turn]
  exact step_settles board stimulus

-- What is given leaves alone what is held, and all that has another number.

theorem handle?_give {file : CallId} {handle : Handle} (held : board.handle? file = some handle)
    (call : CallId) (given : Handle) : (board.give call given).handle? file = some handle := by
  rw [handle?] at held ⊢
  rw [give, List.lookup_append, held, Option.some_or]

theorem handle?_give_other {file : CallId} (other : file ≠ call) (given : Handle) :
    (board.give call given).handle? file = board.handle? file := by
  rw [handle?, give, List.lookup_append, List.lookup_cons, beq_eq_false_iff_ne.mpr other, List.lookup_nil,
    Option.or_none, handle?]

-- A board on which calls, and what they have left in the hands of their callers, are told apart by
-- the turn in which they were made, and calls in progress by their tickets as well. Each stands in its
-- task, and what uses a file uses one that is held.
structure Orderly (board : Switchboard) (bound : CallId) : Prop where
  called : ∀ pending ∈ board.pending, pending.call < bound
  distinct : board.Distinct
  held : ∀ held ∈ board.handles, held.1 < bound ∧ ∀ pending ∈ board.pending, pending.call ≠ held.1
  tickets : ∀ pending ∈ board.pending, pending.ticket < board.nextTicket
  apart : (board.pending.map Pending.ticket).Nodup
  stands : ∀ pending ∈ board.pending, board.Stands pending.waiting

namespace Orderly

variable {bound : CallId}

theorem blank (pending : board.pending = []) (handles : board.handles = []) (bound : CallId) :
    board.Orderly bound := by
  constructor <;> simp [pending, handles, Distinct]

theorem new (orderly : board.Orderly board.turn) : board.IsNew board.turn :=
  ⟨rfl, fun pending member => Nat.ne_of_lt (orderly.called pending member),
    fun held member => Nat.ne_of_lt (orderly.held held member).1⟩

theorem mono {later : CallId} (orderly : board.Orderly bound) (le : bound ≤ later) :
    board.Orderly later :=
  { orderly with
    called := fun pending member => Nat.lt_of_lt_of_le (orderly.called pending member) le
    held := fun held member => ⟨Nat.lt_of_lt_of_le (orderly.held held member).1 le, (orderly.held held member).2⟩ }

theorem progresses (orderly : board.Orderly bound) (early : board.turn < bound)
    (on : board.Progresses call) : call < bound ∧ ∀ held ∈ board.handles, call ≠ held.1 := by
  rcases on with ⟨pending, member, rfl⟩ | ⟨rfl, _, free⟩
  · exact ⟨orderly.called pending member, fun held there => (orderly.held held there).2 pending member⟩
  · exact ⟨early, fun held there => (free held there).symm⟩

theorem granted_below {ticket next : Ticket} (orderly : board.Orderly bound)
    (grants : board.Grants call ticket next) : ticket < next := by
  rcases grants with ⟨⟨pending, member, _, rfl⟩, rfl⟩ | ⟨_, below⟩
  · exact orderly.tickets pending member
  · exact below

theorem granted_free {ticket next : Ticket} (orderly : board.Orderly bound)
    (grants : board.Grants call ticket next) {pending : Pending} (member : pending ∈ board.pending)
    (other : pending.call ≠ call) : pending.ticket ≠ ticket := by
  rcases grants with ⟨⟨own, there, calls, rfl⟩, _⟩ | ⟨free, _⟩
  · intro same
    have one : pending = own := List.inj_on_of_nodup_map orderly.apart member there same
    exact other (one ▸ calls)
  · exact Nat.ne_of_lt (Nat.lt_of_lt_of_le (orderly.tickets pending member) free)

theorem shift {after : Switchboard} (shift : Shift grows board after) (early : board.turn < bound)
    (orderly : board.Orderly bound) : after.Orderly bound := by
  have distinct := shift.distinct orderly.distinct
  have fewer (call : CallId) :
      ((board.pending.filter fun pending => pending.call ≠ call).map Pending.ticket).Nodup :=
    List.Nodup.sublist (List.filter_sublist.map Pending.ticket) orderly.apart
  cases shift with
  | aside pending handles lines turn now tickets =>
    refine ⟨?_, distinct, ?_, ?_, ?_, ?_⟩
    · rw [pending]
      exact orderly.called
    · rw [pending, handles]
      exact orderly.held
    · rw [pending]
      exact fun waits member => Nat.lt_of_lt_of_le (orderly.tickets waits member) tickets
    · rw [pending]
      exact orderly.apart
    · intro waits member
      exact (orderly.stands waits (pending ▸ member)).same handles
  | elapses | places | opens =>
    exact ⟨orderly.called, distinct, orderly.held, orderly.tickets, orderly.apart,
      fun pending member => (orderly.stands pending member).same rfl⟩
  | forgets call =>
    refine ⟨fun pending member => orderly.called pending (List.mem_of_mem_filter member), distinct, ?_,
      fun pending member => orderly.tickets pending (List.mem_of_mem_filter member), fewer call,
      fun pending member => (orderly.stands pending (List.mem_of_mem_filter member)).same rfl⟩
    intro held there
    have before := orderly.held held there
    exact ⟨before.1, fun pending member => before.2 pending (List.mem_of_mem_filter member)⟩
  | @passes call waiting allows ticket next grants =>
    obtain ⟨low, free⟩ := orderly.progresses early allows.progresses
    have waits {pending : Pending}
        (member : pending ∈ (({ board with nextTicket := next }.forget call).await
          ⟨call, ticket, waiting⟩).pending) :
        pending ∈ board.pending ∨ pending = ⟨call, ticket, waiting⟩ :=
      (List.mem_append.mp member).imp List.mem_of_mem_filter List.mem_singleton.mp
    refine ⟨?_, distinct, ?_, ?_, ?_, ?_⟩
    · intro pending member
      rcases waits member with old | rfl
      · exact orderly.called pending old
      · exact low
    · intro held there
      refine ⟨(orderly.held held there).1, fun pending member => ?_⟩
      rcases waits member with old | rfl
      · exact (orderly.held held there).2 pending old
      · exact free held there
    · intro pending member
      rcases waits member with old | rfl
      · exact Nat.lt_of_lt_of_le (orderly.tickets pending old) grants.grows
      · exact orderly.granted_below grants
    · rw [await, forget, List.map_append]
      refine List.Nodup.append (fewer call) (List.nodup_singleton ticket) ?_
      rw [List.map_singleton, List.disjoint_singleton]
      intro taken
      obtain ⟨pending, member, same⟩ := List.mem_map.mp taken
      obtain ⟨there, other⟩ := List.mem_filter.mp member
      exact orderly.granted_free grants there (of_decide_eq_true other) same
    · intro pending member
      rcases waits member with old | rfl
      · exact (orderly.stands pending old).same rfl
      · rcases allows with ⟨earlier, there, _, leads⟩ | ⟨_, stands⟩
        · exact (leads.stands (orderly.stands earlier there)).same rfl
        · exact stands.same rfl
  | @hands call on handle =>
    obtain ⟨low, free⟩ := orderly.progresses early on
    refine ⟨fun pending member => orderly.called pending (List.mem_of_mem_filter member), distinct, ?_,
      fun pending member => orderly.tickets pending (List.mem_of_mem_filter member), fewer call, ?_⟩
    · intro held there
      rcases List.mem_append.mp there with old | new
      · have before := orderly.held held old
        exact ⟨before.1, fun pending member => before.2 pending (List.mem_of_mem_filter member)⟩
      · rw [List.mem_singleton.mp new]
        refine ⟨low, fun pending member => ?_⟩
        simpa using (List.mem_filter.mp member).2
    · intro pending member
      have stands := orderly.stands pending (List.mem_of_mem_filter member)
      exact stands.keeps fun file held _ is => handle?_give is call handle

theorem evolves {grows : Bool} {after : Switchboard} (way : Evolves grows board after)
    (early : board.turn < bound) (orderly : board.Orderly bound) : after.Orderly bound := by
  have each {before next : Switchboard} (shift : Shift grows before next)
      (holds : before.turn = board.turn ∧ before.Orderly bound) :
      next.turn = board.turn ∧ next.Orderly bound := by
    have turn := (Evolves.of_shift shift).turn
    exact ⟨turn.trans holds.1, holds.2.shift shift (holds.1 ▸ early)⟩
  exact (way.keeps each ⟨rfl, orderly⟩).2

end Orderly

theorem handle?_takeBack (board : Switchboard) (taken handle : CallId) :
    (board.takeBack taken).handle? handle = if handle = taken then none else board.handle? handle := by
  have looked (handles : List (CallId × Handle)) :
      (handles.filter fun held => held.1 ≠ taken).lookup handle =
        if handle = taken then none else handles.lookup handle := by
    induction handles with
    | nil => simp
    | cons held handles ih =>
      obtain ⟨key, what⟩ := held
      by_cases gone : key = taken
      · subst gone
        rw [List.filter_cons_of_neg (by simp), ih, List.lookup_cons]
        split
        · rfl
        · rename_i other
          rw [beq_eq_false_iff_ne.mpr other]
      · rw [List.filter_cons_of_pos (by simpa using gone), List.lookup_cons, List.lookup_cons, ih]
        by_cases here : handle = key
        · subst here
          simp [gone]
        · rw [beq_eq_false_iff_ne.mpr here]
  exact looked board.handles

theorem call_accepted {made : Call} (done : (board.step (.called made)).2.response ≠ .skipped) :
    ∃ after, board.quiet.call board.turn made = some after := by
  cases calls : board.quiet.call board.turn made with
  | some after => exact ⟨after, rfl⟩
  | none =>
    have skipped : (board.quiet.react (.called made)).2 = .skipped := by
      simp only [react]
      rw [show board.quiet.turn = board.turn from rfl, calls]
    exact absurd skipped done

theorem use_accepted {use : Use} (done : (board.step (.used use)).2.response ≠ .skipped) :
    ∃ after reply, board.quiet.use use = some (after, reply) := by
  cases uses : board.quiet.use use with
  | some outcome => exact ⟨outcome.1, outcome.2, rfl⟩
  | none =>
    have skipped : (board.quiet.react (.used use)).2 = .skipped := by simp only [react, uses]
    exact absurd skipped done

theorem unused_of_waits {file : CallId} (free : ¬ board.waits (Waiting.usesFile file) = true) :
    ∀ pending ∈ board.pending, pending.waiting.usesFile file = false := by
  intro pending member
  cases uses : pending.waiting.usesFile file with
  | false => rfl
  | true => exact absurd (List.any_eq_true.mpr ⟨pending, member, uses⟩) free

theorem dropFile_accepted {file : CallId} {after : Switchboard} {reply : Reply}
    (uses : board.use (.dropFile file) = some (after, reply)) :
    (∀ pending ∈ board.pending, pending.waiting.usesFile file = false) ∧
      ∃ channel opened path, board.handle? file = some (.file channel opened path) ∧
        after = (board.takeBack file).release channel opened := by
  simp only [Switchboard.use] at uses
  split at uses
  · cases uses
  · rename_i free
    obtain ⟨⟨channel, opened, path⟩, found, same⟩ := Option.map_eq_some_iff.mp uses
    cases same
    exact ⟨unused_of_waits free, channel, opened, path, held_of_fileAt? found, rfl⟩

theorem closeFile_accepted {file : CallId} {after : Switchboard}
    (calls : board.closeFile call file = some after) :
    (∀ pending ∈ board.pending, pending.waiting.usesFile file = false) ∧
      ∃ channel opened path, board.handle? file = some (.file channel opened path) ∧
        after = (board.takeBack file).carryOn call channel .plain
          (Procedure.start (board.settingsAt channel) (.closeFile opened)) := by
  unfold closeFile at calls
  split at calls
  · cases calls
  · rename_i free
    obtain ⟨⟨channel, opened, path⟩, found, same⟩ := Option.map_eq_some_iff.mp calls
    exact ⟨unused_of_waits free, channel, opened, path, held_of_fileAt? found, same.symm⟩

theorem taken_cases {stimulus : Stimulus} {taken : CallId} (takes : board.takenBy stimulus = some taken) :
    (board.step stimulus).2.response ≠ .skipped ∧
      ((stimulus = .called (.closeFile taken) ∨ stimulus = .used (.dropFile taken)) ∧
          (∀ pending ∈ board.pending, pending.waiting.usesFile taken = false) ∨
        ∀ channel opened path, board.handle? taken ≠ some (.file channel opened path)) := by
  unfold takenBy at takes
  split at takes
  · cases takes
  · rename_i done
    refine ⟨done, ?_⟩
    have other {handle : Handle} (held : board.handle? taken = some handle)
        (kind : ∀ channel opened path, handle ≠ .file channel opened path) :
        ∀ channel opened path, board.handle? taken ≠ some (.file channel opened path) :=
      fun channel opened path same => kind channel opened path (Option.some.inj (held.symm.trans same))
    cases stimulus with
    | called made =>
      cases made with
      | closeFile file =>
        cases takes
        obtain ⟨after, calls⟩ := call_accepted done
        exact .inl ⟨.inl rfl, (closeFile_accepted calls).1⟩
      | _ => cases takes
    | used use =>
      obtain ⟨after, reply, uses⟩ := use_accepted done
      cases use with
      | dropStream stream =>
        cases takes
        obtain ⟨⟨line, seat⟩, found, _⟩ := Option.map_eq_some_iff.mp uses
        obtain ⟨⟨channel, held⟩, _⟩ := streamAt?_found found
        exact .inr (other held nofun)
      | dropShell shell =>
        cases takes
        simp only [Switchboard.use] at uses
        split at uses
        · rename_i found
          obtain ⟨⟨channel, held⟩, _⟩ := shellAt?_found found
          exact .inr (other held nofun)
        · cases uses
      | dropClient client =>
        cases takes
        obtain ⟨⟨line, seat⟩, found, _⟩ := Option.map_eq_some_iff.mp uses
        obtain ⟨⟨channel, held⟩, _⟩ := clientAt?_found found
        exact .inr (other held nofun)
      | dropFile file =>
        cases takes
        exact .inl ⟨.inr rfl, (dropFile_accepted uses).1⟩
      | _ => cases takes
    | _ => cases takes

theorem takenBy_unused (orderly : board.Orderly board.turn) {stimulus : Stimulus} {taken : CallId}
    (takes : board.takenBy stimulus = some taken) :
    ∀ pending ∈ board.pending, pending.waiting.usesFile taken = false := by
  rcases (taken_cases takes).2 with ⟨_, unused⟩ | other
  · exact unused
  · intro pending member
    cases uses : pending.waiting.usesFile taken with
    | false => rfl
    | true =>
      obtain ⟨channel, opened, path, held⟩ := (orderly.stands pending member).held uses
      exact absurd held (other channel opened path)

theorem Orderly.takeBack {bound : CallId} {taken : CallId} (orderly : board.Orderly bound)
    (unused : ∀ pending ∈ board.pending, pending.waiting.usesFile taken = false) :
    (board.takeBack taken).Orderly bound where
  called := orderly.called
  distinct := orderly.distinct
  held held member := orderly.held held (List.mem_of_mem_filter member)
  tickets := orderly.tickets
  apart := orderly.apart
  stands pending member := (orderly.stands pending member).keeps fun file handle uses held => by
    have other : file ≠ taken := by
      rintro rfl
      exact absurd uses (by simp [unused pending member])
    rw [handle?_takeBack, if_neg other, held]

theorem Orderly.step (orderly : board.Orderly board.turn) (stimulus : Stimulus) :
    (board.step stimulus).1.Orderly (board.step stimulus).1.turn := by
  obtain ⟨after, way, same⟩ := step_evolves orderly.distinct orderly.new stimulus
  have taken : (board.without (board.takenBy stimulus)).Orderly board.turn := by
    cases takes : board.takenBy stimulus with
    | none => exact orderly
    | some handle => exact orderly.takeBack (takenBy_unused orderly takes)
  have early : (board.without (board.takenBy stimulus)).turn < board.turn + 1 := by
    cases board.takenBy stimulus <;> exact Nat.lt_succ_self board.turn
  have later := (taken.mono (Nat.le_succ board.turn)).evolves way early
  rw [same]
  refine ⟨later.called, later.distinct, later.held, later.tickets, later.apart, fun pending member => ?_⟩
  exact (later.stands pending member).same rfl

def turns : Machine Switchboard Stimulus (Switchboard × Report) := ⟨step, Prod.fst⟩

def after (board : Switchboard) (stimuli : List Stimulus) : Switchboard := turns.reach board stimuli

theorem after_cons (board : Switchboard) (stimulus : Stimulus) (stimuli : List Stimulus) :
    board.after (stimulus :: stimuli) = (board.step stimulus).1.after stimuli := by
  simp only [after, Machine.reach, turns]

theorem after_append (earlier later : List Stimulus) :
    board.after (earlier ++ later) = (board.after earlier).after later :=
  turns.reach_append board earlier later

theorem orderly_after (orderly : board.Orderly board.turn) (stimuli : List Stimulus) :
    (board.after stimuli).Orderly (board.after stimuli).turn := by
  have each (board : Switchboard) (stimulus : Stimulus) (here : board.Orderly board.turn) :
      (board.step stimulus).1.Orderly (board.step stimulus).1.turn := here.step stimulus
  exact turns.reach_keeps each orderly stimuli

theorem Orderly.keeps (orderly : board.Orderly board.turn) (Holds : Switchboard → Prop)
    (each : ∀ {board : Switchboard}, board.Orderly board.turn → ∀ stimulus, Holds board →
      Holds (board.step stimulus).1)
    (holds : Holds board) (stimuli : List Stimulus) : Holds (board.after stimuli) := by
  have both (board : Switchboard) (stimulus : Stimulus)
      (here : board.Orderly board.turn ∧ Holds board) :
      (board.step stimulus).1.Orderly (board.step stimulus).1.turn ∧ Holds (board.step stimulus).1 :=
    ⟨here.1.step stimulus, each here.1 stimulus here.2⟩
  exact (turns.reach_keeps both ⟨orderly, holds⟩ stimuli).2

end SecureShell.Switchboard
