import Mathlib.Data.List.Destutter
import SecureShell.Proofs.Connection.Interleaving
import SecureShell.Proofs.Registry

namespace SecureShell

theorem ConnectionFault.same_refl (fault : ConnectionFault) : fault.same fault = true := by
  cases fault <;> simp [same]

namespace Connection
namespace Lifecycle

variable {lifecycle : Lifecycle} {event : Event}

def views (lifecycle : Lifecycle) (events : List Event) : List View :=
  (custody.steps lifecycle events).map fun step => step.next.view

-- The states that are entered in the course of some events: the state after each of them, less
-- those that repeat the state before.
def entered (lifecycle : Lifecycle) (events : List Event) : List View :=
  ((lifecycle.views events).destutter' (· ≠ ·) lifecycle.view).tail

-- No step leads from a failure to another one, so that faults which count as the same are.
theorem same_view_iff (lifecycle : Lifecycle) (event : Event) :
    lifecycle.view.same (lifecycle.advance event).next.view = true ↔
      lifecycle.view = (lifecycle.advance event).next.view := by
  by_cases stale : lifecycle.Stale event
  · rw [advance_stale stale]
    obtain ⟨phase, attempts⟩ := lifecycle
    cases phase <;> simp [view, View.same, ConnectionFault.same_refl]
  · rw [advance_current stale]
    obtain ⟨phase, attempts⟩ := lifecycle
    cases phase <;> cases event <;>
      simp [current, enter, begin, torn, view, View.same, ConnectionFault.same_refl]

theorem cons_entered (lifecycle : Lifecycle) (events : List Event) :
    lifecycle.view :: lifecycle.entered events =
      (lifecycle.views events).destutter' (· ≠ ·) lifecycle.view := by
  have head (views : List View) (first : View) :
      ∃ rest, views.destutter' (· ≠ ·) first = first :: rest := by
    induction views with
    | nil => exact ⟨[], rfl⟩
    | cons view views ih =>
      rw [List.destutter'_cons]
      split
      · exact ⟨_, rfl⟩
      · exact ih
  obtain ⟨rest, split⟩ := head (lifecycle.views events) lifecycle.view
  rw [entered, split, List.tail_cons]

theorem entered_cons (lifecycle : Lifecycle) (event : Event) (events : List Event) :
    lifecycle.entered (event :: events) =
      if lifecycle.view = (lifecycle.advance event).next.view then
        (lifecycle.advance event).next.entered events
      else (lifecycle.advance event).next.view :: (lifecycle.advance event).next.entered events := by
  have steps : lifecycle.views (event :: events) = (lifecycle.advance event).next.view ::
      (lifecycle.advance event).next.views events := rfl
  split
  · rename_i same
    rw [entered, steps, List.destutter'_cons_neg _ (not_not.mpr same), same, entered]
  · rename_i other
    rw [entered, steps, List.destutter'_cons_pos _ other, List.tail_cons, cons_entered]

theorem entered_append (lifecycle : Lifecycle) (earlier later : List Event) :
    lifecycle.entered (earlier ++ later) =
      lifecycle.entered earlier ++ (custody.reach lifecycle earlier).entered later := by
  induction earlier generalizing lifecycle with
  | nil => rfl
  | cons event earlier ih =>
    have reached : custody.reach lifecycle (event :: earlier) =
      custody.reach (lifecycle.advance event).next earlier := rfl
    rw [List.cons_append, entered_cons, entered_cons, ih, reached]
    split <;> rfl

theorem entered_once (lifecycle : Lifecycle) (event? : Option Event) :
    lifecycle.entered event?.toList = [] ∨ ∃ view, lifecycle.entered event?.toList = [view] := by
  cases event? with
  | none => exact .inl rfl
  | some event =>
    rw [Option.toList_some, entered_cons]
    split
    · exact .inl rfl
    · exact .inr ⟨_, rfl⟩

theorem entered_chain (lifecycle : Lifecycle) (events : List Event) :
    (lifecycle.view :: lifecycle.entered events).IsChain fun before after =>
      before.same after = false := by
  induction events generalizing lifecycle with
  | nil => exact .singleton _
  | cons event events ih =>
    have later := ih (lifecycle.advance event).next
    rw [entered_cons]
    split
    · rename_i same
      rwa [same]
    · rename_i other
      refine .cons_cons ?_ later
      rwa [← same_view_iff, Bool.not_eq_true] at other

end Lifecycle

def Mail.registers? : Mail → Option Nat
  | .observe observer _ => some observer
  | .event _ | .unobserve _ => none

namespace Supervisor

abbrev Timed := Nat × Mail

def reading : Machine Supervisor Timed Outcome where
  advance supervisor piece := supervisor.read piece.1 piece.2
  next := Prod.fst

def wordOf (mails : List Timed) : List Lifecycle.Event := mails.filterMap fun piece => piece.2.event?

def Effect.call? : Effect → Option (Nat × View)
  | .observed observer view => some (observer, view)
  | .connect .. | .authenticate _ | .close _ | .settle _ | .registered .. | .startSession .. => none

def calls (effects : List Effect) : List (Nat × View) := effects.filterMap Effect.call?

def told (observer : Nat) (effects : List Effect) : List View :=
  ((calls effects).filter fun call => call.1 = observer).map Prod.snd

def tellings (supervisor : Supervisor) (observer : Nat) (mails : List Timed) : List View :=
  reading.collect (fun step => told observer step.2) supervisor mails

-- What the holder of a token is called with when a piece of mail is read: those that are called
-- are called in the order of their registrations.
def calledWith (supervisor : Supervisor) (token : Registry.Token) (piece : Timed) : List View :=
  ((supervisor.observers.registrations.zip (calls (supervisor.read piece.1 piece.2).2)).filter
    fun pair => pair.1.1 = token).map fun pair => pair.2.2

def callings (supervisor : Supervisor) (token : Registry.Token) : List Timed → List View
  | [] => []
  | piece :: mails =>
    supervisor.calledWith token piece ++ (supervisor.read piece.1 piece.2).1.callings token mails

def enlisted (observers : Registry Nat) : Mail → Registry Nat
  | .event _ => observers
  | .observe observer _ => (observers.add observer).2
  | .unobserve token => (observers.remove token).2

-- What one piece of mail comes to: all that are registered are called once for a state that is
-- entered, and nobody is called otherwise.
structure Reads (supervisor : Supervisor) (mail : Mail) (outcome : Outcome) : Prop where
  lifecycle : outcome.1.lifecycle =
    Lifecycle.custody.reach supervisor.lifecycle mail.event?.toList
  shown : supervisor.shown = supervisor.lifecycle.view →
    outcome.1.shown = outcome.1.lifecycle.view
  observers : outcome.1.observers = enlisted supervisor.observers mail
  calls : calls outcome.2 = (supervisor.lifecycle.entered mail.event?.toList).flatMap fun view =>
    supervisor.observers.registrations.map fun entry => (entry.2, view)

def upTo (token : Registry.Token) (mails : List Timed) : List Timed :=
  mails.takeWhile fun piece => piece.2 ≠ .unobserve token

variable {supervisor : Supervisor} {mails : List Timed} {token : Registry.Token} {observer : Nat}

theorem calls_append (earlier later : List Effect) :
    calls (earlier ++ later) = calls earlier ++ calls later := List.filterMap_append

theorem calls_settled (settled : List (Settlement Verdict)) :
    calls (settled.map Effect.settle) = [] := by
  simp [calls, Effect.call?]

theorem calls_performed (now : Nat) (supervisor : Supervisor) (action : Lifecycle.Action) :
    calls (supervisor.perform now action).2 = [] := by
  cases action <;> rfl

theorem calls_observed (observers : List Nat) (view : View) :
    calls (observers.map fun observer => .observed observer view) =
      observers.map fun observer => (observer, view) := by
  rw [calls, List.filterMap_map]
  exact congrFun List.filterMap_eq_map observers

theorem performed (now : Nat) (supervisor : Supervisor) (action : Lifecycle.Action) :
    (supervisor.perform now action).1.lifecycle = supervisor.lifecycle ∧
      (supervisor.perform now action).1.shown = supervisor.shown ∧
      (supervisor.perform now action).1.observers = supervisor.observers := by
  cases action <;> exact ⟨rfl, rfl, rfl⟩

theorem trigger_reads (now : Nat) (supervisor : Supervisor) (event : Lifecycle.Event) :
    Reads supervisor (.event event) (supervisor.trigger now event) := by
  have same := Lifecycle.same_view_iff supervisor.lifecycle event
  obtain ⟨lifecycle, shown, observers⟩ := performed now
    { supervisor with
      lifecycle := (supervisor.lifecycle.advance event).next
      shown := if supervisor.lifecycle.view.same (supervisor.lifecycle.advance event).next.view
        then supervisor.shown else (supervisor.lifecycle.advance event).next.view }
    (supervisor.lifecycle.advance event).action
  refine ⟨lifecycle, fun shows => ?_, observers, ?_⟩
  · rw [trigger, shown, lifecycle]
    split
    · rename_i stays
      exact shows.trans (same.mp stays)
    · rfl
  · have alone : supervisor.lifecycle.entered [event] =
        if supervisor.lifecycle.view.same (supervisor.lifecycle.advance event).next.view then []
        else [(supervisor.lifecycle.advance event).next.view] := by
      rw [Lifecycle.entered_cons]
      simp only [same]
      rfl
    rw [trigger, calls_append, calls_append, calls_settled, calls_performed, List.append_nil,
      List.nil_append, Mail.event?, Option.toList_some, alone]
    split
    · rfl
    · rw [calls_observed, Registry.observers_eq, List.map_map, List.flatMap_singleton]
      rfl

theorem read_reads (now : Nat) (supervisor : Supervisor) (mail : Mail) :
    Reads supervisor mail (supervisor.read now mail) := by
  cases mail with
  | event event => exact trigger_reads now supervisor event
  | observe observer promise => exact ⟨rfl, id, rfl, rfl⟩
  | unobserve token => exact ⟨rfl, id, rfl, rfl⟩

structure Faithful (supervisor : Supervisor) : Prop where
  shown : supervisor.shown = supervisor.lifecycle.view
  sound : supervisor.observers.Sound

theorem enlisted_sound (sound : supervisor.observers.Sound) (mail : Mail) :
    (enlisted supervisor.observers mail).Sound := by
  cases mail with
  | event event => exact sound
  | observe observer promise => exact sound.add observer
  | unobserve token => exact sound.remove token

theorem read_faithful (faithful : supervisor.Faithful) (now : Nat) (mail : Mail) :
    (supervisor.read now mail).1.Faithful := by
  have reads := read_reads now supervisor mail
  refine ⟨reads.shown faithful.shown, ?_⟩
  rw [reads.observers]
  exact enlisted_sound faithful.sound mail

theorem reach_faithful (faithful : supervisor.Faithful) (mails : List Timed) :
    (reading.reach supervisor mails).Faithful := by
  have keeps : ∀ supervisor piece, Faithful supervisor →
      Faithful (reading.next (reading.advance supervisor piece)) :=
    fun _ piece faithful => read_faithful faithful piece.1 piece.2
  exact reading.reach_keeps keeps faithful mails

theorem start_faithful : Faithful {} := ⟨rfl, Registry.sound_empty⟩

theorem wordOf_cons (piece : Timed) (mails : List Timed) :
    wordOf (piece :: mails) = piece.2.event?.toList ++ wordOf mails := by
  rw [wordOf, List.filterMap_cons]
  cases piece.2.event? <;> rfl

theorem upTo_cons (token : Registry.Token) (piece : Timed) (mails : List Timed) :
    upTo token (piece :: mails) =
      if piece.2 = .unobserve token then [] else piece :: upTo token mails := by
  rw [upTo, List.takeWhile_cons]
  by_cases used : piece.2 = .unobserve token <;> simp [used, upTo]

theorem reach_lifecycle (supervisor : Supervisor) (mails : List Timed) :
    (reading.reach supervisor mails).lifecycle =
      Lifecycle.custody.reach supervisor.lifecycle (wordOf mails) := by
  induction mails generalizing supervisor with
  | nil => rfl
  | cons piece mails ih =>
    have reads := read_reads piece.1 supervisor piece.2
    rw [wordOf_cons, Machine.reach_append, ← reads.lifecycle]
    exact ih _

-- How many registrations go by one name.
def seats (observers : Registry Nat) (observer : Nat) : Nat :=
  observers.registrations.countP fun entry => entry.2 = observer

theorem told_read (now : Nat) (supervisor : Supervisor) (mail : Mail) (observer : Nat) :
    told observer (supervisor.read now mail).2 =
      (supervisor.lifecycle.entered mail.event?.toList).flatMap
        (List.replicate (seats supervisor.observers observer)) := by
  rw [told, (read_reads now supervisor mail).calls]
  induction supervisor.lifecycle.entered mail.event?.toList with
  | nil => rfl
  | cons view views ih =>
    rw [List.flatMap_cons, List.filter_append, List.map_append, ih, List.flatMap_cons]
    refine congrArg (· ++ _) ?_
    rw [List.filter_map, List.map_map, seats, List.countP_eq_length_filter]
    exact List.map_const' ..

theorem tellings_cons (supervisor : Supervisor) (observer : Nat) (piece : Timed)
    (mails : List Timed) :
    tellings supervisor observer (piece :: mails) =
      told observer (supervisor.read piece.1 piece.2).2 ++
        tellings (supervisor.read piece.1 piece.2).1 observer mails := rfl

theorem seats_enlisted_le (sound : supervisor.observers.Sound) {mail : Mail}
    (other : mail.registers? ≠ some observer) :
    seats (enlisted supervisor.observers mail) observer ≤ seats supervisor.observers observer := by
  cases mail with
  | event event => exact Nat.le_refl _
  | observe newcomer promise =>
    have apart : ¬ decide (newcomer = observer) = true := by simpa [Mail.registers?] using other
    rw [seats, enlisted, (Registry.perm_add sound newcomer).countP_eq, List.countP_cons,
      if_neg apart]
    exact Nat.le_refl _
  | unobserve token =>
    rw [seats, enlisted, Registry.registrations_remove]
    exact List.filter_sublist.countP_le

theorem registered_enlisted (sound : supervisor.observers.Sound) {mail : Mail}
    (kept : mail ≠ .unobserve token)
    (registered : (token, observer) ∈ supervisor.observers.registrations) :
    (token, observer) ∈ (enlisted supervisor.observers mail).registrations := by
  cases mail with
  | event event => exact registered
  | observe newcomer promise =>
    exact (Registry.perm_add sound newcomer).mem_iff.mpr (List.mem_cons_of_mem _ registered)
  | unobserve other =>
    rw [enlisted, Registry.registrations_remove]
    exact List.mem_filter.mpr ⟨registered, decide_eq_true fun same => kept (same ▸ rfl)⟩

theorem seats_pos (registered : (token, observer) ∈ supervisor.observers.registrations) :
    0 < seats supervisor.observers observer :=
  List.countP_pos_iff.mpr ⟨_, registered, decide_eq_true rfl⟩

theorem tellings_append (supervisor : Supervisor) (observer : Nat) (earlier later : List Timed) :
    tellings supervisor observer (earlier ++ later) =
      tellings supervisor observer earlier ++
        tellings (reading.reach supervisor earlier) observer later :=
  reading.collect_append _ supervisor earlier later

theorem tellings_absent (faithful : supervisor.Faithful)
    (absent : seats supervisor.observers observer = 0)
    (others : ∀ piece ∈ mails, piece.2.registers? ≠ some observer) :
    tellings supervisor observer mails = [] ∧
      seats (reading.reach supervisor mails).observers observer = 0 := by
  induction mails generalizing supervisor with
  | nil => exact ⟨rfl, absent⟩
  | cons piece mails ih =>
    have bound := seats_enlisted_le faithful.sound (others piece List.mem_cons_self)
    have still : seats (supervisor.read piece.1 piece.2).1.observers observer = 0 := by
      rw [(read_reads piece.1 supervisor piece.2).observers]
      omega
    obtain ⟨none, later⟩ := ih (read_faithful faithful piece.1 piece.2) still
      fun other member => others other (List.mem_cons_of_mem _ member)
    refine ⟨?_, later⟩
    rw [tellings_cons, none, told_read, absent, List.append_nil]
    exact List.flatMap_eq_nil_iff.mpr fun _ _ => rfl

theorem tellings_alone (faithful : supervisor.Faithful)
    (registered : (token, observer) ∈ supervisor.observers.registrations)
    (alone : seats supervisor.observers observer = 1)
    (others : ∀ piece ∈ mails, piece.2.registers? ≠ some observer) :
    tellings supervisor observer mails =
      supervisor.lifecycle.entered (wordOf (upTo token mails)) := by
  induction mails generalizing supervisor with
  | nil => rfl
  | cons piece mails ih =>
    have reads := read_reads piece.1 supervisor piece.2
    have next := read_faithful faithful piece.1 piece.2
    have later : ∀ other ∈ mails, other.2.registers? ≠ some observer :=
      fun other member => others other (List.mem_cons_of_mem _ member)
    have here : told observer (supervisor.read piece.1 piece.2).2 =
        supervisor.lifecycle.entered piece.2.event?.toList := by
      rw [told_read, alone]
      exact List.flatMap_singleton' _
    rw [tellings_cons, here, upTo_cons]
    split
    · rename_i used
      have gone : seats (supervisor.read piece.1 piece.2).1.observers observer = 0 := by
        have split := (Registry.perm_remove registered).countP_eq fun entry => entry.2 = observer
        rw [List.countP_cons, if_pos (decide_eq_true rfl)] at split
        rw [reads.observers, used, enlisted]
        exact Nat.add_right_cancel (split.symm.trans alone)
      rw [(tellings_absent next gone later).1, used]
      rfl
    · rename_i kept
      have stays := registered_enlisted faithful.sound kept registered
      have bound := seats_enlisted_le faithful.sound (others piece List.mem_cons_self)
      rw [← reads.observers] at stays bound
      have one : seats (supervisor.read piece.1 piece.2).1.observers observer = 1 :=
        Nat.le_antisymm (alone ▸ bound) (seats_pos stays)
      rw [wordOf_cons, Lifecycle.entered_append, ← reads.lifecycle]
      exact congrArg (_ ++ ·) (ih next stays one later)

-- A token that was given out, and whose registration is no more.
structure Spent (observers : Registry Nat) (token : Registry.Token) : Prop where
  issued : token.serial ≤ observers.issued
  gone : token ∉ observers.registrations.map Prod.fst

theorem spent_enlisted (sound : supervisor.observers.Sound)
    (spent : Spent supervisor.observers token) (mail : Mail) :
    Spent (enlisted supervisor.observers mail) token := by
  obtain ⟨issued, gone⟩ := spent
  cases mail with
  | event event => exact ⟨issued, gone⟩
  | observe other promise =>
    refine ⟨?_, Registry.stale_add sound other issued gone⟩
    rw [enlisted, Registry.issued_add]
    exact Nat.le_succ_of_le issued
  | unobserve other =>
    constructor
    · rwa [enlisted, Registry.issued_remove]
    · rw [enlisted, Registry.registrations_remove]
      exact fun member => gone ((List.filter_sublist.map Prod.fst).subset member)

theorem spent_of_use (sound : supervisor.observers.Sound)
    (registered : (token, observer) ∈ supervisor.observers.registrations) :
    Spent (enlisted supervisor.observers (.unobserve token)) token := by
  constructor
  · rw [enlisted, Registry.issued_remove]
    exact sound.dated _ registered
  · rw [enlisted, Registry.registrations_remove]
    intro held
    obtain ⟨entry, kept, same⟩ := List.mem_map.mp held
    exact of_decide_eq_true (List.mem_filter.mp kept).2 same

theorem spent_reach (faithful : supervisor.Faithful) (spent : Spent supervisor.observers token)
    (mails : List Timed) : Spent (reading.reach supervisor mails).observers token := by
  induction mails generalizing supervisor with
  | nil => exact spent
  | cons piece mails ih =>
    have later := spent_enlisted faithful.sound spent piece.2
    rw [← (read_reads piece.1 supervisor piece.2).observers] at later
    exact ih (read_faithful faithful piece.1 piece.2) later

theorem registered_reach (faithful : supervisor.Faithful)
    (registered : (token, observer) ∈ supervisor.observers.registrations) (mails : List Timed) :
    (token, observer) ∈ (reading.reach supervisor mails).observers.registrations ↔
      ∀ piece ∈ mails, piece.2 ≠ .unobserve token := by
  induction mails generalizing supervisor with
  | nil => exact ⟨fun _ => nofun, fun _ => registered⟩
  | cons piece mails ih =>
    have reads := read_reads piece.1 supervisor piece.2
    have next := read_faithful faithful piece.1 piece.2
    rw [List.forall_mem_cons]
    by_cases used : piece.2 = .unobserve token
    · refine iff_of_false (fun member => ?_) fun kept => kept.1 used
      have spent := spent_of_use faithful.sound registered
      rw [← used, ← reads.observers] at spent
      exact (spent_reach next spent mails).gone (List.mem_map_of_mem member)
    · have stays := registered_enlisted faithful.sound used registered
      rw [← reads.observers] at stays
      exact (ih next stays).trans ⟨fun kept => ⟨used, kept⟩, And.right⟩

theorem own_call {entries : List (Registry.Token × Nat)} (apart : (entries.map Prod.fst).Nodup)
    (token : Registry.Token) (view : View) :
    ((entries.zip (entries.map fun entry => (entry.2, view))).filter
        fun pair => pair.1.1 = token).map (fun pair => pair.2.2) =
      if token ∈ entries.map Prod.fst then [view] else [] := by
  induction entries with
  | nil => rfl
  | cons entry entries ih =>
    obtain ⟨new, apart⟩ := List.nodup_cons.mp apart
    have others := ih apart
    rw [List.map_cons, List.zip_cons_cons, List.filter_cons, List.map_cons]
    by_cases own : entry.1 = token
    · subst own
      rw [if_neg new] at others
      rw [if_pos (decide_eq_true rfl), List.map_cons, others, if_pos List.mem_cons_self]
    · have same : token ∈ entry.1 :: entries.map Prod.fst ↔ token ∈ entries.map Prod.fst := by
        rw [List.mem_cons, or_iff_right (Ne.symm own)]
      rw [if_neg (by simpa using own), others]
      exact if_congr same.symm rfl rfl

theorem calledWith_eq (supervisor : Supervisor) (token : Registry.Token) (piece : Timed) :
    supervisor.calledWith token piece =
      if token ∈ supervisor.observers.registrations.map Prod.fst then
        supervisor.lifecycle.entered piece.2.event?.toList
      else [] := by
  rw [calledWith, (read_reads piece.1 supervisor piece.2).calls]
  rcases Lifecycle.entered_once supervisor.lifecycle piece.2.event? with none | ⟨view, one⟩
  · rw [none]
    simp
  · rw [one, List.flatMap_singleton]
    exact own_call (Registry.registrations_apart _) token view

theorem issued_reach (supervisor : Supervisor) (mails : List Timed) :
    supervisor.observers.issued ≤ (reading.reach supervisor mails).observers.issued := by
  induction mails generalizing supervisor with
  | nil => exact Nat.le_refl _
  | cons piece mails ih =>
    refine Nat.le_trans ?_ (ih (supervisor.read piece.1 piece.2).1)
    rw [(read_reads piece.1 supervisor piece.2).observers]
    cases piece.2 with
    | event event => exact Nat.le_refl _
    | observe observer promise =>
      rw [enlisted, Registry.issued_add]
      exact Nat.le_succ _
    | unobserve token => rw [enlisted, Registry.issued_remove]

theorem callings_ahead (faithful : supervisor.Faithful)
    (ahead : (reading.reach supervisor mails).observers.issued < token.serial) :
    supervisor.callings token mails = [] := by
  induction mails generalizing supervisor with
  | nil => rfl
  | cons piece mails ih =>
    have later := ih (read_faithful faithful piece.1 piece.2) ahead
    have new : token ∉ supervisor.observers.registrations.map Prod.fst := by
      intro held
      obtain ⟨entry, member, rfl⟩ := List.mem_map.mp held
      have dated := faithful.sound.dated entry member
      have grown := issued_reach supervisor (piece :: mails)
      omega
    rw [callings, calledWith_eq, if_neg new, later, List.append_nil]

theorem callings_spent (faithful : supervisor.Faithful)
    (spent : Spent supervisor.observers token) : supervisor.callings token mails = [] := by
  induction mails generalizing supervisor with
  | nil => rfl
  | cons piece mails ih =>
    have still := spent_enlisted faithful.sound spent piece.2
    rw [← (read_reads piece.1 supervisor piece.2).observers] at still
    rw [callings, calledWith_eq, if_neg spent.gone,
      ih (read_faithful faithful piece.1 piece.2) still, List.append_nil]

theorem callings_registered (faithful : supervisor.Faithful)
    (registered : (token, observer) ∈ supervisor.observers.registrations) :
    supervisor.callings token mails =
      supervisor.lifecycle.entered (wordOf (upTo token mails)) := by
  induction mails generalizing supervisor with
  | nil => rfl
  | cons piece mails ih =>
    have reads := read_reads piece.1 supervisor piece.2
    have next := read_faithful faithful piece.1 piece.2
    rw [callings, calledWith_eq, if_pos (List.mem_map_of_mem registered), upTo_cons]
    split
    · rename_i used
      have spent := spent_of_use faithful.sound registered
      rw [← used, ← reads.observers] at spent
      rw [callings_spent next spent, used]
      rfl
    · rename_i kept
      have stays := registered_enlisted faithful.sound kept registered
      rw [← reads.observers] at stays
      rw [wordOf_cons, Lifecycle.entered_append, ← reads.lifecycle]
      exact congrArg (_ ++ ·) (ih next stays)

theorem callings_append (supervisor : Supervisor) (token : Registry.Token)
    (earlier later : List Timed) :
    supervisor.callings token (earlier ++ later) =
      supervisor.callings token earlier ++
        (reading.reach supervisor earlier).callings token later := by
  induction earlier generalizing supervisor with
  | nil => rfl
  | cons piece earlier ih =>
    rw [List.cons_append, callings, callings, ih, List.append_assoc]
    rfl

-- What the supervisor goes by when it reads.
structure Alike (left right : Supervisor) : Prop where
  lifecycle : left.lifecycle = right.lifecycle
  shown : left.shown = right.shown
  observers : left.observers = right.observers

def Happening.read? : Happening → Option Timed
  | .read now mail => some (now, mail)
  | .asked _ | .connectAnswered .. | .authAnswered .. | .linkClosed _ | .expired _ | .released
  | .left => none

theorem Alike.trans {left middle right : Supervisor} (first : Alike left middle)
    (second : Alike middle right) : Alike left right :=
  ⟨first.lifecycle.trans second.lifecycle, first.shown.trans second.shown,
    first.observers.trans second.observers⟩

theorem Alike.report {left right : Supervisor} (alike : Alike left right)
    (event : Lifecycle.Event) : Alike (left.report event) right := by
  unfold Supervisor.report
  split
  · exact ⟨alike.lifecycle, alike.shown, alike.observers⟩
  · exact alike

theorem enter_alike (supervisor : Supervisor) (attempt : Nat) (stage : Stage) :
    Alike (supervisor.enter attempt stage) supervisor := ⟨rfl, rfl, rfl⟩

theorem expire_alike (supervisor : Supervisor) (errand : Errand) :
    Alike (supervisor.expire errand) supervisor := by
  unfold expire
  split
  · exact (enter_alike ..).report _
  · exact (enter_alike ..).report _
  · exact ⟨rfl, rfl, rfl⟩
  · exact ⟨rfl, rfl, rfl⟩

theorem connectAnswered_alike (supervisor : Supervisor) (attempt : Nat)
    (answer : Except TransportFault Unit) :
    Alike (supervisor.connectAnswered attempt answer).1 supervisor ∧
      calls (supervisor.connectAnswered attempt answer).2 = [] := by
  cases answer with
  | error fault => exact ⟨(enter_alike ..).report _, rfl⟩
  | ok =>
    unfold connectAnswered
    dsimp only
    split
    · refine ⟨Alike.report ?_ _, rfl⟩
      exact ⟨rfl, rfl, rfl⟩
    · exact ⟨⟨rfl, rfl, rfl⟩, rfl⟩

theorem unread_alike {happening : Happening} {outcome : Outcome}
    (happens : Happens supervisor happening outcome) (unread : happening.read? = none) :
    Alike outcome.1 supervisor ∧ calls outcome.2 = [] := by
  cases happens with
  | read => cases unread
  | asked | released => exact ⟨⟨rfl, rfl, rfl⟩, rfl⟩
  | connectAnswered => exact connectAnswered_alike ..
  | @authAnswered attempt answer => cases answer <;> exact ⟨(enter_alike ..).report _, rfl⟩
  | linkClosed =>
    unfold linkClosed
    split
    · exact ⟨(enter_alike ..).report _, rfl⟩
    · exact ⟨⟨rfl, rfl, rfl⟩, rfl⟩
  | expired => exact ⟨expire_alike .., rfl⟩
  | left =>
    unfold exit
    split
    · exact ⟨⟨rfl, rfl, rfl⟩, rfl⟩
    · refine ⟨⟨rfl, rfl, rfl⟩, ?_⟩
      cases supervisor.lifecycle.link? <;> rfl

theorem read_alike {left right : Supervisor} (alike : Alike left right) (now : Nat) (mail : Mail) :
    Alike (left.read now mail).1 (right.read now mail).1 ∧
      (left.read now mail).2 = (right.read now mail).2 := by
  obtain ⟨lifecycle, shown, observers⟩ := left
  obtain ⟨_, _, _⟩ := right
  obtain ⟨rfl, rfl, rfl⟩ := alike
  cases mail with
  | event event =>
    simp only [read, trigger]
    cases (lifecycle.advance event).action <;> exact ⟨⟨rfl, rfl, rfl⟩, rfl⟩
  | observe | unobserve => exact ⟨⟨rfl, rfl, rfl⟩, rfl⟩

def pieces (record : List Entry) : List Timed :=
  record.filterMap fun entry => entry.happening.read?

theorem pieces_snoc (record : List Entry) (entry : Entry) :
    pieces (record ++ [entry]) = pieces record ++ entry.happening.read?.toList := by
  rw [pieces, List.filterMap_append, List.filterMap_eq_flatMap_toList _ [entry],
    List.flatMap_singleton, pieces]

theorem course_alike {record : List Entry} (course : Course supervisor record) :
    Alike supervisor (reading.reach {} (pieces record)) ∧
      (record.flatMap fun entry => calls entry.effects) =
        reading.collect (fun step => calls step.2) {} (pieces record) := by
  induction course with
  | start => exact ⟨⟨rfl, rfl, rfl⟩, rfl⟩
  | @next supervisor record happening outcome course happens ih =>
    obtain ⟨alike, called⟩ := ih
    rw [pieces_snoc, List.flatMap_append, called, List.flatMap_singleton]
    cases unread : happening.read? with
    | none =>
      obtain ⟨same, silent⟩ := unread_alike happens unread
      rw [Option.toList_none, List.append_nil, silent, List.append_nil]
      exact ⟨same.trans alike, rfl⟩
    | some piece =>
      obtain ⟨now, mail⟩ := piece
      cases happens with
      | @read _ rest _ first =>
        cases unread
        have before : Alike (supervisor.withMail rest) (reading.reach {} (pieces record)) :=
          ⟨alike.lifecycle, alike.shown, alike.observers⟩
        obtain ⟨same, heard⟩ := read_alike before now mail
        rw [Option.toList_some, Machine.reach_append, reading.collect_concat, heard]
        exact ⟨same, rfl⟩
      | _ => cases unread

-- Mail that was read, and where it has led: what is shown is the state of the lifecycle, and a
-- state that is entered next calls each registration once.
structure Watched (mails : List Timed) (reached : Supervisor) : Prop where
  lifecycle : reached.lifecycle = Lifecycle.after (wordOf mails)
  shown : reached.shown = (Lifecycle.after (wordOf mails)).view
  apart : (reached.observers.registrations.map Prod.fst).Nodup
  called : ∀ now mail, calls (reached.read now mail).2 =
    (reached.lifecycle.entered mail.event?.toList).flatMap fun view =>
      reached.observers.registrations.map fun entry => (entry.2, view)

-- A registration between the mail before it and the mail after it.
structure Attended (earlier : List Timed) (now observer : Nat) (promise : Ticket)
    (later : List Timed) (token : Registry.Token) : Prop where
  answered : ((reading.reach {} earlier).read now (.observe observer promise)).2 =
    [.registered promise token]
  new : token ∉ (reading.reach {} earlier).observers.registrations.map Prod.fst
  lasts : (token, observer) ∈ (reading.reach {}
      (earlier ++ (now, .observe observer promise) :: later)).observers.registrations ↔
    ∀ piece ∈ later, piece.2 ≠ .unobserve token
  called : callings {} token (earlier ++ (now, .observe observer promise) :: later) =
    (Lifecycle.after (wordOf earlier)).entered (wordOf (upTo token later))
  -- Under a name that nobody else goes by, there are no other calls.
  told : (∀ piece ∈ earlier ++ later, piece.2.registers? ≠ some observer) →
    tellings {} observer (earlier ++ (now, .observe observer promise) :: later) =
      (Lifecycle.after (wordOf earlier)).entered (wordOf (upTo token later))
  differ : ((Lifecycle.after (wordOf earlier)).view ::
      (Lifecycle.after (wordOf earlier)).entered (wordOf (upTo token later))).IsChain
    fun before after => before.same after = false

theorem watched (mails : List Timed) : Watched mails (reading.reach {} mails) := by
  have faithful := reach_faithful start_faithful mails
  have lifecycle : (reading.reach {} mails).lifecycle = Lifecycle.after (wordOf mails) :=
    reach_lifecycle {} mails
  refine ⟨lifecycle, lifecycle ▸ faithful.shown, Registry.registrations_apart _, ?_⟩
  exact fun now mail => (read_reads now _ mail).calls

theorem attended (earlier : List Timed) (now observer : Nat) (promise : Ticket)
    (later : List Timed) : ∃ token, Attended earlier now observer promise later token := by
  have faithful := reach_faithful start_faithful earlier
  have lifecycle := (watched earlier).lifecycle
  have absence : (∀ piece ∈ earlier, piece.2.registers? ≠ some observer) →
      tellings {} observer earlier = [] ∧ seats (reading.reach {} earlier).observers observer = 0 :=
    tellings_absent start_faithful rfl
  generalize before : reading.reach {} earlier = supervisor at faithful lifecycle absence
  have next := read_faithful faithful now (.observe observer promise)
  have added := Registry.perm_add faithful.sound observer
  have registered : ((supervisor.observers.add observer).1, observer) ∈
      (supervisor.read now (.observe observer promise)).1.observers.registrations :=
    added.mem_iff.mpr List.mem_cons_self
  refine ⟨(supervisor.observers.add observer).1, ?_, ?_, ?_, ?_, fun alone => ?_, ?_⟩
  · rw [before]
    rfl
  · rw [before]
    exact Registry.new_add faithful.sound observer
  · rw [Machine.reach_append, before]
    exact registered_reach next registered later
  · have ahead : (reading.reach {} earlier).observers.issued <
        (supervisor.observers.add observer).1.serial := by
      rw [before, Registry.serial_add]
      exact Nat.lt_succ_self _
    have new := Registry.new_add faithful.sound observer
    rw [callings_append, callings_ahead start_faithful ahead, before, callings, calledWith_eq,
      if_neg new, callings_registered next registered, ← lifecycle]
    rfl
  · obtain ⟨others, absent⟩ := absence fun piece member => alone piece (List.mem_append_left _ member)
    have one : seats (supervisor.read now (.observe observer promise)).1.observers observer = 1 := by
      have split := added.countP_eq fun entry => entry.2 = observer
      rw [List.countP_cons, if_pos (decide_eq_true rfl)] at split
      exact split.trans (congrArg (· + 1) absent)
    have afterwards := tellings_alone next registered one
      fun piece member => alone piece (List.mem_append_right _ member)
    rw [tellings_append, others, before, tellings_cons, told_read, afterwards, ← lifecycle]
    rfl
  · exact Lifecycle.entered_chain _ _

-- Every observer is called with the states that are entered between its registration and its
-- removal, whoever else comes and goes.
theorem observers_see_every_change :
    (∀ mails, Watched mails (reading.reach {} mails)) ∧
      (∀ earlier now observer promise later,
        ∃ token, Attended earlier now observer promise later token) ∧
      ∀ supervisor record, Course supervisor record →
        Alike supervisor (reading.reach {} (pieces record)) ∧
          (record.flatMap fun entry => calls entry.effects) =
            reading.collect (fun step => calls step.2) {} (pieces record) :=
  ⟨watched, attended, fun _ _ => course_alike⟩

-- A first observer leaves its slot to a second one; its token is used again after that.
def changingHands : List Timed :=
  [(0, .observe 7 1), (0, .event (.connect 60 2)), (1, .unobserve ⟨0, 1⟩)]

def secondHand : List Timed :=
  [(2, .unobserve ⟨0, 1⟩), (2, .event (.connected 1 1)), (3, .event (.connect 60 4)),
   (4, .event (.authenticated 1)), (5, .unobserve ⟨0, 2⟩), (6, .event (.disconnected 1)),
   (6, .unobserve ⟨0, 2⟩)]

theorem observers_see_every_change_second_hand :
    (∀ piece ∈ changingHands ++ secondHand, piece.2.registers? ≠ some 8) ∧
      tellings {} 8 (changingHands ++ (1, .observe 8 3) :: secondHand) =
        [.authenticating, .ready] ∧
      callings {} ⟨0, 2⟩ (changingHands ++ (1, .observe 8 3) :: secondHand) =
        [.authenticating, .ready] ∧
      (reading.reach {} (changingHands ++ (1, .observe 8 3) :: secondHand)).shown =
        .failed .closed ∧
      ∃ supervisor record, Course supervisor record ∧ supervisor.shown = .connecting ∧
        (record.flatMap fun entry => calls entry.effects) = [(7, .connecting)] := by
  obtain ⟨watched, attended, courses⟩ := observers_see_every_change
  obtain ⟨token, attends⟩ := attended changingHands 1 8 3 secondHand
  have alone : ∀ piece ∈ changingHands ++ secondHand, piece.2.registers? ≠ some 8 := by decide
  have answered : [Effect.registered 3 ⟨0, 2⟩] = [.registered 3 token] := attends.answered
  cases answered
  have played : play [.asked (.observe 7 1), .asked (.event (.connect 60 2)),
      .read 0 (.observe 7 1), .read 0 (.event (.connect 60 2)), .released] = some _ := rfl
  have course := (play_exact.mp played).1
  obtain ⟨alike, called⟩ := courses _ _ course
  refine ⟨alone, attends.told alone, attends.called, (watched _).shown, _, _, course, ?_, ?_⟩
  · exact alike.shown
  · exact called

end Supervisor
end Connection
end SecureShell
