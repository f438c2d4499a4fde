import SecureShell.Proofs.Connection.Errands
import SecureShell.Proofs.Connection.Ownership

namespace SecureShell.Connection.Supervisor
open Lifecycle (Event)

def Owned (supervisor : Supervisor) (link : Nat) : Prop := supervisor.lifecycle.link? = some link

instance (supervisor : Supervisor) (link : Nat) : Decidable (Owned supervisor link) :=
  inferInstanceAs (Decidable (_ = some link))

-- All events that the supervisor has read or is going to read, in order.
def stream (supervisor : Supervisor) (record : List Entry) : List Event :=
  heard record ++ supervisor.mailbox.filterMap Mail.event?

variable {supervisor after : Supervisor} {happening : Happening} {outcome : Outcome}
  {record : List Entry} {entry : Entry} {mail : Mail} {rest : List Mail} {event : Event}
  {events : List Event} {now link : Nat} {effects : List Effect}

-- What the supervisor is told of links is true: a link is brought once, by the attempt it is
-- numbered after.
structure Told (events : List Event) (record : List Entry) : Prop where
  brought : ∀ attempt link, .connected attempt link ∈ events → link = attempt ∧ Returned link record
  once : (events.filterMap Event.link?).Nodup
  ended : ∀ attempt, .disconnected attempt ∈ events → Gone attempt record

theorem Told.snoc (told : Told events record) (entry : Entry) :
    Told events (record ++ [entry]) where
  brought attempt link came :=
    (told.brought attempt link came).imp_right (returned_snoc.mpr ∘ .inl)
  once := told.once
  ended attempt said := gone_snoc.mpr (.inl (told.ended attempt said))

theorem Told.hears (told : Told events record)
    (brings : ∀ attempt link, event = .connected attempt link →
      link = attempt ∧ ¬ Returned link record ∧ entry.happening = .connectAnswered link (.ok ()))
    (ends : ∀ attempt, event = .disconnected attempt → entry.happening = .linkClosed attempt) :
    Told (events ++ [event]) (record ++ [entry]) where
  brought attempt link came := by
    rcases List.mem_append.mp came with before | last
    · exact (told.snoc entry).brought attempt link before
    · obtain ⟨named, _, answered⟩ := brings attempt link (List.mem_singleton.mp last).symm
      exact ⟨named, returned_snoc.mpr (.inr answered)⟩
  once := by
    rw [List.filterMap_append, List.nodup_append]
    refine ⟨told.once, ?_, ?_⟩
    · rw [List.filterMap_eq_flatMap_toList, List.flatMap_singleton]
      exact Option.toList_nodup _
    · rintro link before _ last rfl
      obtain ⟨_, there, linked⟩ := List.mem_filterMap.mp before
      obtain ⟨attempt, rfl⟩ := Lifecycle.connected_of_link linked
      obtain ⟨_, same, again⟩ := List.mem_filterMap.mp last
      obtain ⟨number, rfl⟩ := Lifecycle.connected_of_link again
      have absent := (brings number link (List.mem_singleton.mp same).symm).2.1
      exact absent (told.brought attempt link there).2
  ended attempt said := by
    rcases List.mem_append.mp said with before | last
    · exact (told.snoc entry).ended attempt before
    · exact gone_snoc.mpr (.inr (ends attempt (List.mem_singleton.mp last).symm))

-- All that has to be known to follow the links. An errand that still waits for the transport has
-- brought none.
structure Tracked (supervisor : Supervisor) (record : List Entry) : Prop where
  current : supervisor.lifecycle = Lifecycle.after (heard record)
  told : Told (supervisor.stream record) record
  numbered : ∀ errand ∈ supervisor.errands, errand.attempt ≤ supervisor.lifecycle.attempts
  unanswered : ∀ errand ∈ supervisor.errands, errand.stage = .connecting →
    ¬ Returned errand.attempt record
  known : ∀ link, Returned link record → link ≤ supervisor.lifecycle.attempts
  placed : ∀ link, Returned link record →
    Arriving supervisor link ∨ Owned supervisor link ∨ Finished link record
  left : supervisor.exited = true → supervisor.held = false ∧ supervisor.mailbox = [] ∧
    ∀ link, Owned supervisor link → Finished link record

theorem tracked_start : Tracked {} [] where
  current := rfl
  told := ⟨nofun, .nil, nofun⟩
  numbered := nofun
  unanswered := nofun
  known := nofun
  placed := nofun
  left := nofun

theorem Tracked.owner (tracked : Tracked supervisor record) (owned : Owned supervisor link) :
    supervisor.lifecycle.attempt? = some link ∧ Returned link record := by
  rw [Owned, tracked.current] at owned
  rw [tracked.current]
  obtain ⟨attempt, running, came⟩ := Lifecycle.link_brought owned
  obtain ⟨rfl, returned⟩ := tracked.told.brought attempt link (List.mem_append_left _ came)
  exact ⟨running, returned⟩

theorem Tracked.kept_or_ended (tracked : Tracked supervisor record)
    (owned : Owned supervisor link) (event : Event) :
    (supervisor.lifecycle.advance event).next.link? = some link ∨ event = .disconnected link := by
  rcases Lifecycle.link_kept event owned with kept | ⟨attempt, running, rfl⟩
  · exact .inl kept
  · cases running.symm.trans (tracked.owner owned).1
    exact .inr rfl

theorem Tracked.taken_or_discarded (tracked : Tracked supervisor record) (link : Nat) :
    (supervisor.lifecycle.advance (.connected link link)).next.link? = some link ∨
      (supervisor.lifecycle.advance (.connected link link)).action = .discard link := by
  by_cases running : supervisor.lifecycle.attempt? = some link
  · rcases Lifecycle.link_taken running with taken | ⟨other, owned⟩
    · exact .inl taken
    · cases running.symm.trans (tracked.owner owned).1
      exact .inl ((tracked.kept_or_ended owned _).resolve_right nofun)
  · exact .inr (congrArg Lifecycle.Step.action ((Lifecycle.deaf _).connected link link running))

theorem stream_read (first : supervisor.mailbox = mail :: rest) :
    (after.withMail rest).stream (record ++ [⟨.read now mail, effects⟩]) =
      supervisor.stream record := by
  have read : (Happening.read now mail).heard? = mail.event? := rfl
  rw [stream, stream, heard_snoc, read, first, List.append_assoc,
    List.filterMap_eq_flatMap_toList _ (mail :: rest), List.flatMap_cons,
    ← List.filterMap_eq_flatMap_toList]
  rfl

theorem Tracked.read_placed (tracked : Tracked supervisor record)
    (first : supervisor.mailbox = mail :: rest) (returned : Returned link record) :
    Arriving ((supervisor.read now mail).1.withMail rest) link ∨
      Owned ((supervisor.read now mail).1.withMail rest) link ∨
      Finished link (record ++ [⟨.read now mail, (supervisor.read now mail).2⟩]) := by
  have lifecycle := congrArg Lifecycle.link? (read_lifecycle now supervisor mail)
  rcases tracked.placed link returned with arriving | owned | finished
  · rw [Arriving, first] at arriving
    rcases List.mem_cons.mp arriving with rfl | later
    · rcases tracked.taken_or_discarded link with taken | away
      · exact .inr (.inl (lifecycle.trans taken))
      · exact .inr (.inr (.inl (closed_snoc.mpr (.inr (read_discards away)))))
    · exact .inl later
  · cases mail with
    | event event =>
      rcases tracked.kept_or_ended owned event with kept | rfl
      · exact .inr (.inl (lifecycle.trans kept))
      · have gone := tracked.told.ended link (by simp [stream, first, Mail.event?])
        exact .inr (.inr (Finished.snoc (.inr gone) _))
    | observe | unobserve => exact .inr (.inl owned)
  · exact .inr (.inr (finished.snoc _))

theorem Tracked.read (tracked : Tracked supervisor record)
    (first : supervisor.mailbox = mail :: rest) :
    Tracked ((supervisor.read now mail).1.withMail rest)
      (record ++ [⟨.read now mail, (supervisor.read now mail).2⟩]) := by
  have lifecycle := read_lifecycle now supervisor mail
  have same : ∀ link, Returned link (record ++ [⟨.read now mail, (supervisor.read now mail).2⟩]) →
      Returned link record :=
    fun link returned => (returned_snoc.mp returned).resolve_right nofun
  have grown : supervisor.lifecycle.attempts ≤ (supervisor.read now mail).1.lifecycle.attempts := by
    rw [lifecycle]
    cases mail with
    | event event => exact Lifecycle.attempts_advance supervisor.lifecycle event
    | observe | unobserve => exact Nat.le_refl _
  constructor
  case current =>
    have heard : heard (record ++ [⟨.read now mail, (supervisor.read now mail).2⟩]) =
        heard record ++ mail.event?.toList := heard_snoc _ _
    rw [heard, Lifecycle.after_append, ← tracked.current]
    exact lifecycle
  case numbered =>
    intro errand member
    rcases read_errands member with there | ⟨event, timeout, rfl, made⟩
    · exact Nat.le_trans (tracked.numbered errand there) grown
    · have numbered := Lifecycle.attempt_numbered made
      exact Nat.le_of_eq (numbered.symm.trans (congrArg Lifecycle.attempts lifecycle.symm))
  case unanswered =>
    intro errand member waits returned
    rcases read_errands member with there | ⟨event, timeout, rfl, made⟩
    · exact tracked.unanswered errand there waits (same _ returned)
    · have known := tracked.known _ (same _ returned)
      have new := (Lifecycle.attempt_new made).2
      omega
  case known =>
    exact fun link returned => Nat.le_trans (tracked.known link (same link returned)) grown
  case told =>
    rw [stream_read first]
    exact tracked.told.snoc _
  case placed => exact fun link returned => tracked.read_placed first (same link returned)
  case left =>
    intro exited
    have empty := (tracked.left ((read_exited now supervisor mail).symm.trans exited)).2.1
    rw [first] at empty
    cases empty

theorem Tracked.leave (tracked : Tracked supervisor record) (free : supervisor.held = false)
    (idle : supervisor.mailbox = []) :
    Tracked { supervisor with exited := true }
      (record ++ [⟨.left, supervisor.lifecycle.link?.toList.map Effect.close⟩]) := by
  have same : ∀ link, Returned link (record ++
      [⟨.left, supervisor.lifecycle.link?.toList.map Effect.close⟩]) → Returned link record :=
    fun link returned => (returned_snoc.mp returned).resolve_right nofun
  have heard : heard (record ++ [⟨.left, supervisor.lifecycle.link?.toList.map Effect.close⟩]) =
      heard record := (heard_snoc _ _).trans (List.append_nil _)
  have stream : stream { supervisor with exited := true }
      (record ++ [⟨.left, supervisor.lifecycle.link?.toList.map Effect.close⟩]) =
      supervisor.stream record := congrArg (· ++ _) heard
  constructor
  case current => exact tracked.current.trans (congrArg Lifecycle.after heard.symm)
  case numbered => exact tracked.numbered
  case unanswered =>
    intro errand member waits returned
    exact tracked.unanswered errand member waits (same _ returned)
  case known => exact fun link returned => tracked.known link (same link returned)
  case told =>
    rw [stream]
    exact tracked.told.snoc _
  case placed =>
    intro link returned
    exact (tracked.placed link (same link returned)).imp_right (.imp_right (Finished.snoc · _))
  case left =>
    refine fun _ => ⟨free, idle, fun link owned => .inl (closed_snoc.mpr (.inr ?_))⟩
    have owned : supervisor.lifecycle.link? = some link := owned
    simp [owned]

theorem Tracked.beside (tracked : Tracked supervisor record)
    (beside : Beside supervisor happening outcome) (silent : happening.heard? = none)
    (caller : ∀ mail, happening = .asked mail → mail.FromCaller) :
    Tracked outcome.1 (record ++ [⟨happening, outcome.2⟩]) := by
  have heard : heard (record ++ [⟨happening, outcome.2⟩]) = heard record := by
    rw [heard_snoc, silent]
    exact List.append_nil _
  have stream : outcome.1.stream (record ++ [⟨happening, outcome.2⟩]) =
      supervisor.stream record ++ ((supervisor.delivered? happening).bind Mail.event?).toList := by
    rw [Supervisor.stream, Supervisor.stream, heard, beside.mailbox, List.filterMap_append,
      List.append_assoc]
    cases delivered : supervisor.delivered? happening with
    | none => rfl
    | some mail => cases event : mail.event? <;> simp [event]
  have new : ∀ link, happening = .connectAnswered link (.ok ()) →
      ¬ Returned link record ∧ link ≤ supervisor.lifecycle.attempts := by
    intro link came
    obtain ⟨errand, running, rfl, waits⟩ := (beside.brings link came).waited
    exact ⟨tracked.unanswered errand running waits, tracked.numbered errand running⟩
  constructor
  case current => rw [beside.lifecycle, heard, tracked.current]
  case told =>
    rw [stream]
    cases delivered : (supervisor.delivered? happening).bind Mail.event? with
    | none => simpa using tracked.told.snoc _
    | some event =>
      have said : happening.word? = some (.event event) := by
        obtain ⟨mail, arrived, bears⟩ := Option.bind_eq_some_iff.mp delivered
        rw [(Option.ite_none_right_eq_some.mp arrived).2, mail_of_event bears]
      refine tracked.told.hears ?_ ?_
      · rintro attempt link rfl
        obtain ⟨rfl, came⟩ := word_connected caller said
        exact ⟨rfl, (new _ came).1, came⟩
      · rintro attempt rfl
        exact word_disconnected caller said
  case numbered =>
    intro errand member
    obtain ⟨earlier, running, named, _⟩ := beside.errands errand member
    rw [beside.lifecycle, ← named]
    exact tracked.numbered earlier running
  case unanswered =>
    intro errand member waits returned
    rcases returned_snoc.mp returned with before | came
    · obtain ⟨earlier, running, named, on⟩ := beside.errands errand member
      exact tracked.unanswered earlier running (on waits) (named ▸ before)
    · exact (beside.brings _ came).moved errand member rfl waits
  case known =>
    intro link returned
    rw [beside.lifecycle]
    exact (returned_snoc.mp returned).elim (tracked.known link) fun came => (new link came).2
  case placed =>
    intro link returned
    rw [Arriving, Owned, beside.mailbox, beside.lifecycle]
    rcases returned_snoc.mp returned with before | came
    · rcases tracked.placed link before with arriving | owned | finished
      · exact .inl (List.mem_append_left _ arriving)
      · exact .inr (.inl owned)
      · exact .inr (.inr (finished.snoc _))
    · cases held : supervisor.held with
      | true =>
        have came : happening = .connectAnswered link (.ok ()) := came
        exact .inl (List.mem_append_right _ (by simp [delivered?, held, came, Happening.word?]))
      | false =>
        exact .inr (.inr (.inl (closed_snoc.mpr (.inr ((beside.brings link came).closed held)))))
  case left =>
    intro exited
    obtain ⟨free, idle, ended⟩ := tracked.left (beside.exited.symm.trans exited)
    have nothing : supervisor.delivered? happening = none := by simp [delivered?, free]
    refine ⟨?_, ?_, ?_⟩
    · exact Bool.eq_false_iff.mpr fun held => Bool.eq_false_iff.mp free (beside.held held)
    · rw [beside.mailbox, idle, nothing]
      rfl
    · intro link owned
      rw [Owned, beside.lifecycle] at owned
      exact (ended link owned).snoc _

theorem course_tracked (course : Course supervisor record) : Tracked supervisor record := by
  induction course with
  | start => exact tracked_start
  | next course happens tracked =>
    cases happens_comes happens with
    | reads first => exact tracked.read first
    | leaves free idle => exact tracked.leave free idle
    | beside beside silent caller => exact tracked.beside beside silent caller

-- Where the links are that came up in time: none is ever lost sight of.
structure Accounted (supervisor : Supervisor) (record : List Entry) : Prop where
  current : supervisor.lifecycle = Lifecycle.after (heard record)
  placed : ∀ link, Returned link record →
    Arriving supervisor link ∨ Owned supervisor link ∨ Finished link record
  left : supervisor.exited = true → ∀ link, Returned link record → Finished link record
  -- All but one of them are still in the mail or done with.
  single : ∀ link other, Returned link record → Returned other record →
    ¬ Arriving supervisor link → ¬ Finished link record →
    ¬ Arriving supervisor other → ¬ Finished other record → link = other
  kept : ∀ link, Owned supervisor link →
    Returned link record ∧ supervisor.lifecycle.attempt? = some link ∧
    ∀ happening outcome, Happens supervisor happening outcome →
      Owned outcome.1 link ∨ ∃ now, happening = .read now (.event (.disconnected link))
  once : (Lifecycle.closedBy {} (heard record)).Nodup
  alone : ∀ event attempt timeout,
    (supervisor.lifecycle.advance event).action = .connect attempt timeout →
      supervisor.lifecycle.attempt? = none

theorem Tracked.kept (tracked : Tracked supervisor record) (owned : Owned supervisor link)
    (happens : Happens supervisor happening outcome) :
    Owned outcome.1 link ∨ ∃ now, happening = .read now (.event (.disconnected link)) := by
  cases happens_comes happens with
  | @reads mail rest now first =>
    cases mail with
    | event event =>
      rcases tracked.kept_or_ended owned event with kept | rfl
      · exact .inl ((congrArg Lifecycle.link? (read_lifecycle now supervisor _)).trans kept)
      · exact .inr ⟨now, rfl⟩
    | observe | unobserve => exact .inl owned
  | leaves => exact .inl owned
  | beside beside => exact .inl ((congrArg Lifecycle.link? beside.lifecycle).trans owned)

theorem accounted (course : Course supervisor record) : Accounted supervisor record where
  current := (course_tracked course).current
  placed := (course_tracked course).placed
  left exited link returned := by
    obtain ⟨_, idle, ended⟩ := (course_tracked course).left exited
    rcases (course_tracked course).placed link returned with arriving | owned | finished
    · rw [Arriving, idle] at arriving
      cases arriving
    · exact ended link owned
    · exact finished
  single link other returned again coming going awaited gone := by
    have first := ((course_tracked course).placed link returned).resolve_left coming
    have second := ((course_tracked course).placed other again).resolve_left awaited
    have owned := first.resolve_right going
    exact Option.some.inj (owned.symm.trans (second.resolve_right gone))
  kept link owned :=
    have ⟨running, returned⟩ := (course_tracked course).owner owned
    ⟨returned, running, fun _ _ => (course_tracked course).kept owned⟩
  once := by
    have distinct := (course_tracked course).told.once
    rw [stream, List.filterMap_append] at distinct
    exact Lifecycle.closedBy_nodup (List.nodup_append.mp distinct).1
  alone _ _ _ made := (Lifecycle.attempt_new made).1

-- The supervisor reads all its mail at a go. Then no link is still in it.
structure Cleared (supervisor : Supervisor) (record : List Entry) (now : Nat)
    (more : List Entry) : Prop where
  effects : more.flatMap Entry.effects = (supervisor.clear now).2
  accounted : Accounted (supervisor.clear now).1 (record ++ more)
  decided : ∀ link, Returned link (record ++ more) →
    Owned (supervisor.clear now).1 link ∨ Finished link (record ++ more)

theorem cleared (course : Course supervisor record) (now : Nat) :
    ∃ more, Cleared supervisor record now more := by
  obtain ⟨more, reached, effects, empty⟩ := course_clear course now
  refine ⟨more, effects, accounted reached, ?_⟩
  intro link returned
  rcases (accounted reached).placed link returned with arriving | decided
  · rw [Arriving, empty] at arriving
    cases arriving
  · exact decided

theorem no_link_leaks (course : Course supervisor record) :
    Accounted supervisor record ∧ ∀ now, ∃ more, Cleared supervisor record now more :=
  ⟨accounted course, cleared course⟩

-- The first attempt is called off and comes up all the same; the second runs out of time while
-- it authenticates; the third is called off too and comes up when nobody holds the connection
-- any more, and the link of the fourth is owned to the end.
def restless : List Happening :=
  [.asked (.event (.connect 30 1)), .read 0 (.event (.connect 30 1)),
   .asked (.event (.disconnect 2)), .asked (.event (.connect 30 3)),
   .read 1 (.event (.disconnect 2)), .read 1 (.event (.connect 30 3)),
   .connectAnswered 1 (.ok ()), .connectAnswered 2 (.ok ()),
   .read 2 (.event (.connected 1 1)), .read 2 (.event (.connected 2 2)),
   .linkClosed 1, .expired 2, .asked (.event (.connect 30 4)),
   .read 40 (.event (.disconnected 1)), .read 40 (.event (.fault 2 .timeout)),
   .linkClosed 2, .read 41 (.event (.connect 30 4)), .read 41 (.event (.disconnected 2)),
   .asked (.event (.connect 30 5)), .read 42 (.event (.connect 30 5)),
   .asked (.event (.disconnect 6)), .read 43 (.event (.disconnect 6)),
   .asked (.event (.connect 30 7)), .read 43 (.event (.connect 30 7)),
   .connectAnswered 4 (.ok ()), .read 44 (.event (.connected 4 4)),
   .released, .connectAnswered 3 (.ok ()), .left]

def restlessEnd : Supervisor × List Entry := (play restless).getD ({}, [])

theorem restlessEnd_course : Course restlessEnd.1 restlessEnd.2 :=
  (play_exact.mp (by decide : play restless = some restlessEnd)).1

theorem no_link_leaks_restless :
    Course restlessEnd.1 restlessEnd.2 ∧ Accounted restlessEnd.1 restlessEnd.2 ∧
    restlessEnd.1.exited = true ∧ Owned restlessEnd.1 4 ∧
    Lifecycle.closedBy {} (heard restlessEnd.2) = [2] ∧
    (∀ link ∈ [1, 2, 3, 4], Returned link restlessEnd.2 ∧ Finished link restlessEnd.2) := by
  have accounted := (no_link_leaks restlessEnd_course).1
  have exited : restlessEnd.1.exited = true := by decide
  have returned : ∀ link ∈ [1, 2, 3, 4], Returned link restlessEnd.2 := by decide
  refine ⟨restlessEnd_course, accounted, exited, by decide, by decide, ?_⟩
  intro link member
  have came := returned link member
  exact ⟨came, accounted.left exited link came⟩

end SecureShell.Connection.Supervisor
