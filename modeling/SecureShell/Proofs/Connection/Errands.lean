import SecureShell.Proofs.Connection.Interleaving

namespace SecureShell.Connection

def Supervisor.Happening.word? : Supervisor.Happening → Option Mail
  | .asked mail => some mail
  | .connectAnswered attempt (.ok ()) => some (.event (.connected attempt attempt))
  | .connectAnswered attempt (.error fault) => some (.event (.fault attempt (.transport fault)))
  | .authAnswered attempt (.ok ()) => some (.event (.authenticated attempt))
  | .authAnswered attempt (.error fault) => some (.event (.fault attempt (.transport fault)))
  | .linkClosed attempt => some (.event (.disconnected attempt))
  | .expired attempt => some (.event (.fault attempt .timeout))
  | .read .. | .released | .left => none

namespace Supervisor
open Lifecycle (Event)

-- The mail that comes of it: all of it is lost once nobody holds the connection.
def delivered? (supervisor : Supervisor) (happening : Happening) : Option Mail :=
  if supervisor.held then happening.word? else none

-- An errand there was before, and no sooner in its stages.
def Follows (before : Supervisor) (errand : Errand) : Prop :=
  ∃ earlier ∈ before.errands, earlier.attempt = errand.attempt ∧
    (errand.stage = .connecting → earlier.stage = .connecting)

structure Goes (before after : Supervisor) : Prop where
  lifecycle : after.lifecycle = before.lifecycle
  exited : after.exited = before.exited
  held : after.held = before.held
  mailbox : after.mailbox = before.mailbox
  errands : ∀ errand ∈ after.errands, before.Follows errand

-- An errand brings the link that it waited for, and closes it if nobody holds the connection.
structure Brings (supervisor : Supervisor) (link : Nat) (outcome : Outcome) : Prop where
  waited : ∃ errand ∈ supervisor.errands, errand.attempt = link ∧ errand.stage = .connecting
  moved : ∀ errand ∈ outcome.1.errands, errand.attempt = link → errand.stage ≠ .connecting
  closed : supervisor.held = false → .close link ∈ outcome.2

structure Beside (supervisor : Supervisor) (happening : Happening) (outcome : Outcome) : Prop where
  lifecycle : outcome.1.lifecycle = supervisor.lifecycle
  exited : outcome.1.exited = supervisor.exited
  held : outcome.1.held = true → supervisor.held = true
  mailbox : outcome.1.mailbox = supervisor.mailbox ++ (supervisor.delivered? happening).toList
  errands : ∀ errand ∈ outcome.1.errands, supervisor.Follows errand
  brings : ∀ link, happening = .connectAnswered link (.ok ()) →
    Brings supervisor link outcome

inductive Comes (supervisor : Supervisor) : Happening → Outcome → Prop
  | reads (first : supervisor.mailbox = mail :: rest) :
      Comes supervisor (.read now mail)
        ((supervisor.read now mail).1.withMail rest, (supervisor.read now mail).2)
  | leaves (free : supervisor.held = false) (idle : supervisor.mailbox = []) :
      Comes supervisor .left
        ({ supervisor with exited := true }, supervisor.lifecycle.link?.toList.map Effect.close)
  | beside (beside : Beside supervisor happening outcome) (silent : happening.heard? = none)
      (caller : ∀ mail, happening = .asked mail → mail.FromCaller) :
      Comes supervisor happening outcome

variable {supervisor before middle after : Supervisor} {happening : Happening} {outcome : Outcome}
  {mail : Mail} {event : Event} {errand : Errand} {now attempt link : Nat} {stage : Stage}
  {answer : Except TransportFault Unit} {effects : List Effect}

theorem mail_of_event (bears : mail.event? = some event) : mail = .event event := by
  cases mail <;> cases bears
  rfl

theorem word_connected (caller : ∀ mail, happening = .asked mail → mail.FromCaller)
    (said : happening.word? = some (.event (.connected attempt link))) :
    link = attempt ∧ happening = .connectAnswered attempt (.ok ()) := by
  cases happening with
  | asked mail =>
    cases said
    cases caller _ rfl
  | connectAnswered number answer =>
    cases answer <;> cases said
    exact ⟨rfl, rfl⟩
  | authAnswered number answer => cases answer <;> cases said
  | read | linkClosed | expired | released | left => cases said

theorem word_disconnected (caller : ∀ mail, happening = .asked mail → mail.FromCaller)
    (said : happening.word? = some (.event (.disconnected attempt))) :
    happening = .linkClosed attempt := by
  cases happening with
  | asked mail =>
    cases said
    cases caller _ rfl
  | linkClosed number =>
    cases said
    rfl
  | connectAnswered number answer | authAnswered number answer => cases answer <;> cases said
  | read | expired | released | left => cases said

theorem isAt_exact (waits : supervisor.isAt attempt stage = true) :
    ∃ errand ∈ supervisor.errands, errand.attempt = attempt ∧ errand.stage = stage := by
  obtain ⟨errand, found, there⟩ := (Option.any_eq_true _ _).mp waits
  have named := List.find?_some found
  exact ⟨errand, List.mem_of_find?_eq_some found, by simpa using named, by simpa using there⟩

theorem Goes.trans (first : Goes before middle) (second : Goes middle after) :
    Goes before after where
  lifecycle := second.lifecycle.trans first.lifecycle
  exited := second.exited.trans first.exited
  held := second.held.trans first.held
  mailbox := second.mailbox.trans first.mailbox
  errands errand member := by
    obtain ⟨later, between, same, on⟩ := second.errands errand member
    obtain ⟨earlier, there, named, before⟩ := first.errands later between
    exact ⟨earlier, there, named.trans same, fun waits => before (on waits)⟩

theorem update_goes (supervisor : Supervisor) (attempt : Nat) {change : Errand → Errand}
    (named : ∀ errand, (change errand).attempt = errand.attempt)
    (on : ∀ errand, (change errand).stage = .connecting → errand.stage = .connecting) :
    Goes supervisor (supervisor.update attempt change) where
  lifecycle := rfl
  exited := rfl
  held := rfl
  mailbox := rfl
  errands errand member := by
    obtain ⟨earlier, there, rfl⟩ := List.mem_map.mp member
    refine ⟨earlier, there, ?_⟩
    split
    · exact ⟨(named earlier).symm, on earlier⟩
    · exact ⟨rfl, id⟩

theorem enter_goes (supervisor : Supervisor) (attempt : Nat) (past : stage ≠ .connecting) :
    Goes supervisor (supervisor.enter attempt stage) :=
  update_goes supervisor attempt (fun _ => rfl) fun _ there => absurd there past

theorem enter_stage (past : stage ≠ .connecting)
    (member : errand ∈ (supervisor.enter attempt stage).errands)
    (named : errand.attempt = attempt) : errand.stage ≠ .connecting := by
  obtain ⟨earlier, _, rfl⟩ := List.mem_map.mp member
  by_cases same : earlier.attempt = attempt
  · simpa [same] using past
  · simp [same] at named

theorem Goes.beside (goes : Goes supervisor after) (word : happening.word? = some (.event event))
    (brings : ∀ link, happening = .connectAnswered link (.ok ()) →
      Brings supervisor link (after, effects)) :
    Beside supervisor happening (after.report event, effects) := by
  have told : after.report event =
      after.withMail (supervisor.mailbox ++ (supervisor.delivered? happening).toList) := by
    rw [delivered?, word, ← goes.held, ← goes.mailbox, report]
    cases after.held with
    | true => rfl
    | false => simp [withMail]
  rw [told]
  refine ⟨goes.lifecycle, goes.exited, fun held => goes.held ▸ held, rfl, goes.errands, ?_⟩
  intro link came
  obtain ⟨waited, moved, closed⟩ := brings link came
  exact ⟨waited, moved, closed⟩

theorem connectAnswered_beside (waits : supervisor.isAt attempt .connecting = true) :
    Beside supervisor (.connectAnswered attempt answer)
      (supervisor.connectAnswered attempt answer) := by
  cases answer with
  | error fault => exact (enter_goes supervisor attempt (by decide)).beside rfl (by rintro _ ⟨⟩)
  | ok =>
    have running := isAt_exact waits
    let linked := supervisor.update attempt fun errand => { errand with linked := true }
    have links : Goes supervisor linked := update_goes supervisor attempt (fun _ => rfl) fun _ => id
    by_cases held : supervisor.held = true
    · have outcome : supervisor.connectAnswered attempt (.ok ()) =
          ((linked.enter attempt .authenticating).report (.connected attempt attempt),
            [.authenticate attempt]) := if_pos held
      rw [outcome]
      refine (links.trans (enter_goes linked attempt (by decide))).beside rfl ?_
      rintro _ ⟨⟩
      refine ⟨running, fun errand => enter_stage (by decide), fun free => ?_⟩
      exact absurd held (by simp [free])
    · have lost : (linked.enter attempt .over).report (.connected attempt attempt) =
          linked.enter attempt .over := if_neg held
      have outcome : supervisor.connectAnswered attempt (.ok ()) =
          ((linked.enter attempt .over).report (.connected attempt attempt), [.close attempt]) := by
        rw [lost]
        exact if_neg held
      rw [outcome]
      refine (links.trans (enter_goes linked attempt (by decide))).beside rfl ?_
      rintro _ ⟨⟩
      exact ⟨running, fun errand => enter_stage (by decide), fun _ => List.mem_singleton_self _⟩

theorem authAnswered_beside (supervisor : Supervisor) (attempt : Nat)
    (answer : Except TransportFault Unit) :
    Beside supervisor (.authAnswered attempt answer)
      (supervisor.authAnswered attempt answer, []) := by
  cases answer with
  | error fault => exact (enter_goes supervisor attempt (by decide)).beside rfl (by rintro _ ⟨⟩)
  | ok => exact (enter_goes supervisor attempt (by decide)).beside rfl (by rintro _ ⟨⟩)

theorem linkClosed_beside (linked : supervisor.isAt attempt .authenticating = true ∨
      supervisor.isAt attempt .lingering = true) :
    Beside supervisor (.linkClosed attempt) (supervisor.linkClosed attempt, []) := by
  have there : (supervisor.isAt attempt .authenticating ||
      supervisor.isAt attempt .lingering) = true := by simpa using linked
  rw [linkClosed, if_pos there]
  exact (enter_goes supervisor attempt (by decide)).beside rfl (by rintro _ ⟨⟩)

theorem expire_beside (running : supervisor.errand? attempt = some errand)
    (waits : errand.stage = .connecting ∨ errand.stage = .authenticating) :
    Beside supervisor (.expired attempt) (supervisor.expire errand, []) := by
  have named : errand.attempt = attempt := by simpa using List.find?_some running
  subst named
  rcases waits with there | there
  · rw [expire, there]
    exact (enter_goes supervisor errand.attempt (by decide)).beside rfl (by rintro _ ⟨⟩)
  · rw [expire, there]
    exact (enter_goes supervisor errand.attempt (by decide)).beside rfl (by rintro _ ⟨⟩)

theorem asked_beside (held : supervisor.held = true) :
    Beside supervisor (.asked mail) (supervisor.post mail, []) where
  lifecycle := rfl
  exited := rfl
  held := id
  mailbox := by rw [delivered?, if_pos held]; rfl
  errands errand member := ⟨errand, member, rfl, id⟩
  brings := nofun

theorem release_beside (supervisor : Supervisor) :
    Beside supervisor .released (supervisor.release, []) where
  lifecycle := rfl
  exited := rfl
  held := nofun
  mailbox := by simp [release, delivered?, Happening.word?]
  errands errand member := ⟨errand, member, rfl, id⟩
  brings := nofun

theorem happens_comes (happens : Happens supervisor happening outcome) :
    Comes supervisor happening outcome := by
  cases happens with
  | asked held caller =>
    refine .beside (asked_beside held) rfl ?_
    rintro _ ⟨⟩
    exact caller
  | read first =>
    rw [read_withMail]
    exact .reads first
  | connectAnswered waits => exact .beside (connectAnswered_beside waits) rfl nofun
  | authAnswered => exact .beside (authAnswered_beside supervisor _ _) rfl nofun
  | linkClosed linked => exact .beside (linkClosed_beside linked) rfl nofun
  | expired running waits => exact .beside (expire_beside running waits) rfl nofun
  | released => exact .beside (release_beside supervisor) rfl nofun
  | left free idle there =>
    rw [exit, if_neg (by simp [free, idle, there])]
    exact .leaves free idle

theorem read_lifecycle (now : Nat) (supervisor : Supervisor) (mail : Mail) :
    (supervisor.read now mail).1.lifecycle =
      Lifecycle.custody.reach supervisor.lifecycle mail.event?.toList := by
  cases mail with
  | event event =>
    have reached : Lifecycle.custody.reach supervisor.lifecycle (Mail.event event).event?.toList =
        (supervisor.lifecycle.advance event).next := rfl
    simp only [read, trigger, reached]
    cases (supervisor.lifecycle.advance event).action <;> rfl
  | observe | unobserve => rfl

theorem read_exited (now : Nat) (supervisor : Supervisor) (mail : Mail) :
    (supervisor.read now mail).1.exited = supervisor.exited := by
  cases mail with
  | event event =>
    simp only [read, trigger]
    cases (supervisor.lifecycle.advance event).action <;> rfl
  | observe | unobserve => rfl

theorem read_errands (member : errand ∈ (supervisor.read now mail).1.errands) :
    errand ∈ supervisor.errands ∨ ∃ event timeout, mail = .event event ∧
      (supervisor.lifecycle.advance event).action = .connect errand.attempt timeout := by
  cases mail with
  | event event =>
    simp only [read, trigger] at member
    cases done : (supervisor.lifecycle.advance event).action with
    | connect attempt timeout =>
      simp only [done, perform, List.mem_append, List.mem_singleton] at member
      rcases member with there | rfl
      · exact .inl there
      · exact .inr ⟨event, timeout, rfl, done⟩
    | none | disconnect | discard | startSession =>
      rw [done] at member
      exact .inl member
  | observe | unobserve => exact .inl member

theorem read_discards (away : (supervisor.lifecycle.advance event).action = .discard link) :
    .close link ∈ (supervisor.read now (.event event)).2 := by
  simp [read, trigger, away, perform]

end Supervisor
end SecureShell.Connection
