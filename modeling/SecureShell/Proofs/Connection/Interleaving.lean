import Mathlib.Data.List.Basic
import SecureShell.Connection.Supervisor
import SecureShell.Proofs.Connection.Staleness

namespace SecureShell.Connection

def Mail.event? : Mail → Option Lifecycle.Event
  | .event word => some word
  | .observe .. | .unobserve _ => none

-- What callers write. Word of an attempt comes from its errand only.
def Mail.FromCaller (mail : Mail) : Prop := mail.event?.bind Lifecycle.Event.attempt? = none

instance (mail : Mail) : Decidable mail.FromCaller := inferInstanceAs (Decidable (_ = none))

namespace Supervisor

-- What can happen to a connection: callers write, let go of it or do not; the supervisor reads
-- its mail piece by piece and leaves; and the errands of all attempts go on, each for itself.
inductive Happening
  | asked (mail : Mail)
  | read (now : Nat) (mail : Mail)
  | connectAnswered (attempt : Nat) (answer : Except TransportFault Unit)
  | authAnswered (attempt : Nat) (answer : Except TransportFault Unit)
  | linkClosed (attempt : Nat)
  | expired (attempt : Nat)
  | released
  | left
  deriving DecidableEq

structure Entry where
  happening : Happening
  effects : List Effect := []
  deriving DecidableEq

def withMail (supervisor : Supervisor) (mailbox : List Mail) : Supervisor :=
  { supervisor with mailbox }

-- Any of it may come whenever it can: time passes as it likes, and errands run out of it at any
-- moment at which they still wait for something.
inductive Happens (supervisor : Supervisor) : Happening → Outcome → Prop
  | asked (held : supervisor.held = true) (caller : mail.FromCaller) :
      Happens supervisor (.asked mail) (supervisor.post mail, [])
  | read (first : supervisor.mailbox = mail :: rest) :
      Happens supervisor (.read now mail) ((supervisor.withMail rest).read now mail)
  | connectAnswered (waits : supervisor.isAt attempt .connecting = true) :
      Happens supervisor (.connectAnswered attempt answer)
        (supervisor.connectAnswered attempt answer)
  | authAnswered (waits : supervisor.isAt attempt .authenticating = true) :
      Happens supervisor (.authAnswered attempt answer) (supervisor.authAnswered attempt answer, [])
  | linkClosed
      (linked : supervisor.isAt attempt .authenticating = true ∨
        supervisor.isAt attempt .lingering = true) :
      Happens supervisor (.linkClosed attempt) (supervisor.linkClosed attempt, [])
  | expired (running : supervisor.errand? attempt = some errand)
      (waits : errand.stage = .connecting ∨ errand.stage = .authenticating) :
      Happens supervisor (.expired attempt) (supervisor.expire errand, [])
  | released (held : supervisor.held = true) : Happens supervisor .released (supervisor.release, [])
  | left (free : supervisor.held = false) (idle : supervisor.mailbox = [])
      (there : supervisor.exited = false) : Happens supervisor .left supervisor.exit

-- The same told as a function: what comes of a happening, if it can come at all.
def happen? (supervisor : Supervisor) : Happening → Option Outcome
  | .asked mail =>
    if supervisor.held ∧ mail.FromCaller then some (supervisor.post mail, []) else none
  | .read now mail =>
    match supervisor.mailbox with
    | first :: rest =>
      if first = mail then some ((supervisor.withMail rest).read now mail) else none
    | [] => none
  | .connectAnswered attempt answer =>
    if supervisor.isAt attempt .connecting then some (supervisor.connectAnswered attempt answer)
    else none
  | .authAnswered attempt answer =>
    if supervisor.isAt attempt .authenticating then
      some (supervisor.authAnswered attempt answer, [])
    else none
  | .linkClosed attempt =>
    if supervisor.isAt attempt .authenticating ∨ supervisor.isAt attempt .lingering then
      some (supervisor.linkClosed attempt, [])
    else none
  | .expired attempt =>
    match supervisor.errand? attempt with
    | some errand =>
      if errand.stage = .connecting ∨ errand.stage = .authenticating then
        some (supervisor.expire errand, [])
      else none
    | none => none
  | .released => if supervisor.held then some (supervisor.release, []) else none
  | .left =>
    if supervisor.held = false ∧ supervisor.mailbox = [] ∧ supervisor.exited = false then
      some supervisor.exit
    else none

inductive Course : Supervisor → List Entry → Prop
  | start : Course {} []
  | next (course : Course supervisor record) (happens : Happens supervisor happening outcome) :
      Course outcome.1 (record ++ [⟨happening, outcome.2⟩])

def play (happenings : List Happening) : Option (Supervisor × List Entry) :=
  happenings.foldlM (fun (supervisor, record) happening =>
    (supervisor.happen? happening).map fun outcome =>
      (outcome.1, record ++ [⟨happening, outcome.2⟩])) ({}, [])

def Happening.heard? : Happening → Option Lifecycle.Event
  | .read _ mail => mail.event?
  | .asked _ | .connectAnswered .. | .authAnswered .. | .linkClosed _ | .expired _ | .released
  | .left => none

def heard (record : List Entry) : List Lifecycle.Event :=
  record.filterMap fun entry => entry.happening.heard?

-- The transport came up with the link of this attempt, in time.
def Returned (link : Nat) (record : List Entry) : Prop :=
  ∃ entry ∈ record, entry.happening = .connectAnswered link (.ok ())

instance (link : Nat) (record : List Entry) : Decidable (Returned link record) :=
  inferInstanceAs (Decidable (∃ entry ∈ record, _))

-- The link has been told to close.
def Closed (link : Nat) (record : List Entry) : Prop :=
  ∃ entry ∈ record, .close link ∈ entry.effects

-- The link itself has said that it is closed.
def Gone (link : Nat) (record : List Entry) : Prop :=
  ∃ entry ∈ record, entry.happening = .linkClosed link

def Finished (link : Nat) (record : List Entry) : Prop := Closed link record ∨ Gone link record

def Arriving (supervisor : Supervisor) (link : Nat) : Prop :=
  .event (.connected link link) ∈ supervisor.mailbox

variable {supervisor after : Supervisor} {record : List Entry} {entry : Entry} {link attempt : Nat}
  {happening : Happening} {effects : List Effect} {mail : Mail}

theorem returned_snoc : Returned link (record ++ [entry]) ↔
    Returned link record ∨ entry.happening = .connectAnswered link (.ok ()) := by
  simp [Returned, or_and_right, exists_or]

theorem closed_snoc : Closed link (record ++ [entry]) ↔
    Closed link record ∨ .close link ∈ entry.effects := by
  simp [Closed, or_and_right, exists_or]

theorem gone_snoc : Gone link (record ++ [entry]) ↔
    Gone link record ∨ entry.happening = .linkClosed link := by
  simp [Gone, or_and_right, exists_or]

theorem Finished.snoc (finished : Finished link record) (entry : Entry) :
    Finished link (record ++ [entry]) :=
  finished.imp (closed_snoc.mpr ∘ .inl) (gone_snoc.mpr ∘ .inl)

theorem heard_snoc (record : List Entry) (entry : Entry) :
    heard (record ++ [entry]) = heard record ++ entry.happening.heard?.toList := by
  rw [heard, List.filterMap_append, List.filterMap_eq_flatMap_toList _ [entry],
    List.flatMap_singleton, heard]

theorem happen_exact {outcome : Outcome} :
    supervisor.happen? happening = some outcome ↔ Happens supervisor happening outcome := by
  constructor
  · intro came
    cases happening with
    | read now mail =>
      simp only [happen?] at came
      split at came
      · rename_i first rest mails
        split at came
        · rename_i same
          cases came
          exact .read (same ▸ mails)
        · cases came
      · cases came
    | expired attempt =>
      simp only [happen?] at came
      split at came
      · rename_i errand running
        split at came
        · rename_i waits
          cases came
          exact .expired running waits
        · cases came
      · cases came
    | asked mail =>
      obtain ⟨⟨held, caller⟩, rfl⟩ := by simpa [happen?] using came
      exact .asked held caller
    | connectAnswered attempt answer =>
      obtain ⟨waits, rfl⟩ := by simpa [happen?] using came
      exact .connectAnswered waits
    | authAnswered attempt answer =>
      obtain ⟨waits, rfl⟩ := by simpa [happen?] using came
      exact .authAnswered waits
    | linkClosed attempt =>
      obtain ⟨linked, rfl⟩ := by simpa [happen?] using came
      exact .linkClosed linked
    | released =>
      obtain ⟨held, rfl⟩ := by simpa [happen?] using came
      exact .released held
    | left =>
      obtain ⟨⟨free, idle, there⟩, rfl⟩ := by simpa [happen?] using came
      exact .left free idle there
  · intro happens
    cases happens <;> simp_all [happen?]

theorem play_snoc (happenings : List Happening) (happening : Happening) :
    play (happenings ++ [happening]) = (play happenings).bind fun (supervisor, record) =>
      (supervisor.happen? happening).map fun outcome =>
        (outcome.1, record ++ [⟨happening, outcome.2⟩]) := by
  rw [play, List.foldlM_append]
  simp only [List.foldlM_cons, List.foldlM_nil, bind_pure]
  rfl

theorem play_exact {happenings : List Happening} :
    play happenings = some (supervisor, record) ↔
      Course supervisor record ∧ record.map Entry.happening = happenings := by
  constructor
  · intro played
    induction happenings using List.reverseRecOn generalizing supervisor record with
    | nil =>
      cases played
      exact ⟨.start, rfl⟩
    | append_singleton happenings happening ih =>
      rw [play_snoc] at played
      obtain ⟨⟨before, earlier⟩, first, last⟩ := Option.bind_eq_some_iff.mp played
      obtain ⟨outcome, came, same⟩ := Option.map_eq_some_iff.mp last
      cases same
      obtain ⟨course, named⟩ := ih first
      exact ⟨.next course (happen_exact.mp came), by rw [List.map_append, named]; rfl⟩
  · rintro ⟨course, rfl⟩
    induction course with
    | start => rfl
    | next course happens ih =>
      have came := happen_exact.mpr happens
      rw [List.map_append, List.map_singleton, play_snoc, ih, Option.bind_some]
      simp only [came, Option.map_some]

theorem read_withMail (now : Nat) (supervisor : Supervisor) (mailbox : List Mail) (mail : Mail) :
    (supervisor.withMail mailbox).read now mail =
      ((supervisor.read now mail).1.withMail mailbox, (supervisor.read now mail).2) := by
  cases mail with
  | event event =>
    simp only [read, trigger, withMail]
    cases (supervisor.lifecycle.advance event).action <;> rfl
  | observe | unobserve => rfl

theorem readAll_cons (now : Nat) (supervisor : Supervisor) (mail : Mail) (mails : List Mail) :
    supervisor.readAll now (mail :: mails) =
      (((supervisor.read now mail).1.readAll now mails).1,
        (supervisor.read now mail).2 ++ ((supervisor.read now mail).1.readAll now mails).2) := rfl

theorem course_clear (course : Course supervisor record) (now : Nat) :
    ∃ more, Course (supervisor.clear now).1 (record ++ more) ∧
      more.flatMap Entry.effects = (supervisor.clear now).2 ∧
      (supervisor.clear now).1.mailbox = [] := by
  have cleared : supervisor.clear now =
      (supervisor.withMail []).readAll now supervisor.mailbox := rfl
  rw [cleared]
  generalize mails : supervisor.mailbox = mailbox
  induction mailbox generalizing supervisor record with
  | nil =>
    have same : supervisor.withMail [] = supervisor := by rw [withMail, ← mails]
    exact ⟨[], by rwa [readAll, same, List.append_nil], rfl, rfl⟩
  | cons mail rest ih =>
    have left : ((supervisor.withMail rest).read now mail).1.mailbox = rest := by
      rw [read_withMail]
      rfl
    have happens : Happens supervisor (.read now mail) _ := .read mails
    obtain ⟨more, reached, done, empty⟩ := ih (.next course happens) rfl left
    have same : ((supervisor.withMail rest).read now mail).1.withMail [] =
        ((supervisor.withMail []).read now mail).1 := by
      rw [read_withMail, read_withMail]
      rfl
    rw [same, List.append_assoc] at reached
    rw [same] at done empty
    refine ⟨_, reached, ?_, empty⟩
    rw [List.singleton_append, List.flatMap_cons, done, readAll_cons, read_withMail, read_withMail]

end Supervisor
end SecureShell.Connection
