import Mathlib.Data.List.Chain
import SecureShell.Proofs.Sftp.Answers
import SecureShell.Proofs.Sftp.Tasks

namespace SecureShell.Sftp

theorem Reply.page_cases (reply : Reply) :
    (∃ page, reply.Brings .page (.page (some page))) ∨ reply.Brings .page (.page none) ∨
      ∃ fault, reply.Fails .page fault := by
  cases came : reply.bind Reply.page with
  | error fault => exact .inr (.inr ⟨fault, page_error.mp came⟩)
  | ok entries? =>
    cases entries? with
    | none => exact .inr (.inl (page_ok.mp came))
    | some page => exact .inl ⟨page, page_ok.mp came⟩

-- The names a path leads to, each what the server makes of the one before it, as long as none
-- of them resolves to itself and there is one more to be asked for.
structure Leads (path : Octets) (moved : List Octets) (way : List Reply) : Prop where
  heard : List.Forall₂ (fun reply name => reply.Brings .name (.name name)) way moved
  moves : (path :: moved).IsChain (· ≠ ·)
  few : moved.length < 16

-- The last name of all: it is that of the one before, or no more are asked for.
structure Settles (path : Octets) (moved : List Octets) (reply : Reply) (target : Octets) : Prop where
  heard : reply.Brings .name (.name target)
  last : target = (path :: moved).getLast (List.cons_ne_nil path moved) ∨ moved.length + 1 = 16

def Paged (paged : List Reply) (pages : List (List Entry)) : Prop :=
  List.Forall₂ (fun reply page => reply.Brings .page (.page (some page))) paged pages

-- A directory that is open is read page by page up to the first reply that is none, and then
-- closed. That the reading failed counts for more than what came of the closing.
inductive Reads (handle : Octets) : List Reply → List Request → Except SftpFault (List Entry) → Prop
  | broken (brings : Paged paged pages) (fails : ending.Fails .page fault) (closed : Reply) :
      Reads handle (paged ++ [ending, closed])
        (List.replicate (pages.length + 1) (.readdir handle) ++ [.close handle]) (.error fault)
  | unclosed (brings : Paged paged pages) (ends : ending.Brings .page (.page none))
      (fails : closed.Fails .done fault) :
      Reads handle (paged ++ [ending, closed])
        (List.replicate (pages.length + 1) (.readdir handle) ++ [.close handle]) (.error fault)
  | whole (brings : Paged paged pages) (ends : ending.Brings .page (.page none))
      (closes : closed.Brings .done .done) :
      Reads handle (paged ++ [ending, closed])
        (List.replicate (pages.length + 1) (.readdir handle) ++ [.close handle]) (.ok pages.flatten)

-- What there is to tell of that. All is well only where the pages came to an end and the closing was
-- granted.
structure Told (handle : Octets) (used : List Reply) (asked : List Request)
    (listed : Except SftpFault (List Entry)) (paged : List Reply) (pages : List (List Entry))
    (ending closed : Reply) : Prop where
  heard : used = paged ++ [ending, closed]
  brings : Paged paged pages
  asks : asked = List.replicate (pages.length + 1) (.readdir handle) ++ [.close handle]
  last : ∀ page, ¬ ending.Brings .page (.page (some page))
  well : ∀ entries, listed = .ok entries ↔
    ending.Brings .page (.page none) ∧ closed.Brings .done .done ∧ entries = pages.flatten
  ill : ∀ fault, listed = .error fault ↔
    ending.Fails .page fault ∨ ending.Brings .page (.page none) ∧ closed.Fails .done fault

-- The replies to a listing from the first to the last, what was asked for, and what it came to.
inductive Listed (path : Octets) : List Reply → List Request → Except SftpFault (List Entry) → Prop
  | unresolved (leads : Leads path moved way) (fails : reply.Fails .name fault) :
      Listed path (way ++ [reply]) ((path :: moved).map .realpath) (.error fault)
  | unopened (leads : Leads path moved way) (settles : Settles path moved reply target)
      (fails : opened.Fails .handle fault) :
      Listed path (way ++ [reply, opened]) ((path :: moved).map .realpath ++ [.opendir target])
        (.error fault)
  | opened (leads : Leads path moved way) (settles : Settles path moved reply target)
      (opens : opened.Brings .handle (.handle handle)) (reads : Reads handle used asked listed) :
      Listed path (way ++ reply :: opened :: used)
        ((path :: moved).map .realpath ++ .opendir target :: asked) listed

namespace Listing

variable {handle path : Octets} {entries : List Entry} {left : Nat} {reply : Reply}
  {replies way paged : List Reply} {moved : List Octets} {pages : List (List Entry)}

def course (move : Move) (replies : List Reply) : Exchange (List Entry) :=
  Progress.exchange resume move replies

theorem course_ask (request : Request) (listing : Listing) (reply : Reply) (replies : List Reply) :
    course (.ask request listing) (reply :: replies) =
      (course (listing.resume reply) replies).after [request] := rfl

theorem course_close (handle : Octets) (listed : Except SftpFault (List Entry)) (closed : Reply)
    (more : List Reply) :
    course (close handle listed) (closed :: more) =
      ⟨[.close handle],
        some (listed.bind fun entries => (closed.bind Reply.done).map fun () => entries)⟩ := by
  cases more <;> rfl

theorem course_pages (brings : Paged paged pages) (entries : List Entry)
    (rest : List Reply) :
    course (.ask (.readdir handle) (.reading handle entries)) (paged ++ rest) =
      (course (.ask (.readdir handle) (.reading handle (entries ++ pages.flatten))) rest).after
        (List.replicate pages.length (.readdir handle)) := by
  induction brings generalizing entries with
  | nil => simp [Exchange.after]
  | @cons reply page paged pages here later ih =>
    have onward : (reading handle entries).resume reply =
        .ask (.readdir handle) (.reading handle (entries ++ page)) := by
      simp only [resume, Reply.page_ok.mpr here]
    rw [List.cons_append, course_ask, onward, ih]
    simp [Exchange.after, List.replicate_succ]

theorem course_reads {asked : List Request} {listed : Except SftpFault (List Entry)}
    (reads : Reads handle replies asked listed) (more : List Reply) :
    course (.ask (.readdir handle) (.reading handle [])) (replies ++ more) = ⟨asked, some listed⟩ := by
  cases reads with
  | @broken paged pages ending fault brings fails closed =>
    have onward (entries) : (reading handle entries).resume ending = close handle (.error fault) := by
      simp only [resume, Reply.page_error.mpr fails]
    rw [List.append_assoc, course_pages brings, List.cons_append, course_ask, onward,
      List.cons_append, course_close]
    simp [Exchange.after, List.replicate_succ', Except.bind]
  | @unclosed paged pages ending closed fault brings ends fails =>
    have onward (entries) : (reading handle entries).resume ending = close handle (.ok entries) := by
      simp only [resume, Reply.page_ok.mpr ends]
    rw [List.append_assoc, course_pages brings, List.cons_append, course_ask, onward,
      List.cons_append, course_close, Reply.done_error.mpr fails]
    simp [Exchange.after, List.replicate_succ', Except.bind, Except.map]
  | @whole paged pages ending closed brings ends closes =>
    have onward (entries) : (reading handle entries).resume ending = close handle (.ok entries) := by
      simp only [resume, Reply.page_ok.mpr ends]
    rw [List.append_assoc, course_pages brings, List.cons_append, course_ask, onward,
      List.cons_append, course_close, Reply.done_ok.mpr closes]
    simp [Exchange.after, List.replicate_succ', Except.bind, Except.map]

theorem course_leads (heard : List.Forall₂ (fun reply name => reply.Brings .name (.name name)) way moved)
    (moves : (path :: moved).IsChain (· ≠ ·)) (few : moved.length ≤ left) (reply : Reply)
    (rest : List Reply) :
    course (.ask (.realpath path) (.resolving path left)) (way ++ reply :: rest) =
      (course ((resolving ((path :: moved).getLast (List.cons_ne_nil path moved))
        (left - moved.length)).resume reply) rest).after ((path :: moved).map .realpath) := by
  induction heard generalizing path left with
  | nil => exact course_ask (.realpath path) (.resolving path left) reply rest
  | @cons other name way moved here later ih =>
    obtain ⟨differs, onward⟩ := List.isChain_cons_cons.mp moves
    obtain ⟨less, rfl⟩ : ∃ less, left = less + 1 := Nat.exists_eq_succ_of_ne_zero (by
      rw [List.length_cons] at few
      omega)
    have moved : (resolving path (less + 1)).resume other =
        .ask (.realpath name) (.resolving name less) := by
      simp only [resume, Reply.name_ok.mpr here, if_neg differs.symm, resolve]
    rw [List.cons_append, course_ask, moved, ih onward (Nat.le_of_succ_le_succ few)]
    simp [Exchange.after]

theorem course_decided {target : Octets} (settles : Settles path moved reply target)
    (leads : Leads path moved way) (rest : List Reply) :
    course (start path) (way ++ reply :: rest) =
      (course (.ask (.opendir target) .opening) rest).after ((path :: moved).map .realpath) := by
  have few := leads.few
  have stops : (if target = (path :: moved).getLast (List.cons_ne_nil path moved) then 0
      else 15 - moved.length) = 0 := by
    split
    · rfl
    · rename_i other
      have all := settles.last.resolve_left other
      omega
  have decides : (resolving ((path :: moved).getLast (List.cons_ne_nil path moved))
      (15 - moved.length)).resume reply = .ask (.opendir target) .opening := by
    simp only [resume, Reply.name_ok.mpr settles.heard, stops, resolve]
  rw [← decides]
  exact course_leads leads.heard leads.moves (Nat.le_of_lt_succ leads.few) reply rest

theorem course_listed {asked : List Request} {listed : Except SftpFault (List Entry)}
    (came : Listed path replies asked listed) (more : List Reply) :
    course (start path) (replies ++ more) = ⟨asked, some listed⟩ := by
  cases came with
  | @unresolved moved way reply fault leads fails =>
    have ends : (resolving ((path :: moved).getLast (List.cons_ne_nil path moved))
        (15 - moved.length)).resume reply = .finish (.error fault) := by
      simp only [resume, Reply.name_error.mpr fails]
    have same := course_leads leads.heard leads.moves (Nat.le_of_lt_succ leads.few) reply more
    rw [ends] at same
    rw [List.append_assoc]
    apply same.trans
    cases more <;> simp [course, Progress.exchange, Exchange.after]
  | @unopened moved way reply target opened fault leads settles fails =>
    have ends : opening.resume opened = .finish (.error fault) := by
      simp only [resume, Reply.handle_error.mpr fails]
    rw [List.append_assoc, List.cons_append, course_decided settles leads, List.cons_append, course_ask,
      ends]
    cases more <;> simp [course, Progress.exchange, Exchange.after]
  | @opened moved way reply target handle used asked listed opened leads settles opens reads =>
    have onward : opening.resume opened = .ask (.readdir handle) (.reading handle []) := by
      simp only [resume, Reply.handle_ok.mpr opens]
    rw [List.append_assoc, List.cons_append, course_decided settles leads, List.cons_append, course_ask,
      onward, course_reads reads]
    rfl

-- A call that comes to its end has come as described, phase by phase.

theorem closed_by (came : (course (close handle listed) replies).result? ≠ none) :
    ∃ closed more, replies = closed :: more := by
  cases replies with
  | nil => exact absurd rfl came
  | cons closed more => exact ⟨closed, more, rfl⟩

theorem exists_reads (came : (course (.ask (.readdir handle) (.reading handle entries)) replies).result? ≠
    none) : ∃ used more asked listed, replies = used ++ more ∧ Reads handle used asked listed := by
  induction replies generalizing entries with
  | nil => exact absurd rfl came
  | cons reply replies ih =>
    rw [course_ask] at came
    rcases Reply.page_cases reply with ⟨page, brings⟩ | ends | ⟨fault, fails⟩
    · have onward : (reading handle entries).resume reply =
          .ask (.readdir handle) (.reading handle (entries ++ page)) := by
        simp only [resume, Reply.page_ok.mpr brings]
      rw [onward] at came
      obtain ⟨used, more, asked, listed, rfl, reads⟩ := ih came
      cases reads with
      | broken later fails closed => exact ⟨_, more, _, _, rfl, .broken (.cons brings later) fails closed⟩
      | unclosed later ends fails => exact ⟨_, more, _, _, rfl, .unclosed (.cons brings later) ends fails⟩
      | whole later ends closes => exact ⟨_, more, _, _, rfl, .whole (.cons brings later) ends closes⟩
    · have onward : (reading handle entries).resume reply = close handle (.ok entries) := by
        simp only [resume, Reply.page_ok.mpr ends]
      rw [onward] at came
      obtain ⟨closed, more, rfl⟩ := closed_by came
      cases closes : closed.bind Reply.done with
      | error fault => exact ⟨_, more, _, _, rfl, .unclosed .nil ends (Reply.done_error.mp closes)⟩
      | ok done => exact ⟨_, more, _, _, rfl, .whole .nil ends (Reply.done_ok.mp closes)⟩
    · have onward : (reading handle entries).resume reply = close handle (.error fault) := by
        simp only [resume, Reply.page_error.mpr fails]
      rw [onward] at came
      obtain ⟨closed, more, rfl⟩ := closed_by came
      exact ⟨_, more, _, _, rfl, .broken .nil fails closed⟩

theorem exists_decides (came : (course (.ask (.realpath path) (.resolving path left)) replies).result? ≠
    none) :
    ∃ moved way reply rest, replies = way ++ reply :: rest ∧
      List.Forall₂ (fun reply name => reply.Brings .name (.name name)) way moved ∧
      (path :: moved).IsChain (· ≠ ·) ∧ moved.length ≤ left ∧
      ((∃ fault, reply.Fails .name fault) ∨
        ∃ target, reply.Brings .name (.name target) ∧
          (target = (path :: moved).getLast (List.cons_ne_nil path moved) ∨ moved.length = left) ∧
          (course (.ask (.opendir target) .opening) rest).result? ≠ none) := by
  induction replies generalizing path left with
  | nil => exact absurd rfl came
  | cons reply replies ih =>
    rw [course_ask] at came
    cases heard : reply.bind Reply.name with
    | error fault =>
      exact ⟨[], [], reply, replies, rfl, .nil, .singleton path, Nat.zero_le _,
        .inl ⟨fault, Reply.name_error.mp heard⟩⟩
    | ok name =>
      have onward : (resolving path left).resume reply = resolve name (if name = path then 0 else left) := by
        simp only [resume, heard]
      have named := Reply.name_ok.mp heard
      rw [onward] at came
      by_cases still : name = path
      · rw [if_pos still] at came
        exact ⟨[], [], reply, replies, rfl, .nil, .singleton path, Nat.zero_le _,
          .inr ⟨name, named, .inl still, came⟩⟩
      · rw [if_neg still] at came
        cases left with
        | zero =>
          exact ⟨[], [], reply, replies, rfl, .nil, .singleton path, Nat.le_refl _,
            .inr ⟨name, named, .inr rfl, came⟩⟩
        | succ left =>
          obtain ⟨moved, way, last, rest, rfl, later, moves, few, decides⟩ := ih came
          refine ⟨name :: moved, reply :: way, last, rest, rfl, .cons named later,
            .cons_cons (Ne.symm still) moves, Nat.succ_le_succ few, ?_⟩
          rw [List.getLast_cons (List.cons_ne_nil name moved), List.length_cons, Nat.add_right_cancel_iff]
          exact decides

theorem exists_listed (came : (course (start path) replies).result? ≠ none) :
    ∃ used more asked listed, replies = used ++ more ∧ Listed path used asked listed := by
  obtain ⟨moved, way, reply, rest, rfl, heard, moves, few, decides⟩ := exists_decides came
  have leads : Leads path moved way := ⟨heard, moves, Nat.lt_succ_of_le few⟩
  rcases decides with ⟨fault, fails⟩ | ⟨target, named, last, onward⟩
  · exact ⟨way ++ [reply], rest, _, _, by simp, .unresolved leads fails⟩
  · have settles : Settles path moved reply target := ⟨named, last.imp_right (congrArg (· + 1))⟩
    cases rest with
    | nil => exact absurd rfl onward
    | cons opened rest =>
      rw [course_ask] at onward
      cases opens : opened.bind Reply.handle with
      | error fault =>
        have fails := Reply.handle_error.mp opens
        exact ⟨way ++ [reply, opened], rest, _, _, by simp, .unopened leads settles fails⟩
      | ok handle =>
        have reads : opening.resume opened = .ask (.readdir handle) (.reading handle []) := by
          simp only [resume, opens]
        rw [reads] at onward
        obtain ⟨used, more, asked, listed, rfl, reads⟩ := exists_reads onward
        have came := Reply.handle_ok.mp opens
        exact ⟨way ++ reply :: opened :: used, more, _, _, by simp, .opened leads settles came reads⟩

theorem course_exact {asked : List Request} {listed : Except SftpFault (List Entry)} :
    course (start path) replies = ⟨asked, some listed⟩ ↔
      ∃ used more, replies = used ++ more ∧ Listed path used asked listed := by
  constructor
  · intro came
    have ended : (course (start path) replies).result? ≠ none := by
      rw [came]
      nofun
    obtain ⟨used, more, others, other, rfl, came'⟩ := exists_listed ended
    have same := (course_listed came' more).symm.trans came
    cases same
    exact ⟨used, more, rfl, came'⟩
  · rintro ⟨used, more, rfl, came⟩
    exact course_listed came more

theorem reads_told {asked : List Request} {listed : Except SftpFault (List Entry)}
    (reads : Reads handle replies asked listed) :
    ∃ paged pages ending closed, Told handle replies asked listed paged pages ending closed := by
  cases reads with
  | @broken paged pages ending fault brings fails closed =>
    refine ⟨paged, pages, ending, closed, rfl, brings, rfl, ?_, ?_, ?_⟩
    all_goals simp only [← Reply.page_ok, ← Reply.page_error, ← Reply.done_error] at fails ⊢
    all_goals simp [fails]
  | @unclosed paged pages ending closed fault brings ends fails =>
    refine ⟨paged, pages, ending, closed, rfl, brings, rfl, ?_, ?_, ?_⟩
    all_goals simp only [← Reply.page_ok, ← Reply.page_error, ← Reply.done_ok, ← Reply.done_error]
      at ends fails ⊢
    all_goals simp [ends, fails]
  | @whole paged pages ending closed brings ends closes =>
    refine ⟨paged, pages, ending, closed, rfl, brings, rfl, ?_, ?_, ?_⟩
    all_goals simp only [← Reply.page_ok, ← Reply.page_error, ← Reply.done_ok, ← Reply.done_error]
      at ends closes ⊢
    all_goals simp [ends, closes, eq_comm]

-- Whatever a server makes of it, a listing goes by the replies alone, and closes what it opened.
theorem directory_listed (settings : Settings) (path : Octets) (replies : List Reply) :
    let course := Procedure.exchange (Procedure.start settings (.list path)) replies
    (∀ asked result, course = ⟨asked, some result⟩ ↔
      ∃ used more listed, replies = used ++ more ∧ Listed path used asked listed ∧
        result = listed.map .entries) ∧
    (course.result? = none → course.asked.length = replies.length + 1) ∧
    ∀ handle used asked listed, Reads handle used asked listed →
      ∃ paged pages ending closed, Told handle used asked listed paged pages ending closed := by
  intro course
  have same : course = (Listing.course (start path) replies).map .entries :=
    Procedure.exchange_ofProgress (fun _ _ => rfl) (start path) replies
  refine ⟨?_, ?_, fun handle used asked listed reads => reads_told reads⟩
  · intro asked result
    rw [same]
    constructor
    · intro came
      cases ended : (Listing.course (start path) replies).result? with
      | none => simp [Exchange.map, ended] at came
      | some listed =>
        have whole : Listing.course (start path) replies =
            ⟨(Listing.course (start path) replies).asked, some listed⟩ := by rw [← ended]
        obtain ⟨used, more, split, came'⟩ := course_exact.mp whole
        rw [whole] at came
        cases came
        exact ⟨used, more, listed, split, came', rfl⟩
    · rintro ⟨used, more, listed, split, came, rfl⟩
      rw [course_exact.mpr ⟨used, more, split, came⟩]
      rfl
  · intro waits
    have open' : (Listing.course (start path) replies).result? = none := by
      simpa [same, Exchange.map] using waits
    rw [same]
    exact Progress.exchange_waits (start path) replies open'

-- A path that leads on twice, and two pages with an empty one between them.
def slashed (name : Octets) : Octets := 0x2f :: name

def entry (name : Octets) : Entry := ⟨name, "", {}⟩

def winding : List Reply :=
  [.ok (.response 0 (.names [entry (slashed [0x61]), entry []])),
   .ok (.response 1 (.names [entry (slashed [0x62])])),
   .ok (.response 2 (.names [entry (slashed [0x62])])),
   .ok (.response 3 (.handle [0x68])),
   .ok (.response 4 (.names [entry [0x31], entry [0x32]])),
   .ok (.response 5 (.names [])),
   .ok (.response 6 (.names [entry [0x33]])),
   .ok (.response 7 (.status ⟨.eof, "", ""⟩))]

def parting (code : StatusCode) : Reply := .ok (.response 8 (.status ⟨code, "", ""⟩))

theorem directory_listed_winding :
    let requests := [.realpath [0x2e], .realpath (slashed [0x61]), .realpath (slashed [0x62]),
      .opendir (slashed [0x62]), .readdir [0x68], .readdir [0x68], .readdir [0x68], .readdir [0x68],
      .close [0x68]]
    Procedure.exchange (Procedure.start {} (.list [0x2e])) (winding ++ [parting .ok]) =
      ⟨requests, some (.ok (.entries [entry [0x31], entry [0x32], entry [0x33]]))⟩ ∧
    Procedure.exchange (Procedure.start {} (.list [0x2e])) (winding ++ [parting .failure]) =
      ⟨requests, some (.error (.refused ⟨.failure, "", ""⟩))⟩ ∧
    ((Procedure.exchange (Procedure.start {} (.list [0x2e])) winding).result? = none ∧
      (Procedure.exchange (Procedure.start {} (.list [0x2e])) winding).asked.length = 9) ∧
    ∃ paged pages ending closed, Told [0x68] (winding.drop 4 ++ [parting .failure])
      (.replicate 4 (.readdir [0x68]) ++ [.close [0x68]]) (.error (.refused ⟨.failure, "", ""⟩))
      paged pages ending closed := by
  intro requests
  have leads : Leads [0x2e] [slashed [0x61], slashed [0x62]] (winding.take 2) :=
    ⟨.cons ⟨_, rfl, .name⟩ (.cons ⟨_, rfl, .name⟩ .nil), by decide, by decide⟩
  have settles : Settles [0x2e] [slashed [0x61], slashed [0x62]]
      (.ok (.response 2 (.names [entry (slashed [0x62])]))) (slashed [0x62]) :=
    ⟨⟨_, rfl, .name⟩, .inl rfl⟩
  have opens : Reply.Brings (.ok (.response 3 (.handle [0x68]))) .handle (.handle [0x68]) :=
    ⟨_, rfl, .handle⟩
  have brings : Paged ((winding.drop 4).take 3) [[entry [0x31], entry [0x32]], [], [entry [0x33]]] :=
    .cons ⟨_, rfl, .names⟩ (.cons ⟨_, rfl, .names⟩ (.cons ⟨_, rfl, .names⟩ .nil))
  have ends : Reply.Brings (.ok (.response 7 (.status ⟨.eof, "", ""⟩))) .page (.page none) :=
    ⟨_, rfl, .endOfListing rfl⟩
  have whole : Reads [0x68] (winding.drop 4 ++ [parting .ok])
      (.replicate 4 (.readdir [0x68]) ++ [.close [0x68]])
      (.ok [entry [0x31], entry [0x32], entry [0x33]]) :=
    .whole brings ends ⟨_, rfl, .done (.inl rfl)⟩
  have unclosed : Reads [0x68] (winding.drop 4 ++ [parting .failure])
      (.replicate 4 (.readdir [0x68]) ++ [.close [0x68]]) (.error (.refused ⟨.failure, "", ""⟩)) :=
    .unclosed brings ends (.inr ⟨_, rfl, .refused (by decide) (by decide)⟩)
  refine ⟨?_, ?_, ⟨rfl, (directory_listed {} [0x2e] winding).2.1 rfl⟩, ?_⟩
  · apply ((directory_listed {} [0x2e] (winding ++ [parting .ok])).1 _ _).mpr
    exact ⟨winding ++ [parting .ok], [], _, rfl, .opened leads settles opens whole, rfl⟩
  · apply ((directory_listed {} [0x2e] (winding ++ [parting .failure])).1 _ _).mpr
    exact ⟨winding ++ [parting .failure], [], _, rfl, .opened leads settles opens unclosed, rfl⟩
  · exact (directory_listed {} [0x2e] winding).2.2 _ _ _ _ unclosed

end Listing
end SecureShell.Sftp
