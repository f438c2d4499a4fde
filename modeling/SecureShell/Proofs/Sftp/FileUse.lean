import SecureShell.Proofs.Sftp.Answers
import SecureShell.Proofs.Sftp.Tasks

namespace SecureShell.Sftp

def Request.Uses (handle : Octets) : Request → Prop
  | .read other _ _ | .write other _ _ | .fstat other | .fsetstat other _ => other = handle
  | _ => False

-- A task on an open file that has come to its end with the last of these replies.
def Did (file : OpenFile) (task : FileTask) (heard : List Reply) (asked : List Request)
    (result : Except SftpFault FileResult) : Prop :=
  Progress.exchange file.resume (file.start task) heard = ⟨asked, some result⟩ ∧
    asked.length = heard.length

-- What is done with a file while it is open, from the first action to the one that fails if any
-- does: the replies, the requests, and what it comes to.
inductive Used (file : OpenFile) :
    List FileAction → List Reply → List Request → Except SftpFault (List FileResult) → Prop
  | stops : Used file [] [] [] (.ok [])
  | fails (fault : SftpFault) (actions : List FileAction) :
      Used file (.fail fault :: actions) [] [] (.error fault)
  | does (excused : Bool) (did : Did file task heard asked (.ok result))
      (later : Used file actions replies more outcome) :
      Used file (.perform task excused :: actions) (heard ++ replies) (asked ++ more)
        (outcome.map (result :: ·))
  | passes (did : Did file task heard asked (.error fault))
      (later : Used file actions replies more outcome) :
      Used file (.perform task true :: actions) (heard ++ replies) (asked ++ more) outcome
  | breaks (did : Did file task heard asked (.error fault)) (actions : List FileAction) :
      Used file (.perform task false :: actions) heard asked (.error fault)

-- What a use comes to with its closing: that the use failed counts for more than what came of the
-- closing.
inductive Concludes :
    Except SftpFault (List FileResult) → Reply → Except SftpFault Result → Prop
  | failed (fault : SftpFault) (closed : Reply) : Concludes (.error fault) closed (.error fault)
  | unclosed (results : List FileResult) (fails : closed.Fails .done fault) :
      Concludes (.ok results) closed (.error fault)
  | well (results : List FileResult) (closes : closed.Brings .done .done) :
      Concludes (.ok results) closed (.ok (.files results))

theorem concludes_iff {outcome : Except SftpFault (List FileResult)} {closed : Reply}
    {result : Except SftpFault Result} :
    Concludes outcome closed result ↔
      result = outcome.bind fun results => (closed.bind Reply.done).map fun () => .files results := by
  constructor
  · rintro (⟨fault, _⟩ | ⟨results, fails⟩ | ⟨results, closes⟩)
    · rfl
    · rw [Except.bind, Reply.done_error.mpr fails]
      rfl
    · rw [Except.bind, Reply.done_ok.mpr closes]
      rfl
  · rintro rfl
    cases outcome with
    | error fault => exact .failed fault closed
    | ok results =>
      rw [Except.bind]
      cases came : closed.bind Reply.done with
      | error fault => exact .unclosed results (Reply.done_error.mp came)
      | ok done => exact .well results (Reply.done_ok.mp came)

namespace OpenFile

variable {file : OpenFile} {work rest : FileWork} {request : Request}

theorem readOn_uses (offset : UInt64) (content : Octets) (asks : file.readOn offset content = .ask request rest) :
    request.Uses file.handle := by
  cases asks
  rfl

theorem writeOn_uses (offset : UInt64) (data : Octets) (asks : file.writeOn offset data = .ask request rest) :
    request.Uses file.handle := by
  unfold writeOn at asks
  split at asks
  · cases asks
  · cases asks
    rfl

theorem start_uses (task : FileTask) (asks : file.start task = .ask request rest) :
    request.Uses file.handle := by
  cases task with
  | read | fstat | fsetstat =>
    cases asks
    rfl
  | readToEnd offset => exact readOn_uses offset [] asks
  | write offset data => exact writeOn_uses offset data asks

theorem resume_uses (work : FileWork) (reply : Reply) (asks : file.resume work reply = .ask request rest) :
    request.Uses file.handle := by
  unfold resume at asks
  split at asks
  · cases asks
  · split at asks
    · cases asks
    · split at asks
      · cases asks
      · exact readOn_uses _ _ asks
  · split at asks
    · cases asks
    · exact writeOn_uses _ _ asks
  · cases asks
  · cases asks

end OpenFile

namespace Progress

variable {work result : Type} {resume : work → Reply → Progress work result}

theorem exchange_asks {Kind : Request → Prop}
    (resumes : ∀ work reply request rest, resume work reply = .ask request rest → Kind request)
    (progress : Progress work result)
    (starts : ∀ request rest, progress = .ask request rest → Kind request) (replies : List Reply) :
    ∀ request ∈ (exchange resume progress replies).asked, Kind request := by
  have finished (result : Except SftpFault result) (replies : List Reply) :
      ∀ request ∈ (exchange resume (.finish result) replies).asked, Kind request := by
    rw [exchange_finish]
    exact List.forall_mem_nil Kind
  induction replies generalizing progress with
  | nil =>
    cases progress with
    | finish result => exact finished result []
    | ask request work => exact List.forall_mem_singleton.mpr (starts request work rfl)
  | cons reply replies ih =>
    cases progress with
    | finish result => exact finished result (reply :: replies)
    | ask request work =>
      exact List.forall_mem_cons.mpr
        ⟨starts request work rfl, ih (resume work reply) (resumes work reply)⟩

theorem exchange_splits (progress : Progress work result) (replies : List Reply)
    (ends : (exchange resume progress replies).result? ≠ none) :
    ∃ heard rest asked result, replies = heard ++ rest ∧
      exchange resume progress heard = ⟨asked, some result⟩ ∧ asked.length = heard.length := by
  induction replies generalizing progress with
  | nil =>
    cases progress with
    | finish result => exact ⟨[], [], [], result, rfl, rfl, rfl⟩
    | ask request work => exact absurd rfl ends
  | cons reply replies ih =>
    cases progress with
    | finish result => exact ⟨[], reply :: replies, [], result, rfl, rfl, rfl⟩
    | ask request work =>
      obtain ⟨heard, rest, asked, result, rfl, whole, long⟩ := ih (resume work reply) ends
      refine ⟨reply :: heard, rest, request :: asked, result, rfl, ?_, congrArg (· + 1) long⟩
      rw [exchange, whole]

end Progress

namespace Procedure

variable {file : OpenFile} {handle : Octets}

-- As long as a file is open for a task, the task makes use of it, waits for ever, or closes it.
inductive Minds (file : OpenFile) : Move → Prop
  | uses (uses : request.Uses file.handle) (work : FileWork) (excused : Bool)
      (actions : List FileAction) (results : List FileResult) :
      Minds file (.ask request (.working file work excused actions results))
  | hangs : Minds file (.stay (.hanging file))
  | closes (results : Except SftpFault (List FileResult)) : Minds file (closeWith file results)

def onward (file : OpenFile) (excused : Bool) (actions : List FileAction) (results : List FileResult) :
    Progress FileWork FileResult → Move
  | .ask request work => .ask request (.working file work excused actions results)
  | .finish result => useOn file (useFile file actions) excused results result

theorem useFile_perform (task : FileTask) (excused : Bool) (actions : List FileAction)
    (results : List FileResult) :
    useFile file (.perform task excused :: actions) results =
      onward file excused actions results (file.start task) := by
  rw [useFile]
  cases file.start task <;> rfl

theorem resume_working (work : FileWork) (excused : Bool) (actions : List FileAction)
    (results : List FileResult) (reply : Reply) :
    (working file work excused actions results).resume reply =
      onward file excused actions results (file.resume work reply) := by
  rw [resume]
  cases file.resume work reply <;> rfl

theorem useOn_minds {next : List FileResult → Move} (minds : ∀ results, Minds file (next results))
    (excused : Bool) (results : List FileResult) (result : Except SftpFault FileResult) :
    Minds file (useOn file next excused results result) := by
  cases result with
  | ok result => exact minds (results ++ [result])
  | error fault =>
    cases excused with
    | true => exact minds results
    | false => exact .closes (.error fault)

theorem onward_minds {actions : List FileAction} (minds : ∀ results, Minds file (useFile file actions results))
    (excused : Bool) (results : List FileResult) {progress : Progress FileWork FileResult}
    (uses : ∀ request rest, progress = .ask request rest → request.Uses file.handle) :
    Minds file (onward file excused actions results progress) := by
  cases progress with
  | ask request work => exact .uses (uses request work rfl) work excused actions results
  | finish result => exact useOn_minds minds excused results result

theorem useFile_minds (actions : List FileAction) (results : List FileResult) :
    Minds file (useFile file actions results) := by
  induction actions generalizing results with
  | nil => exact .closes (.ok results)
  | cons action actions ih =>
    cases action with
    | fail fault => exact .closes (.error fault)
    | hang => exact .hangs
    | perform task excused =>
      rw [useFile_perform]
      exact onward_minds ih excused results fun request rest => OpenFile.start_uses task

theorem exchange_closeWith (results : Except SftpFault (List FileResult)) (closed : Reply)
    (more : List Reply) :
    exchange (closeWith file results) (closed :: more) =
      ⟨[.close file.handle],
        some (results.bind fun results => (closed.bind Reply.done).map fun () => .files results)⟩ := by
  cases more <;> rfl

theorem exchange_hanging (file : OpenFile) (replies : List Reply) :
    exchange (.stay (.hanging file)) replies = ⟨[], none⟩ := by
  induction replies with
  | nil => rfl
  | cons reply replies ih => exact ih

theorem parting_hanging (file : OpenFile) (replies : List Reply) :
    parting (.stay (.hanging file)) replies = [.close file.handle] := by
  induction replies with
  | nil => rfl
  | cons reply replies ih => exact ih

theorem parting_closeWith (file : OpenFile) (results : Except SftpFault (List FileResult))
    (replies : List Reply) : parting (closeWith file results) replies = [] := by
  cases replies with
  | nil => rfl
  | cons reply replies =>
    have ended : reached (closeWith file results) (reply :: replies) = none := reached_finish _ replies
    rw [parting, ended]
    rfl

theorem exchange_closeWith_asked (results : Except SftpFault (List FileResult)) (replies : List Reply) :
    (exchange (closeWith file results) replies).asked = [.close file.handle] := by
  cases replies with
  | nil => rfl
  | cons closed more => rw [exchange_closeWith]

theorem minds_closes {move : Move} (minds : Minds file move) (replies : List Reply) :
    ∃ uses, (∀ request ∈ uses, request.Uses file.handle) ∧
      (exchange move replies).asked ++ parting move replies = uses ++ [.close file.handle] := by
  induction replies generalizing move with
  | nil =>
    cases minds with
    | @uses request uses work excused actions results =>
      exact ⟨[request], List.forall_mem_singleton.mpr uses, rfl⟩
    | hangs => exact ⟨[], List.forall_mem_nil _, rfl⟩
    | closes results => exact ⟨[], List.forall_mem_nil _, rfl⟩
  | cons reply replies ih =>
    cases minds with
    | @uses request here work excused actions results =>
      have next : Minds file ((working file work excused actions results).resume reply) := by
        rw [resume_working]
        exact onward_minds (useFile_minds actions) excused results fun request rest =>
          OpenFile.resume_uses work reply
      obtain ⟨uses, kind, closes⟩ := ih next
      refine ⟨request :: uses, List.forall_mem_cons.mpr ⟨here, kind⟩, ?_⟩
      rw [List.cons_append, ← closes]
      rfl
    | hangs =>
      refine ⟨[], List.forall_mem_nil _, ?_⟩
      rw [exchange_hanging, parting_hanging, List.nil_append]
    | closes results =>
      refine ⟨[], List.forall_mem_nil _, ?_⟩
      rw [exchange_closeWith_asked, parting_closeWith]
      rfl

theorem exchange_onward (excused : Bool) (actions : List FileAction) (results : List FileResult)
    {progress : Progress FileWork FileResult} {heard : List Reply} {asked : List Request}
    {result : Except SftpFault FileResult}
    (whole : Progress.exchange file.resume progress heard = ⟨asked, some result⟩)
    (long : asked.length = heard.length) (rest : List Reply) :
    exchange (onward file excused actions results progress) (heard ++ rest) =
      (exchange (useOn file (useFile file actions) excused results result) rest).after asked := by
  induction heard generalizing progress asked with
  | nil =>
    cases progress with
    | finish result =>
      cases whole
      rfl
    | ask request work => cases whole
  | cons reply heard ih =>
    cases progress with
    | finish result =>
      cases whole
      cases long
    | ask request work =>
      rw [Progress.exchange, Exchange.mk.injEq] at whole
      obtain ⟨rfl, ends⟩ := whole
      have later : Progress.exchange file.resume (file.resume work reply) heard =
          ⟨(Progress.exchange file.resume (file.resume work reply) heard).asked, some result⟩ := by
        rw [← ends]
      rw [onward, List.cons_append, exchange, resume_working, ih later (Nat.succ.inj long)]
      rfl

theorem exchange_onward_waits (excused : Bool) (actions : List FileAction) (results : List FileResult)
    {progress : Progress FileWork FileResult} {replies : List Reply}
    (waits : (Progress.exchange file.resume progress replies).result? = none) :
    (exchange (onward file excused actions results progress) replies).result? = none := by
  induction replies generalizing progress with
  | nil =>
    cases progress with
    | finish result => cases waits
    | ask request work => rfl
  | cons reply replies ih =>
    cases progress with
    | finish result => cases waits
    | ask request work =>
      rw [onward, exchange, resume_working]
      exact ih waits

def closing (results : List FileResult) (outcome : Except SftpFault (List FileResult)) (closed : Reply) :
    Except SftpFault Result :=
  outcome.bind fun later => (closed.bind Reply.done).map fun () => .files (results ++ later)

theorem exchange_used {actions : List FileAction} {replies : List Reply} {asked : List Request}
    {outcome : Except SftpFault (List FileResult)} (used : Used file actions replies asked outcome)
    (results : List FileResult) (closed : Reply) (more : List Reply) :
    exchange (useFile file actions results) (replies ++ closed :: more) =
      ⟨asked ++ [.close file.handle], some (closing results outcome closed)⟩ := by
  induction used generalizing results with
  | stops =>
    rw [useFile, List.nil_append, exchange_closeWith]
    simp [closing, Except.bind]
  | fails fault actions => exact exchange_closeWith (.error fault) closed more
  | @does task heard asked result actions replies later outcome excused did used ih =>
    rw [useFile_perform, List.append_assoc, exchange_onward excused actions results did.1 did.2, useOn, ih]
    cases outcome <;> simp [Exchange.after, closing, Except.bind, Except.map]
  | @passes task heard asked fault actions replies later outcome did used ih =>
    rw [useFile_perform, List.append_assoc, exchange_onward true actions results did.1 did.2, useOn,
      if_pos rfl, ih]
    simp [Exchange.after]
  | @breaks task heard asked fault did actions =>
    rw [useFile_perform, exchange_onward false actions results did.1 did.2, useOn,
      if_neg Bool.false_ne_true, exchange_closeWith]
    rfl

theorem closed_by {results : Except SftpFault (List FileResult)} {replies : List Reply}
    (ends : (exchange (closeWith file results) replies).result? ≠ none) :
    ∃ closed more, replies = closed :: more := by
  cases replies with
  | nil => exact absurd rfl ends
  | cons closed more => exact ⟨closed, more, rfl⟩

theorem exists_used {actions : List FileAction} {results : List FileResult} {replies : List Reply}
    (ends : (exchange (useFile file actions results) replies).result? ≠ none) :
    ∃ used closed more asked outcome, replies = used ++ closed :: more ∧
      Used file actions used asked outcome := by
  induction actions generalizing results replies with
  | nil =>
    obtain ⟨closed, more, rfl⟩ := closed_by ends
    exact ⟨[], closed, more, [], _, rfl, .stops⟩
  | cons action actions ih =>
    cases action with
    | fail fault =>
      obtain ⟨closed, more, rfl⟩ := closed_by ends
      exact ⟨[], closed, more, [], _, rfl, .fails fault actions⟩
    | hang =>
      rw [useFile, exchange_hanging] at ends
      exact absurd rfl ends
    | perform task excused =>
      rw [useFile_perform] at ends
      have ended : (Progress.exchange file.resume (file.start task) replies).result? ≠ none :=
        fun waits => ends (exchange_onward_waits excused actions results waits)
      obtain ⟨heard, rest, asked, result, rfl, did⟩ := Progress.exchange_splits _ _ ended
      rw [exchange_onward excused actions results did.1 did.2] at ends
      cases result with
      | ok result =>
        obtain ⟨used, closed, more, asked', outcome, rfl, later⟩ := ih ends
        exact ⟨_, closed, more, _, _, (List.append_assoc ..).symm, .does excused did later⟩
      | error fault =>
        cases excused with
        | true =>
          obtain ⟨used, closed, more, asked', outcome, rfl, later⟩ := ih ends
          exact ⟨_, closed, more, _, _, (List.append_assoc ..).symm, .passes did later⟩
        | false =>
          obtain ⟨closed, more, rfl⟩ := closed_by ends
          exact ⟨heard, closed, more, asked, _, rfl, .breaks did actions⟩

theorem useFile_exact {actions : List FileAction} {results : List FileResult} {replies : List Reply}
    {asked : List Request} {result : Except SftpFault Result} :
    exchange (useFile file actions results) replies = ⟨asked, some result⟩ ↔
      ∃ used closed more uses outcome, replies = used ++ closed :: more ∧
        Used file actions used uses outcome ∧ asked = uses ++ [.close file.handle] ∧
        result = closing results outcome closed := by
  constructor
  · intro came
    have ends : (exchange (useFile file actions results) replies).result? ≠ none := by
      rw [came]
      nofun
    obtain ⟨used, closed, more, uses, outcome, rfl, way⟩ := exists_used ends
    have same := (exchange_used way results closed more).symm.trans came
    cases same
    exact ⟨used, closed, more, uses, outcome, rfl, way, rfl, rfl⟩
  · rintro ⟨used, closed, more, uses, outcome, rfl, way, rfl, rfl⟩
    exact exchange_used way results closed more

theorem useFile_ends {actions : List FileAction} {replies : List Reply} {earlier : List Request}
    {result : Except SftpFault Result} :
    ((exchange (useFile file actions []) replies).after earlier).result? = some result ↔
      ∃ used closed more uses outcome, replies = used ++ closed :: more ∧
        Used file actions used uses outcome ∧ Concludes outcome closed result := by
  simp only [concludes_iff]
  constructor
  · intro ends
    have whole : exchange (useFile file actions []) replies =
        ⟨(exchange (useFile file actions []) replies).asked, some result⟩ := by
      rw [← ends]
      rfl
    obtain ⟨used, closed, more, uses, outcome, split, way, _, came⟩ := useFile_exact.mp whole
    exact ⟨used, closed, more, uses, outcome, split, way, came⟩
  · rintro ⟨used, closed, more, uses, outcome, split, way, came⟩
    rw [useFile_exact.mpr ⟨used, closed, more, uses, outcome, split, way, rfl, came⟩]
    rfl

section Tasks

variable (settings : Settings)

theorem file_task_reached {task : FileTask} {replies : List Reply} {procedure : Procedure}
    (stands : reached (start settings (.file file task)) replies = some procedure) :
    ∃ work, procedure = .onFile file work :=
  reached_ofProgress (fun _ _ => rfl) stands

theorem file_task_uses (file : OpenFile) (task : FileTask) (replies : List Reply) :
    (∀ request ∈ (exchange (start settings (.file file task)) replies).asked, request.Uses file.handle) ∧
      parting (start settings (.file file task)) replies = [] := by
  constructor
  · have same : exchange (start settings (.file file task)) replies =
        (Progress.exchange file.resume (file.start task) replies).map .file :=
      exchange_ofProgress (fun _ _ => rfl) (file.start task) replies
    rw [same]
    exact Progress.exchange_asks (fun work reply request rest => OpenFile.resume_uses work reply)
      (file.start task) (fun request rest => OpenFile.start_uses task) replies
  · rw [parting]
    cases stands : reached (start settings (.file file task)) replies with
    | none => rfl
    | some procedure =>
      obtain ⟨work, rfl⟩ := file_task_reached settings stands
      rfl

theorem close_task_closes (file : OpenFile) (replies : List Reply) :
    (exchange (start settings (.closeFile file)) replies).asked = [.close file.handle] ∧
      parting (start settings (.closeFile file)) replies = [] := by
  cases replies with
  | nil => exact ⟨rfl, rfl⟩
  | cons reply replies =>
    have ended : reached (start settings (.closeFile file)) (reply :: replies) = none :=
      reached_finish _ replies
    have ends : exchange (start settings (.closeFile file)) (reply :: replies) =
        (exchange (.finish ((reply.bind Reply.done).map fun () => .done)) replies).after
          [.close file.handle] := rfl
    rw [parting, ended, ends, exchange_finish]
    exact ⟨rfl, rfl⟩

variable {path : Octets} {mode : OpenMode} {attributes : Attributes} {actions : List FileAction}
  {opened : Reply}

theorem with_file_opened (opens : opened.Brings .handle (.handle handle)) (replies : List Reply) :
    let task := start settings (.withFile path mode attributes actions)
    exchange task (opened :: replies) =
        (exchange (useFile ⟨handle, settings.slice⟩ actions []) replies).after
          [.openFile path mode attributes] ∧
      parting task (opened :: replies) = parting (useFile ⟨handle, settings.slice⟩ actions []) replies := by
  have onward : (openingFor settings.slice actions).resume opened =
      useFile ⟨handle, settings.slice⟩ actions [] := by
    simp only [resume, Reply.handle_ok.mpr opens]
  intro task
  constructor
  · change (exchange ((openingFor settings.slice actions).resume opened) replies).after _ = _
    rw [onward]
  · change (((reached ((openingFor settings.slice actions).resume opened) replies).bind
      lost?).toList.map fun file => Request.close file.handle) = _
    rw [onward]
    rfl

theorem with_file_closes (opens : opened.Brings .handle (.handle handle)) (replies : List Reply) :
    let task := start settings (.withFile path mode attributes actions)
    ∃ uses, (∀ request ∈ uses, request.Uses handle) ∧
      (exchange task (opened :: replies)).asked ++ parting task (opened :: replies) =
        .openFile path mode attributes :: uses ++ [.close handle] := by
  intro task
  obtain ⟨asks, parts⟩ := with_file_opened settings opens replies
  have minds : Minds ⟨handle, settings.slice⟩ (useFile ⟨handle, settings.slice⟩ actions []) :=
    useFile_minds actions []
  obtain ⟨uses, kind, closes⟩ := minds_closes minds replies
  refine ⟨uses, kind, ?_⟩
  rw [asks, parts, List.cons_append, ← closes]
  rfl

end Tasks

end Procedure
end SecureShell.Sftp
