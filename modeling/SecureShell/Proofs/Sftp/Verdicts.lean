import SecureShell.Proofs.Sftp.Answers
import SecureShell.Proofs.Sftp.Reencoding
import SecureShell.Sftp.Procedure

namespace SecureShell.Sftp

def Request.calling : Request → Calling
  | .close .. | .write .. | .setstat .. | .fsetstat .. | .remove .. | .mkdir .. | .rmdir .. | .rename ..
  | .symlink .. => .done
  | .openFile .. | .opendir .. => .handle
  | .stat .. | .lstat .. | .fstat .. => .attributes
  | .read .. => .chunk
  | .readdir .. => .page
  | .realpath .. | .readlink .. => .name

def FileWork.calling : FileWork → Calling
  | .reading | .readingOn .. => .chunk
  | .writing .. | .changing => .done
  | .examining => .attributes

def Listing.calling : Listing → Calling
  | .resolving .. => .name
  | .opening => .handle
  | .reading .. => .page
  | .closing _ => .done

def Procedure.calling? : Procedure → Option Calling
  | .expectDone | .closingAfter _ => some .done
  | .expectName => some .name
  | .expectAttributes => some .attributes
  | .expectHandle | .openingFor .. => some .handle
  | .inListing listing => some listing.calling
  | .onFile _ work | .working _ work .. => some work.calling
  | .hanging _ => none

def Value.result : Value → Result
  | .done => .done
  | .handle given => .opened given
  | .attributes found => .attributes found
  | .chunk octets | .name octets => .octets octets
  | .page entries? => .entries (entries?.getD [])

def Value.fileResult : Value → FileResult
  | .chunk octets => .octets octets
  | .attributes found => .attributes found
  | _ => .done

def Procedure.single? : Procedure → Option (Value → Result)
  | .expectDone | .expectName | .expectAttributes | .expectHandle => some Value.result
  | .onFile _ .reading | .onFile _ .examining | .onFile _ .changing =>
    some fun value => .file value.fileResult
  | _ => none

-- The reply to a request is up to the task that has just asked.
def Asked (request : Request) (rest : Procedure) : Prop :=
  (∃ settings task, Procedure.start settings task = .ask request rest) ∨
    ∃ procedure reply, Procedure.resume procedure reply = .ask request rest

variable {calling : Calling} {message : Message} {value : Value} {fault : SftpFault} {report : Status}

theorem decoded_code {octets : Octets} {id : UInt32}
    (decoded : Message.read octets = .ok (.response id (.status report))) :
    report.code = .ofWord report.code.toWord := by
  have kept := (Message.read_carries decoded).1
  rw [Message.normal, Response.normal] at kept
  simp only [Message.response.injEq, Response.status.injEq, true_and] at kept
  exact congrArg Status.code kept.symm

theorem refusal_decoded {octets : Octets} (decoded : Message.read octets = .ok message)
    (judged : calling.judge message = .error (.refused report)) :
    (∃ id, message = .response id (.status report)) ∧
      report.code ≠ .ok ∧ report.code ≠ .eof ∧ report.code.toWord ≠ 0 ∧ report.code.toWord ≠ 1 := by
  cases judge_error_iff.mp judged with
  | @refused id _ bad going =>
    have same := decoded_code decoded
    refine ⟨⟨id, rfl⟩, bad, going, ?_, ?_⟩
    · intro zero
      rw [zero] at same
      exact bad same
    · intro one
      rw [one] at same
      exact going same

namespace OpenFile

variable {file : OpenFile} {work rest : FileWork} {request : Request}

theorem writeOn_calls (offset : UInt64) (data : Octets) (asks : file.writeOn offset data = .ask request rest) :
    rest.calling = request.calling := by
  unfold writeOn at asks
  split at asks <;> cases asks
  rfl

theorem start_calls (task : FileTask) (asks : file.start task = .ask request rest) :
    rest.calling = request.calling := by
  cases task with
  | write offset data => exact writeOn_calls offset data asks
  | read | readToEnd | fstat | fsetstat =>
    cases asks
    rfl

theorem resume_calls (reply : Reply) (asks : file.resume work reply = .ask request rest) :
    rest.calling = request.calling := by
  unfold resume at asks
  split at asks
  · cases asks
  · split at asks
    · cases asks
    · split at asks <;> cases asks
      rfl
  · split at asks
    · cases asks
    · exact writeOn_calls _ _ asks
  · cases asks
  · cases asks

end OpenFile

namespace Listing

variable {listing rest : Listing} {request : Request}

theorem resolve_calls (path : Octets) (left : Nat) (asks : resolve path left = .ask request rest) :
    rest.calling = request.calling := by
  cases left <;> cases asks <;> rfl

theorem resume_calls (reply : Reply) (asks : listing.resume reply = .ask request rest) :
    rest.calling = request.calling := by
  unfold resume at asks
  split at asks
  · split at asks
    · cases asks
    · exact resolve_calls _ _ asks
  · split at asks <;> cases asks
    rfl
  · split at asks <;> cases asks <;> rfl
  · cases asks

end Listing

namespace Procedure

variable {procedure rest : Procedure} {request : Request} {result : Result}

theorem ofProgress_calls {work result : Type} (onWork : work → Procedure) {onResult : result → Result}
    {progress : Progress work result}
    (calls : ∀ later, progress = .ask request later → (onWork later).calling? = some request.calling)
    (asks : Move.ofProgress onWork onResult progress = .ask request rest) :
    rest.calling? = some request.calling := by
  cases progress with
  | ask asked later =>
    cases asks
    exact calls later rfl
  | finish result => cases asks

theorem useFile_unfinished (file : OpenFile) (actions : List FileAction) (results : List FileResult)
    (ending : Except SftpFault Result) : useFile file actions results ≠ .finish ending := by
  intro ends
  induction actions generalizing results with
  | nil => cases ends
  | cons action actions ih =>
    cases action with
    | fail | hang => cases ends
    | perform task excused =>
      rw [useFile] at ends
      split at ends
      · cases ends
      · rename_i result _
        cases result with
        | ok result => exact ih _ ends
        | error fault => cases excused with
          | true => exact ih _ ends
          | false => cases ends

theorem useFile_calls (file : OpenFile) (actions : List FileAction) (results : List FileResult)
    (asks : useFile file actions results = .ask request rest) : rest.calling? = some request.calling := by
  induction actions generalizing results with
  | nil =>
    cases asks
    rfl
  | cons action actions ih =>
    cases action with
    | fail fault =>
      cases asks
      rfl
    | hang => cases asks
    | perform task excused =>
      rw [useFile] at asks
      split at asks
      · rename_i asked work starts
        cases asks
        exact congrArg some (OpenFile.start_calls task starts)
      · rename_i result _
        cases result with
        | ok result => exact ih _ asks
        | error fault => cases excused with
          | true => exact ih _ asks
          | false =>
            cases asks
            rfl

theorem start_calls (settings : Settings) (task : Task)
    (asks : start settings task = .ask request rest) : rest.calling? = some request.calling := by
  cases task with
  | list path =>
    rw [start] at asks
    exact ofProgress_calls .inListing (fun _ resolves => congrArg some (Listing.resolve_calls path 16 resolves)) asks
  | file file task =>
    exact ofProgress_calls (.onFile file) (fun _ starts => congrArg some (OpenFile.start_calls task starts)) asks
  | symlink link target =>
    rw [start] at asks
    split at asks <;> cases asks <;> rfl
  | _ =>
    cases asks
    rfl

theorem resume_calls (reply : Reply) (asks : procedure.resume reply = .ask request rest) :
    rest.calling? = some request.calling := by
  cases procedure with
  | expectDone | expectName | expectAttributes | expectHandle | hanging | closingAfter => cases asks
  | inListing listing =>
    exact ofProgress_calls .inListing (fun _ resumes => congrArg some (Listing.resume_calls reply resumes)) asks
  | onFile file work =>
    exact ofProgress_calls (.onFile file) (fun _ resumes => congrArg some (OpenFile.resume_calls reply resumes)) asks
  | openingFor slice actions =>
    rw [resume] at asks
    split at asks
    · cases asks
    · exact useFile_calls _ actions [] asks
  | working file work excused actions results =>
    rw [resume] at asks
    split at asks
    · rename_i asked later resumes
      cases asks
      exact congrArg some (OpenFile.resume_calls reply resumes)
    · rename_i result _
      cases result with
      | ok result => exact useFile_calls file actions _ asks
      | error fault => cases excused with
        | true => exact useFile_calls file actions _ asks
        | false =>
          cases asks
          rfl

theorem asked_calls (asked : Asked request rest) : rest.calling? = some request.calling := by
  rcases asked with ⟨settings, task, asks⟩ | ⟨procedure, reply, asks⟩
  · exact start_calls settings task asks
  · exact resume_calls reply asks

end Procedure

theorem Calling.Reads.alike {α : Type} {read : Message → Except SftpFault α} {make : α → Value}
    (reads : calling.Reads read make) (apart : Function.Injective make) {one other : Reply}
    (same : one.bind calling.judge = other.bind calling.judge) : one.bind read = other.bind read := by
  rw [reads, reads] at same
  cases first : one.bind read <;> cases second : other.bind read <;> simp_all [Except.map, apart.eq_iff]

theorem Calling.Reads.use {α result : Type} {read : Message → Except SftpFault α} {make : α → Value}
    (reads : calling.Reads read make) (use : Value → result) (reply : Reply) :
    (reply.bind calling.judge).map use = (reply.bind read).map fun value => use (make value) := by
  rw [reads]
  cases reply.bind read <;> rfl

section Alike

variable {one other : Reply}

theorem done_alike (same : one.bind Calling.done.judge = other.bind Calling.done.judge) :
    one.bind Reply.done = other.bind Reply.done := done_reads.alike (fun _ _ _ => rfl) same

theorem handle_alike (same : one.bind Calling.handle.judge = other.bind Calling.handle.judge) :
    one.bind Reply.handle = other.bind Reply.handle := handle_reads.alike (fun _ _ => Value.handle.inj) same

theorem attributes_alike (same : one.bind Calling.attributes.judge = other.bind Calling.attributes.judge) :
    one.bind Reply.attributes = other.bind Reply.attributes := attributes_reads.alike (fun _ _ => Value.attributes.inj) same

theorem chunk_alike (same : one.bind Calling.chunk.judge = other.bind Calling.chunk.judge) :
    one.bind Reply.chunk = other.bind Reply.chunk := chunk_reads.alike (fun _ _ => Value.chunk.inj) same

theorem page_alike (same : one.bind Calling.page.judge = other.bind Calling.page.judge) :
    one.bind Reply.page = other.bind Reply.page := page_reads.alike (fun _ _ => Value.page.inj) same

theorem name_alike (same : one.bind Calling.name.judge = other.bind Calling.name.judge) :
    one.bind Reply.name = other.bind Reply.name := name_reads.alike (fun _ _ => Value.name.inj) same

theorem OpenFile.resume_alike (file : OpenFile) (work : FileWork)
    (same : one.bind work.calling.judge = other.bind work.calling.judge) :
    file.resume work one = file.resume work other := by
  cases work with
  | reading | readingOn => simp only [resume, chunk_alike same]
  | writing | changing => simp only [resume, done_alike same]
  | examining => simp only [resume, attributes_alike same]

theorem Listing.resume_alike (listing : Listing)
    (same : one.bind listing.calling.judge = other.bind listing.calling.judge) :
    listing.resume one = listing.resume other := by
  cases listing with
  | resolving => simp only [resume, name_alike same]
  | opening => simp only [resume, handle_alike same]
  | reading => simp only [resume, page_alike same]
  | closing => simp only [resume, done_alike same]

theorem Procedure.resume_alike {procedure : Procedure} (calls : procedure.calling? = some calling)
    (same : one.bind calling.judge = other.bind calling.judge) :
    procedure.resume one = procedure.resume other := by
  cases procedure <;> cases calls
  case expectDone | closingAfter => simp only [resume, done_alike same]
  case expectName => simp only [resume, name_alike same]
  case expectAttributes => simp only [resume, attributes_alike same]
  case expectHandle | openingFor => simp only [resume, handle_alike same]
  case inListing listing => simp only [resume, listing.resume_alike same]
  case onFile file work => simp only [resume, file.resume_alike work same]
  case working file work excused actions results => simp only [resume, file.resume_alike work same]

end Alike

namespace Procedure

variable {procedure : Procedure} {reply : Reply}

theorem resume_failed (calls : procedure.calling? = some calling)
    (fails : reply.bind calling.judge = .error fault) (result : Result) :
    procedure.resume reply ≠ .finish (.ok result) := by
  have same : reply.bind calling.judge = (.error fault : Reply).bind calling.judge := fails
  rw [resume_alike calls same]
  intro ends
  cases procedure with
  | expectDone | expectName | expectAttributes | expectHandle | openingFor | hanging => cases ends
  | inListing listing =>
    cases listing with
    | closing listed => cases listed <;> cases ends
    | resolving | opening | reading => cases ends
  | onFile file work =>
    rw [resume, OpenFile.resume_error] at ends
    cases ends
  | working file work excused actions results =>
    rw [resume, OpenFile.resume_error] at ends
    cases excused with
    | true => exact useFile_unfinished file actions results _ ends
    | false => cases ends
  | closingAfter results => cases results <;> cases ends

theorem resume_single {onValue : Value → Result} (calls : procedure.calling? = some calling)
    (single : procedure.single? = some onValue) (reply : Reply) :
    procedure.resume reply = .finish ((reply.bind calling.judge).map onValue) := by
  cases procedure with
  | expectDone =>
    cases calls
    cases single
    rw [done_reads.use]
    rfl
  | expectName =>
    cases calls
    cases single
    rw [name_reads.use]
    rfl
  | expectAttributes =>
    cases calls
    cases single
    rw [attributes_reads.use]
    rfl
  | expectHandle =>
    cases calls
    cases single
    rw [handle_reads.use]
    rfl
  | onFile file work =>
    cases work with
    | reading =>
      cases calls
      cases single
      rw [FileWork.calling, chunk_reads.use, resume, OpenFile.resume]
      cases reply.bind Reply.chunk <;> rfl
    | examining =>
      cases calls
      cases single
      rw [FileWork.calling, attributes_reads.use, resume, OpenFile.resume]
      cases reply.bind Reply.attributes <;> rfl
    | changing =>
      cases calls
      cases single
      rw [FileWork.calling, done_reads.use, resume, OpenFile.resume]
      cases reply.bind Reply.done <;> rfl
    | readingOn | writing => cases single
  | inListing | openingFor | working | hanging | closingAfter => cases single

end Procedure

-- Whoever has asked goes by the verdict on the reply alone, and comes to no good end where it fails.
theorem verbs_judged {octets : Octets} (decoded : Message.read octets = .ok message) (request : Request) :
    (∀ value, request.calling.judge message = .ok value ↔ Grants request.calling message value) ∧
    (∀ fault, request.calling.judge message = .error fault ↔ Declines request.calling message fault) ∧
    (∀ report, request.calling.judge message = .error (.refused report) →
      (∃ id, message = .response id (.status report)) ∧ report.code ≠ .ok ∧ report.code ≠ .eof ∧
        report.code.toWord ≠ 0 ∧ report.code.toWord ≠ 1) ∧
    ∀ rest, Asked request rest →
      (∀ one other : Reply, one.bind request.calling.judge = other.bind request.calling.judge →
        rest.resume one = rest.resume other) ∧
      (∀ fault, request.calling.judge message = .error fault →
        ∀ result, rest.resume (.ok message) ≠ .finish (.ok result)) ∧
      ∀ onValue, rest.single? = some onValue →
        rest.resume (.ok message) = .finish ((request.calling.judge message).map onValue) := by
  refine ⟨fun _ => judge_ok_iff, fun _ => judge_error_iff, ?_, ?_⟩
  · intro report judged
    exact refusal_decoded decoded judged
  · intro rest asked
    have calls := Procedure.asked_calls asked
    refine ⟨fun _ _ => Procedure.resume_alike calls, ?_, ?_⟩
    · intro fault fails result
      have failed : (.ok message : Reply).bind request.calling.judge = .error fault := fails
      exact Procedure.resume_failed calls failed result
    · intro onValue single
      exact Procedure.resume_single calls single (.ok message)

-- A read that is not permitted, by a status whose number has a name.
def forbidden : Octets := [101, 0, 0, 0, 5, 0, 0, 0, 3, 0, 0, 0, 2, 0x6E, 0x6F, 0, 0, 0, 0]

def forbiddance : Status := ⟨.permissionDenied, "no", ""⟩

theorem verbs_judged_forbidden :
    Message.read forbidden = .ok (.response 5 (.status forbiddance)) ∧
    Asked (.read [7] 0 4) (.onFile ⟨[7], 9⟩ .reading) ∧
    Declines .chunk (.response 5 (.status forbiddance)) (.refused forbiddance) ∧
    Procedure.resume (.onFile ⟨[7], 9⟩ .reading) (.ok (.response 5 (.status forbiddance))) =
      .finish (.error (.refused forbiddance)) := by
  have found : Message.read forbidden = .ok (.response 5 (.status forbiddance)) := by decide +kernel
  have asked : Asked (.read [7] 0 4) (.onFile ⟨[7], 9⟩ .reading) :=
    .inl ⟨{}, .file ⟨[7], 9⟩ (.read 0 4), rfl⟩
  obtain ⟨_, declines, _, goesOn⟩ := verbs_judged found (.read [7] 0 4)
  obtain ⟨_, _, single⟩ := goesOn _ asked
  exact ⟨found, asked, (declines _).mp rfl, single _ rfl⟩

end SecureShell.Sftp
