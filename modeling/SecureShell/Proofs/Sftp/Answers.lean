import Mathlib.Logic.Function.Basic
import SecureShell.Sftp.Reply

namespace SecureShell.Sftp

inductive Calling
  | done
  | handle
  | attributes
  | chunk
  | page
  | name
  deriving DecidableEq

inductive Value
  | done
  | handle (handle : Octets)
  | attributes (attributes : Attributes)
  | chunk (octets : Octets)
  | page (entries? : Option (List Entry))
  | name (name : Octets)
  deriving DecidableEq

-- The response that was called for, with what it says. A status of the end counts as done, as the
-- end of a file and as the end of a listing.
inductive Grants : Calling → Message → Value → Prop
  | done {id : UInt32} {report : Status} (success : report.code = .ok ∨ report.code = .eof) :
      Grants .done (.response id (.status report)) .done
  | handle {id : UInt32} {handle : Octets} :
      Grants .handle (.response id (.handle handle)) (.handle handle)
  | attributes {id : UInt32} {attributes : Attributes} :
      Grants .attributes (.response id (.attributes attributes)) (.attributes attributes)
  | data {id : UInt32} {octets : Octets} : Grants .chunk (.response id (.data octets)) (.chunk octets)
  | endOfFile {id : UInt32} {report : Status} (eof : report.code = .eof) :
      Grants .chunk (.response id (.status report)) (.chunk [])
  | names {id : UInt32} {entries : List Entry} :
      Grants .page (.response id (.names entries)) (.page (some entries))
  | endOfListing {id : UInt32} {report : Status} (eof : report.code = .eof) :
      Grants .page (.response id (.status report)) (.page none)
  | name {id : UInt32} {entry : Entry} {entries : List Entry} :
      Grants .name (.response id (.names (entry :: entries))) (.name entry.name)

-- Everything else: no name where one was called for, a refusal with all that it says, or a
-- response that was not called for.
inductive Declines (calling : Calling) : Message → SftpFault → Prop
  | nameless {id : UInt32} (named : calling = .name) :
      Declines calling (.response id (.names [])) .noEntry
  | refused {id : UInt32} {report : Status} (bad : report.code ≠ .ok) (going : report.code ≠ .eof) :
      Declines calling (.response id (.status report)) (.refused report)
  | unfit {message : Message} (ungranted : ∀ value, ¬ Grants calling message value)
      (named : calling = .name → ∀ id, message ≠ .response id (.names []))
      (unrefused : ∀ id report, message = .response id (.status report) →
        report.code = .ok ∨ report.code = .eof) :
      Declines calling message .unexpectedResponse

def Calling.judge : Calling → Message → Except SftpFault Value
  | .done, message => (Reply.done message).map fun () => .done
  | .handle, message => (Reply.handle message).map .handle
  | .attributes, message => (Reply.attributes message).map .attributes
  | .chunk, message => (Reply.chunk message).map .chunk
  | .page, message => (Reply.page message).map .page
  | .name, message => (Reply.name message).map .name

variable {calling : Calling} {message : Message} {value : Value} {fault : SftpFault} {report : Status}

theorem StatusCode.isSuccess_iff (code : StatusCode) : code.isSuccess = true ↔ code = .ok ∨ code = .eof := by
  simp [isSuccess]

theorem judge_of_grants (grants : Grants calling message value) : calling.judge message = .ok value := by
  cases grants with
  | done success => simp [Calling.judge, Reply.done, (StatusCode.isSuccess_iff _).mpr success, Except.map]
  | endOfFile eof => simp [Calling.judge, Reply.chunk, Reply.isEof, eof, Except.map]
  | endOfListing eof => simp [Calling.judge, Reply.page, Reply.isEof, eof, Except.map]
  | handle | attributes | data | names | name => rfl

theorem judge_refused (calling : Calling) (id : UInt32) (bad : report.code ≠ .ok) (going : report.code ≠ .eof) :
    calling.judge (.response id (.status report)) = .error (.refused report) := by
  have fails : report.code.isSuccess = false := by simp [StatusCode.isSuccess, bad, going]
  cases calling <;>
    simp [Calling.judge, Reply.done, Reply.handle, Reply.attributes, Reply.chunk, Reply.page, Reply.name,
      Reply.isEof, Reply.unfit, fails, going, Except.map]

-- A response of success that was not called for is no better than one of another shape.
theorem judge_success (id : UInt32) (success : report.code = .ok ∨ report.code = .eof)
    (ungranted : ∀ value, ¬ Grants calling (.response id (.status report)) value) :
    calling.judge (.response id (.status report)) = .error .unexpectedResponse := by
  have done := (StatusCode.isSuccess_iff report.code).mpr success
  cases calling with
  | done => exact absurd (.done success) (ungranted _)
  | chunk =>
    have going : report.code ≠ .eof := fun eof => ungranted _ (.endOfFile eof)
    simp [Calling.judge, Reply.chunk, Reply.isEof, Reply.unfit, done, going, Except.map]
  | page =>
    have going : report.code ≠ .eof := fun eof => ungranted _ (.endOfListing eof)
    simp [Calling.judge, Reply.page, Reply.isEof, Reply.unfit, done, going, Except.map]
  | handle | attributes | name =>
    simp [Calling.judge, Reply.handle, Reply.attributes, Reply.name, Reply.unfit, done, Except.map]

theorem judge_of_declines (declines : Declines calling message fault) :
    calling.judge message = .error fault := by
  cases declines with
  | nameless named => rw [named]; rfl
  | @refused id report bad going => exact judge_refused calling id bad going
  | unfit ungranted named unrefused =>
    cases message with
    | init | version | request => cases calling <;> rfl
    | response id given =>
      cases given with
      | status report => exact judge_success id (unrefused id report rfl) ungranted
      | handle => cases calling with
        | handle => exact absurd .handle (ungranted _)
        | _ => rfl
      | data => cases calling with
        | chunk => exact absurd .data (ungranted _)
        | _ => rfl
      | attributes => cases calling with
        | attributes => exact absurd .attributes (ungranted _)
        | _ => rfl
      | names entries => cases calling with
        | page => exact absurd .names (ungranted _)
        | name => cases entries with
          | nil => exact absurd rfl (named rfl id)
          | cons => exact absurd .name (ungranted _)
        | _ => rfl

theorem grants_or_declines (calling : Calling) (message : Message) :
    (∃ value, Grants calling message value) ∨ ∃ fault, Declines calling message fault := by
  by_cases granted : ∃ value, Grants calling message value
  · exact .inl granted
  · refine .inr ?_
    by_cases refusal : ∃ id report, message = .response id (.status report) ∧
        report.code ≠ .ok ∧ report.code ≠ .eof
    · obtain ⟨id, report, rfl, bad, going⟩ := refusal
      exact ⟨_, .refused bad going⟩
    · by_cases nameless : calling = .name ∧ ∃ id, message = .response id (.names [])
      · obtain ⟨named, id, rfl⟩ := nameless
        exact ⟨_, .nameless named⟩
      · refine ⟨_, .unfit (not_exists.mp granted) ?_ ?_⟩
        · intro named id given
          exact nameless ⟨named, id, given⟩
        · intro id report given
          by_contra fails
          exact refusal ⟨id, report, given, not_or.mp fails⟩

theorem judge_ok_iff : calling.judge message = .ok value ↔ Grants calling message value := by
  constructor
  · intro judged
    rcases grants_or_declines calling message with ⟨other, grants⟩ | ⟨fault, declines⟩
    · rw [judge_of_grants grants] at judged
      cases judged
      exact grants
    · rw [judge_of_declines declines] at judged
      cases judged
  · exact judge_of_grants

theorem judge_error_iff : calling.judge message = .error fault ↔ Declines calling message fault := by
  constructor
  · intro judged
    rcases grants_or_declines calling message with ⟨value, grants⟩ | ⟨other, declines⟩
    · rw [judge_of_grants grants] at judged
      cases judged
    · rw [judge_of_declines declines] at judged
      cases judged
      exact declines
  · exact judge_of_declines

namespace Reply

-- What was called for came back, with what it says.
def Brings (reply : Reply) (calling : Calling) (value : Value) : Prop :=
  ∃ message, reply = .ok message ∧ Grants calling message value

-- Nothing came back, or nothing that was called for.
def Fails (reply : Reply) (calling : Calling) (fault : SftpFault) : Prop :=
  reply = .error fault ∨ ∃ message, reply = .ok message ∧ Declines calling message fault

variable {reply : Reply}

theorem brings_iff : reply.Brings calling value ↔ reply.bind calling.judge = .ok value := by
  cases reply with
  | error fault =>
    constructor
    · rintro ⟨_, came, _⟩
      cases came
    · nofun
  | ok message =>
    refine Iff.trans ?_ judge_ok_iff.symm
    constructor
    · rintro ⟨_, came, grants⟩
      exact Except.ok.inj came ▸ grants
    · exact fun grants => ⟨message, rfl, grants⟩

theorem fails_iff : reply.Fails calling fault ↔ reply.bind calling.judge = .error fault := by
  cases reply with
  | error other =>
    constructor
    · rintro (came | ⟨_, came, _⟩)
      · exact congrArg (·.bind calling.judge) came
      · cases came
    · intro same
      exact .inl (congrArg Except.error (Except.error.inj same))
  | ok message =>
    refine Iff.trans ?_ judge_error_iff.symm
    constructor
    · rintro (came | ⟨_, came, declines⟩)
      · cases came
      · exact Except.ok.inj came ▸ declines
    · exact fun declines => .inr ⟨message, rfl, declines⟩

end Reply

-- Judging a reply is reading it, and saying what was got.
def Calling.Reads {α : Type} (calling : Calling) (read : Message → Except SftpFault α) (make : α → Value) : Prop :=
  ∀ reply : Reply, reply.bind calling.judge = (reply.bind read).map make

theorem done_reads : Calling.done.Reads Reply.done fun () => .done := fun reply => by cases reply <;> rfl

theorem handle_reads : Calling.handle.Reads Reply.handle .handle := fun reply => by cases reply <;> rfl

theorem attributes_reads : Calling.attributes.Reads Reply.attributes .attributes :=
  fun reply => by cases reply <;> rfl

theorem chunk_reads : Calling.chunk.Reads Reply.chunk .chunk := fun reply => by cases reply <;> rfl

theorem page_reads : Calling.page.Reads Reply.page .page := fun reply => by cases reply <;> rfl

theorem name_reads : Calling.name.Reads Reply.name .name := fun reply => by cases reply <;> rfl

namespace Calling.Reads

variable {α : Type} {read : Message → Except SftpFault α} {make : α → Value} {reply : Reply}

theorem ok_iff (reads : calling.Reads read make) (apart : Function.Injective make) {got : α} :
    reply.bind read = .ok got ↔ reply.Brings calling (make got) := by
  rw [Reply.brings_iff, reads]
  cases reply.bind read <;> simp [Except.map, apart.eq_iff]

theorem error_iff (reads : calling.Reads read make) :
    reply.bind read = .error fault ↔ reply.Fails calling fault := by
  rw [Reply.fails_iff, reads]
  cases reply.bind read <;> simp [Except.map]

end Calling.Reads

namespace Reply

variable {reply : Reply}

theorem done_ok : reply.bind done = .ok () ↔ reply.Brings .done .done :=
  done_reads.ok_iff fun _ _ _ => rfl

theorem done_error : reply.bind done = .error fault ↔ reply.Fails .done fault := done_reads.error_iff

theorem handle_ok {given : Octets} : reply.bind handle = .ok given ↔ reply.Brings .handle (.handle given) :=
  handle_reads.ok_iff fun _ _ => Value.handle.inj

theorem handle_error : reply.bind handle = .error fault ↔ reply.Fails .handle fault := handle_reads.error_iff

theorem page_ok {entries? : Option (List Entry)} :
    reply.bind page = .ok entries? ↔ reply.Brings .page (.page entries?) :=
  page_reads.ok_iff fun _ _ => Value.page.inj

theorem page_error : reply.bind page = .error fault ↔ reply.Fails .page fault := page_reads.error_iff

theorem name_ok {found : Octets} : reply.bind name = .ok found ↔ reply.Brings .name (.name found) :=
  name_reads.ok_iff fun _ _ => Value.name.inj

theorem name_error : reply.bind name = .error fault ↔ reply.Fails .name fault := name_reads.error_iff

end Reply
end SecureShell.Sftp
