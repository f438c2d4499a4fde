import Mathlib.Algebra.Group.Nat.Defs
import Mathlib.Data.List.TakeWhile
import SecureShell.Sftp.File

namespace SecureShell.Sftp

-- What work that goes on request by request has asked for by the time the replies are used up,
-- and its result, if it has come to one by then.
structure Exchange (result : Type) where
  asked : List Request
  result? : Option (Except SftpFault result)
  deriving DecidableEq

namespace Progress

variable {work result : Type}

def exchange (resume : work → Reply → Progress work result) :
    Progress work result → List Reply → Exchange result
  | .finish result, _ => ⟨[], some result⟩
  | .ask request _, [] => ⟨[request], none⟩
  | .ask request work, reply :: replies =>
    let later := exchange resume (resume work reply) replies
    ⟨request :: later.asked, later.result?⟩

end Progress

namespace Reply

-- The server reports that what was asked is done.
def grants : Reply → Bool
  | .ok (.response _ (.status report)) => report.code.isSuccess
  | _ => false

def granted (replies : List Reply) : Nat := (replies.takeWhile grants).length

variable {reply : Reply} {replies : List Reply}

theorem done_of_grants (grants : reply.grants = true) : reply.bind Reply.done = .ok () := by
  unfold Reply.grants at grants
  split at grants
  · simp [Except.bind, Reply.done, grants]
  · cases grants

theorem fault_of_refusal (refuses : reply.grants = false) :
    ∃ fault, reply.bind Reply.done = .error fault := by
  cases reply with
  | error fault => exact ⟨fault, rfl⟩
  | ok message =>
    cases message with
    | init | version | request => exact ⟨_, rfl⟩
    | response id response =>
      cases response with
      | status report =>
        have bad : report.code.isSuccess = false := refuses
        exact ⟨.refused report, by simp [Except.bind, Reply.done, bad]⟩
      | handle | data | names | attributes => exact ⟨_, rfl⟩

theorem granted_cons_of_grants (grants : reply.grants = true) :
    granted (reply :: replies) = granted replies + 1 := by
  simp [granted, grants]

theorem granted_cons_of_refusal (refuses : reply.grants = false) : granted (reply :: replies) = 0 := by
  simp [granted, refuses]

theorem grants_of_lt {index : Nat} (before : index < granted replies) :
    ∃ reply, replies[index]? = some reply ∧ reply.grants = true := by
  induction replies generalizing index with
  | nil => cases before
  | cons first replies ih =>
    cases grants : first.grants with
    | true =>
      rw [granted_cons_of_grants grants] at before
      cases index with
      | zero => exact ⟨first, rfl, grants⟩
      | succ index => exact ih (Nat.lt_of_succ_lt_succ before)
    | false =>
      rw [granted_cons_of_refusal grants] at before
      cases before

theorem refuses_at_granted (here : replies[granted replies]? = some reply) :
    reply.grants = false := by
  induction replies with
  | nil => cases here
  | cons first replies ih =>
    cases grants : first.grants with
    | true =>
      rw [granted_cons_of_grants grants, List.getElem?_cons_succ] at here
      exact ih here
    | false =>
      rw [granted_cons_of_refusal grants] at here
      cases here
      exact grants

end Reply

namespace OpenFile

def pieceCount (file : OpenFile) (data : Octets) : Nat :=
  (data.length + file.slice - 1) / file.slice

-- How much is written by the time each of the pieces is due.
def marks (file : OpenFile) (data : Octets) : List Nat :=
  (List.range (file.pieceCount data)).map (· * file.slice)

def piece (file : OpenFile) (data : Octets) (written : Nat) : Octets :=
  (data.drop written).take file.slice

def pieces (file : OpenFile) (data : Octets) : List Octets :=
  (file.marks data).map (file.piece data)

-- One request for each piece, each at the place where the one before it ends.
def writes (file : OpenFile) (offset : UInt64) (data : Octets) : List Request :=
  (file.marks data).map fun written =>
    .write file.handle (offset + UInt64.ofNat written) (file.piece data written)

-- What is known of a piece that begins at `written`. The last fact is about adding up in words
-- of some width: no octets in memory are more than half of what such a word can count.
structure Cut (file : OpenFile) (offset : UInt64) (data : Octets) (index written : Nat) : Prop where
  within : written < data.length
  placed : (offset + UInt64.ofNat written).toNat = offset.toNat + written
  some : file.piece data written ≠ []
  short : (file.piece data written).length ≤ file.slice
  full : index + 1 < file.pieceCount data → (file.piece data written).length = file.slice
  counted : ∀ width, 2 * data.length ≤ 2 ^ width → file.slice < 2 ^ width →
    written + file.slice < 2 ^ width

variable {file : OpenFile} {data : Octets} {index : Nat} {offset : UInt64} {replies : List Reply}

theorem placed {offset : UInt64} {count : Nat} (fits : offset.toNat + count < 2 ^ 64) :
    (offset + UInt64.ofNat count).toNat = offset.toNat + count := by
  have small : count < UInt64.size := by
    rw [UInt64.size]
    omega
  rw [UInt64.toNat_add, UInt64.toNat_ofNat_of_lt' small]
  exact Nat.mod_eq_of_lt fits

theorem writeOn_nil (file : OpenFile) (offset : UInt64) :
    file.writeOn offset [] = .finish (.ok .done) := rfl

theorem writeOn_some (file : OpenFile) (offset : UInt64) (some : data ≠ []) :
    file.writeOn offset data =
      .ask (.write file.handle offset (data.take file.slice))
        (.writing (offset + UInt64.ofNat (data.take file.slice).length) (data.drop file.slice)) := by
  cases data with
  | nil => exact absurd rfl some
  | cons octet data => rfl

theorem resume_granted {reply : Reply} (grants : reply.grants = true) (file : OpenFile)
    (offset : UInt64) (rest : Octets) :
    file.resume (.writing offset rest) reply = file.writeOn offset rest := by
  simp only [resume, Reply.done_of_grants grants]

theorem resume_refused {reply : Reply} {fault : SftpFault}
    (refused : reply.bind Reply.done = .error fault) (file : OpenFile) (offset : UInt64)
    (rest : Octets) : file.resume (.writing offset rest) reply = .finish (.error fault) := by
  simp only [resume, refused]

section Positive

variable (positive : 0 < file.slice)

include positive

theorem piecewise {motive : Octets → Prop} (nothing : motive [])
    (piece : ∀ data, data ≠ [] → motive (data.drop file.slice) → motive data) (data : Octets) :
    motive data := by
  by_cases none : data = []
  · rw [none]
    exact nothing
  · have shorter : (data.drop file.slice).length < data.length := by
      have := List.length_pos_iff.mpr none
      rw [List.length_drop]
      omega
    exact piece data none (piecewise nothing piece (data.drop file.slice))
termination_by data.length

theorem lt_pieceCount : index < file.pieceCount data ↔ index * file.slice < data.length := by
  rw [pieceCount, ← Nat.succ_le_iff, Nat.le_div_iff_mul_le positive, Nat.succ_mul]
  omega

theorem pieceCount_nil : file.pieceCount [] = 0 := by
  rw [pieceCount, List.length_nil, Nat.zero_add]
  exact Nat.div_eq_of_lt (Nat.sub_lt positive Nat.one_pos)

theorem pieceCount_some (some : data ≠ []) :
    file.pieceCount data = file.pieceCount (data.drop file.slice) + 1 := by
  have length := List.length_pos_iff.mpr some
  unfold pieceCount
  rw [List.length_drop, ← Nat.add_div_right _ positive]
  by_cases long : file.slice ≤ data.length
  · congr 1
    omega
  · -- One piece holds all of it.
    rw [Nat.div_eq_of_lt_le (k := 1), Nat.div_eq_of_lt_le (k := 1)]
    all_goals omega

theorem marks_nil : file.marks [] = [] := by
  rw [marks, pieceCount_nil positive]
  rfl

theorem marks_some (some : data ≠ []) :
    file.marks data = 0 :: (file.marks (data.drop file.slice)).map (· + file.slice) := by
  rw [marks, marks, pieceCount_some positive some, List.range_succ_eq_map, List.map_cons,
    List.map_map, List.map_map, Nat.zero_mul]
  congr 1
  apply List.map_congr_left
  intro index _
  exact Nat.succ_mul index file.slice

theorem mem_marks {written : Nat} (mark : written ∈ file.marks data) : written < data.length := by
  obtain ⟨index, ranged, rfl⟩ := List.mem_map.mp mark
  exact (lt_pieceCount positive).mp (List.mem_range.mp ranged)

theorem pieces_nil : file.pieces [] = [] := by
  rw [pieces, marks_nil positive]
  rfl

theorem pieces_some (some : data ≠ []) :
    file.pieces data = data.take file.slice :: file.pieces (data.drop file.slice) := by
  rw [pieces, marks_some positive some, List.map_cons, List.map_map]
  congr 1
  apply List.map_congr_left
  intro written _
  simp only [Function.comp_apply, piece, List.drop_drop, Nat.add_comm]

theorem writes_nil : file.writes offset [] = [] := by
  rw [writes, marks_nil positive]
  rfl

theorem writes_some (some : data ≠ []) :
    file.writes offset data =
      .write file.handle offset (data.take file.slice) ::
        file.writes (offset + UInt64.ofNat (data.take file.slice).length) (data.drop file.slice) := by
  rw [writes, marks_some positive some, List.map_cons, List.map_map]
  congr 1
  · simp [piece]
  · apply List.map_congr_left
    intro written mark
    -- Whatever is left after the first piece, that piece has the full length.
    have left := mem_marks positive mark
    rw [List.length_drop] at left
    have full : (data.take file.slice).length = file.slice := by
      rw [List.length_take]
      omega
    simp only [Function.comp_apply, piece, List.drop_drop, full, UInt64.ofNat_add]
    rw [Nat.add_comm file.slice, UInt64.add_assoc, UInt64.add_comm (UInt64.ofNat file.slice)]

theorem flatten_pieces (data : Octets) : (file.pieces data).flatten = data := by
  induction data using piecewise positive with
  | nothing => rw [pieces_nil positive]; rfl
  | piece data some ih =>
    rw [pieces_some positive some, List.flatten_cons, ih, List.take_append_drop]

theorem exchange_writes (offset : UInt64) (data : Octets) (replies : List Reply) :
    Progress.exchange file.resume (file.writeOn offset data) replies =
      ⟨(file.writes offset data).take (Reply.granted replies + 1),
        if file.pieceCount data ≤ Reply.granted replies then some (.ok .done)
        else (replies[Reply.granted replies]?).map fun reply =>
          (reply.bind Reply.done).map fun () => .done⟩ := by
  induction data using piecewise positive generalizing offset replies with
  | nothing => simp [writeOn_nil, writes_nil positive, pieceCount_nil positive, Progress.exchange]
  | piece data some ih =>
    rw [writeOn_some file offset some, writes_some positive some, pieceCount_some positive some]
    cases replies with
    | nil => simp [Progress.exchange, Reply.granted]
    | cons reply replies =>
      cases grants : reply.grants with
      | true =>
        rw [Progress.exchange, resume_granted grants, ih, Reply.granted_cons_of_grants grants]
        simp
      | false =>
        obtain ⟨fault, refused⟩ := Reply.fault_of_refusal grants
        rw [Progress.exchange, resume_refused refused, Reply.granted_cons_of_refusal grants]
        simp [Progress.exchange, refused, Except.map]

theorem cut_at (fits : offset.toNat + data.length < 2 ^ 64) (counts : index < file.pieceCount data) :
    Cut file offset data index (index * file.slice) := by
  have within := (lt_pieceCount positive).mp counts
  have length : (file.piece data (index * file.slice)).length =
      min file.slice (data.length - index * file.slice) := by
    rw [piece, List.length_take, List.length_drop]
  refine ⟨within, placed (by omega), ?_, ?_, ?_, ?_⟩
  · apply List.ne_nil_of_length_pos
    omega
  · omega
  · intro more
    have next := (lt_pieceCount positive).mp more
    rw [Nat.succ_mul] at next
    omega
  · intro width half fits
    cases index with
    | zero => omega
    | succ index =>
      -- A piece that is not the first comes after one of full length, which the data hold.
      rw [Nat.succ_mul] at within ⊢
      omega

end Positive

theorem writes_at (counts : index < file.pieceCount data) :
    (file.writes offset data)[index]? =
      some (.write file.handle (offset + UInt64.ofNat (index * file.slice))
        (file.piece data (index * file.slice))) := by
  simp [writes, marks, counts]

theorem length_writes (file : OpenFile) (offset : UInt64) (data : Octets) :
    (file.writes offset data).length = file.pieceCount data := by
  simp [writes, marks]

-- The first reply that grants nothing ends the writing with its fault. No data, no request.
theorem written_piece_by_piece (file : OpenFile) (positive : 0 < file.slice) (offset : UInt64)
    (data : Octets) (fits : offset.toNat + data.length < 2 ^ 64) (replies : List Reply) :
    let course := Progress.exchange file.resume (file.start (.write offset data)) replies
    let granted := Reply.granted replies
    (file.pieces data).flatten = data ∧
    (∀ index < file.pieceCount data,
      Cut file offset data index (index * file.slice) ∧
      (file.writes offset data)[index]? =
        some (.write file.handle (offset + UInt64.ofNat (index * file.slice))
          (file.piece data (index * file.slice)))) ∧
    course.asked = (file.writes offset data).take (granted + 1) ∧
    course.asked.length = min (granted + 1) (file.pieceCount data) ∧
    (∀ index, index + 1 < course.asked.length →
      ∃ reply, replies[index]? = some reply ∧ reply.grants = true) ∧
    (file.pieceCount data ≤ granted → course.result? = some (.ok .done)) ∧
    (granted < file.pieceCount data →
      (∀ reply, replies[granted]? = some reply → reply.grants = false ∧
        ∃ fault, reply.bind Reply.done = .error fault ∧ course.result? = some (.error fault)) ∧
      (replies[granted]? = none → course.result? = none)) ∧
    (data = [] → course = ⟨[], some (.ok .done)⟩) := by
  intro course granted
  have same := exchange_writes positive offset data replies
  have asked : course.asked = (file.writes offset data).take (granted + 1) :=
    congrArg Exchange.asked same
  have result : course.result? = if file.pieceCount data ≤ granted then some (.ok .done)
      else (replies[granted]?).map fun reply => (reply.bind Reply.done).map fun () => .done :=
    congrArg Exchange.result? same
  have count : course.asked.length = min (granted + 1) (file.pieceCount data) := by
    rw [asked, List.length_take, length_writes]
  refine ⟨flatten_pieces positive data, ?_, asked, count, ?_, ?_, ?_, ?_⟩
  · intro index counts
    exact ⟨cut_at positive fits counts, writes_at counts⟩
  · intro index more
    have before : index < granted := by omega
    exact Reply.grants_of_lt before
  · intro all
    rw [result, if_pos all]
  · intro short
    rw [if_neg (Nat.not_le.mpr short)] at result
    constructor
    · intro reply here
      have refuses := Reply.refuses_at_granted here
      obtain ⟨fault, refused⟩ := Reply.fault_of_refusal refuses
      rw [here, Option.map_some, refused] at result
      exact ⟨refuses, fault, refused, result⟩
    · intro waits
      rw [result, waits, Option.map_none]
  · intro nothing
    simp only [course, nothing, start, writeOn_nil, Progress.exchange]

-- Five octets in pieces of two, close to the end of what can be addressed; the disk is full
-- before the last of them.
def notes : OpenFile := ⟨[0x68], 2⟩

def outOfRoom : Status := ⟨.failure, "no space", "en"⟩

def grudging : List Reply :=
  [.ok (.response 4 (.status ⟨.ok, "", ""⟩)), .ok (.response 5 (.status outOfRoom)),
   .ok (.response 6 (.status ⟨.ok, "", ""⟩))]

theorem written_piece_by_piece_outOfRoom :
    0 < notes.slice ∧ (0xFFFFFFFFFFFFFFF9 : UInt64).toNat + [1, 2, 3, 4, 5].length < 2 ^ 64 ∧
    (let course := Progress.exchange notes.resume
      (notes.start (.write 0xFFFFFFFFFFFFFFF9 [1, 2, 3, 4, 5])) grudging
    course.asked = [.write [0x68] 0xFFFFFFFFFFFFFFF9 [1, 2], .write [0x68] 0xFFFFFFFFFFFFFFFB [3, 4]] ∧
      course.result? = some (.error (.refused outOfRoom))) := by
  have positive : 0 < notes.slice := by decide
  have fits : (0xFFFFFFFFFFFFFFF9 : UInt64).toNat + [1, 2, 3, 4, 5].length < 2 ^ 64 := by decide
  obtain ⟨_, _, asked, _, _, _, ended, _⟩ :=
    written_piece_by_piece notes positive 0xFFFFFFFFFFFFFFF9 [1, 2, 3, 4, 5] fits grudging
  obtain ⟨refused, _⟩ := ended (by decide)
  obtain ⟨_, fault, tells, result⟩ := refused (.ok (.response 5 (.status outOfRoom))) (by decide)
  cases tells
  exact ⟨positive, fits, asked.trans (by decide), result⟩

end OpenFile
end SecureShell.Sftp
