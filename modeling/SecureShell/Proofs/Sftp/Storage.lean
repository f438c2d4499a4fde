import SecureShell.Proofs.Sftp.Slicing

namespace SecureShell.Sftp

-- The file after some octets were put at a place: they replace what was there, and a gap before
-- them is filled with zeros.
def overwrite (content : Octets) (place : Nat) (data : Octets) : Octets :=
  let room := content ++ List.replicate (place - content.length) 0
  room.take place ++ data ++ room.drop (place + data.length)

-- What one write of all the data leaves behind. No data, no write.
def stored (content : Octets) (place : Nat) (data : Octets) : Octets :=
  if data.isEmpty then content else overwrite content place data

-- A server that keeps one file as its octets. It does each write at once and as a whole. A read
-- that starts within the file brings as much as the server likes to send of what was asked for;
-- one that starts past the end brings word of the end, or no octets.
inductive Serves (handle content : Octets) : Request → Reply → Octets → Prop
  | writes {number : UInt32} (done : report.code = .ok) :
      Serves handle content (.write handle offset data) (.ok (.response number (.status report)))
        (overwrite content offset.toNat data)
  | reads {number : UInt32} (some : 0 < count) (asked : count ≤ length.toNat)
      (there : offset.toNat + count ≤ content.length) :
      Serves handle content (.read handle offset length)
        (.ok (.response number (.data ((content.drop offset.toNat).take count)))) content
  | ends {number : UInt32} (past : content.length ≤ offset.toNat) (tells : report.code = .eof) :
      Serves handle content (.read handle offset length)
        (.ok (.response number (.status report))) content
  | nothing {number : UInt32} (past : content.length ≤ offset.toNat) :
      Serves handle content (.read handle offset length) (.ok (.response number (.data []))) content

-- Each request finds an answer, and whatever the answers are, the work comes to its end, and to
-- one that is as described.
inductive Progress.Surely {World Work Result : Type} (serves : World → Request → Reply → World → Prop)
    (resume : Work → Reply → Progress Work Result) (Ends : World → Except SftpFault Result → Prop) :
    World → Progress Work Result → Prop
  | ended (ends : Ends world result) : Surely serves resume Ends world (.finish result)
  | asks (answered : ∃ reply after, serves world request reply after)
      (onward : ∀ reply after, serves world request reply after →
        Surely serves resume Ends after (resume work reply)) :
      Surely serves resume Ends world (.ask request work)

theorem Progress.Surely.mono {World Work Result : Type} {progress : Progress Work Result}
    {serves : World → Request → Reply → World → Prop} {resume : Work → Reply → Progress Work Result}
    {Ends Others : World → Except SftpFault Result → Prop} {world : World}
    (surely : Surely serves resume Ends world progress)
    (wider : ∀ world result, Ends world result → Others world result) :
    Surely serves resume Others world progress := by
  induction surely with
  | ended ends => exact .ended (wider _ _ ends)
  | asks answered onward ih => exact .asks answered ih

section Overwriting

variable (content : Octets) (place : Nat) (data : Octets)

theorem length_overwrite :
    (overwrite content place data).length = max content.length (place + data.length) := by
  simp only [overwrite, List.length_append, List.length_take, List.length_drop, List.length_replicate]
  omega

theorem overwrite_at (index : Nat) : (overwrite content place data)[index]? =
    if index < place then some (content[index]?.getD 0)
    else if index < place + data.length then data[index - place]?
    else content[index]? := by
  have front : ((content ++ List.replicate (place - content.length) 0).take place).length = place := by
    rw [List.length_take, List.length_append, List.length_replicate]
    omega
  rw [overwrite, List.append_assoc]
  by_cases before : index < place
  · rw [if_pos before, List.getElem?_append_left (by omega), List.getElem?_take_of_lt before]
    by_cases there : index < content.length
    · rw [List.getElem?_append_left there, List.getElem?_eq_getElem there, Option.getD_some]
    · have absent : content[index]? = none := List.getElem?_eq_none (by omega)
      rw [List.getElem?_append_right (by omega), List.getElem?_replicate, if_pos (by omega), absent,
        Option.getD_none]
  · rw [if_neg before, List.getElem?_append_right (by omega), front]
    by_cases within : index < place + data.length
    · rw [if_pos within, List.getElem?_append_left (by omega)]
    · have same : place + data.length + (index - place - data.length) = index := by omega
      rw [if_neg within, List.getElem?_append_right (by omega), List.getElem?_drop, same]
      by_cases there : index < content.length
      · rw [List.getElem?_append_left there]
      · have absent : content[index]? = none := List.getElem?_eq_none (by omega)
        rw [List.getElem?_append_right (by omega), List.getElem?_replicate, if_neg (by omega), absent]

theorem overwrite_on (front back : Octets) :
    overwrite (overwrite content place front) (place + front.length) back =
      overwrite content place (front ++ back) := by
  apply List.ext_getElem?
  intro index
  simp only [overwrite_at, List.length_append]
  by_cases before : index < place
  · rw [if_pos (by omega), if_pos before, if_pos before, Option.getD_some]
  · rw [if_neg before, if_neg before]
    by_cases first : index < place + front.length
    · have there := List.getElem?_eq_getElem (l := front) (i := index - place) (by omega)
      rw [if_pos first, if_pos first, if_pos (by omega), List.getElem?_append_left (by omega), there,
        Option.getD_some]
    · rw [if_neg first, if_neg first, List.getElem?_append_right (by omega), Nat.add_assoc,
        Nat.sub_sub]

theorem stored_nil : stored content place [] = content := rfl

theorem stored_some {data : Octets} (some : data ≠ []) :
    stored content place data = overwrite content place data := by
  cases data with
  | nil => exact absurd rfl some
  | cons octet data => rfl

theorem stored_on {front : Octets} (some : front ≠ []) (back : Octets) :
    stored (overwrite content place front) (place + front.length) back =
      stored content place (front ++ back) := by
  rw [stored_some content place (List.append_ne_nil_of_left_ne_nil some back)]
  by_cases none : back = []
  · rw [none, stored_nil, List.append_nil]
  · rw [stored_some _ _ none, overwrite_on]

theorem length_stored_lt {limit : Nat} (short : content.length < limit)
    (fits : place + data.length < limit) : (stored content place data).length < limit := by
  by_cases none : data = []
  · rwa [none, stored_nil]
  · rw [stored_some content place none, length_overwrite]
    exact Nat.max_lt.mpr ⟨short, fits⟩

end Overwriting

namespace OpenFile

variable {file : OpenFile} {content : Octets}

theorem resume_chunk {reply : Reply} {chunk : Octets} (brings : reply.bind Reply.chunk = .ok chunk)
    (some : chunk ≠ []) (file : OpenFile) (offset : UInt64) (got : Octets) :
    file.resume (.readingOn offset got) reply =
      file.readOn (offset + UInt64.ofNat chunk.length) (got ++ chunk) := by
  cases chunk with
  | nil => exact absurd rfl some
  | cons octet chunk => simp only [resume, brings, List.isEmpty_cons, Bool.false_eq_true, if_false]

theorem resume_end {reply : Reply} (brings : reply.bind Reply.chunk = .ok []) (file : OpenFile)
    (offset : UInt64) (got : Octets) :
    file.resume (.readingOn offset got) reply = .finish (.ok (.octets got)) := by
  simp only [resume, brings, List.isEmpty_nil, if_true]

theorem read_on (short : content.length < 2 ^ 64) (offset : UInt64) (got : Octets) :
    Progress.Surely (Serves file.handle) file.resume
      (fun after result => after = content ∧
        result = .ok (.octets (got ++ content.drop offset.toNat)))
      content (file.readOn offset got) := by
  have beyond (past : content.length ≤ offset.toNat) : got ++ content.drop offset.toNat = got := by
    rw [List.drop_eq_nil_of_le past, List.append_nil]
  refine .asks ?_ ?_
  · by_cases past : content.length ≤ offset.toNat
    · have none : Serves file.handle content (.read file.handle offset chunkLength)
          (.ok (.response 0 (.data []))) content := .nothing past
      exact ⟨_, _, none⟩
    · have one : Serves file.handle content (.read file.handle offset chunkLength)
          (.ok (.response 0 (.data ((content.drop offset.toNat).take 1)))) content :=
        .reads Nat.one_pos (by decide) (by omega)
      exact ⟨_, _, one⟩
  · intro reply after served
    cases served with
    | @reads count _ _ number some asked there =>
      have length : ((content.drop offset.toNat).take count).length = count := by
        rw [List.length_take, List.length_drop]
        omega
      have onward : (offset + UInt64.ofNat count).toNat = offset.toNat + count :=
        placed (Nat.lt_of_le_of_lt there short)
      have rest := read_on short (offset + UInt64.ofNat count)
        (got ++ (content.drop offset.toNat).take count)
      rw [onward, ← List.drop_drop, List.append_assoc, List.take_append_drop] at rest
      rw [resume_chunk rfl (List.ne_nil_of_length_pos (by omega)), length]
      exact rest
    | @ends _ _ report number past tells =>
      have eof : (Except.ok (.response number (.status report)) : Reply).bind Reply.chunk = .ok [] := by
        simp [Except.bind, Reply.chunk, Reply.isEof, tells]
      rw [resume_end eof, beyond past]
      exact .ended ⟨rfl, rfl⟩
    | nothing past =>
      rw [resume_end rfl, beyond past]
      exact .ended ⟨rfl, rfl⟩
termination_by content.length - offset.toNat

theorem write_on (positive : 0 < file.slice) (data content : Octets) (offset : UInt64)
    (fits : offset.toNat + data.length < 2 ^ 64) :
    Progress.Surely (Serves file.handle) file.resume
      (fun after result => after = stored content offset.toNat data ∧ result = .ok .done)
      content (file.writeOn offset data) := by
  induction data using piecewise positive generalizing content offset with
  | nothing => exact .ended ⟨rfl, rfl⟩
  | piece data some ih =>
    have length := List.length_pos_iff.mpr some
    have first : data.take file.slice ≠ [] := by
      apply List.ne_nil_of_length_pos
      rw [List.length_take]
      omega
    have whole := congrArg List.length (List.take_append_drop file.slice data)
    rw [List.length_append] at whole
    have onward : (offset + UInt64.ofNat (data.take file.slice).length).toNat =
        offset.toNat + (data.take file.slice).length := placed (by omega)
    rw [writeOn_some file offset some]
    have served : Serves file.handle content (.write file.handle offset (data.take file.slice))
        (.ok (.response 0 (.status ⟨.ok, "", ""⟩)))
        (overwrite content offset.toNat (data.take file.slice)) := .writes rfl
    refine .asks ⟨_, _, served⟩ ?_
    intro reply after served
    cases served with
    | @writes _ _ report number done =>
      have grants : Reply.grants (.ok (.response number (.status report))) = true := by
        simp [Reply.grants, done, StatusCode.isSuccess]
      have rest := ih (overwrite content offset.toNat (data.take file.slice))
        (offset + UInt64.ofNat (data.take file.slice).length) (by omega)
      rw [onward, stored_on _ _ first, List.take_append_drop] at rest
      rw [resume_granted grants]
      exact rest

-- Whatever the pieces, and however little comes back at a time.
theorem read_back_what_was_written (file : OpenFile) (positive : 0 < file.slice) (content data : Octets)
    (offset : UInt64) (short : content.length < 2 ^ 64)
    (fits : offset.toNat + data.length < 2 ^ 64) :
    Progress.Surely (Serves file.handle) file.resume
      (fun after result => result = .ok .done ∧ after = stored content offset.toNat data ∧
        ∀ origin : UInt64, Progress.Surely (Serves file.handle) file.resume
          (fun last got => last = after ∧ got = .ok (.octets (after.drop origin.toNat)))
          after (file.start (.readToEnd origin)))
      content (file.start (.write offset data)) := by
  apply (write_on positive data content offset fits).mono
  rintro after result ⟨rfl, rfl⟩
  refine ⟨rfl, rfl, ?_⟩
  intro origin
  exact read_on (length_stored_lt content offset.toNat data short fits) origin []

-- Three octets in pieces of two, put behind the end of a file of two: zeros fill the gap.
theorem read_back_what_was_written_gap :
    0 < notes.slice ∧ [0x61, 0x62].length < 2 ^ 64 ∧ (3 : UInt64).toNat + [1, 2, 3].length < 2 ^ 64 ∧
    Progress.Surely (Serves [0x68]) notes.resume
      (fun after result => result = .ok .done ∧ after = [0x61, 0x62, 0, 1, 2, 3] ∧
        Progress.Surely (Serves [0x68]) notes.resume
          (fun last got => last = after ∧ got = .ok (.octets [0, 1, 2, 3]))
          after (notes.start (.readToEnd 2)))
      [0x61, 0x62] (notes.start (.write 3 [1, 2, 3])) := by
  have positive : 0 < notes.slice := by decide
  have short : [0x61, 0x62].length < 2 ^ 64 := by decide
  have fits : (3 : UInt64).toNat + [1, 2, 3].length < 2 ^ 64 := by decide
  refine ⟨positive, short, fits, ?_⟩
  apply (read_back_what_was_written notes positive [0x61, 0x62] [1, 2, 3] 3 short fits).mono
  rintro after result ⟨done, rfl, reads⟩
  exact ⟨done, rfl, reads 2⟩

end OpenFile
end SecureShell.Sftp
