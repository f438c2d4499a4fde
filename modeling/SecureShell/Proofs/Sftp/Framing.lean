import SecureShell.Proofs.Custody
import SecureShell.Proofs.Octets.Canonical
import SecureShell.Sftp.Framing

namespace SecureShell.Sftp
open Octets (word_roundtrip word_canonical string_roundtrip string_canonical string_cancel)

def Proper (body : Octets) : Prop := 1 ≤ body.length ∧ body.length ≤ longestFrame

-- A stream read as one frame after the other: each is its length as a word and then its body.
structure Frames (stream : Octets) (bodies : List Octets) (tail : Octets) : Prop where
  joined : stream = bodies.flatMap Octets.writeString ++ tail
  proper : ∀ body ∈ bodies, Proper body

-- The length in front is missing, or it is one that a frame may have and the body is cut short.
def Unfinished (tail : Octets) : Prop :=
  tail.length < 4 ∨ ∃ length rest, tail = Octets.writeWord length ++ rest ∧
    1 ≤ length.toNat ∧ length.toNat ≤ longestFrame ∧ rest.length < length.toNat

def Barred (length : UInt32) (tail : Octets) : Prop :=
  ∃ rest, tail = Octets.writeWord length ++ rest ∧ (length = 0 ∨ longestFrame < length.toNat)

theorem Proper.fits {body : Octets} (proper : Proper body) : body.Fits :=
  Nat.lt_of_le_of_lt proper.2 (by decide)

namespace Frames

variable {stream tail : Octets} {bodies : List Octets}

theorem append_octets (frames : Frames stream bodies tail) (more : Octets) :
    Frames (stream ++ more) bodies (tail ++ more) := by
  obtain ⟨rfl, proper⟩ := frames
  exact ⟨by rw [List.append_assoc], proper⟩

theorem snoc {body : Octets} (frames : Frames stream bodies (Octets.writeString body ++ tail))
    (proper : Proper body) : Frames stream (bodies ++ [body]) tail := by
  obtain ⟨rfl, each⟩ := frames
  refine ⟨by simp, ?_⟩
  intro other member
  rcases List.mem_append.mp member with before | last
  · exact each other before
  · cases List.mem_singleton.mp last
    exact proper

theorem agree {others : List Octets} {end' : Octets} (frames : Frames stream bodies tail)
    (again : Frames stream others end') : bodies <+: others ∨ others <+: bodies := by
  induction bodies generalizing stream others with
  | nil => exact .inl (List.nil_prefix)
  | cons body bodies ih =>
    cases others with
    | nil => exact .inr (List.nil_prefix)
    | cons other others =>
      obtain ⟨rfl, proper⟩ := frames
      obtain ⟨same, proper'⟩ := again
      have first := proper body List.mem_cons_self
      have first' := proper' other List.mem_cons_self
      simp only [List.flatMap_cons, List.append_assoc] at same
      obtain ⟨rfl, rest⟩ := string_cancel first.fits first'.fits same
      have left : Frames (bodies.flatMap Octets.writeString ++ tail) bodies tail :=
        ⟨rfl, fun body member => proper body (List.mem_cons_of_mem _ member)⟩
      have right : Frames (bodies.flatMap Octets.writeString ++ tail) others end' :=
        ⟨rest, fun body member => proper' body (List.mem_cons_of_mem _ member)⟩
      rcases ih left right with shorter | longer
      · exact .inl (List.cons_prefix_cons.mpr ⟨rfl, shorter⟩)
      · exact .inr (List.cons_prefix_cons.mpr ⟨rfl, longer⟩)

theorem left_of_whole {others : List Octets} (whole : Frames stream bodies [])
    (frames : Frames stream others tail) : ∃ left, bodies = others ++ left ∧ Frames tail left [] := by
  obtain ⟨rfl, proper⟩ := whole
  have joined := frames.joined
  rcases agree ⟨rfl, proper⟩ frames with ⟨more, rfl⟩ | ⟨left, rfl⟩
  · simp only [List.flatMap_append, List.append_assoc, List.append_cancel_left_eq] at joined
    obtain ⟨nothing, rfl⟩ := List.append_eq_nil_iff.mp joined.symm
    have none : more = [] := by
      cases more with
      | nil => rfl
      | cons body more => cases nothing
    subst none
    exact ⟨[], by simp, rfl, nofun⟩
  · simp only [List.flatMap_append, List.append_assoc, List.append_cancel_left_eq] at joined
    exact ⟨left, rfl, joined.symm, fun body member => proper body (List.mem_append_right _ member)⟩

theorem of_messages {messages : List Message}
    (short : ∀ message ∈ messages, message.write.length ≤ longestFrame) :
    Frames (messages.flatMap Message.frame) (messages.map Message.write) [] := by
  refine ⟨by rw [List.append_nil, List.flatMap_map]; rfl, ?_⟩
  intro body member
  obtain ⟨message, among, rfl⟩ := List.mem_map.mp member
  have nonempty : 1 ≤ message.write.length := by cases message <;> simp [Message.write]
  exact ⟨nonempty, short message among⟩

end Frames

namespace Framing

variable {framing : Framing} {body rest : Octets} {length : UInt32}

theorem next_frame (proper : Proper body) (front : framing.held = Octets.writeString body ++ rest) :
    framing.next = (.ok (some body), ⟨rest⟩) := by
  obtain ⟨nonempty, short⟩ := proper
  have counted := Octets.toNat_ofNat_of_fits (Proper.fits ⟨nonempty, short⟩)
  have allowed : ¬ (UInt32.ofNat body.length = 0 ∨
      longestFrame < (UInt32.ofNat body.length).toNat) := by
    rw [← UInt32.toNat_inj, counted, UInt32.toNat_zero]
    omega
  simp only [next, Split.of, front, Octets.writeString, List.append_assoc, word_roundtrip]
  rw [if_neg allowed, counted, Octets.takeExact_append]

theorem next_invalid (barred : Barred length framing.held) :
    framing.next = (.error (.frameLength length), framing) := by
  obtain ⟨rest, front, bad⟩ := barred
  simp only [next, Split.of, front, word_roundtrip]
  rw [if_pos bad]

theorem next_incomplete (unfinished : Unfinished framing.held) :
    framing.next = (.ok none, framing) := by
  rcases unfinished with missing | ⟨length, rest, front, nonempty, short, cut⟩
  · simp only [next, Split.of, Octets.readWord_eq_none.mpr missing]
  · have allowed : ¬ (length = 0 ∨ longestFrame < length.toNat) := by
      rw [← UInt32.toNat_inj, UInt32.toNat_zero]
      omega
    have few : (rest.take length.toNat).length ≠ length.toNat := by
      rw [List.length_take]
      omega
    simp only [next, Split.of, front, word_roundtrip]
    rw [if_neg allowed, Octets.takeExact, if_neg few]

theorem next_cases (framing : Framing) :
    (∃ body rest, Proper body ∧ framing.held = Octets.writeString body ++ rest ∧
      framing.next = (.ok (some body), ⟨rest⟩)) ∨
    (Unfinished framing.held ∧ framing.next = (.ok none, framing)) ∨
    ∃ length, Barred length framing.held ∧
      framing.next = (.error (.frameLength length), framing) := by
  obtain ⟨held⟩ := framing
  cases found : Octets.readWord held with
  | none =>
    have unfinished : Unfinished held := .inl (Octets.readWord_eq_none.mp found)
    exact .inr (.inl ⟨unfinished, next_incomplete unfinished⟩)
  | some pair =>
    obtain ⟨length, rest⟩ := pair
    have front := word_canonical found
    by_cases bad : length = 0 ∨ longestFrame < length.toNat
    · have barred : Barred length held := ⟨rest, front, bad⟩
      exact .inr (.inr ⟨length, barred, next_invalid barred⟩)
    rw [← UInt32.toNat_inj, UInt32.toNat_zero] at bad
    by_cases cut : rest.length < length.toNat
    · have unfinished : Unfinished held := .inr ⟨length, rest, front, by omega, by omega, cut⟩
      exact .inr (.inl ⟨unfinished, next_incomplete unfinished⟩)
    have taken : (rest.take length.toNat).length = length.toNat := by
      rw [List.length_take]
      omega
    have whole : held = Octets.writeString (rest.take length.toNat) ++ rest.drop length.toNat := by
      rw [front, Octets.writeString, taken, UInt32.ofNat_toNat, List.append_assoc,
        List.take_append_drop]
    have proper : Proper (rest.take length.toNat) := by
      unfold Proper
      omega
    exact .inl ⟨_, _, proper, whole, next_frame proper whole⟩

theorem next_frame_iff :
    framing.next.1 = .ok (some body) ↔
      Proper body ∧ ∃ rest, framing.held = Octets.writeString body ++ rest := by
  constructor
  · intro got
    rcases next_cases framing with ⟨found, rest, proper, front, same⟩ | ⟨_, same⟩ | ⟨_, _, same⟩
    all_goals rw [same] at got
    all_goals cases got
    exact ⟨proper, rest, front⟩
  · rintro ⟨proper, rest, front⟩
    rw [next_frame proper front]

theorem next_none_iff : framing.next.1 = .ok none ↔ Unfinished framing.held := by
  constructor
  · intro got
    rcases next_cases framing with ⟨_, _, _, _, same⟩ | ⟨unfinished, same⟩ | ⟨_, _, same⟩
    all_goals rw [same] at got
    all_goals cases got
    exact unfinished
  · intro unfinished
    rw [next_incomplete unfinished]

theorem next_error_iff {violation : Violation} :
    framing.next.1 = .error violation ↔
      ∃ length, violation = .frameLength length ∧ Barred length framing.held := by
  constructor
  · intro got
    rcases next_cases framing with ⟨_, _, _, _, same⟩ | ⟨_, same⟩ | ⟨length, barred, same⟩
    all_goals rw [same] at got
    all_goals cases got
    exact ⟨length, rfl, barred⟩
  · rintro ⟨length, rfl, barred⟩
    rw [next_invalid barred]

inductive Use
  | extend (chunk : Octets)
  | next
  deriving DecidableEq

structure Turn where
  next : Framing
  answer : Option (Except Violation (Option Octets)) := none

def turn (framing : Framing) : Use → Turn
  | .extend chunk => { next := framing.extend chunk }
  | .next => ⟨framing.next.2, some framing.next.1⟩

def machine : Machine Framing Use Turn := ⟨turn, Turn.next⟩

def Use.brought : Use → Octets
  | .extend chunk => chunk
  | .next => []

def Turn.body? (turn : Turn) : Option Octets :=
  match turn.answer with
  | some (.ok body?) => body?
  | _ => none

def stream (uses : List Use) : Octets := uses.flatMap Use.brought

def bodies (framing : Framing) (uses : List Use) : List Octets :=
  (machine.steps framing uses).filterMap Turn.body?

def after (uses : List Use) : Framing := machine.reach {} uses

def handedOut (uses : List Use) : List Octets := bodies {} uses

variable {uses : List Use}

theorem after_append (earlier later : List Use) :
    after (earlier ++ later) = machine.reach (after earlier) later :=
  machine.reach_append {} earlier later

theorem handedOut_append (earlier later : List Use) :
    handedOut (earlier ++ later) = handedOut earlier ++ bodies (after earlier) later := by
  simp [handedOut, bodies, after]

theorem bodies_cons (framing : Framing) (use : Use) (uses : List Use) :
    bodies framing (use :: uses) =
      (framing.turn use).body?.toList ++ bodies (framing.turn use).next uses := by
  simp only [bodies, Machine.steps, List.filterMap_cons]
  cases given : (framing.turn use).body? <;> simp [machine, given]

theorem turn_frames {start : Octets} {done : List Octets} (frames : Frames start done framing.held)
    (use : Use) :
    Frames (start ++ use.brought) (done ++ (framing.turn use).body?.toList)
      (framing.turn use).next.held := by
  cases use with
  | extend chunk => simpa [turn, Turn.body?, extend, Use.brought] using frames.append_octets chunk
  | next =>
    simp only [turn, Use.brought, List.append_nil]
    rcases next_cases framing with ⟨body, rest, proper, front, same⟩ | ⟨_, same⟩ | ⟨_, _, same⟩
    · rw [front] at frames
      simpa [same, Turn.body?] using frames.snoc proper
    · simpa [same, Turn.body?] using frames
    · simpa [same, Turn.body?] using frames

theorem reach_frames {start : Octets} {done : List Octets} (frames : Frames start done framing.held)
    (uses : List Use) :
    Frames (start ++ stream uses) (done ++ bodies framing uses) (machine.reach framing uses).held := by
  induction uses generalizing framing start done with
  | nil => simpa [stream, bodies, Machine.steps, Machine.reach] using frames
  | cons use uses ih =>
    have later := ih (turn_frames frames use)
    rw [bodies_cons]
    simpa [stream, Machine.reach, machine] using later

theorem after_frames (uses : List Use) : Frames (stream uses) (handedOut uses) (after uses).held := by
  have fresh : Frames [] [] ({} : Framing).held := ⟨rfl, nofun⟩
  exact reach_frames fresh uses

theorem barred_append (barred : Barred length framing.held) (chunk : Octets) :
    Barred length (framing.extend chunk).held := by
  obtain ⟨rest, front, bad⟩ := barred
  exact ⟨rest ++ chunk, by rw [extend, front, List.append_assoc], bad⟩

theorem barred_stays (barred : Barred length framing.held) (uses : List Use) :
    (machine.reach framing uses).held = framing.held ++ stream uses ∧ bodies framing uses = [] := by
  induction uses generalizing framing with
  | nil => simp [stream, bodies, Machine.steps, Machine.reach]
  | cons use uses ih =>
    rw [bodies_cons, Machine.reach]
    cases use with
    | extend chunk =>
      obtain ⟨held, none⟩ := ih (barred_append barred chunk)
      refine ⟨?_, none⟩
      rw [show machine.next (machine.advance framing (.extend chunk)) = framing.extend chunk from rfl,
        held, extend, List.append_assoc]
      rfl
    | next =>
      obtain ⟨held, none⟩ := ih barred
      have turned : framing.turn .next = ⟨framing, some (.error (.frameLength length))⟩ := by
        rw [turn, next_invalid barred]
      rw [show machine.next (machine.advance framing .next) = (framing.turn .next).next from rfl, turned]
      exact ⟨held, none⟩

theorem bodies_replicate {left : List Octets} (frames : Frames framing.held left []) {rounds : Nat}
    (enough : left.length ≤ rounds) : bodies framing (List.replicate rounds .next) = left := by
  induction rounds generalizing framing left with
  | zero =>
    cases left with
    | nil => rfl
    | cons body left => cases enough
  | succ rounds ih =>
    rw [List.replicate_succ, bodies_cons]
    cases left with
    | nil =>
      have unfinished : Unfinished framing.held := .inl (by rw [frames.joined]; decide)
      rw [turn, next_incomplete unfinished]
      exact ih frames (Nat.zero_le _)
    | cons body left =>
      obtain ⟨joined, proper⟩ := frames
      rw [List.flatMap_cons, List.append_nil] at joined
      have later : Frames (left.flatMap Octets.writeString) left [] :=
        ⟨(List.append_nil _).symm, fun body member => proper body (List.mem_cons_of_mem _ member)⟩
      rw [turn, next_frame (proper body List.mem_cons_self) joined]
      exact congrArg (body :: ·) (ih later (Nat.le_of_succ_le_succ enough))

theorem frames_left {messages : List Message}
    (short : ∀ message ∈ messages, message.write.length ≤ longestFrame)
    (given : stream uses = messages.flatMap Message.frame) :
    ∃ left, messages.map Message.write = handedOut uses ++ left ∧
      Frames (after uses).held left [] := by
  have frames := after_frames uses
  rw [given] at frames
  exact (Frames.of_messages short).left_of_whole frames

theorem next_of_whole {left : List Octets} (frames : Frames framing.held left [])
    (violation : Violation) : framing.next.1 ≠ .error violation := by
  obtain ⟨joined, proper⟩ := frames
  rw [List.append_nil] at joined
  cases left with
  | nil =>
    have unfinished : Unfinished framing.held := .inl (by rw [joined]; decide)
    rw [next_incomplete unfinished]
    nofun
  | cons body left =>
    rw [List.flatMap_cons] at joined
    rw [next_frame (proper body List.mem_cons_self) joined]
    nofun

-- What has been handed out of a stream that came in piece by piece is the beginning of the one way
-- to read it; what is held tells the answer to the next question.
structure FramesRead (uses : List Use) : Prop where
  framed : Frames (stream uses) (handedOut uses) (after uses).held
  unique : ∀ bodies tail, Frames (stream uses) bodies tail →
    handedOut uses <+: bodies ∨ bodies <+: handedOut uses
  frame : ∀ body, (after uses).next.1 = .ok (some body) ↔
    Proper body ∧ ∃ rest, (after uses).held = Octets.writeString body ++ rest
  unfinished : (after uses).next.1 = .ok none ↔ Unfinished (after uses).held
  barred : ∀ violation, (after uses).next.1 = .error violation ↔
    ∃ length, violation = .frameLength length ∧ Barred length (after uses).held
  stays : ∀ violation, (after uses).next.1 = .error violation → ∀ more,
    (after (uses ++ more)).next.1 = .error violation ∧
    (after (uses ++ more)).held = (after uses).held ++ stream more ∧
    handedOut (uses ++ more) = handedOut uses
  messages : ∀ messages : List Message,
    (∀ message ∈ messages, message.write.length ≤ longestFrame) →
    stream uses = messages.flatMap Message.frame →
    handedOut uses <+: messages.map Message.write ∧
    (∀ violation, (after uses).next.1 ≠ .error violation) ∧
    ∀ rounds, messages.length ≤ rounds →
      handedOut (uses ++ List.replicate rounds .next) = messages.map Message.write

theorem stream_read_whatever_cuts (uses : List Use) : FramesRead uses where
  framed := after_frames uses
  unique _ _ := (after_frames uses).agree
  frame _ := next_frame_iff
  unfinished := next_none_iff
  barred _ := next_error_iff
  stays violation met more := by
    obtain ⟨length, rfl, barred⟩ := next_error_iff.mp met
    obtain ⟨held, none⟩ := barred_stays barred more
    rw [← after_append] at held
    have still : Barred length (after (uses ++ more)).held := by
      rw [held]
      exact barred_append barred (stream more)
    refine ⟨next_error_iff.mpr ⟨length, rfl, still⟩, held, ?_⟩
    rw [handedOut_append, none, List.append_nil]
  messages messages short given := by
    obtain ⟨left, all, whole⟩ := frames_left short given
    refine ⟨⟨left, all.symm⟩, next_of_whole whole, ?_⟩
    intro rounds enough
    have count := congrArg List.length all
    rw [List.length_map, List.length_append] at count
    rw [handedOut_append, bodies_replicate whole (by omega), all]

-- Two messages cut inside the first length and inside the second body, with a question in
-- between, and then a length of zero.
def replies : List Message := [.response 1 (.handle [0x68]), .response 2 (.data [0x70, 0x71])]

def cut : List Use :=
  let sent := replies.flatMap Message.frame
  [.extend (sent.take 3), .next, .extend [], .extend ((sent.drop 3).take 19), .next, .next,
   .extend (sent.drop 22)]

def spoiled : List Use := cut ++ [.next, .extend [0, 0, 0, 0]]

theorem stream_read_whatever_cuts_replies :
    (∀ message ∈ replies, message.write.length ≤ longestFrame) ∧
    stream cut = replies.flatMap Message.frame ∧
    handedOut (cut ++ List.replicate 2 .next) = replies.map Message.write ∧
    (after spoiled).next.1 = .error (.frameLength 0) ∧
    (after (spoiled ++ [.next, .extend [1], .next])).next.1 = .error (.frameLength 0) := by
  have short : ∀ message ∈ replies, message.write.length ≤ longestFrame := by decide
  have given : stream cut = replies.flatMap Message.frame := by decide
  have met : (after spoiled).next.1 = .error (.frameLength 0) := by decide
  have read := stream_read_whatever_cuts cut
  have stopped := stream_read_whatever_cuts spoiled
  exact ⟨short, given, (read.messages replies short given).2.2 2 (by decide), met,
    (stopped.stays _ met _).1⟩

end Framing
end SecureShell.Sftp
