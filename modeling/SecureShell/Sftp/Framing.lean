import SecureShell.Sftp.Codec

namespace SecureShell.Sftp

def longestFrame : Nat := 4 * 1024 * 1024

-- How a stretch of the stream begins.
inductive Split
  | incomplete
  | invalid (length : UInt32)
  | frame (body rest : Octets)
  deriving DecidableEq

def Split.of (octets : Octets) : Split :=
  match Octets.readWord octets with
  | none => .incomplete
  | some (length, rest) =>
    if length = 0 ∨ longestFrame < length.toNat then .invalid length
    else match Octets.takeExact length.toNat rest with
    | none => .incomplete
    | some (body, rest) => .frame body rest

-- Collects a byte stream and hands out its frames one at a time. A length that no
-- frame may have stays in front, so the fault repeats for good.
structure Framing where
  held : Octets := []
  deriving DecidableEq

namespace Framing

def extend (framing : Framing) (data : Octets) : Framing := ⟨framing.held ++ data⟩

def next (framing : Framing) : Except Violation (Option Octets) × Framing :=
  match Split.of framing.held with
  | .incomplete => (.ok none, framing)
  | .invalid length => (.error (.frameLength length), framing)
  | .frame body rest => (.ok (some body), ⟨rest⟩)

theorem next_frame_shortens {framing rest : Framing} (got : framing.next = (.ok (some body), rest)) :
    rest.held.length < framing.held.length := by
  unfold next at got
  split at got
  · cases got
  · cases got
  · rename_i split
    cases got
    unfold Split.of at split
    split at split
    · cases split
    · rename_i found
      split at split
      · cases split
      · split at split
        · cases split
        · rename_i taken
          cases split
          have front := Octets.readWord_shortens found
          obtain ⟨joined, _⟩ := Octets.takeExact_splits taken
          have total := congrArg List.length joined
          simp only [List.length_append] at total
          dsimp only
          omega

-- Everything that can be read by now, in order. Reading stops at the first breach;
-- a frame that holds no message is used up by it.
def drain (framing : Framing) : List (Except Violation Message) × Framing :=
  match got : framing.next with
  | (.ok none, framing) => ([], framing)
  | (.error violation, framing) => ([.error violation], framing)
  | (.ok (some body), rest) =>
    have := next_frame_shortens got
    match Message.read body with
    | .error violation => ([.error violation], rest)
    | .ok message => (.ok message :: rest.drain.1, rest.drain.2)
termination_by framing.held.length

end Framing
end SecureShell.Sftp
