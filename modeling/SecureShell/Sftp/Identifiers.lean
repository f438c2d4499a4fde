namespace SecureShell.Sftp

-- Request IDs are handed out upwards and start over after the largest. IDs that
-- still await a response are passed over. A round over all IDs is long enough.
structure Identifiers where
  next : UInt32 := 0
  deriving DecidableEq

namespace Identifiers

def search (inFlight : UInt32 → Bool) : Nat → UInt32 → Option UInt32
  | 0, _ => none
  | round + 1, id => if inFlight id then search inFlight round (id + 1) else some id

def allocate (identifiers : Identifiers) (inFlight : UInt32 → Bool) : Option UInt32 × Identifiers :=
  match search inFlight 0x100000000 identifiers.next with
  | some id => (some id, ⟨id + 1⟩)
  | none => (none, identifiers)

end Identifiers
end SecureShell.Sftp
