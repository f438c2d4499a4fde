import SecureShell.Packet.Sha256

namespace SecureShell.Packet.Hmac

def blockLength : Nat := 64

def tagLength : Nat := 32

-- A key longer than a block is replaced by its digest; a shorter one is filled up.
def normalized (key : Octets) : Octets :=
  let short := if blockLength < key.length then Sha256.digest key else key
  short ++ List.replicate (blockLength - short.length) 0

def tag (key message : Octets) : Octets :=
  let key := normalized key
  Sha256.digest (key.map (· ^^^ 0x5C) ++ Sha256.digest (key.map (· ^^^ 0x36) ++ message))

theorem tag_length (key message : Octets) : (tag key message).length = tagLength := by
  simp [tag, Sha256.digest, Sha256.output, Octets.writeWord, tagLength]

end SecureShell.Packet.Hmac
