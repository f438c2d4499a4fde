import SecureShell.Octets.Text

namespace SecureShell.Sftp

structure Owner where
  user : UInt32
  group : UInt32
  deriving DecidableEq

structure Times where
  accessed : UInt32
  modified : UInt32
  deriving DecidableEq

-- Only what is present travels. `extended` present but empty is not the same as absent.
structure Attributes where
  size : Option UInt64 := none
  owner : Option Owner := none
  permissions : Option UInt32 := none
  times : Option Times := none
  extended : Option (List Text.Pair) := none
  deriving DecidableEq

namespace Attributes

def sizeBit : UInt32 := 0x00000001
def ownerBit : UInt32 := 0x00000002
def permissionsBit : UInt32 := 0x00000004
def timesBit : UInt32 := 0x00000008
def extendedBit : UInt32 := 0x80000000
def knownBits : UInt32 := 0x8000000F

def bitWhen (present : Bool) (bit : UInt32) : UInt32 := if present then bit else 0

def flags (attributes : Attributes) : UInt32 :=
  bitWhen attributes.size.isSome sizeBit ||| bitWhen attributes.owner.isSome ownerBit |||
  bitWhen attributes.permissions.isSome permissionsBit ||| bitWhen attributes.times.isSome timesBit |||
  bitWhen attributes.extended.isSome extendedBit

def writeSome (write : α → Octets) : Option α → Octets
  | none => []
  | some value => write value

def writeOwner (owner : Owner) : Octets :=
  Octets.writeWord owner.user ++ Octets.writeWord owner.group

def writeTimes (times : Times) : Octets :=
  Octets.writeWord times.accessed ++ Octets.writeWord times.modified

def writeExtended (pairs : List Text.Pair) : Octets :=
  Octets.writeWord (UInt32.ofNat pairs.length) ++ Text.writePairs pairs

def write (attributes : Attributes) : Octets :=
  Octets.writeWord attributes.flags ++ writeSome Octets.writeLong attributes.size ++
  writeSome writeOwner attributes.owner ++ writeSome Octets.writeWord attributes.permissions ++
  writeSome writeTimes attributes.times ++ writeSome writeExtended attributes.extended

def readOwner (octets : Octets) : Option (Owner × Octets) := do
  let (user, rest) ← Octets.readWord octets
  let (group, rest) ← Octets.readWord rest
  return (⟨user, group⟩, rest)

def readTimes (octets : Octets) : Option (Times × Octets) := do
  let (accessed, rest) ← Octets.readWord octets
  let (modified, rest) ← Octets.readWord rest
  return (⟨accessed, modified⟩, rest)

-- Each pair takes two length words at the least.
def readExtended (octets : Octets) : Option (List Text.Pair × Octets) :=
  Octets.readCounted 8 Text.readPair octets

def has (flags bit : UInt32) : Bool := flags &&& bit != 0

-- Unknown flag bits are passed over.
def read (octets : Octets) : Option (Attributes × Octets) := do
  let (flags, rest) ← Octets.readWord octets
  let (size, rest) ← Octets.readWhen (has flags sizeBit) Octets.readLong rest
  let (owner, rest) ← Octets.readWhen (has flags ownerBit) readOwner rest
  let (permissions, rest) ← Octets.readWhen (has flags permissionsBit) Octets.readWord rest
  let (times, rest) ← Octets.readWhen (has flags timesBit) readTimes rest
  let (extended, rest) ← Octets.readWhen (has flags extendedBit) readExtended rest
  return ({ size, owner, permissions, times, extended }, rest)

end Attributes

-- The name is kept as it came, so that it can be sent back even where it is no text.
structure Entry where
  name : Octets
  description : String
  attributes : Attributes
  deriving DecidableEq

namespace Entry

def label (entry : Entry) : String := Text.decode entry.name

def write (entry : Entry) : Octets :=
  Octets.writeString entry.name ++ Text.write entry.description ++ entry.attributes.write

def read (octets : Octets) : Option (Entry × Octets) := do
  let (name, rest) ← Octets.readString octets
  let (description, rest) ← Text.read rest
  let (attributes, rest) ← Attributes.read rest
  return (⟨name, description, attributes⟩, rest)

end Entry
end SecureShell.Sftp
