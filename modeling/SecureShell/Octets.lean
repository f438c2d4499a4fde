namespace SecureShell

abbrev Octets := List UInt8

namespace Octets

-- Words travel with the most significant octet first. A reader returns what it
-- read and the octets after it, or nothing when too few octets are left.
def writeWord (n : UInt32) : Octets :=
  [UInt8.ofNat (n.toNat / 0x1000000), UInt8.ofNat (n.toNat / 0x10000),
   UInt8.ofNat (n.toNat / 0x100), UInt8.ofNat n.toNat]

def readWord : Octets → Option (UInt32 × Octets)
  | a :: b :: c :: d :: rest =>
    some (UInt32.ofNat (((a.toNat * 0x100 + b.toNat) * 0x100 + c.toNat) * 0x100 + d.toNat), rest)
  | _ => none

def writeLong (n : UInt64) : Octets :=
  writeWord (UInt32.ofNat (n.toNat / 0x100000000)) ++ writeWord (UInt32.ofNat n.toNat)

def readLong (octets : Octets) : Option (UInt64 × Octets) := do
  let (high, rest) ← readWord octets
  let (low, rest) ← readWord rest
  return (UInt64.ofNat (high.toNat * 0x100000000 + low.toNat), rest)

-- The first `count` octets, all of them or none.
def takeExact (count : Nat) (octets : Octets) : Option (Octets × Octets) :=
  let taken := octets.take count
  if taken.length = count then some (taken, octets.drop count) else none

-- A string is its length as a word, then its octets.
def writeString (string : Octets) : Octets :=
  writeWord (UInt32.ofNat string.length) ++ string

def readString (octets : Octets) : Option (Octets × Octets) := do
  let (length, rest) ← readWord octets
  takeExact length.toNat rest

-- Repeats a reader a given number of times.
def readTimes (read : Octets → Option (α × Octets)) : Nat → Octets → Option (List α × Octets)
  | 0, octets => some ([], octets)
  | count + 1, octets => do
    let (value, rest) ← read octets
    let (values, rest) ← readTimes read count rest
    return (value :: values, rest)

-- A count, then that many values of at least `least` octets each. A count that
-- the remaining octets cannot hold is refused before the first value is read.
def readCounted (least : Nat) (read : Octets → Option (α × Octets)) (octets : Octets) :
    Option (List α × Octets) := do
  let (count, rest) ← readWord octets
  if count.toNat * least ≤ rest.length then readTimes read count.toNat rest else none

section Counted

variable {least : Nat} {count : UInt32} {read : Octets → Option (α × Octets)} {octets rest : Octets}

theorem readCounted_enters (announced : readWord octets = some (count, rest))
    (room : count.toNat * least ≤ rest.length) :
    readCounted least read octets = readTimes read count.toNat rest := by
  simp [readCounted, announced, room]

-- Whatever the values are, none of them is read.
theorem readCounted_refuses (announced : readWord octets = some (count, rest))
    (short : rest.length < count.toNat * least) : readCounted least read octets = none := by
  simp [readCounted, announced, Nat.not_le_of_lt short]

theorem readCounted_entered {values : List α} {left : Octets}
    (found : readCounted least read octets = some (values, left)) :
    ∃ count rest, readWord octets = some (count, rest) ∧ count.toNat * least ≤ rest.length ∧
      readTimes read count.toNat rest = some (values, left) := by
  obtain ⟨⟨count, rest⟩, announced, read⟩ := Option.bind_eq_some_iff.mp found
  by_cases room : count.toNat * least ≤ rest.length
  · exact ⟨count, rest, announced, room, (readCounted_enters announced room).symm.trans found⟩
  · rw [readCounted_refuses announced (Nat.lt_of_not_le room)] at found
    cases found

end Counted

def readWhen (present : Bool) (read : Octets → Option (α × Octets)) (octets : Octets) :
    Option (Option α × Octets) :=
  if present then (read octets).map fun (value, rest) => (some value, rest)
  else some (none, octets)

theorem readWord_shortens (read : readWord octets = some (value, rest)) :
    octets.length = rest.length + 4 := by
  unfold readWord at read
  split at read
  · cases read; simp
  · cases read

theorem takeExact_splits (taken : takeExact count octets = some (front, rest)) :
    octets = front ++ rest ∧ front.length = count := by
  simp only [takeExact] at taken
  split at taken
  · rename_i exact
    cases taken
    exact ⟨(List.take_append_drop count octets).symm, exact⟩
  · cases taken

theorem takeExact_append (front rest : Octets) :
    takeExact front.length (front ++ rest) = some (front, rest) := by
  simp [takeExact]

end Octets
end SecureShell
