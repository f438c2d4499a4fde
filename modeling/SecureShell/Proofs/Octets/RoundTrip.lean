import SecureShell.Octets

namespace SecureShell
namespace Octets

def wordLimit : Nat := 0x100000000

def Fits (string : Octets) : Prop := string.length < wordLimit

-- Round trips are stated with the octets that follow, so that the fields of a record
-- read back one after the other.
theorem word_roundtrip (n : UInt32) (suffix : Octets) :
    readWord (writeWord n ++ suffix) = some (n, suffix) := by
  have small := n.toNat_lt
  simp only [writeWord, List.cons_append, List.nil_append, readWord, UInt8.toNat_ofNat']
  have joined : ((n.toNat / 0x1000000 % 256 * 0x100 + n.toNat / 0x10000 % 256) * 0x100 +
      n.toNat / 0x100 % 256) * 0x100 + n.toNat % 256 = n.toNat := by
    omega
  rw [joined, UInt32.ofNat_toNat]

theorem long_roundtrip (n : UInt64) (suffix : Octets) :
    readLong (writeLong n ++ suffix) = some (n, suffix) := by
  have small := n.toNat_lt
  have joined : n.toNat / 0x100000000 % 4294967296 * 0x100000000 + n.toNat % 4294967296 =
      n.toNat := by
    omega
  simp only [writeLong, readLong, List.append_assoc, word_roundtrip, Option.bind_eq_bind,
    Option.bind_some, UInt32.toNat_ofNat', joined]
  rw [UInt64.ofNat_toNat]
  rfl

theorem toNat_ofNat_of_fits (fits : n < wordLimit) : (UInt32.ofNat n).toNat = n := by
  rw [UInt32.toNat_ofNat']
  exact Nat.mod_eq_of_lt fits

theorem string_roundtrip {string : Octets} (fits : string.Fits) (suffix : Octets) :
    readString (writeString string ++ suffix) = some (string, suffix) := by
  simp only [writeString, readString, List.append_assoc, word_roundtrip, Option.bind_eq_bind,
    Option.bind_some, toNat_ofNat_of_fits fits, takeExact_append]

theorem length_writeWord (n : UInt32) : (writeWord n).length = 4 := rfl

theorem least_le_length_string (string : Octets) : 4 ≤ (writeString string).length := by
  rw [writeString, List.length_append, length_writeWord]
  exact Nat.le_add_right 4 _

section Repeated

variable {read : Octets → Option (α × Octets)} {write : α → Octets} {values : List α}

theorem times_roundtrip
    (each : ∀ value ∈ values, ∀ suffix, read (write value ++ suffix) = some (value, suffix))
    (suffix : Octets) :
    readTimes read values.length (values.flatMap write ++ suffix) = some (values, suffix) := by
  induction values with
  | nil => rfl
  | cons value values ih =>
    have later := ih (fun value member => each value (List.mem_cons_of_mem _ member))
    simp only [List.length_cons, List.flatMap_cons, List.append_assoc, readTimes,
      each value List.mem_cons_self, later, Option.bind_eq_bind, Option.bind_some]
    rfl

theorem least_le_length_flatMap (least : Nat)
    (each : ∀ value ∈ values, least ≤ (write value).length) :
    values.length * least ≤ (values.flatMap write).length := by
  induction values with
  | nil => simp
  | cons value values ih =>
    have later := ih (fun value member => each value (List.mem_cons_of_mem _ member))
    have first := each value List.mem_cons_self
    rw [List.length_cons, List.flatMap_cons, List.length_append, Nat.succ_mul]
    omega

theorem counted_roundtrip (least : Nat) (fits : values.length < wordLimit)
    (long : ∀ value ∈ values, least ≤ (write value).length)
    (each : ∀ value ∈ values, ∀ suffix, read (write value ++ suffix) = some (value, suffix))
    (suffix : Octets) :
    readCounted least read (writeWord (UInt32.ofNat values.length) ++ values.flatMap write ++ suffix) =
      some (values, suffix) := by
  have count : (UInt32.ofNat values.length).toNat = values.length := toNat_ofNat_of_fits fits
  have room : (UInt32.ofNat values.length).toNat * least ≤ (values.flatMap write ++ suffix).length := by
    rw [count, List.length_append]
    exact Nat.le_add_right_of_le (least_le_length_flatMap least long)
  rw [List.append_assoc, readCounted_enters (word_roundtrip ..) room, count]
  exact times_roundtrip each suffix

end Repeated

end Octets
end SecureShell
