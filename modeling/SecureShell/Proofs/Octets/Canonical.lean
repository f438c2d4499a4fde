import SecureShell.Proofs.Octets.RoundTrip

namespace SecureShell
namespace Octets

variable {octets rest string : Octets} {count : Nat}

-- The octets of a word are those that writing it gives, so nothing else reads as it.
theorem word_canonical {n : UInt32} (found : readWord octets = some (n, rest)) :
    octets = writeWord n ++ rest := by
  unfold readWord at found
  split at found
  · rename_i a b c d tail
    cases found
    have high := a.toNat_lt
    have second := b.toNat_lt
    have third := c.toNat_lt
    have low := d.toNat_lt
    have same : (UInt32.ofNat (((a.toNat * 0x100 + b.toNat) * 0x100 + c.toNat) * 0x100 +
        d.toNat)).toNat = ((a.toNat * 0x100 + b.toNat) * 0x100 + c.toNat) * 0x100 + d.toNat := by
      rw [UInt32.toNat_ofNat']
      omega
    simp only [writeWord, same, List.cons_append, List.nil_append, List.cons.injEq, and_true,
      ← UInt8.toNat_inj, UInt8.toNat_ofNat']
    omega
  · cases found

theorem long_canonical {n : UInt64} (found : readLong octets = some (n, rest)) :
    octets = writeLong n ++ rest := by
  simp only [readLong, Option.bind_eq_bind, Option.bind_eq_some_iff, Prod.exists] at found
  obtain ⟨high, between, first, low, tail, second, made⟩ := found
  cases made
  have upper := high.toNat_lt
  have lower := low.toNat_lt
  have same : (UInt64.ofNat (high.toNat * 0x100000000 + low.toNat)).toNat =
      high.toNat * 0x100000000 + low.toNat := by
    rw [UInt64.toNat_ofNat']
    omega
  have left : UInt32.ofNat ((high.toNat * 0x100000000 + low.toNat) / 0x100000000) = high := by
    rw [← UInt32.toNat_inj, UInt32.toNat_ofNat']
    omega
  have right : UInt32.ofNat (high.toNat * 0x100000000 + low.toNat) = low := by
    rw [← UInt32.toNat_inj, UInt32.toNat_ofNat']
    omega
  rw [word_canonical first, word_canonical second, writeLong, same, left, right, List.append_assoc]

theorem readWord_eq_none : readWord octets = none ↔ octets.length < 4 := by
  unfold readWord
  split
  · simp
  · rename_i short
    refine ⟨fun _ => ?_, fun _ => rfl⟩
    match octets, short with
    | [], _ | [_], _ | [_, _], _ | [_, _, _], _ => simp
    | a :: b :: c :: d :: rest, short => exact absurd rfl (short a b c d rest)

theorem string_canonical (found : readString octets = some (string, rest)) :
    octets = writeString string ++ rest ∧ string.Fits := by
  simp only [readString, Option.bind_eq_bind, Option.bind_eq_some_iff, Prod.exists] at found
  obtain ⟨length, body, word, taken⟩ := found
  obtain ⟨rfl, exact⟩ := takeExact_splits taken
  have fits : string.Fits := by
    unfold Fits
    rw [exact]
    exact length.toNat_lt
  refine ⟨?_, fits⟩
  rw [word_canonical word, writeString, exact, UInt32.ofNat_toNat, List.append_assoc]

theorem string_cancel {other more : Octets} (fits : string.Fits) (fitsToo : other.Fits)
    (same : writeString string ++ rest = writeString other ++ more) :
    string = other ∧ rest = more := by
  have left := string_roundtrip fits rest
  rw [same, string_roundtrip fitsToo more] at left
  cases left
  exact ⟨rfl, rfl⟩

end Octets
end SecureShell
