import SecureShell.Proofs.Octets.Text

namespace SecureShell
namespace Text

variable {n : Nat} {octets : Octets}

-- UTF-8 as the standard library has it.
def Valid (octets : Octets) : Prop := octets.toByteArray.IsValidUTF8

theorem encodeChar_eq (char : Char) : encodeChar char = String.utf8EncodeChar char := by
  have scalar : char.toNat < 0xD800 ∨ 0xDFFF < char.toNat ∧ char.toNat < 0x110000 := char.valid
  have same : char.val.toNat = char.toNat := rfl
  simp only [encodeChar, String.utf8EncodeChar, same]
  generalize char.toNat = n at *
  by_cases single : n < 0x80
  · rw [if_pos single, if_pos (by omega)]
  by_cases double : n < 0x800
  · have lead : n / 64 % 32 + 192 = 0xC0 + n / 64 := by omega
    rw [if_neg single, if_pos double, if_neg (by omega), if_pos (by omega), lead,
      Nat.add_comm (n % 64)]
  by_cases triple : n < 0x10000
  · have lead : n / 4096 % 16 + 224 = 0xE0 + n / 4096 := by omega
    rw [if_neg single, if_neg double, if_pos triple, if_neg (by omega), if_neg (by omega),
      if_pos (by omega), lead, Nat.add_comm (n % 64), Nat.add_comm (n / 64 % 64)]
  · have lead : n / 262144 % 8 + 240 = 0xF0 + n / 262144 := by omega
    rw [if_neg single, if_neg double, if_neg triple, if_neg (by omega), if_neg (by omega),
      if_neg (by omega), lead, Nat.add_comm (n % 64), Nat.add_comm (n / 64 % 64),
      Nat.add_comm (n / 4096 % 64)]

theorem encode_valid (text : String) : Valid (encode text) := by
  refine ⟨text.toList, ?_⟩
  rw [encode, List.utf8Encode, funext encodeChar_eq]

theorem encode_decode_iff : encode (decode octets) = octets ↔ Valid octets := by
  constructor
  · intro same
    rw [← same]
    exact encode_valid (decode octets)
  · rintro ⟨chars, same⟩
    have written : octets = encode (String.ofList chars) := by
      have data := congrArg (·.data.toList) same
      simpa [List.utf8Encode, encode, funext encodeChar_eq] using data
    rw [written, decode_encode]

theorem length_encodeChar (char : Char) : (encodeChar char).length ≤ 4 := by
  simp only [encodeChar]
  repeat' split
  all_goals simp

theorem length_encodeChar_ascii (small : n < 0x80) : (encodeChar (Char.ofNat n)).length = 1 := by
  have scalar : n.isValidChar := .inl (by omega)
  have same : (Char.ofNat n).toNat = n := by
    rw [Char.ofNat, dif_pos scalar]
    rfl
  simp [encodeChar, same, small]

-- A character takes at most three octets for each octet it was read from: the mark that stands
-- for what cannot be read takes three.
theorem next_growth (lead : UInt8) (rest : Octets) :
    (encodeChar (next lead rest).1).length + 3 * (next lead rest).2.length ≤ 3 * (rest.length + 1) := by
  have mark : (encodeChar replacement).length = 3 := by decide
  have widest := length_encodeChar
  unfold next
  split
  · rename_i ascii
    simp only [length_encodeChar_ascii (UInt8.lt_iff_toNat_lt.mp ascii)]
    omega
  repeat' split
  all_goals simp only [List.length_cons, List.length_nil, mark]
  all_goals try omega
  all_goals exact Nat.le_trans (Nat.add_le_add_right (widest _) _) (by omega)

theorem decodeOnto_growth (done : List Char) (octets : Octets) :
    ((decodeOnto done octets).flatMap encodeChar).length ≤
      (done.flatMap encodeChar).length + 3 * octets.length := by
  induction done, octets using decodeOnto.induct with
  | case1 done => simp [decodeOnto]
  | case2 done lead rest char tail step shorter ih =>
    have growth : (encodeChar char).length + 3 * tail.length ≤ 3 * (rest.length + 1) := by
      simpa only [step] using next_growth lead rest
    rw [decodeOnto_cons step]
    simp only [List.flatMap_cons, List.length_append, List.length_cons] at ih ⊢
    omega

theorem length_encode_decode (octets : Octets) :
    (encode (decode octets)).length ≤ 3 * octets.length := by
  have growth := decodeOnto_growth [] octets
  simpa [encode, decode] using growth

end Text
end SecureShell
