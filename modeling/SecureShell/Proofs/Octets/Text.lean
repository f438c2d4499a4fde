import SecureShell.Octets.Text
import SecureShell.Proofs.Octets.RoundTrip

namespace SecureShell
namespace Text

variable {n : Nat} {lead : UInt8}

theorem toNat_tail (bits : Nat) : (UInt8.ofNat (0x80 + bits % 0x40)).toNat = 0x80 + bits % 0x40 := by
  rw [UInt8.toNat_ofNat']
  omega

theorem payload_tail (bits : Nat) : payload (UInt8.ofNat (0x80 + bits % 0x40)) = bits % 0x40 := by
  rw [payload, toNat_tail]
  omega

theorem continues_iff {octet : UInt8} :
    continues octet = true ↔ 0x80 ≤ octet.toNat ∧ octet.toNat ≤ 0xBF := by
  simp [continues, UInt8.le_iff_toNat_le]

theorem continues_tail (bits : Nat) : continues (UInt8.ofNat (0x80 + bits % 0x40)) = true := by
  rw [continues_iff, toNat_tail]
  omega

theorem follows_iff {second : UInt8} :
    follows lead second = true ↔ 0x80 ≤ second.toNat ∧ second.toNat ≤ 0xBF ∧
      (lead.toNat = 0xE0 → 0xA0 ≤ second.toNat) ∧ (lead.toNat = 0xED → second.toNat ≤ 0x9F) ∧
      (lead.toNat = 0xF0 → 0x90 ≤ second.toNat) ∧ (lead.toNat = 0xF4 → second.toNat ≤ 0x8F) := by
  unfold follows
  simp only [← UInt8.toNat_inj]
  repeat' split
  all_goals simp_all [continues, UInt8.le_iff_toNat_le]
  all_goals omega

-- What reading comes to on a well-formed sequence of each length.
theorem next_single (ascii : lead.toNat < 0x80) (rest : Octets) :
    next lead rest = (Char.ofNat lead.toNat, rest) := by
  have single : lead < 0x80 := UInt8.lt_iff_toNat_lt.mpr ascii
  unfold next
  rw [if_pos single]

theorem lead_is_valid (low : 0xC2 ≤ lead.toNat) (high : lead.toNat ≤ 0xF4) :
    ¬ lead < 0x80 ∧ ¬ (decide (lead < 0xC2) || decide (0xF4 < lead)) = true := by
  rw [Bool.or_eq_true, decide_eq_true_iff, decide_eq_true_iff, UInt8.lt_iff_toNat_lt,
    UInt8.lt_iff_toNat_lt, UInt8.lt_iff_toNat_lt]
  simp
  omega

theorem next_double (low : 0xC2 ≤ lead.toNat) (high : lead.toNat < 0xE0)
    (second : follows lead octet = true) (rest : Octets) :
    next lead (octet :: rest) = (Char.ofNat (lead.toNat % 0x20 * 0x40 + payload octet), rest) := by
  obtain ⟨long, valid⟩ := lead_is_valid low (by omega)
  have double : lead < 0xE0 := UInt8.lt_iff_toNat_lt.mpr high
  unfold next
  rw [if_neg long, if_neg valid]
  simp only [second, Bool.not_true, Bool.false_eq_true, if_false, if_pos double]

theorem next_triple (low : 0xE0 ≤ lead.toNat) (high : lead.toNat < 0xF0)
    (second : follows lead octet = true) (third : continues last = true) (rest : Octets) :
    next lead (octet :: last :: rest) =
      (Char.ofNat ((lead.toNat % 0x10 * 0x40 + payload octet) * 0x40 + payload last), rest) := by
  obtain ⟨long, valid⟩ := lead_is_valid (Nat.le_trans (by decide) low) (by omega)
  have notDouble : ¬ lead < 0xE0 := fun less => by
    have := UInt8.lt_iff_toNat_lt.mp less
    simp at this
    omega
  have triple : lead < 0xF0 := UInt8.lt_iff_toNat_lt.mpr high
  unfold next
  rw [if_neg long, if_neg valid]
  simp only [second, third, Bool.not_true, Bool.false_eq_true, if_false, if_neg notDouble,
    if_pos triple]

theorem next_quadruple (low : 0xF0 ≤ lead.toNat) (high : lead.toNat ≤ 0xF4)
    (second : follows lead octet = true) (third : continues middle = true)
    (fourth : continues last = true) (rest : Octets) :
    next lead (octet :: middle :: last :: rest) =
      (Char.ofNat (((lead.toNat % 0x08 * 0x40 + payload octet) * 0x40 + payload middle) * 0x40 +
        payload last), rest) := by
  obtain ⟨long, valid⟩ := lead_is_valid (Nat.le_trans (by decide) low) high
  have notTriple : ¬ lead < 0xF0 := fun less => by
    have := UInt8.lt_iff_toNat_lt.mp less
    simp at this
    omega
  have notDouble : ¬ lead < 0xE0 := fun less => notTriple (UInt8.lt_trans less (by decide))
  unfold next
  rw [if_neg long, if_neg valid]
  simp only [second, third, fourth, Bool.not_true, Bool.false_eq_true, if_false,
    if_neg notDouble, if_neg notTriple]

theorem toNat_ofNat_octet (small : n < 0x100) : (UInt8.ofNat n).toNat = n := by
  rw [UInt8.toNat_ofNat']
  exact Nat.mod_eq_of_lt small

-- A character has a first octet, and reading from it gives the character back. The four
-- lengths of the written form are the four ranges of the number.
theorem char_roundtrip (char : Char) (suffix : Octets) :
    ∃ lead tail, encodeChar char = lead :: tail ∧ next lead (tail ++ suffix) = (char, suffix) := by
  have scalar : char.toNat < 0xD800 ∨ 0xDFFF < char.toNat ∧ char.toNat < 0x110000 := char.valid
  have same : Char.ofNat char.toNat = char := Char.ofNat_toNat char
  simp only [encodeChar]
  generalize char.toNat = n at *
  split
  · rename_i single
    have lead := toNat_ofNat_octet (n := n) (by omega)
    refine ⟨_, _, rfl, ?_⟩
    rw [List.nil_append, next_single (by omega), lead, same]
  split
  · rename_i single double
    have lead := toNat_ofNat_octet (n := 0xC0 + n / 0x40) (by omega)
    have second : follows (UInt8.ofNat (0xC0 + n / 0x40)) (UInt8.ofNat (0x80 + n % 0x40)) = true := by
      rw [follows_iff, lead, toNat_tail]
      omega
    have joined : (0xC0 + n / 0x40) % 0x20 * 0x40 + n % 0x40 = n := by omega
    refine ⟨_, _, rfl, ?_⟩
    rw [List.cons_append, List.nil_append, next_double (by omega) (by omega) second, lead,
      payload_tail, joined, same]
  split
  · rename_i single double triple
    have lead := toNat_ofNat_octet (n := 0xE0 + n / 0x1000) (by omega)
    have second : follows (UInt8.ofNat (0xE0 + n / 0x1000))
        (UInt8.ofNat (0x80 + n / 0x40 % 0x40)) = true := by
      rw [follows_iff, lead, toNat_tail]
      omega
    have joined : ((0xE0 + n / 0x1000) % 0x10 * 0x40 + n / 0x40 % 0x40) * 0x40 + n % 0x40 = n := by
      omega
    refine ⟨_, _, rfl, ?_⟩
    rw [List.cons_append, List.cons_append, List.nil_append,
      next_triple (by omega) (by omega) second (continues_tail n), lead, payload_tail,
      payload_tail, joined, same]
  · rename_i single double triple
    have lead := toNat_ofNat_octet (n := 0xF0 + n / 0x40000) (by omega)
    have second : follows (UInt8.ofNat (0xF0 + n / 0x40000))
        (UInt8.ofNat (0x80 + n / 0x1000 % 0x40)) = true := by
      rw [follows_iff, lead, toNat_tail]
      omega
    have joined : (((0xF0 + n / 0x40000) % 0x08 * 0x40 + n / 0x1000 % 0x40) * 0x40 +
        n / 0x40 % 0x40) * 0x40 + n % 0x40 = n := by
      omega
    refine ⟨_, _, rfl, ?_⟩
    rw [List.cons_append, List.cons_append, List.cons_append, List.nil_append,
      next_quadruple (by omega) (by omega) second (continues_tail (n / 0x40)) (continues_tail n),
      lead, payload_tail, payload_tail, payload_tail, joined, same]

theorem decodeOnto_cons (step : next lead rest = (char, tail)) (done : List Char) :
    decodeOnto done (lead :: rest) = decodeOnto (char :: done) tail := by
  rw [decodeOnto]
  split
  rename_i found
  cases step.symm.trans found
  rfl

theorem decodeOnto_encode (chars done : List Char) :
    decodeOnto done (chars.flatMap encodeChar) = done.reverse ++ chars := by
  induction chars generalizing done with
  | nil => rw [List.flatMap_nil, decodeOnto, List.append_nil]
  | cons char chars ih =>
    obtain ⟨lead, tail, written, step⟩ := char_roundtrip char (chars.flatMap encodeChar)
    rw [List.flatMap_cons, written, List.cons_append, decodeOnto_cons step, ih]
    simp

theorem decode_encode (text : String) : decode (encode text) = text := by
  rw [decode, encode, decodeOnto_encode]
  exact String.ofList_toList

def Fits (text : String) : Prop := (encode text).Fits

theorem roundtrip (fits : Fits text) (suffix : Octets) :
    read (write text ++ suffix) = some (text, suffix) := by
  simp only [read, write, Octets.string_roundtrip fits, Option.bind_eq_bind, Option.bind_some,
    decode_encode]
  rfl

namespace Pair

def Fits (pair : Pair) : Prop := Text.Fits pair.1 ∧ Text.Fits pair.2

theorem roundtrip {pair : Pair} (fits : pair.Fits) (suffix : Octets) :
    readPair (writePair pair ++ suffix) = some (pair, suffix) := by
  simp only [readPair, writePair, List.append_assoc, Text.roundtrip fits.1, Text.roundtrip fits.2,
    Option.bind_eq_bind, Option.bind_some]
  rfl

theorem least_le_length (pair : Pair) : 8 ≤ (writePair pair).length := by
  have first := Octets.least_le_length_string (encode pair.1)
  have second := Octets.least_le_length_string (encode pair.2)
  rw [writePair, List.length_append, write, write]
  omega

end Pair
end Text
end SecureShell
