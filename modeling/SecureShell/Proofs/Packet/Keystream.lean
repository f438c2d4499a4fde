import Mathlib.Data.List.Basic
import SecureShell.Packet.Protection

namespace SecureShell.Packet

namespace Aes

theorem block_entries {block : Octets} (full : block.length = 16) :
    ∃ a b c d e f g h i j k l m n o p,
      block = [a, b, c, d, e, f, g, h, i, j, k, l, m, n, o, p] := by
  match block, full with
  | [a, b, c, d, e, f, g, h, i, j, k, l, m, n, o, p], _ =>
    exact ⟨a, b, c, d, e, f, g, h, i, j, k, l, m, n, o, p, rfl⟩

theorem length_nextKey (constant : UInt8) {key : RoundKey} (full : key.length = 16) :
    (nextKey constant key).length = 16 := by
  obtain ⟨a, b, c, d, e, f, g, h, i, j, k, l, m, n, o, p, rfl⟩ := block_entries full
  rfl

theorem length_of_mem_expand {count : Nat} {constant : UInt8} {key : RoundKey}
    (full : key.length = 16) : ∀ later ∈ expand count constant key, later.length = 16 := by
  induction count generalizing constant key with
  | zero =>
    intro later member
    rwa [List.mem_singleton.mp member]
  | succ count ih =>
    intro later member
    rcases List.mem_cons.mp member with rfl | more
    · exact full
    · exact ih (length_nextKey constant full) later more

theorem length_shiftRows (block : Octets) : (shiftRows block).length = block.length := by
  unfold shiftRows
  split <;> rfl

theorem length_mixColumns : ∀ block : Octets, (mixColumns block).length = block.length
  | a :: b :: c :: d :: rest => by simp [mixColumns, length_mixColumns rest]
  | [] | [_] | [_, _] | [_, _, _] => rfl

theorem length_xor {left right : Octets} (full : left.length = 16) (key : right.length = 16) :
    (xor left right).length = 16 := by
  rw [xor, List.length_zipWith, full, key, Nat.min_self]

theorem length_rounds {keys : List RoundKey} (full : ∀ key ∈ keys, key.length = 16)
    {block : Octets} (whole : block.length = 16) : (rounds block keys).length = 16 := by
  have row : (shiftRows (block.map substitute)).length = 16 := by
    rw [length_shiftRows, List.length_map, whole]
  induction keys generalizing block with
  | nil => exact whole
  | cons key keys ih =>
    have first := full key List.mem_cons_self
    cases keys with
    | nil => exact length_xor row first
    | cons next keys =>
      have mixed := length_xor ((length_mixColumns _).trans row) first
      refine ih (fun key member => full key (List.mem_cons_of_mem _ member)) mixed ?_
      rw [length_shiftRows, List.length_map, mixed]

theorem length_encipher {keys : List RoundKey} (full : ∀ key ∈ keys, key.length = 16)
    {block : Octets} (whole : block.length = 16) : (encipher keys block).length = 16 := by
  cases keys with
  | nil => exact whole
  | cons first keys =>
    exact length_rounds (fun key member => full key (List.mem_cons_of_mem _ member))
      (length_xor whole (full first List.mem_cons_self))

end Aes

theorem length_counterBlock (n : Nat) : (counterBlock n).length = blockLength := rfl

section Combine

variable {stream : Nat → Octets} {front data : Octets} {position : Nat}

@[simp] theorem combine_nil (stream : Nat → Octets) (position : Nat) :
    combine stream position [] = [] := by
  rw [combine, if_pos List.length_nil]

theorem combine_block (stream : Nat → Octets) (position : Nat) (data : Octets) :
    combine stream position data =
      List.zipWith (· ^^^ ·) (data.take blockLength) (stream position) ++
        combine stream (position + 1) (data.drop blockLength) := by
  by_cases empty : data.length = 0
  · simp [List.eq_nil_of_length_eq_zero empty]
  · rw [combine, if_neg empty]

theorem combine_append (whole : front.length % blockLength = 0) (data : Octets) :
    combine stream position (front ++ data) =
      combine stream position front ++
        combine stream (position + front.length / blockLength) data := by
  fun_induction combine stream position front with
  | case1 position front empty => simp [List.eq_nil_of_length_eq_zero empty]
  | case2 position front some ih =>
    unfold blockLength at whole
    have long : blockLength ≤ front.length := by unfold blockLength; omega
    have rest : (front.drop blockLength).length % blockLength = 0 := by
      rw [List.length_drop]; unfold blockLength; omega
    have next : position + 1 + (front.drop blockLength).length / blockLength =
        position + front.length / blockLength := by
      rw [List.length_drop]; unfold blockLength at long ⊢; omega
    rw [combine_block stream position (front ++ data), List.take_append_of_le_length long,
      List.drop_append_of_le_length long, ih rest, next, List.append_assoc]

variable (full : ∀ n, (stream n).length = blockLength)

include full

theorem combine_eq_mapIdx (position : Nat) (data : Octets) :
    combine stream position data = data.mapIdx fun place octet =>
      octet ^^^ (stream (position + place / blockLength)).getD (place % blockLength) 0 := by
  fun_induction combine stream position data with
  | case1 position data empty => rw [List.eq_nil_of_length_eq_zero empty, List.mapIdx_nil]
  | case2 position data some ih =>
    have front : List.zipWith (· ^^^ ·) (data.take blockLength) (stream position) =
        (data.take blockLength).mapIdx fun place octet =>
          octet ^^^ (stream (position + place / blockLength)).getD (place % blockLength) 0 := by
      refine List.ext_getElem ?_ fun place inside _ => ?_
      · rw [List.length_zipWith, full, List.length_mapIdx, List.length_take]
        omega
      · rw [List.length_zipWith, full] at inside
        have short : place < blockLength := by omega
        rw [List.getElem_zipWith, List.getElem_mapIdx, Nat.div_eq_of_lt short, Nat.add_zero,
          Nat.mod_eq_of_lt short, List.getD_eq_getElem?_getD, List.getElem?_eq_getElem,
          Option.getD_some]
    conv_rhs => rw [← List.take_append_drop blockLength data, List.mapIdx_append]
    rw [front, ih]
    congr 1
    by_cases long : blockLength ≤ data.length
    · rw [List.length_take_of_le long]
      congr 1
      funext place octet
      rw [Nat.add_div_right _ (by decide), Nat.add_mod_right]
      congr 3
      omega
    · rw [List.drop_eq_nil_of_le (Nat.le_of_not_le long), List.mapIdx_nil, List.mapIdx_nil]

theorem length_combine (position : Nat) (data : Octets) :
    (combine stream position data).length = data.length := by
  rw [combine_eq_mapIdx full, List.length_mapIdx]

theorem combine_combine (position : Nat) (data : Octets) :
    combine stream position (combine stream position data) = data := by
  rw [combine_eq_mapIdx full, combine_eq_mapIdx full, List.mapIdx_mapIdx]
  refine List.ext_getElem (List.length_mapIdx ..) fun place _ _ => ?_
  rw [List.getElem_mapIdx, Function.comp_apply, UInt8.xor_assoc, UInt8.xor_self, UInt8.xor_zero]

end Combine

namespace Direction

-- The round keys come from a key of the right length.
def Keyed (direction : Direction) : Prop :=
  ∃ key : Octets, key.length = keyLength ∧ direction.roundKeys = Aes.schedule key

-- An octet of the keystream that lies ahead. It comes of enciphering the blocks of a counter of
-- 128 bits, one after the other, from where the direction stands.
def mask (direction : Direction) (place : Nat) : UInt8 :=
  (Aes.encipher direction.roundKeys (counterBlock
    ((direction.counter + direction.used + place / 16) %
      0x100000000000000000000000000000000))).getD (place % 16) 0

def masked (direction : Direction) (octets : Octets) : Octets :=
  octets.mapIdx fun place octet => octet ^^^ direction.mask place

variable {direction : Direction}

theorem Keyed.length_keystream (keyed : direction.Keyed) (n : Nat) :
    (direction.keystream n).length = blockLength := by
  obtain ⟨key, length, scheduled⟩ := keyed
  rw [keystream, scheduled]
  exact Aes.length_encipher (Aes.length_of_mem_expand length) (length_counterBlock _)

theorem Keyed.apply_masked (keyed : direction.Keyed) (data : Octets) :
    (direction.apply data).1 = direction.masked data := by
  refine (combine_eq_mapIdx keyed.length_keystream direction.used data).trans ?_
  congr 1
  funext place octet
  rw [mask, Nat.add_assoc]
  rfl

theorem Keyed.length_apply (keyed : direction.Keyed) (data : Octets) :
    (direction.apply data).1.length = data.length :=
  length_combine keyed.length_keystream direction.used data

theorem Keyed.apply_apply (keyed : direction.Keyed) (data : Octets) :
    (direction.apply (direction.apply data).1).1 = data :=
  combine_combine keyed.length_keystream direction.used data

theorem apply_moves {data other : Octets} (same : data.length = other.length) :
    (direction.apply data).2 = (direction.apply other).2 := by
  simp only [apply, same]

theorem apply_append (direction : Direction) {front : Octets}
    (whole : front.length % blockLength = 0) (data : Octets) :
    direction.apply (front ++ data) =
      ((direction.apply front).1 ++ ((direction.apply front).2.apply data).1,
       ((direction.apply front).2.apply data).2) := by
  have blocks : (front.length + blockLength - 1) / blockLength = front.length / blockLength := by
    unfold blockLength at whole ⊢; omega
  have total : (front.length + data.length + blockLength - 1) / blockLength =
      front.length / blockLength + (data.length + blockLength - 1) / blockLength := by
    unfold blockLength at whole ⊢; omega
  have sealed : (direction.apply (front ++ data)).1 =
      (direction.apply front).1 ++ ((direction.apply front).2.apply data).1 := by
    simp only [apply, combine_append whole, blocks]
    rfl
  have moved : (direction.apply (front ++ data)).2 = ((direction.apply front).2.apply data).2 := by
    simp only [apply, List.length_append, total, blocks]
    rw [← Nat.add_assoc]
  rw [← sealed, ← moved]

@[simp] theorem tag_apply (direction : Direction) (data : Octets) (sequence : UInt32)
    (packet : Octets) :
    (direction.apply data).2.tag sequence packet = direction.tag sequence packet := rfl

theorem length_tag (direction : Direction) (sequence : UInt32) (packet : Octets) :
    (direction.tag sequence packet).length = Hmac.tagLength :=
  Hmac.tag_length _ _

theorem Keyed.moved (keyed : direction.Keyed) (data : Octets) : (direction.apply data).2.Keyed :=
  keyed

end Direction
end SecureShell.Packet
