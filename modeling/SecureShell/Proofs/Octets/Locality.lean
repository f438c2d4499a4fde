import SecureShell.Octets.Text

namespace SecureShell
namespace Octets

variable {α β : Type} {read : Octets → Option (α × Octets)} {least fewer more : Nat}

-- A reader is local if it looks at nothing but the octets it takes: at least so many from the
-- front, which read the same whatever comes after them.
def Local (least : Nat) (read : Octets → Option (α × Octets)) : Prop :=
  ∀ ⦃octets value rest⦄, read octets = some (value, rest) →
    ∃ taken, octets = taken ++ rest ∧ least ≤ taken.length ∧
      ∀ other, read (taken ++ other) = some (value, other)

theorem Local.weaken (reads : Local least read) (bound : fewer ≤ least) : Local fewer read := by
  intro octets value rest found
  obtain ⟨taken, split, long, again⟩ := reads found
  exact ⟨taken, split, Nat.le_trans bound long, again⟩

theorem Local.extends (reads : Local least read) {octets rest : Octets} {value : α}
    (found : read octets = some (value, rest)) (other : Octets) :
    read (octets ++ other) = some (value, rest ++ other) := by
  obtain ⟨taken, rfl, -, again⟩ := reads found
  rw [List.append_assoc]
  exact again (rest ++ other)

theorem local_pure (value : α) : Local 0 fun octets => pure (value, octets) := by
  intro octets _ rest found
  cases found
  exact ⟨[], rfl, Nat.le_refl 0, fun _ => rfl⟩

theorem Local.then {next : α → Octets → Option (β × Octets)} (first : Local least read)
    (second : ∀ value, Local more (next value)) :
    Local (least + more) (fun octets => do
      let (value, rest) ← read octets
      next value rest) := by
  intro octets value rest found
  obtain ⟨⟨early, between⟩, head, tail⟩ := Option.bind_eq_some_iff.mp found
  obtain ⟨taken, rfl, long, again⟩ := first head
  obtain ⟨later, rfl, longer, repeats⟩ := second early tail
  refine ⟨taken ++ later, (List.append_assoc ..).symm, ?_, fun other => ?_⟩
  · rw [List.length_append]
    exact Nat.add_le_add long longer
  · rw [List.append_assoc]
    exact Option.bind_eq_some_iff.mpr ⟨_, again _, repeats other⟩

theorem word_local : Local 4 readWord := by
  intro octets value rest found
  unfold readWord at found
  split at found
  · rename_i a b c d tail
    cases found
    exact ⟨[a, b, c, d], rfl, Nat.le_refl 4, fun _ => rfl⟩
  · cases found

theorem long_local : Local 8 readLong :=
  word_local.then fun high => word_local.then fun low =>
    local_pure (UInt64.ofNat (high.toNat * 0x100000000 + low.toNat))

theorem takeExact_local (count : Nat) : Local count (takeExact count) := by
  intro octets front rest found
  obtain ⟨rfl, exact⟩ := takeExact_splits found
  subst exact
  exact ⟨front, rfl, Nat.le_refl _, takeExact_append front⟩

theorem string_local : Local 4 readString :=
  word_local.then fun length => (takeExact_local length.toNat).weaken (Nat.zero_le _)

theorem Local.times (each : Local least read) (count : Nat) :
    Local (count * least) (readTimes read count) := by
  induction count with
  | zero => exact (local_pure []).weaken (Nat.le_of_eq (Nat.zero_mul least))
  | succ count ih =>
    refine (each.then fun _ => ih.then fun _ => local_pure _).weaken (Nat.le_of_eq ?_)
    rw [Nat.succ_mul, Nat.add_comm]
    rfl

-- The early check of the count asks for no more octets than the values take, so that those after
-- them do not matter to it either.
theorem Local.counted (each : Local least read) : Local 4 (readCounted least read) := by
  intro octets values rest found
  obtain ⟨count, between, announced, -, entered⟩ := readCounted_entered found
  obtain ⟨early, rfl, four, again⟩ := word_local announced
  obtain ⟨later, rfl, long, repeats⟩ := each.times count.toNat entered
  refine ⟨early ++ later, (List.append_assoc ..).symm, ?_, fun other => ?_⟩
  · rw [List.length_append]
    exact Nat.le_add_right_of_le four
  · have room : count.toNat * least ≤ (later ++ other).length := by
      rw [List.length_append]
      exact Nat.le_add_right_of_le long
    rw [List.append_assoc, readCounted_enters (again _) room]
    exact repeats other

theorem Local.map (reads : Local least read) (convert : α → β) :
    Local least fun octets => (read octets).map fun (value, rest) => (convert value, rest) := by
  intro octets converted rest found
  obtain ⟨⟨value, tail⟩, head, made⟩ := Option.map_eq_some_iff.mp found
  cases made
  obtain ⟨taken, rfl, long, again⟩ := reads head
  exact ⟨taken, rfl, long, fun other => Option.map_eq_some_iff.mpr ⟨_, again other, rfl⟩⟩

theorem Local.when (each : Local least read) (present : Bool) :
    Local 0 (readWhen present read) := by
  cases present with
  | false => exact local_pure none
  | true => exact (each.map some).weaken (Nat.zero_le least)

end Octets

namespace Text

open Octets

theorem read_local : Local 4 read := string_local.then fun _ => local_pure _

theorem readPair_local : Local 8 readPair :=
  (read_local.then fun _ => read_local.then fun _ => local_pure _).weaken (Nat.le_refl 8)

end Text
end SecureShell
