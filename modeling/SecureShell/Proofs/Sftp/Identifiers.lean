import Mathlib.Data.List.Nodup
import Mathlib.Data.List.Perm.Subperm
import SecureShell.Proofs.Sftp.Correlation
import SecureShell.Sftp.Identifiers

namespace SecureShell.Sftp

namespace Identifiers

variable {inFlight : UInt32 → Bool} {start id : UInt32} {rounds : Nat}

theorem search_free (found : search inFlight rounds start = some id) : inFlight id = false := by
  induction rounds generalizing start with
  | zero => cases found
  | succ rounds ih =>
    rw [search] at found
    split at found
    · exact ih found
    · rename_i free
      cases found
      exact Bool.eq_false_iff.mpr free

theorem search_none (nothing : search inFlight rounds start = none) {steps : Nat}
    (within : steps < rounds) : inFlight (start + UInt32.ofNat steps) = true := by
  induction rounds generalizing start steps with
  | zero => cases within
  | succ rounds ih =>
    rw [search] at nothing
    split at nothing
    · rename_i busy
      cases steps with
      | zero => simpa using busy
      | succ steps =>
        have later := ih nothing (Nat.lt_of_succ_lt_succ within)
        have same : start + UInt32.ofNat (steps + 1) = start + 1 + UInt32.ofNat steps := by
          rw [UInt32.ofNat_add, UInt32.add_comm (UInt32.ofNat steps), ← UInt32.add_assoc]
          rfl
        rw [same]
        exact later
    · cases nothing

theorem search_finds (start : UInt32) (free : inFlight id = false) :
    ∃ found, search inFlight 0x100000000 start = some found := by
  cases result : search inFlight 0x100000000 start with
  | some found => exact ⟨found, rfl⟩
  | none =>
    have met := search_none result (id - start).toNat_lt
    rw [UInt32.ofNat_toNat] at met
    have there : start + (id - start) = id := by
      rw [UInt32.add_comm, UInt32.sub_add_cancel]
    rw [there, free] at met
    cases met

end Identifiers

theorem Pending.exists_free {pending : Pending} (short : pending.length < 0x100000000) :
    ∃ id, pending.has id = false := by
  by_contra full
  have busy : ∀ id, id ∈ pending.map Prod.fst := by
    intro id
    by_contra absent
    exact full ⟨id, Pending.has_eq_false.mpr (Pending.find_eq_none.mpr absent)⟩
  have covered : List.range 0x100000000 ⊆ (pending.map Prod.fst).map UInt32.toNat := by
    intro n within
    have small : n < 0x100000000 := List.mem_range.mp within
    refine List.mem_map.mpr ⟨UInt32.ofNat n, busy _, ?_⟩
    rw [UInt32.toNat_ofNat']
    exact Nat.mod_eq_of_lt small
  have long := (List.Nodup.subperm List.nodup_range covered).length_le
  simp only [List.length_range, List.length_map] at long
  omega

namespace Identifiers

variable {identifiers after : Identifiers} {inFlight : UInt32 → Bool} {id : UInt32}

theorem allocate_free (allocated : identifiers.allocate inFlight = (some id, after)) :
    inFlight id = false := by
  unfold allocate at allocated
  split at allocated
  · rename_i found
    cases allocated
    exact search_free found
  · cases allocated

theorem allocate_finds {pending : Pending} (short : pending.length < 0x100000000)
    (identifiers : Identifiers) :
    ∃ id after, identifiers.allocate pending.has = (some id, after) := by
  obtain ⟨free, isFree⟩ := Pending.exists_free short
  obtain ⟨id, found⟩ := search_finds identifiers.next isFree
  exact ⟨id, ⟨id + 1⟩, by rw [allocate, found]⟩

variable {start stop free : UInt32}

theorem toNat_sub_succ (apart : id ≠ stop) : (stop - id).toNat = (stop - (id + 1)).toNat + 1 := by
  have numbers := UInt32.toNat_inj.not.mpr apart
  have low := id.toNat_lt
  have high := stop.toNat_lt
  simp only [UInt32.toNat_sub, UInt32.toNat_add, UInt32.toNat_one]
  omega

-- The IDs from one up to another, which is not among them.
def way (start stop : UInt32) : List UInt32 :=
  (List.range (stop - start).toNat).map fun steps => start + UInt32.ofNat steps

theorem toNat_step {steps : Nat} (within : steps < 0x100000000) (start : UInt32) :
    (start + UInt32.ofNat steps - start).toNat = steps := by
  rw [UInt32.add_comm, UInt32.add_sub_cancel, UInt32.toNat_ofNat']
  exact Nat.mod_eq_of_lt within

theorem mem_way : id ∈ way start stop ↔ id - start < stop - start := by
  have bound := (stop - start).toNat_lt
  simp only [way, List.mem_map, List.mem_range, UInt32.lt_iff_toNat_lt]
  constructor
  · rintro ⟨steps, within, rfl⟩
    rw [toNat_step (by omega)]
    exact within
  · intro within
    refine ⟨(id - start).toNat, within, ?_⟩
    rw [UInt32.ofNat_toNat, UInt32.add_comm, UInt32.sub_add_cancel]

theorem way_nodup (start stop : UInt32) : (way start stop).Nodup := by
  have bound := (stop - start).toNat_lt
  refine List.Nodup.map_on (fun here early there later same => ?_) List.nodup_range
  simp only [List.mem_range] at early later
  calc here = (start + UInt32.ofNat here - start).toNat := (toNat_step (by omega) start).symm
    _ = (start + UInt32.ofNat there - start).toNat := by rw [same]
    _ = there := toNat_step (by omega) start

theorem way_cons (apart : start ≠ stop) : way start stop = start :: way (start + 1) stop := by
  simp [way, toNat_sub_succ apart, List.range_succ_eq_map, UInt32.ofNat_add, UInt32.add_assoc,
    UInt32.add_comm]

structure Walk where
  looked : List UInt32
  answer : Option UInt32
  next : UInt32

-- A search that does not count its rounds: it is over at a free ID, or where it began.
def walk (inFlight : UInt32 → Bool) (start id : UInt32) : Walk :=
  if inFlight id then
    if id + 1 = start then ⟨[id], none, id + 1⟩
    else
      let later := walk inFlight start (id + 1)
      { later with looked := id :: later.looked }
  else ⟨[id], some id, id + 1⟩
termination_by (start - (id + 1)).toNat
decreasing_by
  rename_i going
  simp [toNat_sub_succ going]

theorem walk_found (found : (walk inFlight start id).answer = some free) :
    inFlight free = false ∧ (∀ passed ∈ way id free, inFlight passed = true) ∧
      (walk inFlight start id).looked = way id free ++ [free] ∧
      (walk inFlight start id).next = free + 1 := by
  fun_induction walk inFlight start id with
  | case1 id busy around => cases found
  | case2 id busy going later ih =>
    obtain ⟨isFree, passed, looked, next⟩ := ih found
    have apart : id ≠ free := by
      rintro rfl
      cases busy.symm.trans isFree
    rw [way_cons apart]
    exact ⟨isFree, List.forall_mem_cons.mpr ⟨busy, passed⟩, congrArg (id :: ·) looked, next⟩
  | case3 id isFree =>
    cases found
    simpa [way] using isFree

theorem walk_around (nothing : (walk inFlight start id).answer = none) :
    (walk inFlight start id).looked = id :: way (id + 1) start ∧
      (walk inFlight start id).next = start := by
  fun_induction walk inFlight start id with
  | case1 id busy around => simp [way, around]
  | case2 id busy going later ih =>
    obtain ⟨looked, next⟩ := ih nothing
    rw [way_cons going]
    exact ⟨congrArg (id :: ·) looked, next⟩
  | case3 id here => cases nothing

theorem walk_answer (inFlight : UInt32 → Bool) (start id : UInt32) :
    (walk inFlight start id).answer = search inFlight ((start - (id + 1)).toNat + 1) id := by
  fun_induction walk inFlight start id with
  | case1 id busy around => simp [search, busy, around]
  | case2 id busy going later ih =>
    rw [search, if_pos busy, toNat_sub_succ going]
    exact ih
  | case3 id isFree => simp [search, isFree]

theorem answer_round (inFlight : UInt32 → Bool) (start : UInt32) :
    (walk inFlight start start).answer = search inFlight 0x100000000 start := by
  have around : (start - (start + 1)).toNat + 1 = 0x100000000 := by
    have low := start.toNat_lt
    simp only [UInt32.toNat_sub, UInt32.toNat_add, UInt32.toNat_one]
    omega
  rw [walk_answer, around]

theorem allocate_eq_walk (identifiers : Identifiers) (inFlight : UInt32 → Bool) :
    identifiers.allocate inFlight =
      ((walk inFlight identifiers.next identifiers.next).answer,
        ⟨(walk inFlight identifiers.next identifiers.next).next⟩) := by
  unfold allocate
  rw [← answer_round]
  cases result : (walk inFlight identifiers.next identifiers.next).answer with
  | none => rw [(walk_around result).2]
  | some id => rw [(walk_found result).2.2.2]

theorem end_not_mem_way (start stop : UInt32) : stop ∉ way start stop := by
  simp [mem_way]

theorem mem_round (start id : UInt32) : id ∈ start :: way (start + 1) start := by
  by_cases here : id = start
  · simp [here]
  · have apart := UInt32.toNat_inj.not.mpr here
    have low := id.toNat_lt
    have high := start.toNat_lt
    apply List.mem_cons_of_mem
    simp only [mem_way, UInt32.lt_iff_toNat_lt, UInt32.toNat_sub, UInt32.toNat_add,
      UInt32.toNat_one]
    omega

theorem looked_nodup (inFlight : UInt32 → Bool) (start : UInt32) :
    (walk inFlight start start).looked.Nodup := by
  cases result : (walk inFlight start start).answer with
  | none =>
    rw [(walk_around result).1]
    exact List.nodup_cons.mpr ⟨end_not_mem_way _ _, way_nodup _ _⟩
  | some id =>
    rw [(walk_found result).2.2.1]
    apply List.nodup_middle.mpr
    simp [end_not_mem_way, way_nodup]

theorem answer_none_iff : (walk inFlight start start).answer = none ↔ ∀ id, inFlight id = true := by
  constructor
  · intro nothing id
    by_contra free
    obtain ⟨found, result⟩ := search_finds start (Bool.eq_false_iff.mpr free)
    rw [← answer_round, nothing] at result
    cases result
  · intro busy
    cases result : (walk inFlight start start).answer with
    | none => rfl
    | some id => cases (busy id).symm.trans (walk_found result).1

-- Where an ID is free, the first one from where the allocator stands is handed out; where none is,
-- the allocator has looked at each of them and stands where it stood.
theorem next_free_allocated (identifiers : Identifiers) (inFlight : UInt32 → Bool) :
    let start := identifiers.next
    let round := walk inFlight start start
    identifiers.allocate inFlight = (round.answer, ⟨round.next⟩) ∧ round.looked.Nodup ∧
      ((∃ free, inFlight free = false) →
        ∃ id, identifiers.allocate inFlight = (some id, ⟨id + 1⟩) ∧ inFlight id = false ∧
          (∀ passed, passed - start < id - start → inFlight passed = true) ∧
          round.looked = way start id ++ [id]) ∧
      ((identifiers.allocate inFlight).1 = none ↔ ∀ id, inFlight id = true) ∧
      ((∀ id, inFlight id = true) →
        identifiers.allocate inFlight = (none, identifiers) ∧ ∀ id, id ∈ round.looked) := by
  intro start round
  have same := allocate_eq_walk identifiers inFlight
  refine ⟨same, looked_nodup inFlight start, ?_, ?_, fun busy => ?_⟩
  · rintro ⟨free, isFree⟩
    obtain ⟨id, found⟩ := search_finds start isFree
    have result : round.answer = some id := (answer_round inFlight start).trans found
    obtain ⟨isFree, passed, looked, next⟩ := walk_found result
    refine ⟨id, ?_, isFree, fun met between => passed met (mem_way.mpr between), looked⟩
    rw [same, result, next]
  · rw [same]
    exact answer_none_iff
  · have nothing : round.answer = none := answer_none_iff.mpr busy
    obtain ⟨looked, next⟩ := walk_around nothing
    refine ⟨?_, fun id => ?_⟩
    · rw [same, nothing, next]
    · rw [looked]
      exact mem_round start id

def oldest : UInt32 → Bool := fun id => id = 0xFFFFFFFF || id = 0

theorem next_free_allocated_wrapping :
    oldest 1 = false ∧ (⟨0xFFFFFFFF⟩ : Identifiers).allocate oldest = (some 1, ⟨2⟩) ∧
      (walk oldest 0xFFFFFFFF 0xFFFFFFFF).looked = [0xFFFFFFFF, 0, 1] ∧
      (⟨7⟩ : Identifiers).allocate (fun _ => true) = (none, ⟨7⟩) := by
  have isFree : oldest 1 = false := by decide
  have allocated : (⟨0xFFFFFFFF⟩ : Identifiers).allocate oldest = (some 1, ⟨2⟩) := by decide +kernel
  obtain ⟨-, -, finds, -⟩ := next_free_allocated ⟨0xFFFFFFFF⟩ oldest
  obtain ⟨id, same, -, -, looked⟩ := finds ⟨1, isFree⟩
  cases allocated.symm.trans same
  obtain ⟨-, -, -, -, full⟩ := next_free_allocated ⟨7⟩ fun _ => true
  exact ⟨isFree, allocated, looked, (full fun _ => rfl).1⟩

end Identifiers
end SecureShell.Sftp
