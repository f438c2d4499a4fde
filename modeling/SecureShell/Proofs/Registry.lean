import Mathlib.Data.List.Nodup
import Mathlib.Data.List.Range
import SecureShell.Registry

namespace SecureShell.Registry

variable {α : Type} {registry : Registry α} {token other : Token} {observer : α} {slot serial : Nat}

def seat (registry : Registry α) (slot : Nat) : Option (Token × α) :=
  (registry.tenant slot).map fun (serial, observer) => (⟨slot, serial⟩, observer)

def registrations (registry : Registry α) : List (Token × α) :=
  (List.range registry.slots.length).filterMap registry.seat

-- Free slots are empty, and none is there twice. Serials are those of registrations so far.
structure Sound (registry : Registry α) : Prop where
  vacant : ∀ slot ∈ registry.free, registry.slots[slot]? = some none
  apart : registry.free.Nodup
  dated : ∀ entry ∈ registry.registrations, entry.1.serial ≤ registry.issued

theorem tenant_eq_some {seated : Nat × α} :
    registry.tenant slot = some seated ↔ registry.slots[slot]? = some (some seated) := by
  rw [tenant, Option.join_eq_some_iff]

theorem seat_congr {later : Registry α} (same : later.slots[slot]? = registry.slots[slot]?) :
    later.seat slot = registry.seat slot := by
  rw [seat, seat, tenant, tenant, same]

theorem seat_vacant (vacant : registry.slots[slot]? = some none) : registry.seat slot = none := by
  rw [seat, tenant, vacant]
  rfl

theorem seat_taken (taken : registry.slots[slot]? = some (some (serial, observer))) :
    registry.seat slot = some (⟨slot, serial⟩, observer) := by
  rw [seat, tenant, taken]
  rfl

theorem seat_eq_some : registry.seat slot = some (token, observer) ↔
    token.slot = slot ∧ registry.tenant slot = some (token.serial, observer) := by
  obtain ⟨place, number⟩ := token
  simp only [seat, Option.map_eq_some_iff, Prod.exists, Prod.mk.injEq, Token.mk.injEq]
  constructor
  · rintro ⟨serial, other, found, ⟨rfl, rfl⟩, rfl⟩
    exact ⟨rfl, found⟩
  · rintro ⟨rfl, found⟩
    exact ⟨number, observer, found, ⟨rfl, rfl⟩, rfl⟩

theorem mem_registrations : (token, observer) ∈ registry.registrations ↔
    registry.tenant token.slot = some (token.serial, observer) := by
  simp only [registrations, List.mem_filterMap, List.mem_range, seat_eq_some]
  constructor
  · rintro ⟨slot, -, rfl, found⟩
    exact found
  · intro found
    obtain ⟨within, -⟩ := List.getElem?_eq_some_iff.mp (tenant_eq_some.mp found)
    exact ⟨token.slot, within, rfl, found⟩

theorem registrations_apart (registry : Registry α) :
    (registry.registrations.map Prod.fst).Nodup := by
  rw [registrations, List.map_filterMap]
  refine List.nodup_range.filterMap fun slot place token here there => ?_
  obtain ⟨⟨_, _⟩, first, rfl⟩ := Option.map_eq_some_iff.mp here
  obtain ⟨⟨_, _⟩, second, same⟩ := Option.map_eq_some_iff.mp there
  cases same
  exact (seat_eq_some.mp first).1.symm.trans (seat_eq_some.mp second).1

theorem observers_eq (registry : Registry α) :
    registry.observers = registry.registrations.map Prod.snd := by
  have slots : registry.slots =
      (List.range registry.slots.length).map fun slot => (registry.slots[slot]?).join := by
    refine List.ext_getElem (by simp) fun slot within _ => ?_
    simp [within]
  rw [observers, slots, List.filterMap_map, registrations, List.map_filterMap]
  refine List.filterMap_congr fun slot _ => ?_
  rw [seat, tenant, Option.map_map]
  rfl

theorem registrations_remove (registry : Registry α) (token : Token) :
    (registry.remove token).2.registrations =
      registry.registrations.filter fun entry => entry.1 ≠ token := by
  have absent (missing : ∀ observer, registry.tenant token.slot ≠ some (token.serial, observer)) :
      registry.registrations = registry.registrations.filter fun entry => entry.1 ≠ token := by
    refine (List.filter_eq_self.mpr fun entry member => ?_).symm
    obtain ⟨given, observer⟩ := entry
    refine decide_eq_true fun same => ?_
    subst same
    exact missing observer (mem_registrations.mp member)
  unfold remove
  split
  · rename_i serial observer found
    split
    · rename_i same
      subst same
      obtain ⟨within, -⟩ := List.getElem?_eq_some_iff.mp (tenant_eq_some.mp found)
      rw [registrations, registrations, List.filter_filterMap, List.length_set]
      refine List.filterMap_congr fun slot _ => ?_
      by_cases here : token.slot = slot
      · subst here
        rw [seat_vacant (List.getElem?_set_self within), seat_taken (tenant_eq_some.mp found),
          Option.filter_some, if_neg (by simp)]
      · have same : (registry.slots.set token.slot none)[slot]? = registry.slots[slot]? :=
          List.getElem?_set_ne here
        rw [seat_congr same]
        cases seated : registry.seat slot with
        | none => rfl
        | some entry =>
          obtain ⟨given, observer⟩ := entry
          have apart : given ≠ token := fun same => here (same ▸ (seat_eq_some.mp seated).1)
          rw [Option.filter_some, if_pos (decide_eq_true apart)]
    · rename_i other
      refine absent fun _ held => other ?_
      rw [found] at held
      cases held
      rfl
  · rename_i found
    exact absent fun _ held => nomatch found.symm.trans held

theorem registrations_add (sound : registry.Sound) (observer : α) :
    ∃ front back, registry.registrations = front ++ back ∧
      (registry.add observer).2.registrations =
        front ++ ((registry.add observer).1, observer) :: back := by
  unfold add
  dsimp only
  split
  · rename_i slot free freed
    have vacant := sound.vacant slot (freed ▸ List.mem_cons_self)
    obtain ⟨within, -⟩ := List.getElem?_eq_some_iff.mp vacant
    obtain ⟨front, back, split⟩ := List.append_of_mem (List.mem_range.mpr within)
    have once : (front ++ slot :: back).Nodup := split ▸ List.nodup_range
    have elsewhere : ∀ place ∈ front ++ back, slot ≠ place := fun place member same =>
      (List.nodup_cons.mp (List.nodup_middle.mp once)).1 (same ▸ member)
    refine ⟨front.filterMap registry.seat, back.filterMap registry.seat, ?_, ?_⟩
    · rw [registrations, split, List.filterMap_append, List.filterMap_cons, seat_vacant vacant]
    · rw [registrations, List.length_set, split, List.filterMap_append, List.filterMap_cons,
        seat_taken (List.getElem?_set_self within)]
      refine congrArg₂ (· ++ _ :: ·) ?_ ?_ <;>
        refine List.filterMap_congr fun place member =>
          seat_congr (List.getElem?_set_ne (elsewhere place ?_))
      · exact List.mem_append_left _ member
      · exact List.mem_append_right _ member
  · refine ⟨registry.registrations, [], (List.append_nil _).symm, ?_⟩
    rw [registrations, List.length_append, List.length_singleton, List.range_succ,
      List.filterMap_append, registrations, List.filterMap_cons,
      seat_taken List.getElem?_concat_length]
    refine congrArg (· ++ _) (List.filterMap_congr fun place member => seat_congr ?_)
    exact List.getElem?_append_left (List.mem_range.mp member)

theorem perm_add (sound : registry.Sound) (observer : α) :
    (registry.add observer).2.registrations.Perm
      (((registry.add observer).1, observer) :: registry.registrations) := by
  obtain ⟨front, back, before, after⟩ := registrations_add sound observer
  rw [before, after]
  exact List.perm_middle

theorem perm_remove (registered : (token, observer) ∈ registry.registrations) :
    registry.registrations.Perm ((token, observer) :: (registry.remove token).2.registrations) := by
  have apart := registrations_apart registry
  rw [registrations_remove]
  obtain ⟨front, back, split⟩ := List.append_of_mem registered
  rw [split, List.map_append, List.map_cons, List.nodup_middle, List.nodup_cons, ← List.map_append]
    at apart
  have others : ∀ entry ∈ front ++ back, decide (entry.1 ≠ token) = true := fun entry member =>
    decide_eq_true fun same => apart.1 (List.mem_map.mpr ⟨entry, member, same⟩)
  rw [split, List.filter_append, List.filter_cons_of_neg (by simp), ← List.filter_append,
    List.filter_eq_self.mpr others]
  exact List.perm_middle

@[simp] theorem issued_add (registry : Registry α) (observer : α) :
    (registry.add observer).2.issued = registry.issued + 1 := by
  unfold add
  dsimp only
  split <;> rfl

@[simp] theorem serial_add (registry : Registry α) (observer : α) :
    (registry.add observer).1.serial = registry.issued + 1 := by
  unfold add
  dsimp only
  split <;> rfl

@[simp] theorem issued_remove (registry : Registry α) (token : Token) :
    (registry.remove token).2.issued = registry.issued := by
  unfold remove
  split
  · split <;> rfl
  · rfl

theorem sound_empty : Sound ({} : Registry α) := ⟨nofun, .nil, nofun⟩

theorem Sound.add (sound : registry.Sound) (observer : α) : (registry.add observer).2.Sound := by
  have dated : ∀ entry ∈ (registry.add observer).2.registrations,
      entry.1.serial ≤ (registry.add observer).2.issued := by
    intro entry member
    rw [issued_add]
    rcases List.mem_cons.mp ((perm_add sound observer).mem_iff.mp member) with rfl | before
    · rw [serial_add]
    · exact Nat.le_succ_of_le (sound.dated entry before)
  refine ⟨?_, ?_, dated⟩
  · unfold Registry.add
    dsimp only
    split
    · rename_i slot free freed
      intro place member
      have once := freed ▸ sound.apart
      have elsewhere : slot ≠ place := fun same => (List.nodup_cons.mp once).1 (same ▸ member)
      rw [List.getElem?_set_ne elsewhere]
      exact sound.vacant place (freed ▸ List.mem_cons_of_mem slot member)
    · nofun
  · unfold Registry.add
    dsimp only
    split
    · rename_i slot free freed
      exact (List.nodup_cons.mp (freed ▸ sound.apart)).2
    · exact .nil

theorem Sound.remove (sound : registry.Sound) (token : Token) :
    (registry.remove token).2.Sound := by
  have dated : ∀ entry ∈ (registry.remove token).2.registrations,
      entry.1.serial ≤ (registry.remove token).2.issued := by
    intro entry member
    rw [registrations_remove] at member
    rw [issued_remove]
    exact sound.dated entry (List.mem_of_mem_filter member)
  revert dated
  unfold Registry.remove
  split
  · rename_i serial observer found
    split
    · intro dated
      have taken := tenant_eq_some.mp found
      obtain ⟨within, -⟩ := List.getElem?_eq_some_iff.mp taken
      have new : token.slot ∉ registry.free := fun freed =>
        nomatch taken.symm.trans (sound.vacant token.slot freed)
      refine ⟨fun place member => ?_, List.nodup_cons.mpr ⟨new, sound.apart⟩, dated⟩
      rcases List.mem_cons.mp member with rfl | freed
      · exact List.getElem?_set_self within
      · rw [List.getElem?_set_ne fun same : token.slot = place => new (same ▸ freed)]
        exact sound.vacant place freed
    · exact fun _ => sound
  · exact fun _ => sound

theorem new_add (sound : registry.Sound) (observer : α) :
    (registry.add observer).1 ∉ registry.registrations.map Prod.fst := by
  intro held
  obtain ⟨entry, member, same⟩ := List.mem_map.mp held
  have dated := sound.dated entry member
  rw [same, serial_add] at dated
  omega

theorem stale_add (sound : registry.Sound) (observer : α) (issued : token.serial ≤ registry.issued)
    (absent : token ∉ registry.registrations.map Prod.fst) :
    token ∉ (registry.add observer).2.registrations.map Prod.fst := by
  rw [((perm_add sound observer).map Prod.fst).mem_iff, List.map_cons, List.mem_cons, not_or]
  refine ⟨fun same => ?_, absent⟩
  rw [same, serial_add] at issued
  omega

end SecureShell.Registry
