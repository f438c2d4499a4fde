import SecureShell.Proofs.Custody
import SecureShell.Proofs.Registry

namespace SecureShell.Registry

variable {α β : Type} {registry : Registry α} {token : Token} {observer : α}

inductive Deed (α β : Type)
  | add (observer : α)
  | remove (token : Token)
  | notify (value : β)

-- What has been done, with the answer: the token that was handed out, whether there was anything to
-- remove, who was called and what each was told.
inductive Entry (α β : Type)
  | added (token : Token) (observer : α)
  | removed (token : Token) (done : Bool)
  | notified (calls : List (α × β))
  deriving DecidableEq

def notify (registry : Registry α) (value : β) : List (α × β) := registry.observers.map (·, value)

def perform (registry : Registry α) : Deed α β → Entry α β × Registry α
  | .add observer => (.added (registry.add observer).1 observer, (registry.add observer).2)
  | .remove token => (.removed token (registry.remove token).1, (registry.remove token).2)
  | .notify value => (.notified (registry.notify value), registry)

def usage : Machine (Registry α) (Deed α β) (Entry α β × Registry α) where
  advance := perform
  next := Prod.snd

-- The answers that a fresh registry gives, the first in front.
def answers (deeds : List (Deed α β)) : List (Entry α β) := (usage.steps {} deeds).map Prod.fst

def Entry.addition? : Entry α β → Option (Token × α)
  | .added token observer => some (token, observer)
  | _ => none

def Entry.removal? : Entry α β → Option Token
  | .removed token true => some token
  | _ => none

-- The set of tokens, told from the answers alone: those that were handed out, those that were
-- removed, and the observers of all others.
def additions (log : List (Entry α β)) : List (Token × α) := log.filterMap Entry.addition?

def handed (log : List (Entry α β)) : List Token := (additions log).map Prod.fst

def retired (log : List (Entry α β)) : List Token := log.filterMap Entry.removal?

def standing (log : List (Entry α β)) : List (Token × α) :=
  (additions log).filter fun entry => entry.1 ∉ retired log

theorem remove_iff : (registry.remove token).1 = true ↔
    token ∈ registry.registrations.map Prod.fst := by
  simp only [List.mem_map, Prod.exists, exists_and_right, exists_eq_right, mem_registrations]
  unfold remove
  cases registry.tenant token.slot with
  | none => simp
  | some seated =>
    obtain ⟨serial, observer⟩ := seated
    by_cases same : serial = token.serial <;> simp [same]

theorem remove_idle (idle : (registry.remove token).1 = false) :
    (registry.remove token).2 = registry := by
  unfold remove at idle ⊢
  cases seated : registry.tenant token.slot with
  | none => rfl
  | some tenant =>
    obtain ⟨serial, observer⟩ := tenant
    by_cases same : serial = token.serial
    · simp [seated, same] at idle
    · simp [same]

theorem registrations_ascend (registry : Registry α) :
    registry.registrations.Pairwise fun first second => first.1.slot < second.1.slot := by
  refine List.Pairwise.filterMap registry.seat ?_ List.pairwise_lt_range
  rintro slot place before ⟨token, _⟩ here ⟨other, _⟩ there
  rw [(seat_eq_some.mp here).1, (seat_eq_some.mp there).1]
  exact before

variable {log : List (Entry α β)}

@[simp] theorem additions_concat (log : List (Entry α β)) (entry : Entry α β) :
    additions (log ++ [entry]) = additions log ++ entry.addition?.toList := by
  cases entry <;> simp [additions, Entry.addition?]

@[simp] theorem handed_concat (log : List (Entry α β)) (entry : Entry α β) :
    handed (log ++ [entry]) = handed log ++ (entry.addition?.map Prod.fst).toList := by
  cases entry <;> simp [handed, Entry.addition?]

@[simp] theorem retired_concat (log : List (Entry α β)) (entry : Entry α β) :
    retired (log ++ [entry]) = retired log ++ entry.removal?.toList := by
  unfold retired
  cases found : entry.removal? <;> simp [found]

theorem standing_added (unused : token ∉ retired log) (observer : α) :
    standing (log ++ [.added token observer]) = standing log ++ [(token, observer)] := by
  simp [standing, Entry.addition?, Entry.removal?, unused]

theorem standing_removed (log : List (Entry α β)) (token : Token) :
    standing (log ++ [.removed token true]) = (standing log).filter fun entry => entry.1 ≠ token := by
  simp [standing, Entry.addition?, Entry.removal?, not_or, Bool.and_comm]

structure Recorded (registry : Registry α) (log : List (Entry α β)) : Prop where
  sound : registry.Sound
  dated : ∀ token ∈ handed log, token.serial ≤ registry.issued
  apart : (handed log).Nodup
  before : ∀ token ∈ retired log, token ∈ handed log
  standing : registry.registrations.Perm (standing log)

namespace Recorded

theorem start : Recorded ({} : Registry α) ([] : List (Entry α β)) :=
  ⟨sound_empty, nofun, .nil, nofun, .nil⟩

theorem remove_iff (recorded : Recorded registry log) :
    (registry.remove token).1 = true ↔ token ∈ handed log ∧ token ∉ retired log := by
  rw [Registry.remove_iff, (recorded.standing.map Prod.fst).mem_iff]
  simp [Registry.standing, handed]

theorem new (recorded : Recorded registry log) (observer : α) :
    (registry.add observer).1 ∉ handed log := by
  intro handed
  have dated := recorded.dated _ handed
  rw [serial_add] at dated
  omega

theorem add (recorded : Recorded registry log) (observer : α) :
    Recorded (registry.add observer).2 (log ++ [.added (registry.add observer).1 observer]) where
  sound := recorded.sound.add observer
  dated token member := by
    rw [issued_add]
    rcases List.mem_append.mp (handed_concat .. ▸ member) with earlier | now
    · exact Nat.le_succ_of_le (recorded.dated token earlier)
    · cases List.mem_singleton.mp now
      rw [serial_add]
  apart := by
    rw [handed_concat]
    apply List.nodup_middle.mpr
    simpa using ⟨recorded.new observer, recorded.apart⟩
  before token member := by
    have earlier : token ∈ retired log := by simpa [Entry.removal?] using member
    simp [recorded.before token earlier]
  standing := by
    rw [standing_added fun used => recorded.new observer (recorded.before _ used)]
    exact (perm_add recorded.sound observer).trans
      ((recorded.standing.cons _).trans (List.perm_append_singleton _ _).symm)

theorem still (recorded : Recorded registry log) {entry : Entry α β}
    (nothing : entry.addition? = none) (nobody : entry.removal? = none) :
    Recorded registry (log ++ [entry]) where
  sound := recorded.sound
  dated := by simpa [nothing] using recorded.dated
  apart := by simpa [nothing] using recorded.apart
  before := by simpa [nothing, nobody] using recorded.before
  standing := by simpa [Registry.standing, nothing, nobody] using recorded.standing

theorem remove (recorded : Recorded registry log) (token : Token) :
    Recorded (registry.remove token).2 (log ++ [.removed token (registry.remove token).1]) := by
  cases done : (registry.remove token).1 with
  | false =>
    rw [remove_idle done]
    exact recorded.still rfl rfl
  | true =>
    have known := (recorded.remove_iff.mp done).1
    refine ⟨recorded.sound.remove token, ?_, ?_, ?_, ?_⟩
    · simpa [Entry.addition?] using recorded.dated
    · simpa [Entry.addition?] using recorded.apart
    · simp only [retired_concat, handed_concat, Entry.addition?, Entry.removal?]
      simpa [or_imp, forall_and, known] using recorded.before
    · rw [standing_removed, registrations_remove]
      exact recorded.standing.filter _

theorem perform (recorded : Recorded registry log) (deed : Deed α β) :
    Recorded (registry.perform deed).2 (log ++ [(registry.perform deed).1]) := by
  cases deed with
  | add observer => exact recorded.add observer
  | remove token => exact recorded.remove token
  | notify value => exact recorded.still rfl rfl

theorem reached (deeds : List (Deed α β)) :
    Recorded (usage.reach ({} : Registry α) deeds) (answers deeds) := by
  induction deeds using List.reverseRecOn with
  | nil => exact start
  | append_singleton deeds deed ih =>
    have step := ih.perform deed
    rw [answers, usage.steps_append, List.map_append, usage.reach_append]
    exact step

end Recorded

-- However often slots are given out again, the tokens are those of a set.
theorem tokens_find_their_own (deeds : List (Deed α β)) :
    let registry : Registry α := usage.reach {} deeds
    (handed (answers deeds)).Nodup ∧
      (∀ token, ((registry.remove token).1 = true ↔
          token ∈ handed (answers deeds) ∧ token ∉ retired (answers deeds)) ∧
        ((registry.remove token).1 = true → ∃ observer,
          (token, observer) ∈ standing (answers deeds) ∧
            registry.registrations.Perm
              ((token, observer) :: (registry.remove token).2.registrations)) ∧
        ((registry.remove token).1 = false → (registry.remove token).2 = registry)) ∧
      registry.registrations.Perm (standing (answers deeds)) ∧
      (registry.registrations.Pairwise fun first second => first.1.slot < second.1.slot) ∧
      ∀ value : β, registry.notify value =
        registry.registrations.map fun entry => (entry.2, value) := by
  intro registry
  have recorded : Recorded registry (answers deeds) := .reached deeds
  refine ⟨recorded.apart, fun token => ⟨recorded.remove_iff, fun done => ?_, remove_idle⟩,
    recorded.standing, registrations_ascend registry, fun value => ?_⟩
  · obtain ⟨⟨_, observer⟩, member, rfl⟩ := List.mem_map.mp (remove_iff.mp done)
    exact ⟨observer, recorded.standing.mem_iff.mp member, perm_remove member⟩
  · rw [notify, observers_eq, List.map_map]
    rfl

-- The first slot is given out twice, and its old token comes back.
def recycled : List (Deed Nat Nat) :=
  [.add 10, .add 20, .remove ⟨0, 1⟩, .add 30, .remove ⟨0, 1⟩, .notify 7]

theorem tokens_find_their_own_recycled :
    answers recycled =
        [.added ⟨0, 1⟩ 10, .added ⟨1, 2⟩ 20, .removed ⟨0, 1⟩ true, .added ⟨0, 3⟩ 30,
          .removed ⟨0, 1⟩ false, .notified [(30, 7), (20, 7)]] ∧
      ((usage.reach {} recycled).remove ⟨0, 1⟩).1 = false ∧
      ((usage.reach {} recycled).remove ⟨0, 3⟩).1 = true ∧
      ∃ observer, (⟨0, 3⟩, observer) ∈ standing (answers recycled) := by
  obtain ⟨-, removals, -⟩ := tokens_find_their_own recycled
  have used : (⟨0, 1⟩ : Token) ∈ retired (answers recycled) := by decide
  have good : ((usage.reach {} recycled).remove ⟨0, 3⟩).1 = true :=
    (removals ⟨0, 3⟩).1.mpr ⟨by decide, by decide⟩
  obtain ⟨observer, member, -⟩ := (removals ⟨0, 3⟩).2.1 good
  have stale : ¬ ((usage.reach {} recycled).remove ⟨0, 1⟩).1 = true := fun done =>
    ((removals ⟨0, 1⟩).1.mp done).2 used
  exact ⟨by decide, Bool.eq_false_iff.mpr stale, good, observer, member⟩

end SecureShell.Registry
