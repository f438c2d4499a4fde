import SecureShell.Packet.Scheme
import SecureShell.Proofs.Packet.Reception

namespace SecureShell.Packet

structure KeySizes.Admit (sizes : KeySizes) (keys : Keys) : Prop where
  inboundIv : keys.inboundIv.length = sizes.iv
  outboundIv : keys.outboundIv.length = sizes.iv
  inboundKey : keys.inboundKey.length = sizes.key
  outboundKey : keys.outboundKey.length = sizes.key
  inboundMac : keys.inboundMac.length = sizes.mac
  outboundMac : keys.outboundMac.length = sizes.mac

-- The keys for the tags have the declared size. Nothing enforces that.
structure Keys.Tagged (keys : Keys) : Prop where
  inbound : keys.inboundMac.length = Factory.aes128Ctr.sizes.mac
  outbound : keys.outboundMac.length = Factory.aes128Ctr.sizes.mac

structure Keys.Checked (keys : Keys) : Prop where
  accepted : keys.Fit → ∃ fresh, Factory.aes128Ctr.create keys = .ok fresh ∧
    ∀ protection : Protection, protection.updateKeys keys = (.ok (), fresh)
  refused : ¬ keys.Fit → Factory.aes128Ctr.create keys = .error .keySize ∧
    ∀ protection : Protection, protection.updateKeys keys = (.error .keySize, protection)
  -- Where the verdict is the one that the declared sizes call for.
  declared : ((∃ fresh, Factory.aes128Ctr.create keys = .ok fresh) ↔
      Factory.aes128Ctr.sizes.Admit keys) ↔ (keys.Fit → keys.Tagged)

abbrev Answered := Call × Except Fault Octets

def answered (protection : Protection) (history : List Call) : List Answered :=
  history.zip ((calls.steps protection history).map Prod.fst)

def Answered.vain : Answered → Bool
  | (.updateKeys _, .error _) => true
  | _ => false

def Answered.counts (entry : Answered) : Bool := !entry.vain

variable {protection : Protection} {keys : Keys} {call : Call}

theorem admit_iff : Factory.aes128Ctr.sizes.Admit keys ↔ keys.Fit ∧ keys.Tagged :=
  ⟨fun admitted =>
    ⟨⟨admitted.inboundKey, admitted.inboundIv, admitted.outboundKey, admitted.outboundIv⟩,
      ⟨admitted.inboundMac, admitted.outboundMac⟩⟩,
   fun ⟨fit, tagged⟩ =>
    ⟨fit.inboundIv, fit.outboundIv, fit.inboundKey, fit.outboundKey, tagged.inbound,
      tagged.outbound⟩⟩

theorem create_ok_iff : (∃ fresh, Factory.aes128Ctr.create keys = .ok fresh) ↔ keys.Fit :=
  ⟨fun ⟨_, made⟩ => Protection.fit_of_create made, fun fit => ⟨_, Protection.create_fit fit⟩⟩

theorem Protection.updateKeys_misfit (misfit : ¬ keys.Fit) (protection : Protection) :
    protection.updateKeys keys = (.error .keySize, protection) := by
  rw [updateKeys, create_misfit misfit]

theorem Keys.checked (keys : Keys) : keys.Checked where
  accepted fit := ⟨_, Protection.create_fit fit,
    fun protection => Protection.updateKeys_of_create (Protection.create_fit fit) protection⟩
  refused misfit := ⟨Protection.create_misfit misfit, Protection.updateKeys_misfit misfit⟩
  declared := by
    rw [create_ok_iff, admit_iff]
    exact ⟨fun same fit => (same.mp fit).2, fun tagged =>
      ⟨fun fit => ⟨fit, tagged fit⟩, And.left⟩⟩

theorem answered_cons (protection : Protection) (call : Call) (history : List Call) :
    answered protection (call :: history) =
      (call, (protection.perform call).1) :: answered (protection.perform call).2 history := rfl

theorem perform_vain
    (vain : Answered.vain (call, (protection.perform call).1) = true) :
    (protection.perform call).2 = protection := by
  cases call with
  | updateKeys keys =>
    by_cases fit : keys.Fit
    · obtain ⟨fresh, made, updated⟩ := keys.checked.accepted fit
      rw [Protection.perform, updated] at vain
      cases vain
    · rw [Protection.perform, Protection.updateKeys_misfit fit]
  | encrypt | openFirst | openRest => cases vain

theorem answered_counting (protection : Protection) (history : List Call) :
    let counting := (answered protection history).filter Answered.counts
    answered protection (counting.map Prod.fst) = counting ∧
      calls.reach protection (counting.map Prod.fst) = calls.reach protection history := by
  induction history generalizing protection with
  | nil => exact ⟨rfl, rfl⟩
  | cons call history ih =>
    obtain ⟨same, reached⟩ := ih (protection.perform call).2
    dsimp only
    rw [answered_cons, List.filter_cons]
    by_cases vain : Answered.vain (call, (protection.perform call).1) = true
    · have stays := perform_vain vain
      rw [stays] at same reached
      rw [if_neg (by simp [Answered.counts, vain]), stays]
      refine ⟨same, reached.trans ?_⟩
      rw [Machine.reach]
      exact congrArg (calls.reach · history) stays.symm
    · rw [if_pos (by simp [Answered.counts, vain]), List.map_cons, answered_cons, same]
      exact ⟨rfl, reached⟩

-- The declared sizes call for the same verdict, except where only a key for the tags has another.
theorem key_sizes_checked (keys : Keys) (protection : Protection) (history : List Call) :
    keys.Checked ∧
      let counting := (answered protection history).filter Answered.counts
      answered protection (counting.map Prod.fst) = counting ∧
        calls.reach protection (counting.map Prod.fst) = calls.reach protection history :=
  ⟨keys.checked, answered_counting protection history⟩

-- No key at all for the tags of what goes out, where the sizes declare one of 32 octets.
def untagged : Keys := { seeded 7 with outboundMac := [] }

theorem untagged_keys_accepted :
    ¬ Factory.aes128Ctr.sizes.Admit untagged ∧
      (∃ fresh, Factory.aes128Ctr.create untagged = .ok fresh) ∧
      ∀ protection : Protection, (protection.updateKeys untagged).1 = .ok () := by
  have fit : untagged.Fit := ⟨rfl, rfl, rfl, rfl⟩
  have made := Protection.create_fit fit
  have missing : untagged.outboundMac.length ≠ Factory.aes128Ctr.sizes.mac := by decide
  refine ⟨fun admitted => missing admitted.outboundMac, ⟨_, made⟩, fun protection => ?_⟩
  rw [Protection.updateKeys_of_create made]

end SecureShell.Packet
