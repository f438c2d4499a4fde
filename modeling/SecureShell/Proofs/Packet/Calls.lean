import SecureShell.Proofs.Custody
import SecureShell.Proofs.Packet.Keystream

namespace SecureShell.Packet

inductive Call
  | updateKeys (keys : Keys)
  | encrypt (packet : Octets) (sequence : UInt32)
  | openFirst (source : Octets)
  | openRest (source : Octets) (sequence : UInt32)
  deriving DecidableEq

def Protection.perform (protection : Protection) : Call → Except Fault Octets × Protection
  | .updateKeys keys =>
    ((protection.updateKeys keys).1.map fun () => [], (protection.updateKeys keys).2)
  | .encrypt packet sequence => protection.encrypt packet sequence
  | .openFirst source => protection.openFirst source
  | .openRest source sequence => protection.openRest source sequence

def calls : Machine Protection Call (Except Fault Octets × Protection) where
  advance := Protection.perform
  next := Prod.snd

-- A direction that goes by these keys, wherever in the keystream it stands.
structure Direction.Bears (direction : Direction) (key iv mac : Octets) : Prop where
  length : key.length = keyLength
  roundKeys : direction.roundKeys = Aes.schedule key
  counter : direction.counter = counterOf iv
  macKey : direction.macKey = mac

structure Protection.Bears (protection : Protection) (keys : Keys) : Prop where
  inbound : protection.inbound.Bears keys.inboundKey keys.inboundIv keys.inboundMac
  outbound : protection.outbound.Bears keys.outboundKey keys.outboundIv keys.outboundMac

-- The keys of both directions have the lengths that the cipher takes. The keys for the tags may
-- have any.
structure Keys.Fit (keys : Keys) : Prop where
  inboundKey : keys.inboundKey.length = keyLength
  inboundIv : keys.inboundIv.length = blockLength
  outboundKey : keys.outboundKey.length = keyLength
  outboundIv : keys.outboundIv.length = blockLength

instance (keys : Keys) : Decidable keys.Fit :=
  decidable_of_iff
    (keys.inboundKey.length = keyLength ∧ keys.inboundIv.length = blockLength ∧
      keys.outboundKey.length = keyLength ∧ keys.outboundIv.length = blockLength)
    ⟨fun ⟨inboundKey, inboundIv, outboundKey, outboundIv⟩ =>
      ⟨inboundKey, inboundIv, outboundKey, outboundIv⟩,
     fun fit => ⟨fit.inboundKey, fit.inboundIv, fit.outboundKey, fit.outboundIv⟩⟩

-- The keys that are in force after a call: new ones that fit, and otherwise those there were.
def Keys.after (keys : Keys) : Call → Keys
  | .updateKeys other => if other.Fit then other else keys
  | .encrypt .. | .openFirst _ | .openRest .. => keys

def Keys.inForce (keys : Keys) (history : List Call) : Keys := history.foldl Keys.after keys

-- No packet: too short for a block and a tag, or not in whole blocks ahead of the tag.
def Misshapen (source : Octets) : Prop :=
  source.length < blockLength + Hmac.tagLength ∨
    (source.length - Hmac.tagLength) % blockLength ≠ 0

def Call.Misfit : Call → Prop
  | .updateKeys keys => ¬ keys.Fit
  | .encrypt packet _ => packet.length = 0 ∨ packet.length % blockLength ≠ 0
  | .openFirst source => source.length < blockLength
  | .openRest source _ => Misshapen source

def Call.refusal : Call → Fault
  | .updateKeys _ => .keySize
  | .encrypt .. | .openFirst _ | .openRest .. => .packetLength

variable {direction : Direction} {protection : Protection} {keys : Keys} {call : Call}
  {key iv mac : Octets}

theorem Direction.Bears.keyed (bears : direction.Bears key iv mac) : direction.Keyed :=
  ⟨key, bears.length, bears.roundKeys⟩

theorem Direction.Bears.moved (bears : direction.Bears key iv mac) (data : Octets) :
    (direction.apply data).2.Bears key iv mac where
  length := bears.length
  roundKeys := bears.roundKeys
  counter := bears.counter
  macKey := bears.macKey

theorem Direction.create_eq (key iv macKey : Octets) :
    Direction.create key iv macKey =
      if key.length = keyLength ∧ iv.length = blockLength then
        .ok { roundKeys := Aes.schedule key, counter := counterOf iv, macKey }
      else .error .keySize := by
  unfold create
  by_cases fit : key.length = keyLength ∧ iv.length = blockLength
  · rw [if_pos fit, if_neg (by simp [fit.1, fit.2])]
  · rw [if_neg fit, if_pos (by rwa [← Decidable.not_and_iff_not_or_not])]

namespace Protection

theorem create_fit (fit : keys.Fit) :
    create keys = .ok
      { inbound := {
          roundKeys := Aes.schedule keys.inboundKey
          counter := counterOf keys.inboundIv
          macKey := keys.inboundMac }
        outbound := {
          roundKeys := Aes.schedule keys.outboundKey
          counter := counterOf keys.outboundIv
          macKey := keys.outboundMac } } := by
  simp only [create, Direction.create_eq, fit.inboundKey, fit.inboundIv, fit.outboundKey,
    fit.outboundIv, and_self, if_true]
  rfl

theorem create_misfit (misfit : ¬ keys.Fit) : create keys = .error .keySize := by
  simp only [create, Direction.create_eq]
  by_cases inbound : keys.inboundKey.length = keyLength ∧ keys.inboundIv.length = blockLength
  · have outbound : ¬ (keys.outboundKey.length = keyLength ∧
        keys.outboundIv.length = blockLength) :=
      fun fit => misfit ⟨inbound.1, inbound.2, fit.1, fit.2⟩
    rw [if_pos inbound, if_neg outbound]
    rfl
  · rw [if_neg inbound]
    rfl

theorem fit_of_create (made : create keys = .ok protection) : keys.Fit := by
  by_contra misfit
  rw [create_misfit misfit] at made
  cases made

theorem create_bears (made : create keys = .ok protection) : protection.Bears keys := by
  have fit := fit_of_create made
  rw [create_fit fit] at made
  cases made
  exact ⟨⟨fit.inboundKey, rfl, rfl, rfl⟩, ⟨fit.outboundKey, rfl, rfl, rfl⟩⟩

theorem updateKeys_of_create {fresh : Protection} (made : create keys = .ok fresh)
    (protection : Protection) : protection.updateKeys keys = (.ok (), fresh) := by
  rw [updateKeys, made]

theorem updateKeys_bears (bears : protection.Bears keys) (other : Keys) :
    (protection.updateKeys other).2.Bears (keys.after (.updateKeys other)) := by
  by_cases fit : other.Fit
  · have made := create_fit fit
    rw [updateKeys_of_create made, Keys.after, if_pos fit]
    exact create_bears made
  · rw [updateKeys, create_misfit fit, Keys.after, if_neg fit]
    exact bears

theorem encrypt_bears (bears : protection.Bears keys) (packet : Octets) (sequence : UInt32) :
    (protection.encrypt packet sequence).2.Bears keys := by
  unfold encrypt
  split
  · exact bears
  · exact ⟨bears.inbound, bears.outbound.moved packet⟩

theorem openFirst_bears (bears : protection.Bears keys) (source : Octets) :
    (protection.openFirst source).2.Bears keys := by
  unfold openFirst
  split
  · exact bears
  · exact ⟨bears.inbound.moved _, bears.outbound⟩

theorem openRest_bears (bears : protection.Bears keys) (source : Octets) (sequence : UInt32) :
    (protection.openRest source sequence).2.Bears keys := by
  unfold openRest
  dsimp only
  split
  · exact bears
  · split <;> exact ⟨bears.inbound.moved _, bears.outbound⟩

theorem perform_bears (bears : protection.Bears keys) (call : Call) :
    (protection.perform call).2.Bears (keys.after call) := by
  cases call with
  | updateKeys other => exact updateKeys_bears bears other
  | encrypt packet sequence => exact encrypt_bears bears packet sequence
  | openFirst source => exact openFirst_bears bears source
  | openRest source sequence => exact openRest_bears bears source sequence

theorem reach_bears (bears : protection.Bears keys) (history : List Call) :
    (calls.reach protection history).Bears (keys.inForce history) := by
  induction history generalizing protection keys with
  | nil => exact bears
  | cons call history ih => exact ih (perform_bears bears call)

theorem perform_misfit (misfit : call.Misfit) (protection : Protection) :
    protection.perform call = (.error call.refusal, protection) := by
  cases call with
  | updateKeys keys =>
    simp only [perform, updateKeys, create_misfit misfit]
    rfl
  | encrypt packet sequence => exact if_pos misfit
  | openFirst source => exact if_pos misfit
  | openRest source sequence => exact if_pos misfit

theorem reach_misfits {history : List Call} (misfits : ∀ call ∈ history, call.Misfit)
    (protection : Protection) : calls.reach protection history = protection :=
  calls.reach_keeps_under (· = protection)
    (fun call member state same => by
      subst same
      exact congrArg Prod.snd (perform_misfit (misfits call member) state))
    rfl

end Protection
end SecureShell.Packet
