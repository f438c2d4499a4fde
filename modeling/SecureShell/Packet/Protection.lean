import SecureShell.Packet.Aes
import SecureShell.Packet.Hmac

namespace SecureShell.Packet

inductive Fault
  | keySize | packetLength | padding | mac | primitive
  deriving DecidableEq

def Fault.message : Fault → String
  | .keySize => "invalid key size"
  | .packetLength => "encrypted packet length is not a multiple of the block size"
  | .padding => "decrypted plaintext is shorter than its padding"
  | .mac => "message authentication code mismatch"
  | .primitive => "cryptographic primitive failure"

structure Keys where
  inboundIv : Octets
  outboundIv : Octets
  inboundKey : Octets
  outboundKey : Octets
  inboundMac : Octets
  outboundMac : Octets
  deriving DecidableEq

structure KeySizes where
  iv : Nat
  key : Nat
  mac : Nat
  deriving DecidableEq

def blockLength : Nat := 16

def keyLength : Nat := 16

-- Octets combined with a stream of blocks, starting at a given block.
def combine (stream : Nat → Octets) (position : Nat) (data : Octets) : Octets :=
  if data.length = 0 then []
  else List.zipWith (· ^^^ ·) (data.take blockLength) (stream position) ++
    combine stream (position + 1) (data.drop blockLength)
termination_by data.length
decreasing_by simp only [List.length_drop, blockLength]; omega

-- A 128-bit counter, most significant octet first.
def counterBlock (n : Nat) : Octets :=
  Octets.writeLong (UInt64.ofNat (n / 0x10000000000000000)) ++ Octets.writeLong (UInt64.ofNat n)

def counterOf (iv : Octets) : Nat := iv.foldl (fun n octet => n * 0x100 + octet.toNat) 0

-- One way of the traffic: its keys, and how many blocks of keystream it has used.
structure Direction where
  roundKeys : List Aes.RoundKey
  counter : Nat
  macKey : Octets
  used : Nat := 0
  deriving DecidableEq

namespace Direction

-- The key for the MAC may have any length.
def create (key iv macKey : Octets) : Except Fault Direction :=
  if key.length ≠ keyLength ∨ iv.length ≠ blockLength then .error .keySize
  else .ok { roundKeys := Aes.schedule key, counter := counterOf iv, macKey }

-- Block n of the keystream: the counter starts at the IV and wraps at 2^128.
def keystream (direction : Direction) (n : Nat) : Octets :=
  Aes.encipher direction.roundKeys
    (counterBlock ((direction.counter + n) % 0x100000000000000000000000000000000))

def apply (direction : Direction) (data : Octets) : Octets × Direction :=
  (combine direction.keystream direction.used data,
   { direction with used := direction.used + (data.length + blockLength - 1) / blockLength })

-- The tag covers the sequence number and the packet before encryption.
def tag (direction : Direction) (sequence : UInt32) (packet : Octets) : Octets :=
  Hmac.tag direction.macKey (Octets.writeWord sequence ++ packet)

end Direction

structure Protection where
  inbound : Direction
  outbound : Direction
  deriving DecidableEq

namespace Protection

def create (keys : Keys) : Except Fault Protection := do
  let inbound ← Direction.create keys.inboundKey keys.inboundIv keys.inboundMac
  let outbound ← Direction.create keys.outboundKey keys.outboundIv keys.outboundMac
  return ⟨inbound, outbound⟩

-- Both directions change or neither does.
def updateKeys (protection : Protection) (keys : Keys) : Except Fault Unit × Protection :=
  match create keys with
  | .ok fresh => (.ok (), fresh)
  | .error fault => (.error fault, protection)

-- The packet under its keystream, and its tag.
def encrypt (protection : Protection) (packet : Octets) (sequence : UInt32) :
    Except Fault Octets × Protection :=
  if packet.length = 0 ∨ packet.length % blockLength ≠ 0 then (.error .packetLength, protection)
  else
    let (sealed, outbound) := protection.outbound.apply packet
    (.ok (sealed ++ protection.outbound.tag sequence packet), { protection with outbound })

-- Opens the first block in place, for its length field.
def openFirst (protection : Protection) (source : Octets) : Except Fault Octets × Protection :=
  if source.length < blockLength then (.error .packetLength, protection)
  else
    let (first, inbound) := protection.inbound.apply (source.take blockLength)
    (.ok (first ++ source.drop blockLength), { protection with inbound })

-- Drops the length, the padding count and the padding.
def payload (packet : Octets) : Except Fault Octets :=
  let padding := (packet.getD 4 0).toNat
  let body := packet.drop 5
  if body.length ≤ padding then .error .padding else .ok (body.take (body.length - padding))

-- Opens a packet whose first block is open already, checks its tag and strips it.
-- The keystream moves on even when the tag turns out wrong.
def openRest (protection : Protection) (source : Octets) (sequence : UInt32) :
    Except Fault Octets × Protection :=
  let length := source.length - Hmac.tagLength
  if source.length < blockLength + Hmac.tagLength ∨ length % blockLength ≠ 0 then
    (.error .packetLength, protection)
  else
    let packet := source.take length
    let (rest, inbound) := protection.inbound.apply (packet.drop blockLength)
    let plain := packet.take blockLength ++ rest
    let after := { protection with inbound }
    if protection.inbound.tag sequence plain = source.drop length then (payload plain, after)
    else (.error .mac, after)

def receive (protection : Protection) (source : Octets) (sequence : UInt32) :
    Except Fault Octets × Protection :=
  match protection.openFirst source with
  | (.ok opened, after) => after.openRest opened sequence
  | (.error fault, after) => (.error fault, after)

end Protection
end SecureShell.Packet
