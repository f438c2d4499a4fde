import SecureShell.Octets

namespace SecureShell.Packet.Aes

-- AES with a key of 128 bits. A block is 16 octets, column by column.

-- Multiplication by x in GF(2^8) modulo x^8 + x^4 + x^3 + x + 1.
def double (a : UInt8) : UInt8 := if a &&& 0x80 = 0 then a <<< 1 else (a <<< 1) ^^^ 0x1B

def multiply : Nat → UInt8 → UInt8 → UInt8
  | 0, _, _ => 0
  | bits + 1, a, b => (if b &&& 1 = 0 then 0 else a) ^^^ multiply bits (double a) (b >>> 1)

-- a^254, which is the inverse of a, and 0 for 0.
def inverse (a : UInt8) : UInt8 :=
  let times := multiply 8
  let square := fun b => times b b
  let a2 := square a
  let a3 := times a2 a
  let a12 := square (square a3)
  let a14 := times a12 a2
  let a15 := times a12 a3
  times (square (square (square (square a15)))) a14

def rotate (a : UInt8) (bits : UInt8) : UInt8 := (a <<< bits) ||| (a >>> (8 - bits))

def substituted (a : UInt8) : UInt8 :=
  let b := inverse a
  b ^^^ rotate b 1 ^^^ rotate b 2 ^^^ rotate b 3 ^^^ rotate b 4 ^^^ 0x63

def substitution : Array UInt8 := Array.ofFn fun a : Fin 256 => substituted (UInt8.ofNat a.val)

def substitute (a : UInt8) : UInt8 := substitution.getD a.toNat 0

def xor (a b : Octets) : Octets := List.zipWith (· ^^^ ·) a b

abbrev RoundKey := Octets

-- The next round key: its first word comes from the last word of the one before,
-- turned by an octet, substituted and marked with the round constant.
def nextKey (constant : UInt8) : RoundKey → RoundKey
  | [a, b, c, d, e, f, g, h, i, j, k, l, m, n, o, p] =>
    let w0 := [a ^^^ substitute n ^^^ constant, b ^^^ substitute o, c ^^^ substitute p, d ^^^ substitute m]
    let w1 := xor w0 [e, f, g, h]
    let w2 := xor w1 [i, j, k, l]
    let w3 := xor w2 [m, n, o, p]
    w0 ++ w1 ++ w2 ++ w3
  | _ => []

def expand : Nat → UInt8 → RoundKey → List RoundKey
  | 0, _, key => [key]
  | rounds + 1, constant, key => key :: expand rounds (double constant) (nextKey constant key)

-- The eleven round keys.
def schedule (key : Octets) : List RoundKey := expand 10 1 key

-- Row r of the block moves r columns to the left.
def shiftRows : Octets → Octets
  | [a, b, c, d, e, f, g, h, i, j, k, l, m, n, o, p] =>
    [a, f, k, p, e, j, o, d, i, n, c, h, m, b, g, l]
  | block => block

def mixColumns : Octets → Octets
  | a :: b :: c :: d :: rest =>
    let sum := a ^^^ b ^^^ c ^^^ d
    (a ^^^ sum ^^^ double (a ^^^ b)) :: (b ^^^ sum ^^^ double (b ^^^ c)) ::
      (c ^^^ sum ^^^ double (c ^^^ d)) :: (d ^^^ sum ^^^ double (d ^^^ a)) :: mixColumns rest
  | rest => rest

def rounds (block : Octets) : List RoundKey → Octets
  | [] => block
  | [last] => xor (shiftRows (block.map substitute)) last
  | key :: keys => rounds (xor (mixColumns (shiftRows (block.map substitute))) key) keys

def encipher (keys : List RoundKey) (block : Octets) : Octets :=
  match keys with
  | [] => block
  | first :: keys => rounds (xor block first) keys

end SecureShell.Packet.Aes
