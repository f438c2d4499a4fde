import SecureShell.Packet.Protection

namespace SecureShell.Packet

-- How packets are to be protected, in the names that key exchange uses.
structure Factory where
  cipher : String
  mac : Option String
  sizes : KeySizes
  create : Keys → Except Fault Protection

-- RFC 4344 and RFC 6668.
def Factory.aes128Ctr : Factory where
  cipher := "aes128-ctr"
  mac := some "hmac-sha2-256"
  sizes := ⟨blockLength, keyLength, Hmac.tagLength⟩
  create := Protection.create

inductive Scheme
  | aes128Ctr
  -- Whatever the engine can do by itself.
  | bundled
  -- Goes by a name in diagnostics, as everything that is custom does.
  | custom (name : String) (factory : Factory)

def Scheme.summary : Scheme → String
  | .aes128Ctr => "Aes128Ctr"
  | .bundled => "Bundled"
  | .custom name _ => "Custom(" ++ name ++ ")"

def Scheme.factory? : Scheme → Option Factory
  | .aes128Ctr => some .aes128Ctr
  | .bundled => none
  | .custom _ factory => some factory

end SecureShell.Packet
