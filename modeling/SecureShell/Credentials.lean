import SecureShell.Fault
import SecureShell.Octets
import SecureShell.Packet.Scheme
import SecureShell.Text.Quoted

namespace SecureShell

-- Ways of authenticating that the server is willing to go on with.
structure Willingness where
  publicKey : Bool
  password : Bool
  hostBased : Bool
  deriving DecidableEq

namespace Willingness

def ofMask (mask : UInt8) : Willingness where
  publicKey := mask &&& 1 != 0
  password := mask &&& 2 != 0
  hostBased := mask &&& 4 != 0

def any (willing : Willingness) : Bool :=
  willing.publicKey || willing.password || willing.hostBased

end Willingness

inductive Offer
  | bare (username : String)
  | password (username password : String)
  deriving DecidableEq

namespace Offer

def username : Offer → String
  | .bare name | .password name _ => name

def password? : Offer → Option String
  | .bare _ => none
  | .password _ secret => some secret

end Offer

abbrev OfferAnswer := Except TransportFault (Option Offer)

-- A custom method answers with a view of all it was asked so far, the latest last.
inductive Method
  | none
  | password (password : String)
  | custom (name : String) (answer : List Willingness → OfferAnswer)

def Method.summary : Method → String
  | .none => "None"
  | .password _ => "Password(<redacted>)"
  | .custom name _ => "Custom(" ++ name ++ ")"

structure HostKey where
  algorithm : String
  blob : Octets
  deriving DecidableEq

inductive HostKeyCheck
  | acceptAll
  | custom (name : String) (validate : HostKey → Except TransportFault Unit)

def HostKeyCheck.validate : HostKeyCheck → HostKey → Except TransportFault Unit
  | .acceptAll, _ => .ok ()
  | .custom _ validate, key => validate key

def HostKeyCheck.summary : HostKeyCheck → String
  | .acceptAll => "AcceptAll"
  | .custom name _ => "Custom(" ++ name ++ ")"

structure Credentials where
  username : String
  method : Method
  hostKeyCheck : HostKeyCheck := .acceptAll
  schemes : List Packet.Scheme := [.bundled]

namespace Credentials

def passwordRefused : TransportFault :=
  ⟨.authenticationFailed, "server does not accept password authentication"⟩

-- `asked` is not empty: its last entry is the question to be answered now.
def offer (credentials : Credentials) (earlier : List Willingness) (now : Willingness) : OfferAnswer :=
  match credentials.method with
  | .none => .ok (some (.bare credentials.username))
  | .password password =>
    if now.password then .ok (some (.password credentials.username password))
    else .error passwordRefused
  | .custom _ answer => answer (earlier ++ [now])

def offersFrom (credentials : Credentials) (earlier : List Willingness) :
    List Willingness → List OfferAnswer
  | [] => []
  | now :: later => credentials.offer earlier now :: credentials.offersFrom (earlier ++ [now]) later

-- One answer for each round of questions.
def offers (credentials : Credentials) (rounds : List Willingness) : List OfferAnswer :=
  credentials.offersFrom [] rounds

-- How credentials show themselves in diagnostics. A password is left out.
def summary (credentials : Credentials) : String :=
  "Authentication \x7b username: " ++ Text.quote credentials.username ++
  ", method: " ++ credentials.method.summary ++
  ", host_key_validation: " ++ credentials.hostKeyCheck.summary ++
  ", transport_protection: [" ++ ", ".intercalate (credentials.schemes.map Packet.Scheme.summary) ++
  "] \x7d"

-- Whether the password can be read in the summary all the same, as one can that
-- happens to be part of the user's name or of the words around it.
def isDisclosed (credentials : Credentials) : Bool :=
  match credentials.method with
  | .password password =>
    !password.isEmpty && @decide (password.toList <:+: credentials.summary.toList)
      (List.instDecidableIsInfixOfDecidableEq _ _)
  | .none | .custom .. => false

end Credentials

-- What an engine is given to reach a server.
structure Destination where
  host : String
  port : UInt16
  credentials : Credentials
  timeout : Nat

end SecureShell
