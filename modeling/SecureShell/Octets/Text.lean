import SecureShell.Octets

namespace SecureShell.Text

-- UTF-8. Reading never fails: an octet sequence that starts a character but does
-- not finish it is replaced as a whole by one U+FFFD (the longest such start, as
-- the Unicode standard recommends), and reading goes on at the octet that broke it.
def replacement : Char := Char.ofNat 0xFFFD

def continues (octet : UInt8) : Bool := 0x80 ≤ octet && octet ≤ 0xBF

-- Octets allowed right after the lead. The narrower ranges keep out overlong
-- forms, surrogates and values beyond U+10FFFF.
def follows (lead second : UInt8) : Bool :=
  if lead = 0xE0 then 0xA0 ≤ second && second ≤ 0xBF
  else if lead = 0xED then 0x80 ≤ second && second ≤ 0x9F
  else if lead = 0xF0 then 0x90 ≤ second && second ≤ 0xBF
  else if lead = 0xF4 then 0x80 ≤ second && second ≤ 0x8F
  else continues second

def payload (octet : UInt8) : Nat := octet.toNat % 0x40

-- The next character and the octets after it.
def next (lead : UInt8) (rest : Octets) : Char × Octets :=
  if lead < 0x80 then (Char.ofNat lead.toNat, rest)
  else if lead < 0xC2 || 0xF4 < lead then (replacement, rest)
  else match rest with
  | [] => (replacement, [])
  | second :: afterSecond =>
    if !follows lead second then (replacement, rest)
    else if lead < 0xE0 then
      (Char.ofNat (lead.toNat % 0x20 * 0x40 + payload second), afterSecond)
    else match afterSecond with
    | [] => (replacement, [])
    | third :: afterThird =>
      if !continues third then (replacement, afterSecond)
      else if lead < 0xF0 then
        (Char.ofNat ((lead.toNat % 0x10 * 0x40 + payload second) * 0x40 + payload third), afterThird)
      else match afterThird with
      | [] => (replacement, [])
      | fourth :: afterFourth =>
        if !continues fourth then (replacement, afterThird)
        else (Char.ofNat (((lead.toNat % 0x08 * 0x40 + payload second) * 0x40 + payload third) * 0x40
          + payload fourth), afterFourth)

theorem next_shortens (lead : UInt8) (rest : Octets) :
    (next lead rest).2.length ≤ rest.length := by
  unfold next
  repeat' split
  all_goals simp_all
  all_goals omega

def decodeOnto (done : List Char) : Octets → List Char
  | [] => done.reverse
  | lead :: rest =>
    match step : next lead rest with
    | (char, tail) =>
      have : tail.length ≤ rest.length := by
        have := next_shortens lead rest
        rwa [step] at this
      decodeOnto (char :: done) tail
termination_by octets => octets.length
decreasing_by simp only [List.length_cons]; omega

def decode (octets : Octets) : String := String.ofList (decodeOnto [] octets)

def encodeChar (char : Char) : Octets :=
  let n := char.toNat
  if n < 0x80 then [UInt8.ofNat n]
  else if n < 0x800 then [UInt8.ofNat (0xC0 + n / 0x40), UInt8.ofNat (0x80 + n % 0x40)]
  else if n < 0x10000 then
    [UInt8.ofNat (0xE0 + n / 0x1000), UInt8.ofNat (0x80 + n / 0x40 % 0x40), UInt8.ofNat (0x80 + n % 0x40)]
  else
    [UInt8.ofNat (0xF0 + n / 0x40000), UInt8.ofNat (0x80 + n / 0x1000 % 0x40),
     UInt8.ofNat (0x80 + n / 0x40 % 0x40), UInt8.ofNat (0x80 + n % 0x40)]

def encode (text : String) : Octets := text.toList.flatMap encodeChar

def write (text : String) : Octets := Octets.writeString (encode text)

def read (octets : Octets) : Option (String × Octets) := do
  let (string, rest) ← Octets.readString octets
  return (decode string, rest)

-- Pairs of texts: a name and the data that goes with it.
abbrev Pair := String × String

def writePair (pair : Pair) : Octets := write pair.1 ++ write pair.2

def readPair (octets : Octets) : Option (Pair × Octets) := do
  let (name, rest) ← read octets
  let (data, rest) ← read rest
  return ((name, data), rest)

def writePairs (pairs : List Pair) : Octets := pairs.flatMap writePair

end SecureShell.Text
