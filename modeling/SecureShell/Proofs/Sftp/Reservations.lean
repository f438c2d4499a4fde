import SecureShell.Fault
import SecureShell.Proofs.Sftp.Delimiting

namespace SecureShell.Sftp

open Octets (Local readWord readLong readString readTimes readCounted readWhen word_local long_local
  string_local readCounted_enters readCounted_refuses)

-- Room that is made for the values of a list before the first of them is read: how many were
-- announced, the least that each of them takes, and how many octets were left.
structure Reservation where
  least : Nat
  count : Nat
  left : Nat
  deriving DecidableEq

-- What a reading comes to, and the room that it made on its way, whether or not it succeeds.
structure Reading (α : Type) where
  outcome : Except Violation α
  reserved : List Reservation

namespace Reading

variable {α β : Type}

def bind (first : Reading α) (next : α → Reading β) : Reading β :=
  match first.outcome with
  | .error violation => ⟨.error violation, first.reserved⟩
  | .ok value => ⟨(next value).outcome, first.reserved ++ (next value).reserved⟩

instance : Monad Reading where
  pure value := ⟨.ok value, []⟩
  bind := bind

def fail (violation : Violation) : Reading α := ⟨.error violation, []⟩

def orShort : Option α → Except Violation α
  | none => .error .shortData
  | some value => .ok value

def plain (found : Option α) : Reading α := ⟨orShort found, []⟩

def reserve (reservation : Reservation) : Reading Unit := ⟨.ok (), [reservation]⟩

def times (item : Octets → Reading (α × Octets)) : Nat → Octets → Reading (List α × Octets)
  | 0, octets => pure ([], octets)
  | count + 1, octets => do
    let (value, rest) ← item octets
    let (values, rest) ← times item count rest
    return (value :: values, rest)

-- With the early check, a count that the octets left cannot hold is refused on the spot. Without
-- it, as many values are read as were announced.
def counted (early : Bool) (least : Nat) (item : Octets → Reading (α × Octets)) (octets : Octets) :
    Reading (List α × Octets) := do
  let (count, rest) ← plain (readWord octets)
  if early && rest.length < count.toNat * least then fail .shortData
  else do
    reserve ⟨least, count.toNat, rest.length⟩
    times item count.toNat rest

def when (present : Bool) (item : Octets → Reading (α × Octets)) (octets : Octets) :
    Reading (Option α × Octets) :=
  if present then do
    let (value, rest) ← item octets
    return (some value, rest)
  else pure (none, octets)

end Reading

open Reading (plain)

-- The readers of a packet once more, with or without the early checks of the counts in it.
def Attributes.reading (early : Bool) (octets : Octets) : Reading (Attributes × Octets) := do
  let (flags, rest) ← plain (readWord octets)
  let (size, rest) ← plain (readWhen (has flags sizeBit) readLong rest)
  let (owner, rest) ← plain (readWhen (has flags ownerBit) readOwner rest)
  let (permissions, rest) ← plain (readWhen (has flags permissionsBit) readWord rest)
  let (times, rest) ← plain (readWhen (has flags timesBit) readTimes rest)
  let (extended, rest) ← Reading.when (has flags extendedBit)
    (Reading.counted early 8 fun octets => plain (Text.readPair octets)) rest
  return ({ size, owner, permissions, times, extended }, rest)

def Entry.reading (early : Bool) (octets : Octets) : Reading (Entry × Octets) := do
  let (name, rest) ← plain (readString octets)
  let (description, rest) ← plain (Text.read rest)
  let (attributes, rest) ← Attributes.reading early rest
  return (⟨name, description, attributes⟩, rest)

namespace Request

def attributedReading (early : Bool) (make : Octets → Attributes → Request) (octets : Octets) :
    Reading (Request × Octets) := do
  let (string, rest) ← plain (readString octets)
  let (attributes, rest) ← Attributes.reading early rest
  return (make string attributes, rest)

def openFileReading (early : Bool) (octets : Octets) : Reading (Request × Octets) := do
  let (path, rest) ← plain (readString octets)
  let (mode, rest) ← plain (readWord rest)
  let (attributes, rest) ← Attributes.reading early rest
  return (.openFile path (.ofWord mode) attributes, rest)

def reading? (early : Bool) (code : UInt8) : Option (Octets → Reading (Request × Octets)) :=
  if code = 3 then some (openFileReading early)
  else if code = 9 then some (attributedReading early .setstat)
  else if code = 10 then some (attributedReading early .fsetstat)
  else if code = 14 then some (attributedReading early .mkdir)
  else (layout? code).map fun layout octets => plain (layout octets)

end Request

namespace Response

def namesReading (early : Bool) (octets : Octets) : Reading (Response × Octets) := do
  let (entries, rest) ← Reading.counted early 12 (Entry.reading early) octets
  return (.names entries, rest)

def attributesReading (early : Bool) (octets : Octets) : Reading (Response × Octets) := do
  let (found, rest) ← Attributes.reading early octets
  return (.attributes found, rest)

def reading? (early : Bool) (code : UInt8) : Option (Octets → Reading (Response × Octets)) :=
  if code = 104 then some (namesReading early)
  else if code = 105 then some (attributesReading early)
  else (layout? code).map fun layout octets => plain (layout octets)

end Response

namespace Message

def wholeReading (reading : Reading (Message × Octets)) : Reading Message := do
  let (message, rest) ← reading
  if rest.isEmpty then pure message else .fail .trailingOctets

def bodyReading (early : Bool) (code : UInt8) (id : UInt32) (octets : Octets) : Reading Message :=
  match Request.reading? early code with
  | some reading => wholeReading do
    let (asked, rest) ← reading octets
    return (.request id asked, rest)
  | none =>
    match Response.reading? early code with
    | some reading => wholeReading do
      let (given, rest) ← reading octets
      return (.response id given, rest)
    | none => .fail (.unknownType code)

def reading (early : Bool) : Octets → Reading Message
  | [] => .fail .shortData
  | code :: rest =>
    if code = 1 then ⟨greeting .init rest, []⟩
    else if code = 2 then ⟨greeting .version rest, []⟩
    else do
      let (id, body) ← plain (readWord rest)
      bodyReading early code id body

end Message

def Reservation.Modest (size : Nat) (reservation : Reservation) : Prop :=
  (reservation.least = 8 ∨ reservation.least = 12) ∧
    reservation.count ≤ reservation.left / reservation.least ∧ reservation.left ≤ size

theorem Reservation.Modest.mono {size larger : Nat} {reservation : Reservation}
    (modest : reservation.Modest size) (bound : size ≤ larger) : reservation.Modest larger :=
  ⟨modest.1, modest.2.1, Nat.le_trans modest.2.2 bound⟩

namespace Reading

variable {α β : Type} {early : Bool} {least : Nat} {reading : Octets → Reading (α × Octets)}
  {read : Octets → Option (α × Octets)}

theorem bind_ok {first : Reading α} {value : α} (next : α → Reading β)
    (found : first.outcome = .ok value) :
    first >>= next = ⟨(next value).outcome, first.reserved ++ (next value).reserved⟩ := by
  change bind first next = _
  rw [bind, found]

theorem bind_error {first : Reading α} {violation : Violation} (next : α → Reading β)
    (failed : first.outcome = .error violation) :
    first >>= next = ⟨.error violation, first.reserved⟩ := by
  change bind first next = _
  rw [bind, failed]

-- A reading finds what the reader finds. If it has the early checks, all room that it makes is
-- there in what it is given.
structure Follows (early : Bool) (reading : Octets → Reading (α × Octets))
    (read : Octets → Option (α × Octets)) : Prop where
  -- What is left over is a part of what was given, and so is all room in it.
  near : Local 0 read
  same : ∀ octets, (reading octets).outcome = orShort (read octets)
  modest : early = true → ∀ octets, ∀ reservation ∈ (reading octets).reserved,
    reservation.Modest octets.length

theorem follows_pure (early : Bool) (value : α) :
    Follows early (fun octets => pure (value, octets)) (fun octets => pure (value, octets)) where
  near := Octets.local_pure value
  same _ := rfl
  modest := nofun

theorem follows_plain (early : Bool) (near : Local least read) :
    Follows early (fun octets => plain (read octets)) read where
  near := near.weaken (Nat.zero_le least)
  same _ := rfl
  modest := nofun

theorem Follows.shrinks (follows : Follows early reading read) {octets rest : Octets} {value : α}
    (found : read octets = some (value, rest)) : rest.length ≤ octets.length := by
  obtain ⟨taken, rfl, -, -⟩ := follows.near found
  simp

theorem Follows.then {later : α → Octets → Reading (β × Octets)}
    {next : α → Octets → Option (β × Octets)} (first : Follows early reading read)
    (second : ∀ value, Follows early (later value) (next value)) :
    Follows early
      (fun octets => do
        let (value, rest) ← reading octets
        later value rest)
      (fun octets => do
        let (value, rest) ← read octets
        next value rest) where
  near := first.near.then fun value => (second value).near
  same octets := by
    have head := first.same octets
    cases found : read octets with
    | none =>
      rw [found] at head
      rw [bind_error _ head]
      rfl
    | some result =>
      rw [found] at head
      rw [bind_ok _ head]
      exact (second result.1).same result.2
  modest checked octets reservation made := by
    have head := first.same octets
    cases found : read octets with
    | none =>
      rw [found] at head
      rw [bind_error _ head] at made
      exact first.modest checked octets reservation made
    | some result =>
      rw [found] at head
      rw [bind_ok _ head] at made
      rcases List.mem_append.mp made with earlier | after
      · exact first.modest checked octets reservation earlier
      · exact ((second result.1).modest checked result.2 reservation after).mono
          (first.shrinks found)

theorem Follows.times (each : Follows early reading read) (count : Nat) :
    Follows early (times reading count) (readTimes read count) := by
  induction count with
  | zero => exact follows_pure early []
  | succ count ih => exact each.then fun value => ih.then fun values => follows_pure early _

theorem Follows.map (each : Follows early reading read) (convert : α → β) :
    Follows early
      (fun octets => do
        let (value, rest) ← reading octets
        return (convert value, rest))
      (fun octets => (read octets).map fun (value, rest) => (convert value, rest)) := by
  have same : (fun octets => (read octets).map fun (value, rest) => (convert value, rest)) =
      (fun octets => do
        let (value, rest) ← read octets
        return (convert value, rest)) := by
    funext octets
    cases read octets <;> rfl
  rw [same]
  exact each.then fun value => follows_pure early (convert value)

theorem Follows.when (each : Follows early reading read) (present : Bool) :
    Follows early (when present reading) (readWhen present read) := by
  cases present with
  | false => exact follows_pure early none
  | true => exact each.map some

theorem times_none (each : Local least read) {count : Nat} {octets : Octets}
    (short : octets.length < count * least) : readTimes read count octets = none := by
  cases found : readTimes read count octets with
  | none => rfl
  | some result =>
    obtain ⟨taken, rfl, long, -⟩ := each.times count found
    rw [List.length_append] at short
    omega

section Counted

variable {octets rest : Octets} {count : UInt32}
  (announced : readWord octets = some (count, rest))
include announced

-- So a reader with the check finds what one finds that takes the count at its word.
theorem readCounted_announced (each : Local least read) :
    readCounted least read octets = readTimes read count.toNat rest := by
  by_cases room : count.toNat * least ≤ rest.length
  · exact readCounted_enters announced room
  · have short := Nat.lt_of_not_le room
    rw [readCounted_refuses announced short, times_none each short]

theorem plain_announced : plain (readWord octets) = ⟨.ok (count, rest), []⟩ := by
  rw [announced]
  rfl

-- Room is made where the reader of the list goes on to its values, and there only.
theorem counted_enters (room : early = true → count.toNat * least ≤ rest.length) :
    counted early least reading octets =
      ⟨(times reading count.toNat rest).outcome,
        ⟨least, count.toNat, rest.length⟩ :: (times reading count.toNat rest).reserved⟩ := by
  have entered : ¬(early && rest.length < count.toNat * least) := by
    cases early with
    | false => nofun
    | true => simpa using room rfl
  rw [counted, plain_announced announced, bind_ok _ rfl]
  simp only [if_neg entered]
  rfl

theorem counted_refuses (short : rest.length < count.toNat * least) :
    counted true least reading octets = fail .shortData := by
  rw [counted, plain_announced announced, bind_ok _ rfl]
  simp [short, fail]

end Counted

theorem Follows.counted (follows : Follows early reading read) (each : Local least read)
    (known : least = 8 ∨ least = 12) :
    Follows early (counted early least reading) (readCounted least read) where
  near := each.counted.weaken (Nat.zero_le 4)
  same octets := by
    cases announced : readWord octets with
    | none => simp [Reading.counted, readCounted, announced, plain, orShort, bind_error]
    | some result =>
      obtain ⟨count, rest⟩ := result
      have values := (follows.times count.toNat).same rest
      rw [readCounted_announced announced each]
      by_cases room : early = true → count.toNat * least ≤ rest.length
      · rw [counted_enters announced room, values]
      · obtain ⟨rfl, short⟩ := Classical.not_imp.mp room
        have short := Nat.lt_of_not_le short
        rw [counted_refuses announced short, times_none each short]
        rfl
  modest checked octets reservation made := by
    subst checked
    cases announced : readWord octets with
    | none => simp [Reading.counted, announced, plain, orShort, bind_error] at made
    | some result =>
      obtain ⟨count, rest⟩ := result
      have part : rest.length ≤ octets.length := by
        rw [Octets.readWord_shortens announced]
        exact Nat.le_add_right _ 4
      by_cases room : count.toNat * least ≤ rest.length
      · rw [counted_enters announced fun _ => room] at made
        rcases List.mem_cons.mp made with rfl | later
        · have positive : 0 < least := by omega
          exact ⟨known, (Nat.le_div_iff_mul_le positive).mpr room, part⟩
        · exact ((follows.times count.toNat).modest rfl rest reservation later).mono part
      · rw [counted_refuses announced (Nat.lt_of_not_le room)] at made
        cases made

end Reading

open Reading (Follows follows_plain follows_pure)

variable (early : Bool)

theorem Attributes.follows : Follows early (Attributes.reading early) Attributes.read :=
  (follows_plain early word_local).then fun flags =>
    (follows_plain early (long_local.when (has flags sizeBit))).then fun size =>
    (follows_plain early (owner_local.when (has flags ownerBit))).then fun owner =>
    (follows_plain early (word_local.when (has flags permissionsBit))).then fun permissions =>
    (follows_plain early (times_local.when (has flags timesBit))).then fun times =>
    (((follows_plain early Text.readPair_local).counted Text.readPair_local (.inl rfl)).when
      (has flags extendedBit)).then fun extended =>
    follows_pure early (Attributes.mk size owner permissions times extended)

theorem Entry.follows : Follows early (Entry.reading early) Entry.read :=
  (follows_plain early string_local).then fun name =>
    (follows_plain early Text.read_local).then fun description =>
    (Attributes.follows early).then fun attributes =>
    follows_pure early (Entry.mk name description attributes)

namespace Request

theorem attributed_follows (make : Octets → Attributes → Request) :
    Follows early (attributedReading early make) (readAttributed make) :=
  (follows_plain early string_local).then fun string =>
    (Attributes.follows early).then fun attributes => follows_pure early (make string attributes)

theorem openFile_follows : Follows early (openFileReading early) readOpenFile :=
  (follows_plain early string_local).then fun path =>
    (follows_plain early word_local).then fun mode =>
    (Attributes.follows early).then fun attributes =>
    follows_pure early (Request.openFile path (.ofWord mode) attributes)

theorem layout_follows (code : UInt8) :
    Option.Rel (Follows early) (reading? early code) (layout? code) := by
  unfold reading?
  split
  · subst code
    exact .some (openFile_follows early)
  split
  · subst code
    exact .some (attributed_follows early _)
  split
  · subst code
    exact .some (attributed_follows early _)
  split
  · subst code
    exact .some (attributed_follows early _)
  cases found : layout? code with
  | none => exact .none
  | some layout => exact .some (follows_plain early (layout_local found))

end Request

namespace Response

theorem names_follows : Follows early (namesReading early) readNames :=
  ((Entry.follows early).counted Entry.read_local (.inr rfl)).then fun entries =>
    follows_pure early (Response.names entries)

theorem attributes_follows : Follows early (attributesReading early) readAttributes :=
  (Attributes.follows early).then fun found => follows_pure early (Response.attributes found)

theorem layout_follows (code : UInt8) :
    Option.Rel (Follows early) (reading? early code) (layout? code) := by
  unfold reading?
  split
  · subst code
    exact .some (names_follows early)
  split
  · subst code
    exact .some (attributes_follows early)
  cases found : layout? code with
  | none => exact .none
  | some layout => exact .some (follows_plain early (layout_local found))

end Response

namespace Message

variable {early : Bool}

structure Judges (early : Bool) (reading : Reading Message) (verdict : Except Violation Message)
    (size : Nat) : Prop where
  same : reading.outcome = verdict
  modest : early = true → ∀ reservation ∈ reading.reserved, reservation.Modest size

theorem judges_outright (early : Bool) (verdict : Except Violation Message) (size : Nat) :
    Judges early ⟨verdict, []⟩ verdict size where
  same := rfl
  modest := nofun

theorem whole_judges {parts : Octets → Reading (Message × Octets)}
    {read : Octets → Option (Message × Octets)} (follows : Follows early parts read)
    (octets : Octets) :
    Judges early (wholeReading (parts octets)) (whole (read octets)) octets.length := by
  have head := follows.same octets
  have modest := fun checked => follows.modest checked octets
  unfold wholeReading
  cases found : read octets with
  | none =>
    rw [found] at head
    rw [Reading.bind_error _ head]
    exact ⟨rfl, modest⟩
  | some result =>
    obtain ⟨message, rest⟩ := result
    rw [found] at head
    rw [Reading.bind_ok _ head]
    cases rest with
    | nil => exact ⟨rfl, by simpa [pure] using modest⟩
    | cons octet rest => exact ⟨rfl, by simpa [Reading.fail] using modest⟩

theorem body_judges (early : Bool) (code : UInt8) (id : UInt32) (octets : Octets) :
    Judges early (bodyReading early code id octets) (readBody code id octets) octets.length := by
  have asked := Request.layout_follows early code
  have given := Response.layout_follows early code
  unfold bodyReading readBody
  generalize Request.reading? early code = reading, Request.layout? code = layout at asked ⊢
  cases asked with
  | some follows => exact whole_judges (follows.map (request id)) octets
  | none =>
    generalize Response.reading? early code = reading, Response.layout? code = layout at given ⊢
    cases given with
    | some follows => exact whole_judges (follows.map (response id)) octets
    | none => exact judges_outright early _ _

theorem reading_judges (early : Bool) (packet : Octets) :
    Judges early (Message.reading early packet) (read packet) packet.length := by
  cases packet with
  | nil => exact judges_outright early _ _
  | cons code rest =>
    rw [Message.reading, read]
    by_cases isInit : code = 1
    · rw [if_pos isInit, if_pos isInit]
      exact judges_outright early _ _
    by_cases isVersion : code = 2
    · rw [if_neg isInit, if_neg isInit, if_pos isVersion, if_pos isVersion]
      exact judges_outright early _ _
    rw [if_neg isInit, if_neg isInit, if_neg isVersion, if_neg isVersion]
    cases identified : Octets.readWord rest with
    | none => exact judges_outright early _ _
    | some result =>
      have judges := body_judges early code result.1 result.2
      have shorter := Octets.readWord_shortens identified
      refine ⟨judges.same, fun checked reservation made => ?_⟩
      apply (judges.modest checked reservation made).mono
      rw [List.length_cons]
      omega

-- To check the counts early changes no result, and no more room is made than the packet could fill.
theorem early_checks_change_nothing (octets : Octets) :
    ((Message.reading true octets).outcome = read octets ∧
      (Message.reading false octets).outcome = read octets ∧
      ∀ reservation ∈ (Message.reading true octets).reserved, reservation.Modest octets.length) ∧
    (Attributes.reading true octets).outcome = Reading.orShort (Attributes.read octets) ∧
      (Attributes.reading false octets).outcome = Reading.orShort (Attributes.read octets) ∧
      ∀ reservation ∈ (Attributes.reading true octets).reserved,
        reservation.Modest octets.length :=
  have checked := reading_judges true octets
  ⟨⟨checked.same, (reading_judges false octets).same, checked.modest rfl⟩,
    (Attributes.follows true).same octets, (Attributes.follows false).same octets,
    (Attributes.follows true).modest rfl octets⟩

-- Two entries, the second with one pair of empty texts, which leaves no octet to spare.
def tightPage : Octets :=
  [104, 0, 0, 0, 7, 0, 0, 0, 2, 0, 0, 0, 0, 0, 0, 0, 0, 0, 0, 0, 0, 0, 0, 0, 0, 0, 0, 0, 0,
    0x80, 0, 0, 0, 0, 0, 0, 1, 0, 0, 0, 0, 0, 0, 0, 0]

def boast : Octets := [104, 0, 0, 0, 7, 0xFF, 0xFF, 0xFF, 0xFF]

theorem early_checks_change_nothing_tight :
    read tightPage =
        .ok (.response 7 (.names [⟨[], "", {}⟩, ⟨[], "", { extended := some [("", "")] }⟩])) ∧
      (Message.reading false tightPage).outcome = read tightPage ∧
      ⟨8, 1, 8⟩ ∈ (Message.reading true tightPage).reserved ∧
      Reservation.Modest tightPage.length ⟨8, 1, 8⟩ ∧
      (Message.reading false boast).outcome = .error .shortData ∧
      (Message.reading false boast).reserved = [⟨12, 0xFFFFFFFF, 0⟩] ∧
      (Message.reading true boast).reserved = [] := by
  have member : ⟨8, 1, 8⟩ ∈ (Message.reading true tightPage).reserved := by decide +kernel
  obtain ⟨⟨-, same, modest⟩, -⟩ := early_checks_change_nothing tightPage
  obtain ⟨⟨-, boasted, -⟩, -⟩ := early_checks_change_nothing boast
  have short : read boast = .error .shortData := by decide +kernel
  exact ⟨by decide +kernel, same, member, modest _ member, boasted.trans short,
    by decide +kernel, by decide +kernel⟩

end Message
end SecureShell.Sftp
