import Mathlib.Data.Nat.Bitwise
import SecureShell.Proofs.Octets.Canonical
import SecureShell.Proofs.Octets.Repair
import SecureShell.Proofs.Sftp.RoundTrip

namespace SecureShell.Sftp

open Octets (word_canonical long_canonical string_canonical string_cancel wordLimit)

-- What a packet is made of. Numbers, codes and counts are kept as they are, and so are raw
-- strings: the paths, the handles and the data. A text is here what its octets are, and a word
-- of flags knows which of its bits mean something.
inductive Field
  | number (octets : Octets)
  | count (n : Nat)
  | raw (string : Octets)
  | text (string : Octets)
  | flags (known word : UInt32)
  deriving DecidableEq

namespace Field

def octets : Field → Octets
  | .number octets => octets
  | .count n => Octets.writeWord (UInt32.ofNat n)
  | .raw string | .text string => Octets.writeString string
  | .flags _ word => Octets.writeWord word

-- As it goes out again once it was read: what is no UTF-8 is replaced, unknown flags are gone.
def repaired : Field → Field
  | .text string => .text (Text.encode (Text.decode string))
  | .flags known word => .flags known (word &&& known)
  | field => field

def Clean : Field → Prop
  | .text string => Text.Valid string
  | .flags known word => word &&& known = word
  | .number _ | .count _ | .raw _ => True

def Fits : Field → Prop
  | .raw string | .text string => string.Fits
  | .count n => n < wordLimit
  | .number _ | .flags .. => True

def raw? : Field → Option Octets
  | .raw string => some string
  | .number _ | .count _ | .text _ | .flags .. => none

variable {field other : Field} {rest more : Octets}

theorem repaired_eq_iff (field : Field) : field.repaired = field ↔ field.Clean := by
  cases field with
  | text string => simp [repaired, Clean, Text.encode_decode_iff]
  | flags known word => simp [repaired, Clean]
  | number octets | count _ | raw string => simp [repaired, Clean]

theorem repaired_repaired (field : Field) : field.repaired.repaired = field.repaired := by
  cases field with
  | text string => simp only [repaired, Text.decode_encode]
  | flags known word => simp only [repaired, UInt32.and_assoc, UInt32.and_self]
  | number octets | count _ | raw string => rfl

theorem raw_repaired (field : Field) : field.repaired.raw? = field.raw? := by
  cases field <;> rfl

theorem octets_cancel (fits : field.Fits) (fitsToo : other.Fits)
    (alike : field.repaired = other.repaired)
    (same : field.octets ++ rest = other.octets ++ more) : field = other ∧ rest = more := by
  cases field with
  | number _ | count _ | raw _ =>
    cases other <;> simp only [repaired, reduceCtorEq] at alike
    cases alike
    exact ⟨rfl, List.append_cancel_left same⟩
  | text string =>
    cases other <;> simp only [repaired, reduceCtorEq] at alike
    rename_i stringToo
    have kept : string.Fits := fits
    obtain ⟨rfl, tails⟩ := string_cancel kept fitsToo same
    exact ⟨rfl, tails⟩
  | flags known word =>
    cases other <;> simp only [repaired, reduceCtorEq, flags.injEq] at alike
    rename_i knownToo wordToo
    obtain ⟨rfl, _⟩ := alike
    have left := Octets.word_roundtrip word rest
    rw [show Octets.writeWord word ++ rest = Octets.writeWord wordToo ++ more from same,
      Octets.word_roundtrip] at left
    cases left
    exact ⟨rfl, rfl⟩

theorem fits_of_alike (short : field.octets.length < wordLimit)
    (alike : field.repaired = other.repaired) (fits : other.Fits) : field.Fits := by
  cases field with
  | raw string | text string =>
    rw [octets, Octets.writeString, List.length_append, Octets.length_writeWord] at short
    exact Nat.lt_of_le_of_lt (Nat.le_add_left _ 4) short
  | count n =>
    cases other <;> simp only [repaired, reduceCtorEq] at alike
    cases alike
    exact fits
  | number _ | flags _ _ => trivial

theorem repaired_growth (field : Field) :
    field.repaired.octets.length ≤ 3 * field.octets.length := by
  cases field with
  | text string =>
    have grown := Text.length_encode_decode string
    simp only [repaired, octets, Octets.writeString, List.length_append, Octets.length_writeWord]
    omega
  | flags known word => exact Nat.le_mul_of_pos_left _ (by decide)
  | number _ | count _ | raw _ => exact Nat.le_mul_of_pos_left _ (by decide)

end Field

def spell (fields : List Field) : Octets := fields.flatMap Field.octets

variable {first second : List Field} {octets between rest : Octets} {field : Field}

theorem spell_append (first second : List Field) :
    spell (first ++ second) = spell first ++ spell second := List.flatMap_append

theorem spell_growth (sent : List Field) :
    (spell (sent.map Field.repaired)).length ≤ 3 * (spell sent).length := by
  induction sent with
  | nil => exact Nat.le_refl 0
  | cons field sent ih =>
    have first := field.repaired_growth
    simp only [spell, List.map_cons, List.flatMap_cons, List.length_append] at ih ⊢
    omega

theorem map_repaired_eq_iff (sent : List Field) :
    sent.map Field.repaired = sent ↔ ∀ field ∈ sent, field.Clean := by
  induction sent with
  | nil => simp
  | cons field sent ih => simp [ih, Field.repaired_eq_iff]

theorem length_le_spell {fields : List Field} (member : field ∈ fields) :
    field.octets.length ≤ (spell fields).length := by
  obtain ⟨before, after, rfl⟩ := List.append_of_mem member
  simp only [spell, List.flatMap_append, List.flatMap_cons, List.length_append]
  omega

theorem spell_cancel (fits : ∀ field ∈ first, field.Fits) (fitsToo : ∀ field ∈ second, field.Fits)
    (alike : first.map Field.repaired = second.map Field.repaired)
    (same : spell first = spell second) : first = second := by
  induction first generalizing second with
  | nil => exact (List.map_eq_nil_iff.mp alike.symm).symm
  | cons field first ih =>
    cases second with
    | nil => cases alike
    | cons other second =>
      obtain ⟨here, later⟩ := List.cons.inj alike
      obtain ⟨rfl, tails⟩ := Field.octets_cancel (fits _ List.mem_cons_self)
        (fitsToo _ List.mem_cons_self) here same
      rw [ih (fun each member => fits each (List.mem_cons_of_mem _ member))
        (fun each member => fitsToo each (List.mem_cons_of_mem _ member)) later tails]

-- The octets from the one point to the other spell the fields, give or take their repair.
def Carries (fields : List Field) (octets rest : Octets) : Prop :=
  ∃ sent, sent.map Field.repaired = fields ∧ octets = spell sent ++ rest ∧
    ∀ field ∈ sent, field.Fits

theorem carries_nil (octets : Octets) : Carries [] octets octets := by
  refine ⟨[], rfl, rfl, ?_⟩
  intro field member
  cases member

theorem carries_append (left : Carries first octets between) (right : Carries second between rest) :
    Carries (first ++ second) octets rest := by
  obtain ⟨early, rfl, rfl, fits⟩ := left
  obtain ⟨late, rfl, rfl, fitsToo⟩ := right
  refine ⟨early ++ late, List.map_append, ?_, ?_⟩
  · rw [spell_append, List.append_assoc]
  · intro field member
    rcases List.mem_append.mp member with member | member
    · exact fits field member
    · exact fitsToo field member

theorem carries_one (field : Field) (fits : field.Fits) (split : octets = field.octets ++ rest) :
    Carries [field.repaired] octets rest := by
  refine ⟨[field], rfl, ?_, ?_⟩
  · rw [split, spell, List.flatMap_singleton]
  · rintro _ (_ | ⟨_, ⟨⟩⟩)
    exact fits

-- A reader accounts for the octets it takes when they are the fields of what it returns.
def Accounts {α : Type} (read : Octets → Option (α × Octets)) (fields : α → List Field) : Prop :=
  ∀ {octets value rest}, read octets = some (value, rest) → Carries (fields value) octets rest

def wordFields (n : UInt32) : List Field := [.number (Octets.writeWord n)]

def longFields (n : UInt64) : List Field := [.number (Octets.writeLong n)]

theorem word_accounts : Accounts Octets.readWord wordFields :=
  fun found => carries_one (.number _) trivial (word_canonical found)

theorem long_accounts : Accounts Octets.readLong longFields :=
  fun found => carries_one (.number _) trivial (long_canonical found)

theorem string_accounts : Accounts Octets.readString fun string => [.raw string] := by
  intro octets string rest found
  obtain ⟨split, fits⟩ := string_canonical found
  exact carries_one (.raw string) fits split

section Repeated

variable {α : Type} {read : Octets → Option (α × Octets)} {fields : α → List Field}

theorem times_accounts (each : Accounts read fields) {count : Nat} {values : List α}
    (found : Octets.readTimes read count octets = some (values, rest)) :
    values.length = count ∧ Carries (values.flatMap fields) octets rest := by
  induction count generalizing octets values with
  | zero =>
    cases found
    exact ⟨rfl, carries_nil _⟩
  | succ count ih =>
    simp only [Octets.readTimes, Option.bind_eq_bind, Option.bind_eq_some_iff, Prod.exists] at found
    obtain ⟨value, between, head, values, tail, later, made⟩ := found
    cases made
    obtain ⟨length, carried⟩ := ih later
    refine ⟨by rw [List.length_cons, length], ?_⟩
    rw [List.flatMap_cons]
    exact carries_append (each head) carried

theorem counted_accounts (least : Nat) (each : Accounts read fields) :
    Accounts (Octets.readCounted least read) fun values =>
      .count values.length :: values.flatMap fields := by
  intro octets values rest found
  obtain ⟨count, between, announced, -, entered⟩ := Octets.readCounted_entered found
  obtain ⟨length, carried⟩ := times_accounts each entered
  have small : values.length < wordLimit := by
    rw [length]
    exact count.toNat_lt
  have counted : Carries [.count values.length] octets between := by
    apply carries_one (.count values.length) small
    rw [word_canonical announced, Field.octets, length, UInt32.ofNat_toNat]
  exact carries_append counted carried

theorem when_accounts (each : Accounts read fields) {present : Bool} {value? : Option α}
    (found : Octets.readWhen present read octets = some (value?, rest)) :
    value?.isSome = present ∧ Carries (value?.elim [] fields) octets rest := by
  cases present with
  | false =>
    cases found
    exact ⟨rfl, carries_nil _⟩
  | true =>
    simp only [Octets.readWhen, if_true, Option.map_eq_some_iff, Prod.exists] at found
    obtain ⟨value, tail, head, made⟩ := found
    cases made
    exact ⟨rfl, each head⟩

end Repeated

def textFields (text : String) : List Field := [.text (Text.encode text)]

def pairFields (pair : Text.Pair) : List Field := textFields pair.1 ++ textFields pair.2

theorem text_accounts : Accounts Text.read textFields := by
  intro octets text rest found
  simp only [Text.read, Option.bind_eq_bind, Option.bind_eq_some_iff, Prod.exists] at found
  obtain ⟨string, tail, head, made⟩ := found
  cases made
  obtain ⟨split, fits⟩ := string_canonical head
  exact carries_one (.text string) fits split

theorem pair_accounts : Accounts Text.readPair pairFields := by
  intro octets pair rest found
  simp only [Text.readPair, Option.bind_eq_bind, Option.bind_eq_some_iff, Prod.exists] at found
  obtain ⟨name, between, head, data, tail, later, made⟩ := found
  cases made
  exact carries_append (text_accounts head) (text_accounts later)

theorem writePairs_eq_spell (pairs : List Text.Pair) :
    Text.writePairs pairs = spell (pairs.flatMap pairFields) := by
  have each (pair : Text.Pair) : Text.writePair pair = spell (pairFields pair) := by
    simp [Text.writePair, Text.write, spell, pairFields, textFields, Field.octets]
  rw [Text.writePairs, funext each]
  exact List.flatMap_assoc.symm

theorem pair_fits_of_fields {pair : Text.Pair} (fits : ∀ field ∈ pairFields pair, field.Fits) :
    Text.Pair.Fits pair :=
  ⟨fits (.text _) List.mem_cons_self, fits (.text _) (List.mem_cons_of_mem _ List.mem_cons_self)⟩

namespace Attributes

variable {attributes : Attributes}

def fields (attributes : Attributes) : List Field :=
  .flags knownBits attributes.flags :: (attributes.size.elim [] longFields ++
    attributes.owner.elim [] (fun owner => wordFields owner.user ++ wordFields owner.group) ++
    attributes.permissions.elim [] wordFields ++
    attributes.times.elim [] (fun times => wordFields times.accessed ++ wordFields times.modified) ++
    attributes.extended.elim [] fun pairs => .count pairs.length :: pairs.flatMap pairFields)

theorem owner_accounts :
    Accounts readOwner fun owner => wordFields owner.user ++ wordFields owner.group := by
  intro octets owner rest found
  simp only [readOwner, Option.bind_eq_bind, Option.bind_eq_some_iff, Prod.exists] at found
  obtain ⟨user, between, head, group, tail, later, made⟩ := found
  cases made
  exact carries_append (word_accounts head) (word_accounts later)

theorem times_accounts :
    Accounts readTimes fun times => wordFields times.accessed ++ wordFields times.modified := by
  intro octets times rest found
  simp only [readTimes, Option.bind_eq_bind, Option.bind_eq_some_iff, Prod.exists] at found
  obtain ⟨accessed, between, head, modified, tail, later, made⟩ := found
  cases made
  exact carries_append (word_accounts head) (word_accounts later)

theorem bitWhen_has {word bit : UInt32} (place : Nat) (single : bit.toNat = 2 ^ place) :
    bitWhen (has word bit) bit = word &&& bit := by
  have kept : (word &&& bit).toNat = (word.toNat.testBit place).toNat * 2 ^ place := by
    rw [UInt32.toNat_and, single, Nat.and_two_pow]
  cases set : word.toNat.testBit place with
  | false =>
    have gone : word &&& bit = 0 := by
      rw [← UInt32.toNat_inj, kept, set]
      simp
    simp [has, gone, bitWhen]
  | true =>
    have whole : word &&& bit = bit := by
      rw [← UInt32.toNat_inj, kept, set, single]
      simp
    have present : bit ≠ 0 := by
      rintro rfl
      exact absurd single (Nat.ne_of_lt (Nat.two_pow_pos place))
    simp [has, whole, bitWhen, present]

theorem and_or (word first second : UInt32) :
    word &&& first ||| word &&& second = word &&& (first ||| second) := by
  rw [← UInt32.toNat_inj]
  simp only [UInt32.toNat_or, UInt32.toNat_and, Nat.and_or_distrib_left]

theorem flags_of_word (word : UInt32) :
    bitWhen (has word sizeBit) sizeBit ||| bitWhen (has word ownerBit) ownerBit |||
      bitWhen (has word permissionsBit) permissionsBit ||| bitWhen (has word timesBit) timesBit |||
      bitWhen (has word extendedBit) extendedBit = word &&& knownBits := by
  have size : bitWhen (has word sizeBit) sizeBit = word &&& sizeBit := bitWhen_has 0 rfl
  have owner : bitWhen (has word ownerBit) ownerBit = word &&& ownerBit := bitWhen_has 1 rfl
  have permissions : bitWhen (has word permissionsBit) permissionsBit = word &&& permissionsBit :=
    bitWhen_has 2 rfl
  have times : bitWhen (has word timesBit) timesBit = word &&& timesBit := bitWhen_has 3 rfl
  have extended : bitWhen (has word extendedBit) extendedBit = word &&& extendedBit :=
    bitWhen_has 31 rfl
  rw [size, owner, permissions, times, extended]
  simp only [and_or]
  rfl

theorem accounts : Accounts read fields := by
  intro octets attributes rest found
  simp only [read, Option.bind_eq_bind, Option.bind_eq_some_iff, Prod.exists] at found
  obtain ⟨word, afterWord, flagged, size, afterSize, sized, owner, afterOwner, owned,
    permissions, afterPermissions, permitted, times, afterTimes, timed, extended, tail, listed,
    made⟩ := found
  cases made
  obtain ⟨hasSize, sizeCarried⟩ := when_accounts long_accounts sized
  obtain ⟨hasOwner, ownerCarried⟩ := when_accounts owner_accounts owned
  obtain ⟨hasPermissions, permissionsCarried⟩ := when_accounts word_accounts permitted
  obtain ⟨hasTimes, timesCarried⟩ := when_accounts times_accounts timed
  obtain ⟨hasExtended, extendedCarried⟩ := when_accounts (counted_accounts 8 pair_accounts) listed
  have kept : word &&& knownBits = flags { size, owner, permissions, times, extended } := by
    rw [flags, hasSize, hasOwner, hasPermissions, hasTimes, hasExtended, flags_of_word]
  have front : Carries [.flags knownBits (word &&& knownBits)] octets afterWord :=
    carries_one (.flags knownBits word) trivial (word_canonical flagged)
  rw [fields, ← kept]
  exact carries_append front (carries_append (carries_append (carries_append (carries_append
    sizeCarried ownerCarried) permissionsCarried) timesCarried) extendedCarried)

theorem write_eq_spell (attributes : Attributes) : attributes.write = spell attributes.fields := by
  obtain ⟨size, owner, permissions, times, extended⟩ := attributes
  have listed (pairs : List Text.Pair) : writeExtended pairs =
      spell (.count pairs.length :: pairs.flatMap pairFields) := by
    rw [writeExtended, writePairs_eq_spell]
    rfl
  cases size <;> cases owner <;> cases permissions <;> cases times <;> cases extended <;>
    simp [write, fields, writeSome, writeOwner, writeTimes, spell, wordFields, longFields,
      Field.octets, listed]

theorem fits_of_fields (fits : ∀ field ∈ attributes.fields, field.Fits) : attributes.Fits := by
  intro pairs present
  rw [fields, show attributes.extended = some pairs from present] at fits
  simp only [Option.elim_some, List.mem_cons, List.mem_append] at fits
  refine ⟨fits (.count pairs.length) (by simp), fun pair member => pair_fits_of_fields ?_⟩
  intro field part
  apply fits
  simp only [List.mem_flatMap]
  exact .inr (.inr (.inr ⟨pair, member, part⟩))

end Attributes

namespace Entry

def fields (entry : Entry) : List Field :=
  .raw entry.name :: (textFields entry.description ++ entry.attributes.fields)

theorem accounts : Accounts read fields := by
  intro octets entry rest found
  simp only [read, Option.bind_eq_bind, Option.bind_eq_some_iff, Prod.exists] at found
  obtain ⟨name, afterName, named, description, afterText, described, attributes, tail, attributed,
    made⟩ := found
  cases made
  exact carries_append (string_accounts named)
    (carries_append (text_accounts described) (Attributes.accounts attributed))

theorem write_eq_spell (entry : Entry) : entry.write = spell entry.fields := by
  rw [write, Attributes.write_eq_spell, List.append_assoc]
  simp [fields, spell, textFields, Field.octets, Text.write]

theorem fits_of_fields {entry : Entry} (fits : ∀ field ∈ entry.fields, field.Fits) :
    entry.Fits := by
  simp only [fields, textFields, List.mem_cons, List.cons_append, List.nil_append] at fits
  refine ⟨fits (.raw entry.name) (.inl rfl), fits (.text _) (.inr (.inl rfl)), ?_⟩
  apply Attributes.fits_of_fields
  intro field member
  exact fits field (.inr (.inr member))

end Entry
end SecureShell.Sftp
