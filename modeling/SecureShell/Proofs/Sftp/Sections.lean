import SecureShell.Proofs.Octets.Locality
import SecureShell.Proofs.Sftp.Fields
import SecureShell.Sftp.Framing

namespace SecureShell.Sftp

open Octets (Local word_local long_local string_local wordLimit)

variable {sent plain : List Field} {field : Field} {octets taken rest : Octets}

theorem spell_repaired_eq_iff (fits : ∀ field ∈ sent, field.Fits)
    (short : (spell sent).length ≤ longestFrame) :
    spell (sent.map Field.repaired) = spell sent ↔ ∀ field ∈ sent, field.Clean := by
  rw [← map_repaired_eq_iff]
  refine ⟨fun same => ?_, congrArg spell⟩
  have room : (spell (sent.map Field.repaired)).length < wordLimit := by
    have grown := spell_growth sent
    simp only [longestFrame, wordLimit] at short ⊢
    omega
  refine spell_cancel ?_ fits ?_ same
  · intro field member
    obtain ⟨origin, there, rfl⟩ := List.mem_map.mp member
    exact Field.fits_of_alike (Nat.lt_of_le_of_lt (length_le_spell member) room)
      origin.repaired_repaired (fits origin there)
  · simp only [List.map_map, Function.comp_def, Field.repaired_repaired]

theorem number_of_repaired (same : field.repaired = .number octets) : field = .number octets := by
  cases field <;> cases same
  rfl

theorem count_of_repaired {n : Nat} (same : field.repaired = .count n) : field = .count n := by
  cases field <;> cases same
  rfl

theorem text_of_repaired {text : String} (same : field.repaired = .text (Text.encode text)) :
    ∃ string, field = .text string ∧ Text.decode string = text := by
  cases field with
  | text string =>
    refine ⟨string, rfl, ?_⟩
    have read := congrArg Text.decode (Field.text.inj same)
    rwa [Text.decode_encode, Text.decode_encode] at read
  | number _ | count _ | raw _ | flags _ _ => cases same

theorem flags_of_repaired {known word : UInt32} (same : field.repaired = .flags known word) :
    ∃ first, field = .flags known first ∧ word = first &&& known := by
  cases field with
  | flags bits first =>
    cases same
    exact ⟨first, rfl, rfl⟩
  | number _ | count _ | raw _ | text _ => cases same

theorem numbers_of_repaired (numbers : ∀ field ∈ plain, ∃ octets, field = .number octets)
    (same : sent.map Field.repaired = plain) : sent = plain := by
  subst same
  have kept : ∀ field ∈ sent, field.repaired = id field := by
    intro field member
    obtain ⟨octets, number⟩ := numbers _ (List.mem_map_of_mem member)
    rw [number, number_of_repaired number]
    rfl
  rw [List.map_congr_left kept, List.map_id]

-- The name and the data of a pair as they were sent, be they text or not.
abbrev RawPair := Octets × Octets

def RawPair.fields (pair : RawPair) : List Field := [.text pair.1, .text pair.2]

def RawPair.texts (pair : RawPair) : Text.Pair := (Text.decode pair.1, Text.decode pair.2)

theorem strings_of_repaired {pairs : List Text.Pair}
    (same : sent.map Field.repaired = pairs.flatMap pairFields) :
    ∃ strings : List RawPair, sent = strings.flatMap RawPair.fields ∧
      pairs = strings.map RawPair.texts := by
  induction pairs generalizing sent with
  | nil => exact ⟨[], List.map_eq_nil_iff.mp same, rfl⟩
  | cons pair pairs ih =>
    rw [List.flatMap_cons] at same
    obtain ⟨name, afterName, rfl, named, tail⟩ := List.map_eq_cons_iff.mp same
    obtain ⟨data, later, rfl, worded, others⟩ := List.map_eq_cons_iff.mp tail
    obtain ⟨first, rfl, nameRead⟩ := text_of_repaired named
    obtain ⟨second, rfl, dataRead⟩ := text_of_repaired worded
    obtain ⟨strings, rfl, rfl⟩ := ih others
    refine ⟨(first, second) :: strings, rfl, ?_⟩
    rw [List.map_cons, RawPair.texts, nameRead, dataRead]

theorem strings_clean_iff {strings : List RawPair} :
    (∀ field ∈ strings.flatMap RawPair.fields, field.Clean) ↔
      ∀ pair ∈ strings, Text.Valid pair.1 ∧ Text.Valid pair.2 := by
  constructor
  · intro clean pair member
    have both : ∀ field ∈ pair.fields, field.Clean :=
      fun field part => clean field (List.mem_flatMap_of_mem member part)
    exact ⟨both (.text pair.1) List.mem_cons_self,
      both (.text pair.2) (List.mem_cons_of_mem _ List.mem_cons_self)⟩
  · intro valid field member
    obtain ⟨pair, there, part⟩ := List.mem_flatMap.mp member
    rcases List.mem_cons.mp part with rfl | last
    · exact (valid pair there).1
    · cases List.mem_singleton.mp last
      exact (valid pair there).2

namespace Attributes

variable {attributes : Attributes} {word : UInt32} {strings : List RawPair}

theorem owner_local : Local 8 readOwner :=
  (word_local.then fun _ => word_local.then fun _ => Octets.local_pure _).weaken (Nat.le_refl 8)

theorem times_local : Local 8 readTimes :=
  (word_local.then fun _ => word_local.then fun _ => Octets.local_pure _).weaken (Nat.le_refl 8)

theorem read_local : Local 4 read :=
  word_local.then fun flags =>
    (long_local.when (has flags sizeBit)).then fun size =>
    (owner_local.when (has flags ownerBit)).then fun owner =>
    (word_local.when (has flags permissionsBit)).then fun permissions =>
    (times_local.when (has flags timesBit)).then fun times =>
    (Text.readPair_local.counted.when (has flags extendedBit)).then fun extended =>
    Octets.local_pure (Attributes.mk size owner permissions times extended)

structure Present (attributes : Attributes) (word : UInt32) : Prop where
  size : attributes.size.isSome = has word sizeBit
  owner : attributes.owner.isSome = has word ownerBit
  permissions : attributes.permissions.isSome = has word permissionsBit
  times : attributes.times.isSome = has word timesBit
  extended : attributes.extended.isSome = has word extendedBit

theorem has_known (word : UInt32) {bit : UInt32} (known : knownBits &&& bit = bit) :
    has (word &&& knownBits) bit = has word bit := by
  rw [has, UInt32.and_assoc, known, has]

theorem present_of_flags (flagged : attributes.flags = word &&& knownBits) :
    attributes.Present word := by
  obtain ⟨size, owner, permissions, times, extended⟩ :=
    has_flags attributes.size.isSome attributes.owner.isSome attributes.permissions.isSome
      attributes.times.isSome attributes.extended.isSome
  rw [← flags, flagged, has_known word rfl] at size owner permissions times extended
  exact ⟨size.symm, owner.symm, permissions.symm, times.symm, extended.symm⟩

def numbers (attributes : Attributes) : List Field :=
  attributes.size.elim [] longFields ++
    attributes.owner.elim [] (fun owner => wordFields owner.user ++ wordFields owner.group) ++
    attributes.permissions.elim [] wordFields ++
    attributes.times.elim [] (fun times => wordFields times.accessed ++ wordFields times.modified)

-- A section as it was sent: the word of flags that it opened with, the numbers there are, and the
-- extended pairs.
def sentFields (attributes : Attributes) (word : UInt32) (strings : List RawPair) : List Field :=
  .flags knownBits word :: (attributes.numbers ++
    attributes.extended.elim [] fun pairs => .count pairs.length :: strings.flatMap RawPair.fields)

theorem numbers_are (attributes : Attributes) :
    ∀ field ∈ attributes.numbers, ∃ octets, field = .number octets := by
  obtain ⟨size, owner, permissions, times, extended⟩ := attributes
  cases size <;> cases owner <;> cases permissions <;> cases times <;>
    simp [numbers, longFields, wordFields]

theorem sent_of_fields (alike : sent.map Field.repaired = attributes.fields) :
    ∃ word strings, sent = attributes.sentFields word strings ∧
      attributes.flags = word &&& knownBits ∧
      attributes.extended.getD [] = strings.map RawPair.texts := by
  obtain ⟨first, tail, rfl, opened, later⟩ := List.map_eq_cons_iff.mp alike
  obtain ⟨plain, listed, rfl, numbered, last⟩ := List.map_eq_append_iff.mp later
  obtain ⟨word, rfl, flagged⟩ := flags_of_repaired opened
  cases numbers_of_repaired attributes.numbers_are numbered
  simp only [sentFields]
  cases extended : attributes.extended with
  | none =>
    rw [extended] at last
    cases List.map_eq_nil_iff.mp last
    exact ⟨word, [], rfl, flagged, rfl⟩
  | some pairs =>
    rw [extended] at last
    obtain ⟨count, texts, rfl, counted, others⟩ := List.map_eq_cons_iff.mp last
    obtain ⟨strings, rfl, read⟩ := strings_of_repaired others
    rw [count_of_repaired counted]
    exact ⟨word, strings, rfl, flagged, read⟩

theorem clean_iff (read : attributes.extended.getD [] = strings.map RawPair.texts) :
    (∀ field ∈ attributes.sentFields word strings, field.Clean) ↔
      word &&& knownBits = word ∧ ∀ pair ∈ strings, Text.Valid pair.1 ∧ Text.Valid pair.2 := by
  have numbers : ∀ field ∈ attributes.numbers, field.Clean := by
    intro field member
    obtain ⟨octets, rfl⟩ := attributes.numbers_are field member
    trivial
  rw [sentFields, List.forall_mem_cons, List.forall_mem_append, ← strings_clean_iff]
  refine and_congr_right fun _ => ⟨fun ⟨_, clean⟩ => ?_, fun clean => ⟨numbers, ?_⟩⟩
  · cases extended : attributes.extended with
    | none =>
      rw [extended] at read
      cases List.map_eq_nil_iff.mp read.symm
      nofun
    | some pairs =>
      rw [extended] at clean
      exact fun field member => clean field (List.mem_cons_of_mem _ member)
  · cases attributes.extended with
    | none => nofun
    | some pairs => exact List.forall_mem_cons.mpr ⟨trivial, clean⟩

-- Attributes as they stand in a stream, and the octets that they take there.
structure InStream (attributes : Attributes) (taken : Octets) (word : UInt32)
    (strings : List RawPair) : Prop where
  -- Whatever follows is neither looked at nor taken.
  again : ∀ other, read (taken ++ other) = some (attributes, other)
  spelled : taken = spell (attributes.sentFields word strings)
  texts : attributes.extended.getD [] = strings.map RawPair.texts
  flagged : attributes.flags = word &&& knownBits
  present : attributes.Present word
  canonical : attributes.write = taken ↔
    word &&& knownBits = word ∧ ∀ pair ∈ strings, Text.Valid pair.1 ∧ Text.Valid pair.2

theorem read_inStream (short : octets.length ≤ longestFrame)
    (found : read octets = some (attributes, rest)) :
    ∃ taken word strings, octets = taken ++ rest ∧ InStream attributes taken word strings := by
  obtain ⟨sent, alike, rfl, fits⟩ := accounts found
  obtain ⟨taken, split, -, again⟩ := read_local found
  cases List.append_cancel_right split
  have bound : (spell sent).length ≤ longestFrame := by
    rw [List.length_append] at short
    omega
  have canonical := spell_repaired_eq_iff fits bound
  rw [alike, ← write_eq_spell] at canonical
  obtain ⟨word, strings, rfl, flagged, texts⟩ := sent_of_fields alike
  refine ⟨_, word, strings, rfl, again, rfl, texts, flagged, present_of_flags flagged, ?_⟩
  rw [canonical, clean_iff texts]

-- Attributes take octets of their own from the middle of a stream as from its end.
theorem attributes_read_amid :
    (∀ octets attributes rest, octets.length ≤ longestFrame →
      read octets = some (attributes, rest) →
        ∃ taken word strings, octets = taken ++ rest ∧
          (∃ body, Octets.readWord octets = some (word, body)) ∧
          InStream attributes taken word strings) ∧
    ∀ attributes, attributes.Fits → ∀ other,
      read (attributes.write ++ other) = some (attributes, other) := by
  refine ⟨fun octets attributes rest short found => ?_, fun attributes => roundtrip⟩
  obtain ⟨taken, word, strings, rfl, standing⟩ := read_inStream short found
  have opened : ∃ body, Octets.readWord (taken ++ rest) = some (word, body) := by
    rw [standing.spelled, sentFields, spell, List.flatMap_cons, List.append_assoc]
    exact ⟨_, Octets.word_roundtrip word _⟩
  exact ⟨taken, word, strings, rfl, opened, standing⟩

-- A size and one pair whose data are no text, under a word with a bit that nobody knows.
def vendored : Octets :=
  [0x80, 0, 0, 0x11, 0, 0, 0, 0, 0, 0, 0, 5, 0, 0, 0, 1, 0, 0, 0, 1, 0x76, 0, 0, 0, 1, 0xFF]

def vendorAttributes : Attributes := { size := some 5, extended := some [("v", "\uFFFD")] }

theorem attributes_read_amid_vendored :
    (vendored ++ [9, 9]).length ≤ longestFrame ∧
      read (vendored ++ [9, 9]) = some (vendorAttributes, [9, 9]) ∧
      read (vendored ++ [1]) = some (vendorAttributes, [1]) ∧ vendorAttributes.write ≠ vendored ∧
      vendorAttributes.Fits ∧
      read (vendorAttributes.write ++ [9]) = some (vendorAttributes, [9]) := by
  have short : (vendored ++ [9, 9]).length ≤ longestFrame := by decide
  have found : read (vendored ++ [9, 9]) = some (vendorAttributes, [9, 9]) := by decide +kernel
  have fits : vendorAttributes.Fits := by
    simp [vendorAttributes, Fits, Text.Pair.Fits, Text.Fits, Octets.Fits]
    decide
  obtain ⟨reading, writing⟩ := attributes_read_amid
  obtain ⟨taken, word, strings, split, ⟨body, opened⟩, standing⟩ := reading _ _ _ short found
  cases List.append_cancel_right split
  have flagged : word = 0x80000011 := by
    have first : Octets.readWord (vendored ++ [9, 9]) = some (0x80000011, _) := rfl
    cases opened.symm.trans first
    rfl
  refine ⟨short, found, standing.again [1], fun same => ?_, fits, writing _ fits [9]⟩
  have known := (standing.canonical.mp same).1
  rw [flagged] at known
  exact absurd known (by decide)

end Attributes
end SecureShell.Sftp
