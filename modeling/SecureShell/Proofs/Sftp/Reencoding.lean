import SecureShell.Proofs.Sftp.Fields
import SecureShell.Sftp.Framing

namespace SecureShell.Sftp

open Octets (word_canonical wordLimit)

namespace OpenMode

open Attributes (bitWhen has bitWhen_has and_or)

def knownBits : UInt32 := 0x3F

theorem toWord_ofWord (word : UInt32) : (ofWord word).toWord = word &&& knownBits := by
  have read : bitWhen (has word 0x01) 0x01 = word &&& 0x01 := bitWhen_has 0 rfl
  have write : bitWhen (has word 0x02) 0x02 = word &&& 0x02 := bitWhen_has 1 rfl
  have append : bitWhen (has word 0x04) 0x04 = word &&& 0x04 := bitWhen_has 2 rfl
  have create : bitWhen (has word 0x08) 0x08 = word &&& 0x08 := bitWhen_has 3 rfl
  have truncate : bitWhen (has word 0x10) 0x10 = word &&& 0x10 := bitWhen_has 4 rfl
  have exclusive : bitWhen (has word 0x20) 0x20 = word &&& 0x20 := bitWhen_has 5 rfl
  simp only [toWord, ofWord, read, write, append, create, truncate, exclusive, and_or]
  rfl

end OpenMode

theorem chosen {α : Type} {code key : UInt8} {value found : α} {later : Option α}
    (taken : (if code = key then some value else later) = some found) :
    code = key ∧ found = value ∨ later = some found := by
  split at taken
  · rename_i same
    cases taken
    exact .inl ⟨same, rfl⟩
  · exact .inr taken

namespace Request

def fields : Request → List Field
  | .openFile path mode attributes =>
    .raw path :: .flags OpenMode.knownBits mode.toWord :: attributes.fields
  | .close handle | .fstat handle | .readdir handle => [.raw handle]
  | .read handle offset length => .raw handle :: (longFields offset ++ wordFields length)
  | .write handle offset data => .raw handle :: (longFields offset ++ [.raw data])
  | .lstat path | .opendir path | .remove path | .rmdir path | .realpath path | .stat path
  | .readlink path => [.raw path]
  | .setstat string attributes | .fsetstat string attributes | .mkdir string attributes =>
    .raw string :: attributes.fields
  | .rename first second | .symlink first second => [.raw first, .raw second]

variable {asked : Request} {code : UInt8} {octets rest : Octets}
  {layout : Octets → Option (Request × Octets)}

-- A layout reads the requests of one code, and accounts for what it takes.
def Belongs (layout : Octets → Option (Request × Octets)) (code : UInt8) : Prop :=
  ∀ {octets asked rest}, layout octets = some (asked, rest) →
    asked.code = code ∧ Carries asked.fields octets rest

theorem one_belongs (make : Octets → Request) (code : UInt8)
    (plain : ∀ string, (make string).fields = [.raw string] ∧ (make string).code = code) :
    Belongs (readOne make) code := by
  intro octets asked rest found
  simp only [readOne, Option.bind_eq_bind, Option.bind_eq_some_iff, Prod.exists] at found
  obtain ⟨string, tail, head, made⟩ := found
  cases made
  obtain ⟨same, coded⟩ := plain string
  rw [same]
  exact ⟨coded, string_accounts head⟩

theorem two_belongs (make : Octets → Octets → Request) (code : UInt8)
    (plain : ∀ first second, (make first second).fields = [.raw first, .raw second] ∧
      (make first second).code = code) : Belongs (readTwo make) code := by
  intro octets asked rest found
  simp only [readTwo, Option.bind_eq_bind, Option.bind_eq_some_iff, Prod.exists] at found
  obtain ⟨first, between, head, second, tail, later, made⟩ := found
  cases made
  obtain ⟨same, coded⟩ := plain first second
  rw [same]
  exact ⟨coded, carries_append (string_accounts head) (string_accounts later)⟩

theorem attributed_belongs (make : Octets → Attributes → Request) (code : UInt8)
    (plain : ∀ string attributes, (make string attributes).fields = .raw string :: attributes.fields ∧
      (make string attributes).code = code) : Belongs (readAttributed make) code := by
  intro octets asked rest found
  simp only [readAttributed, Option.bind_eq_bind, Option.bind_eq_some_iff, Prod.exists] at found
  obtain ⟨string, between, head, attributes, tail, later, made⟩ := found
  cases made
  obtain ⟨same, coded⟩ := plain string attributes
  rw [same]
  exact ⟨coded, carries_append (string_accounts head) (Attributes.accounts later)⟩

theorem openFile_belongs : Belongs readOpenFile 3 := by
  intro octets asked rest found
  simp only [readOpenFile, Option.bind_eq_bind, Option.bind_eq_some_iff, Prod.exists] at found
  obtain ⟨path, afterPath, head, word, afterWord, flagged, attributes, tail, attributed, made⟩ := found
  cases made
  refine ⟨rfl, ?_⟩
  have moded : Carries [.flags OpenMode.knownBits (word &&& OpenMode.knownBits)] afterPath afterWord :=
    carries_one (.flags OpenMode.knownBits word) trivial (word_canonical flagged)
  rw [fields, OpenMode.toWord_ofWord]
  exact carries_append (string_accounts head) (carries_append moded (Attributes.accounts attributed))

theorem read_belongs : Belongs readRead 5 := by
  intro octets asked rest found
  simp only [readRead, Option.bind_eq_bind, Option.bind_eq_some_iff, Prod.exists] at found
  obtain ⟨handle, afterHandle, head, offset, afterOffset, placed, length, tail, measured, made⟩ := found
  cases made
  refine ⟨rfl, ?_⟩
  exact carries_append (string_accounts head)
    (carries_append (long_accounts placed) (word_accounts measured))

theorem write_belongs : Belongs readWrite 6 := by
  intro octets asked rest found
  simp only [readWrite, Option.bind_eq_bind, Option.bind_eq_some_iff, Prod.exists] at found
  obtain ⟨handle, afterHandle, head, offset, afterOffset, placed, data, tail, later, made⟩ := found
  cases made
  refine ⟨rfl, ?_⟩
  exact carries_append (string_accounts head)
    (carries_append (long_accounts placed) (string_accounts later))

theorem layout_belongs (found : layout? code = some layout) : Belongs layout code := by
  unfold layout? at found
  rcases chosen found with ⟨rfl, rfl⟩ | found
  · exact openFile_belongs
  rcases chosen found with ⟨rfl, rfl⟩ | found
  · exact one_belongs .close 4 fun _ => ⟨rfl, rfl⟩
  rcases chosen found with ⟨rfl, rfl⟩ | found
  · exact read_belongs
  rcases chosen found with ⟨rfl, rfl⟩ | found
  · exact write_belongs
  rcases chosen found with ⟨rfl, rfl⟩ | found
  · exact one_belongs .lstat 7 fun _ => ⟨rfl, rfl⟩
  rcases chosen found with ⟨rfl, rfl⟩ | found
  · exact one_belongs .fstat 8 fun _ => ⟨rfl, rfl⟩
  rcases chosen found with ⟨rfl, rfl⟩ | found
  · exact attributed_belongs .setstat 9 fun _ _ => ⟨rfl, rfl⟩
  rcases chosen found with ⟨rfl, rfl⟩ | found
  · exact attributed_belongs .fsetstat 10 fun _ _ => ⟨rfl, rfl⟩
  rcases chosen found with ⟨rfl, rfl⟩ | found
  · exact one_belongs .opendir 11 fun _ => ⟨rfl, rfl⟩
  rcases chosen found with ⟨rfl, rfl⟩ | found
  · exact one_belongs .readdir 12 fun _ => ⟨rfl, rfl⟩
  rcases chosen found with ⟨rfl, rfl⟩ | found
  · exact one_belongs .remove 13 fun _ => ⟨rfl, rfl⟩
  rcases chosen found with ⟨rfl, rfl⟩ | found
  · exact attributed_belongs .mkdir 14 fun _ _ => ⟨rfl, rfl⟩
  rcases chosen found with ⟨rfl, rfl⟩ | found
  · exact one_belongs .rmdir 15 fun _ => ⟨rfl, rfl⟩
  rcases chosen found with ⟨rfl, rfl⟩ | found
  · exact one_belongs .realpath 16 fun _ => ⟨rfl, rfl⟩
  rcases chosen found with ⟨rfl, rfl⟩ | found
  · exact one_belongs .stat 17 fun _ => ⟨rfl, rfl⟩
  rcases chosen found with ⟨rfl, rfl⟩ | found
  · exact two_belongs .rename 18 fun _ _ => ⟨rfl, rfl⟩
  rcases chosen found with ⟨rfl, rfl⟩ | found
  · exact one_belongs .readlink 19 fun _ => ⟨rfl, rfl⟩
  rcases chosen found with ⟨rfl, rfl⟩ | found
  · exact two_belongs .symlink 20 fun _ _ => ⟨rfl, rfl⟩
  cases found

theorem writeBody_eq_spell (asked : Request) : asked.writeBody = spell asked.fields := by
  cases asked
  all_goals simp [writeBody, fields, Attributes.write_eq_spell, spell, longFields, wordFields, Field.octets]

theorem fits_of_fields (fits : ∀ field ∈ asked.fields, field.Fits) : asked.Fits := by
  cases asked with
  | openFile path mode attributes =>
    refine ⟨fits (.raw path) (by simp [fields]), Attributes.fits_of_fields fun field member => ?_⟩
    exact fits field (List.mem_cons_of_mem _ (List.mem_cons_of_mem _ member))
  | setstat string attributes | fsetstat string attributes | mkdir string attributes =>
    refine ⟨fits (.raw string) (by simp [fields]), Attributes.fits_of_fields fun field member => ?_⟩
    exact fits field (List.mem_cons_of_mem _ member)
  | write handle offset data =>
    exact ⟨fits (.raw handle) (by simp [fields]), fits (.raw data) (by simp [fields])⟩
  | rename first second | symlink first second =>
    exact ⟨fits (.raw first) (by simp [fields]), fits (.raw second) (by simp [fields])⟩
  | _ => exact fits (.raw _) (by simp [fields])

end Request

namespace Response

def fields : Response → List Field
  | .status report =>
    wordFields report.code.toWord ++ textFields report.text ++ textFields report.language
  | .handle string | .data string => [.raw string]
  | .names entries => .count entries.length :: entries.flatMap Entry.fields
  | .attributes found => found.fields

variable {given : Response} {code : UInt8} {octets rest : Octets}
  {layout : Octets → Option (Response × Octets)}

def Belongs (layout : Octets → Option (Response × Octets)) (code : UInt8) : Prop :=
  ∀ {octets given rest}, layout octets = some (given, rest) →
    (given.code = code ∧ given.normal = given) ∧ Carries given.fields octets rest

theorem status_belongs : Belongs readStatus 101 := by
  intro octets given rest found
  simp only [readStatus, Option.bind_eq_bind, Option.bind_eq_some_iff, Prod.exists] at found
  obtain ⟨number, afterNumber, head, text, afterText, worded, language, tail, later, made⟩ := found
  cases made
  refine ⟨⟨rfl, ?_⟩, ?_⟩
  · simp only [normal, StatusCode.toWord_ofWord]
  · rw [fields, StatusCode.toWord_ofWord]
    exact carries_append (carries_append (word_accounts head) (text_accounts worded))
      (text_accounts later)

theorem one_belongs (make : Octets → Response) (code : UInt8)
    (plain : ∀ string, (make string).fields = [.raw string] ∧ (make string).code = code ∧
      (make string).normal = make string) : Belongs (readOne make) code := by
  intro octets given rest found
  simp only [readOne, Option.bind_eq_bind, Option.bind_eq_some_iff, Prod.exists] at found
  obtain ⟨string, tail, head, made⟩ := found
  cases made
  obtain ⟨same, kept⟩ := plain string
  rw [same]
  exact ⟨kept, string_accounts head⟩

theorem names_belongs : Belongs readNames 104 := by
  intro octets given rest found
  simp only [readNames, Option.bind_eq_bind, Option.bind_eq_some_iff, Prod.exists] at found
  obtain ⟨entries, tail, listed, made⟩ := found
  cases made
  exact ⟨⟨rfl, rfl⟩, counted_accounts 12 Entry.accounts listed⟩

theorem attributes_belongs : Belongs readAttributes 105 := by
  intro octets given rest found
  simp only [readAttributes, Option.bind_eq_bind, Option.bind_eq_some_iff, Prod.exists] at found
  obtain ⟨attributes, tail, head, made⟩ := found
  cases made
  exact ⟨⟨rfl, rfl⟩, Attributes.accounts head⟩

theorem layout_belongs (found : layout? code = some layout) : Belongs layout code := by
  unfold layout? at found
  rcases chosen found with ⟨rfl, rfl⟩ | found
  · exact status_belongs
  rcases chosen found with ⟨rfl, rfl⟩ | found
  · exact one_belongs .handle 102 fun _ => ⟨rfl, rfl, rfl⟩
  rcases chosen found with ⟨rfl, rfl⟩ | found
  · exact one_belongs .data 103 fun _ => ⟨rfl, rfl, rfl⟩
  rcases chosen found with ⟨rfl, rfl⟩ | found
  · exact names_belongs
  rcases chosen found with ⟨rfl, rfl⟩ | found
  · exact attributes_belongs
  cases found

theorem writeBody_eq_spell (given : Response) : given.writeBody = spell given.fields := by
  cases given with
  | names entries =>
    rw [writeBody, writeEntries, funext Entry.write_eq_spell]
    simp [fields, spell, Field.octets, List.flatMap_assoc]
  | _ =>
    simp [writeBody, fields, Attributes.write_eq_spell, spell, wordFields, textFields,
      Field.octets, Text.write]

theorem fits_of_fields (fits : ∀ field ∈ given.fields, field.Fits) : given.Fits := by
  cases given with
  | status report =>
    exact ⟨fits (.text _) (by simp [fields, textFields]), fits (.text _) (by simp [fields, textFields])⟩
  | handle string | data string => exact fits (.raw string) (by simp [fields])
  | names entries =>
    refine ⟨fits (.count entries.length) (by simp [fields]), fun entry member => ?_⟩
    apply Entry.fits_of_fields
    intro field part
    exact fits field (List.mem_cons_of_mem _ (List.mem_flatMap_of_mem member part))
  | attributes found => exact Attributes.fits_of_fields fits

end Response

namespace Message

def greetingFields (code : UInt8) (number : UInt32) (pairs : List Text.Pair) : List Field :=
  .number [code] :: (wordFields number ++ pairs.flatMap pairFields)

def identifiedFields (code : UInt8) (id : UInt32) (body : List Field) : List Field :=
  .number [code] :: (wordFields id ++ body)

def fields : Message → List Field
  | .init number pairs => greetingFields 1 number pairs
  | .version number pairs => greetingFields 2 number pairs
  | .request id asked => identifiedFields asked.code id asked.fields
  | .response id given => identifiedFields given.code id given.fields

variable {message : Message} {packet octets : Octets}

theorem code_carries (code : UInt8) (rest : Octets) : Carries [.number [code]] (code :: rest) rest :=
  carries_one (.number [code]) trivial rfl

theorem pairs_account {rounds : Nat} {pairs : List Text.Pair}
    (found : readPairs rounds octets = some pairs) : Carries (pairs.flatMap pairFields) octets [] := by
  induction rounds generalizing octets pairs with
  | zero =>
    cases octets with
    | nil =>
      cases found
      exact carries_nil []
    | cons octet octets => cases found
  | succ rounds ih =>
    cases octets with
    | nil =>
      cases found
      exact carries_nil []
    | cons octet octets =>
      have nonempty : 0 < (octet :: octets).length := Nat.succ_pos _
      rw [readPairs_succ rounds nonempty] at found
      simp only [Option.bind_eq_some_iff, Option.map_eq_some_iff] at found
      obtain ⟨⟨pair, rest⟩, head, others, later, rfl⟩ := found
      rw [List.flatMap_cons]
      exact carries_append (pair_accounts head) (ih later)

theorem greeting_carries {make : UInt32 → List Text.Pair → Message} (code : UInt8)
    (found : greeting make octets = .ok message) :
    ∃ number pairs, message = make number pairs ∧
      Carries (greetingFields code number pairs) (code :: octets) [] := by
  unfold greeting at found
  split at found
  · rename_i number pairs greeted
    cases found
    simp only [readGreeting, Option.bind_eq_bind, Option.bind_eq_some_iff, Prod.exists] at greeted
    obtain ⟨_, between, head, _, later, made⟩ := greeted
    cases made
    exact ⟨number, pairs, rfl, carries_append (code_carries code octets)
      (carries_append (word_accounts head) (pairs_account later))⟩
  · cases found

theorem whole_ok {read : Option (Message × Octets)} (found : whole read = .ok message) :
    read = some (message, []) := by
  unfold whole at found
  split at found
  · cases found
  · cases found
    rfl
  · cases found

theorem body_carries {code : UInt8} {id : UInt32} (found : readBody code id octets = .ok message) :
    ∃ body, message.fields = identifiedFields code id body ∧ message.normal = message ∧
      Carries body octets [] := by
  unfold readBody at found
  split at found
  · rename_i layout chosen
    obtain ⟨⟨asked, rest⟩, read, made⟩ := Option.map_eq_some_iff.mp (whole_ok found)
    cases made
    obtain ⟨coded, carried⟩ := Request.layout_belongs chosen read
    refine ⟨asked.fields, ?_, rfl, carried⟩
    rw [fields, coded]
  · split at found
    · rename_i layout chosen
      obtain ⟨⟨given, rest⟩, read, made⟩ := Option.map_eq_some_iff.mp (whole_ok found)
      cases made
      obtain ⟨⟨coded, kept⟩, carried⟩ := Response.layout_belongs chosen read
      refine ⟨given.fields, ?_, congrArg (response id) kept, carried⟩
      rw [fields, coded]
    · cases found

theorem read_carries (found : read packet = .ok message) :
    message.normal = message ∧ Carries message.fields packet [] := by
  cases packet with
  | nil => cases found
  | cons code rest =>
    rw [read] at found
    split at found
    · subst code
      obtain ⟨number, pairs, rfl, carried⟩ := greeting_carries 1 found
      exact ⟨rfl, carried⟩
    split at found
    · subst code
      obtain ⟨number, pairs, rfl, carried⟩ := greeting_carries 2 found
      exact ⟨rfl, carried⟩
    split at found
    · cases found
    · rename_i id body identified
      obtain ⟨parts, same, kept, carried⟩ := body_carries found
      rw [same]
      exact ⟨kept, carries_append (code_carries code rest)
        (carries_append (word_accounts identified) carried)⟩

theorem write_eq_spell (message : Message) : message.write = spell message.fields := by
  cases message with
  | init number pairs | version number pairs =>
    rw [write, writeGreeting, writePairs_eq_spell]
    rfl
  | request id asked =>
    rw [write, Request.writeBody_eq_spell]
    rfl
  | response id given =>
    rw [write, Response.writeBody_eq_spell]
    rfl

theorem fits_of_fields (fits : ∀ field ∈ message.fields, field.Fits) : message.Fits := by
  cases message with
  | init number pairs | version number pairs =>
    intro pair member
    apply pair_fits_of_fields
    intro field part
    apply fits
    exact List.mem_cons_of_mem _ (List.mem_cons_of_mem _ (List.mem_flatMap_of_mem member part))
  | request id asked =>
    apply Request.fits_of_fields
    intro field part
    exact fits field (List.mem_cons_of_mem _ (List.mem_cons_of_mem _ part))
  | response id given =>
    apply Response.fits_of_fields
    intro field part
    exact fits field (List.mem_cons_of_mem _ (List.mem_cons_of_mem _ part))

-- What a packet was sent as: fields that spell it and read as those of the message.
def SentAs (sent : List Field) (packet : Octets) (message : Message) : Prop :=
  spell sent = packet ∧ sent.map Field.repaired = message.fields

theorem sentAs_fits {sent : List Field} (short : packet.length < wordLimit)
    (fits : ∀ field ∈ message.fields, field.Fits) (spelled : SentAs sent packet message) :
    ∀ field ∈ sent, field.Fits := by
  obtain ⟨rfl, alike⟩ := spelled
  intro field member
  have read : field.repaired ∈ message.fields := by
    rw [← alike]
    exact List.mem_map_of_mem member
  have long := length_le_spell member
  exact Field.fits_of_alike (Nat.lt_of_le_of_lt long short) field.repaired_repaired.symm
    (fits field.repaired read)

theorem sentAs_unique {first second : List Field} (short : packet.length < wordLimit)
    (fits : ∀ field ∈ message.fields, field.Fits) (one : SentAs first packet message)
    (other : SentAs second packet message) : first = second := by
  apply spell_cancel (sentAs_fits short fits one) (sentAs_fits short fits other)
  · rw [one.2, other.2]
  · rw [one.1, other.1]

-- A packet is made of fields in one way only, and writing its message repairs each of them.
theorem reencoding (found : read packet = .ok message)
    (short : packet.length ≤ longestFrame) :
    read message.write = .ok message ∧
      ∃ sent, (∀ fields, SentAs fields packet message ↔ fields = sent) ∧
        (∀ fields, SentAs fields message.write message ↔ fields = sent.map Field.repaired) ∧
        (message.write = packet ↔ ∀ field ∈ sent, field.Clean) ∧
        (sent.map Field.repaired).filterMap Field.raw? = sent.filterMap Field.raw? := by
  obtain ⟨kept, sent, alike, rfl, fits⟩ := read_carries found
  rw [List.append_nil] at short found ⊢
  have stable : message.fields.map Field.repaired = message.fields := by
    rw [← alike]
    simp only [List.map_map, Function.comp_def, Field.repaired_repaired]
  have written : message.write.length ≤ 3 * (spell sent).length := by
    rw [write_eq_spell, ← alike]
    exact spell_growth sent
  have room : message.write.length < wordLimit := by
    simp only [longestFrame, wordLimit] at short ⊢
    omega
  have fitsToo : ∀ field ∈ message.fields, field.Fits := by
    intro field member
    have long := length_le_spell member
    rw [← write_eq_spell] at long
    rw [← alike, List.mem_map] at member
    obtain ⟨origin, sentThere, rfl⟩ := member
    exact Field.fits_of_alike (Nat.lt_of_le_of_lt long room) origin.repaired_repaired
      (fits origin sentThere)
  have sentHere : SentAs sent (spell sent) message := ⟨rfl, alike⟩
  have sentAgain : SentAs message.fields message.write message := ⟨message.write_eq_spell.symm, stable⟩
  have bound : (spell sent).length < wordLimit := Nat.lt_of_le_of_lt short (by decide)
  refine ⟨?_, sent, ?_, ?_, ?_, ?_⟩
  · rw [read_write (fits_of_fields fitsToo), kept]
  · intro fields
    constructor
    · intro spelled
      exact sentAs_unique bound fitsToo spelled sentHere
    · rintro rfl
      exact sentHere
  · intro fields
    rw [alike]
    constructor
    · intro spelled
      exact sentAs_unique room fitsToo spelled sentAgain
    · rintro rfl
      exact sentAgain
  · rw [← map_repaired_eq_iff, alike]
    constructor
    · intro same
      rw [same] at sentAgain
      exact sentAs_unique bound fitsToo sentAgain sentHere
    · intro same
      rw [write_eq_spell, same]
  · rw [List.filterMap_map]
    exact congrFun (congrArg List.filterMap (funext Field.raw_repaired)) sent

-- A listing whose one name is no text, called by a text that is none, with a flag nobody knows.
def torn : Octets :=
  [104, 0, 0, 0, 7, 0, 0, 0, 1, 0, 0, 0, 1, 0xFF, 0, 0, 0, 1, 0xFF, 0, 0, 0, 0x10]

def mended : Message := .response 7 (.names [⟨[0xFF], "\uFFFD", {}⟩])

theorem reencoding_torn :
    read torn = .ok mended ∧ torn.length ≤ longestFrame ∧ read mended.write = .ok mended ∧
      mended.write = [104, 0, 0, 0, 7, 0, 0, 0, 1, 0, 0, 0, 1, 0xFF, 0, 0, 0, 3, 0xEF, 0xBF, 0xBD,
        0, 0, 0, 0] := by
  have found : read torn = .ok mended := by decide +kernel
  have short : torn.length ≤ longestFrame := by decide
  exact ⟨found, short, (reencoding found short).1, by decide⟩

end Message
end SecureShell.Sftp
