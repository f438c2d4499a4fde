import SecureShell.Proofs.Octets.Text
import SecureShell.Sftp.Codec

namespace SecureShell.Sftp

open Octets (word_roundtrip long_roundtrip string_roundtrip counted_roundtrip wordLimit)

namespace Attributes

def Fits (attributes : Attributes) : Prop :=
  ∀ pairs ∈ attributes.extended, pairs.length < wordLimit ∧ ∀ pair ∈ pairs, Text.Pair.Fits pair

variable {attributes : Attributes}

theorem has_flags (size owner permissions times extended : Bool) :
    let flags := bitWhen size sizeBit ||| bitWhen owner ownerBit |||
      bitWhen permissions permissionsBit ||| bitWhen times timesBit ||| bitWhen extended extendedBit
    has flags sizeBit = size ∧ has flags ownerBit = owner ∧
      has flags permissionsBit = permissions ∧ has flags timesBit = times ∧
      has flags extendedBit = extended := by
  revert size owner permissions times extended
  decide

theorem optional_roundtrip {read : Octets → Option (α × Octets)} {write : α → Octets}
    {value? : Option α}
    (each : ∀ value ∈ value?, ∀ suffix, read (write value ++ suffix) = some (value, suffix))
    (suffix : Octets) :
    Octets.readWhen value?.isSome read (writeSome write value? ++ suffix) = some (value?, suffix) := by
  cases value? with
  | none => rfl
  | some value => simp [Octets.readWhen, writeSome, each]

theorem owner_roundtrip (owner : Owner) (suffix : Octets) :
    readOwner (writeOwner owner ++ suffix) = some (owner, suffix) := by
  simp [readOwner, writeOwner, word_roundtrip]

theorem times_roundtrip (times : Times) (suffix : Octets) :
    readTimes (writeTimes times ++ suffix) = some (times, suffix) := by
  simp [readTimes, writeTimes, word_roundtrip]

theorem extended_roundtrip {pairs : List Text.Pair} (fits : pairs.length < wordLimit)
    (each : ∀ pair ∈ pairs, Text.Pair.Fits pair) (suffix : Octets) :
    readExtended (writeExtended pairs ++ suffix) = some (pairs, suffix) :=
  counted_roundtrip 8 fits (fun pair _ => Text.Pair.least_le_length pair)
    (fun pair member => Text.Pair.roundtrip (each pair member)) suffix

theorem roundtrip (fits : attributes.Fits) (suffix : Octets) :
    read (attributes.write ++ suffix) = some (attributes, suffix) := by
  obtain ⟨hasSize, hasOwner, hasPermissions, hasTimes, hasExtended⟩ :=
    has_flags attributes.size.isSome attributes.owner.isSome attributes.permissions.isSome
      attributes.times.isSome attributes.extended.isSome
  simp only [read, write, flags, List.append_assoc, word_roundtrip, Option.bind_eq_bind,
    Option.bind_some, hasSize, hasOwner, hasPermissions, hasTimes, hasExtended]
  rw [optional_roundtrip fun size _ => long_roundtrip size]
  simp only [Option.bind_some]
  rw [optional_roundtrip fun owner _ => owner_roundtrip owner]
  simp only [Option.bind_some]
  rw [optional_roundtrip fun permissions _ => word_roundtrip permissions]
  simp only [Option.bind_some]
  rw [optional_roundtrip fun times _ => times_roundtrip times]
  simp only [Option.bind_some]
  rw [optional_roundtrip fun pairs present =>
    extended_roundtrip (fits pairs present).1 (fits pairs present).2]
  rfl

theorem least_le_length (attributes : Attributes) : 4 ≤ attributes.write.length := by
  simp only [write, List.append_assoc, List.length_append, Octets.length_writeWord]
  exact Nat.le_add_right 4 _

end Attributes

namespace Entry

variable {entry : Entry}

def Fits (entry : Entry) : Prop :=
  entry.name.Fits ∧ Text.Fits entry.description ∧ entry.attributes.Fits

theorem roundtrip (fits : entry.Fits) (suffix : Octets) :
    read (entry.write ++ suffix) = some (entry, suffix) := by
  obtain ⟨name, description, attributes⟩ := fits
  simp [read, write, string_roundtrip name, Text.roundtrip description,
    Attributes.roundtrip attributes]

theorem least_le_length (entry : Entry) : 12 ≤ entry.write.length := by
  have name := Octets.least_le_length_string entry.name
  have description := Octets.least_le_length_string (Text.encode entry.description)
  have attributes := Attributes.least_le_length entry.attributes
  rw [write, List.length_append, List.length_append, Text.write]
  omega

end Entry

theorem OpenMode.ofWord_toWord (mode : OpenMode) : OpenMode.ofWord mode.toWord = mode := by
  obtain ⟨read, write, append, create, truncate, exclusive⟩ := mode
  revert read write append create truncate exclusive
  decide

namespace Request

def Fits : Request → Prop
  | .openFile path _ attributes => path.Fits ∧ attributes.Fits
  | .close handle | .read handle _ _ | .fstat handle | .readdir handle => handle.Fits
  | .write handle _ data => handle.Fits ∧ data.Fits
  | .lstat path | .opendir path | .remove path | .rmdir path | .realpath path | .stat path
  | .readlink path => path.Fits
  | .setstat string attributes | .fsetstat string attributes | .mkdir string attributes =>
    string.Fits ∧ attributes.Fits
  | .rename first second | .symlink first second => first.Fits ∧ second.Fits

variable {asked : Request} {string first second : Octets} {attributes : Attributes}

theorem one_roundtrip (make : Octets → Request) (fits : string.Fits) (suffix : Octets) :
    readOne make (Octets.writeString string ++ suffix) = some (make string, suffix) := by
  simp [readOne, string_roundtrip fits]

theorem two_roundtrip (make : Octets → Octets → Request) (fits : first.Fits ∧ second.Fits)
    (suffix : Octets) :
    readTwo make (Octets.writeString first ++ Octets.writeString second ++ suffix) =
      some (make first second, suffix) := by
  simp [readTwo, string_roundtrip fits.1, string_roundtrip fits.2]

theorem attributed_roundtrip (make : Octets → Attributes → Request)
    (fits : string.Fits ∧ attributes.Fits) (suffix : Octets) :
    readAttributed make (Octets.writeString string ++ attributes.write ++ suffix) =
      some (make string attributes, suffix) := by
  simp [readAttributed, string_roundtrip fits.1, Attributes.roundtrip fits.2]

theorem layout_roundtrip (fits : asked.Fits) (suffix : Octets) :
    ∃ layout, layout? asked.code = some layout ∧
      layout (asked.writeBody ++ suffix) = some (asked, suffix) := by
  cases asked with
  | openFile path mode attributes =>
    refine ⟨readOpenFile, rfl, ?_⟩
    simp [readOpenFile, writeBody, string_roundtrip fits.1, word_roundtrip,
      Attributes.roundtrip fits.2, OpenMode.ofWord_toWord]
  | read handle offset length =>
    refine ⟨readRead, rfl, ?_⟩
    have kept : handle.Fits := fits
    simp [readRead, writeBody, string_roundtrip kept, long_roundtrip, word_roundtrip]
  | write handle offset data =>
    refine ⟨readWrite, rfl, ?_⟩
    simp [readWrite, writeBody, string_roundtrip fits.1, long_roundtrip, string_roundtrip fits.2]
  | close | fstat | readdir | lstat | opendir | remove | rmdir | realpath | stat | readlink =>
    exact ⟨readOne _, rfl, one_roundtrip _ fits suffix⟩
  | setstat | fsetstat | mkdir =>
    exact ⟨readAttributed _, rfl, attributed_roundtrip _ fits suffix⟩
  | rename | symlink => exact ⟨readTwo _, rfl, two_roundtrip _ fits suffix⟩

end Request

-- A code comes back as the one its number names, which is another where a number that
-- has a name was written as `other`.
theorem StatusCode.ofWord_toWord_iff (code : StatusCode) :
    StatusCode.ofWord code.toWord = code ↔ ¬ ∃ number, code = .other number ∧ number ≤ 8 := by
  cases code with
  | other number =>
    simp only [toWord, StatusCode.other.injEq, exists_eq_left']
    constructor
    · intro same small
      have named : number = 0 ∨ number = 1 ∨ number = 2 ∨ number = 3 ∨ number = 4 ∨
          number = 5 ∨ number = 6 ∨ number = 7 ∨ number = 8 := by
        simp only [← UInt32.toNat_inj, UInt32.le_iff_toNat_le] at small ⊢
        simp at small ⊢
        omega
      rcases named with rfl | rfl | rfl | rfl | rfl | rfl | rfl | rfl | rfl
      all_goals cases same
    · intro large
      unfold ofWord
      repeat' split
      all_goals first | rfl | (subst number; exact absurd (by decide) large)
  | _ => simp [toWord, ofWord]

namespace Response

def Fits : Response → Prop
  | .status report => Text.Fits report.text ∧ Text.Fits report.language
  | .handle string | .data string => string.Fits
  | .names entries => entries.length < wordLimit ∧ ∀ entry ∈ entries, entry.Fits
  | .attributes found => found.Fits

-- A response as it comes back: the code of a status is the one its number names.
def normal : Response → Response
  | .status report => .status { report with code := .ofWord report.code.toWord }
  | given => given

variable {given : Response} {string : Octets} {entries : List Entry}

theorem one_roundtrip (make : Octets → Response) (fits : string.Fits) (suffix : Octets) :
    readOne make (Octets.writeString string ++ suffix) = some (make string, suffix) := by
  simp [readOne, string_roundtrip fits]

theorem names_roundtrip (fits : entries.length < wordLimit) (each : ∀ entry ∈ entries, entry.Fits)
    (suffix : Octets) :
    readNames (writeEntries entries ++ suffix) = some (.names entries, suffix) := by
  have counted := counted_roundtrip 12 fits (fun entry _ => Entry.least_le_length entry)
    (fun entry member => Entry.roundtrip (each entry member)) suffix
  simp only [readNames, writeEntries, counted, Option.bind_eq_bind, Option.bind_some]
  rfl

theorem layout_roundtrip (fits : given.Fits) (suffix : Octets) :
    ∃ layout, layout? given.code = some layout ∧
      layout (given.writeBody ++ suffix) = some (given.normal, suffix) := by
  cases given with
  | status report =>
    refine ⟨readStatus, rfl, ?_⟩
    simp [readStatus, writeBody, normal, word_roundtrip, Text.roundtrip fits.1, Text.roundtrip fits.2]
  | handle | data => exact ⟨readOne _, rfl, one_roundtrip _ fits suffix⟩
  | names entries => exact ⟨readNames, rfl, names_roundtrip fits.1 fits.2 suffix⟩
  | attributes found =>
    refine ⟨readAttributes, rfl, ?_⟩
    simp [readAttributes, writeBody, normal, Attributes.roundtrip fits]

end Response

namespace Message

-- A greeting carries no count, so the number of its pairs is not bounded.
def Fits : Message → Prop
  | .init _ extensions | .version _ extensions => ∀ pair ∈ extensions, Text.Pair.Fits pair
  | .request _ asked => asked.Fits
  | .response _ given => given.Fits

def normal : Message → Message
  | .response id given => .response id given.normal
  | message => message

variable {message : Message} {pairs : List Text.Pair} {number : UInt32}

theorem readPairs_succ {octets : Octets} (rounds : Nat) (nonempty : 0 < octets.length) :
    readPairs (rounds + 1) octets = (Text.readPair octets).bind fun (pair, rest) =>
      (readPairs rounds rest).map (pair :: ·) := by
  cases octets with
  | nil => cases nonempty
  | cons octet octets =>
    rw [readPairs]
    · cases Text.readPair (octet :: octets) with
      | none => rfl
      | some found =>
        obtain ⟨pair, rest⟩ := found
        simp only [Option.bind_eq_bind, Option.bind_some]
        cases readPairs rounds rest <;> rfl
    · nofun

-- One round reads one pair, so that there are rounds enough where there is one for each.
theorem pairs_roundtrip (fits : ∀ pair ∈ pairs, Text.Pair.Fits pair) {rounds : Nat}
    (enough : pairs.length ≤ rounds) : readPairs rounds (Text.writePairs pairs) = some pairs := by
  induction pairs generalizing rounds with
  | nil => rw [Text.writePairs, List.flatMap_nil, readPairs]
  | cons pair pairs ih =>
    have room : 0 < rounds := Nat.lt_of_lt_of_le (Nat.succ_pos _) enough
    obtain ⟨rounds, rfl⟩ := Nat.exists_eq_add_one_of_ne_zero (Nat.ne_of_gt room)
    have later := ih (fun other member => fits other (List.mem_cons_of_mem _ member))
      (Nat.le_of_succ_le_succ enough)
    have written : Text.writePairs (pair :: pairs) = Text.writePair pair ++ Text.writePairs pairs :=
      List.flatMap_cons
    have long := Text.Pair.least_le_length pair
    rw [written, readPairs_succ, Text.Pair.roundtrip (fits pair List.mem_cons_self)]
    · simp [later]
    · rw [List.length_append]
      omega

theorem greeting_roundtrip (make : UInt32 → List Text.Pair → Message)
    (fits : ∀ pair ∈ pairs, Text.Pair.Fits pair) :
    greeting make (writeGreeting number pairs) = .ok (make number pairs) := by
  have each : pairs.length * 8 ≤ (Text.writePairs pairs).length :=
    Octets.least_le_length_flatMap 8 fun pair _ => Text.Pair.least_le_length pair
  have enough : pairs.length ≤ (Text.writePairs pairs).length := by omega
  simp [greeting, readGreeting, writeGreeting, word_roundtrip, pairs_roundtrip fits enough]

theorem request_not_greeting (asked : Request) : asked.code ≠ 1 ∧ asked.code ≠ 2 := by
  cases asked <;> simp [Request.code]

theorem response_not_greeting (given : Response) : given.code ≠ 1 ∧ given.code ≠ 2 := by
  cases given <;> simp [Response.code]

theorem read_identified {code : UInt8} (other : code ≠ 1 ∧ code ≠ 2) (id : UInt32) (body : Octets) :
    read (code :: Octets.writeWord id ++ body) = readBody code id body := by
  rw [List.cons_append, read, if_neg other.1, if_neg other.2, word_roundtrip]

theorem no_request_of_response (given : Response) : Request.layout? given.code = none := by
  cases given <;> rfl

theorem read_write (fits : message.Fits) : read message.write = .ok message.normal := by
  cases message with
  | init number extensions => exact greeting_roundtrip .init fits
  | version number extensions => exact greeting_roundtrip .version fits
  | request id asked =>
    obtain ⟨layout, found, round⟩ := Request.layout_roundtrip fits []
    rw [List.append_nil] at round
    rw [write, read_identified (request_not_greeting asked), readBody, found]
    simp [round, whole, normal]
  | response id given =>
    obtain ⟨layout, found, round⟩ := Response.layout_roundtrip fits []
    rw [List.append_nil] at round
    rw [write, read_identified (response_not_greeting given), readBody, no_request_of_response, found]
    simp [round, whole, normal]

theorem normal_eq_iff (message : Message) :
    message.normal = message ↔ ¬ ∃ id report number,
      message = .response id (.status report) ∧ report.code = .other number ∧ number ≤ 8 := by
  cases message with
  | init | version | request => simp [normal]
  | response id given =>
    cases given with
    | handle | data | names | attributes => simp [normal, Response.normal]
    | status report =>
      obtain ⟨code, text, language⟩ := report
      have codes := StatusCode.ofWord_toWord_iff code
      simp only [normal, Response.normal, response.injEq, Response.status.injEq, Status.mk.injEq,
        true_and, and_true, codes]
      constructor
      · rintro unnamed ⟨_, _, number, ⟨rfl, rfl⟩, same, small⟩
        exact unnamed ⟨number, same, small⟩
      · rintro unnamed ⟨number, same, small⟩
        exact unnamed ⟨id, ⟨code, text, language⟩, number, ⟨rfl, rfl⟩, same, small⟩

theorem wire_roundtrip (fits : message.Fits) :
    read message.write = .ok message.normal ∧
      (read message.write = .ok message ↔ ¬ ∃ id report number,
        message = .response id (.status report) ∧ report.code = .other number ∧ number ≤ 8) := by
  have round := read_write fits
  refine ⟨round, ?_⟩
  rw [round, Except.ok.injEq]
  exact normal_eq_iff message

-- A listing with a name that is no text, an empty name, and attributes that are present
-- but empty; and a failure that is not called by its name.
def listing : Message :=
  .response 7 (.names
    [⟨[0xFF, 0x2F], "été", { size := some 3, extended := some [] }⟩, ⟨[], "", {}⟩])

def refusal (code : StatusCode) : Message := .response 7 (.status ⟨code, "no", ""⟩)

theorem wire_roundtrip_listing :
    listing.Fits ∧ (refusal (.other 4)).Fits ∧ read listing.write = .ok listing ∧
      read (refusal (.other 4)).write = .ok (refusal .failure) := by
  have fits : listing.Fits := by
    simp [listing, Fits, Response.Fits, Entry.Fits, Octets.Fits, Text.Fits, Attributes.Fits]
    decide
  have refused : (refusal (.other 4)).Fits := by
    simp [refusal, Fits, Response.Fits, Text.Fits, Octets.Fits]
    decide
  refine ⟨fits, refused, (wire_roundtrip fits).2.mpr ?_, (wire_roundtrip refused).1⟩
  rintro ⟨_, _, _, same, _⟩
  cases same

end Message
end SecureShell.Sftp
