import Mathlib.Data.List.Forall2
import SecureShell.Proofs.Sftp.Reencoding
import SecureShell.Proofs.Sftp.Sections

namespace SecureShell.Sftp

open Octets (Local word_local long_local string_local local_pure word_canonical word_roundtrip)

theorem Entry.read_local : Local 12 Entry.read :=
  (string_local.then fun _ => Text.read_local.then fun _ => Attributes.read_local.then fun _ =>
    local_pure _).weaken (Nat.le_refl 12)

namespace Request

variable {code : UInt8} {layout : Octets → Option (Request × Octets)}

theorem one_local (make : Octets → Request) : Local 4 (readOne make) :=
  string_local.then fun _ => local_pure _

theorem two_local (make : Octets → Octets → Request) : Local 8 (readTwo make) :=
  (string_local.then fun _ => string_local.then fun _ => local_pure _).weaken (Nat.le_refl 8)

theorem attributed_local (make : Octets → Attributes → Request) :
    Local 8 (readAttributed make) :=
  (string_local.then fun _ => Attributes.read_local.then fun _ => local_pure _).weaken
    (Nat.le_refl 8)

theorem openFile_local : Local 12 readOpenFile :=
  string_local.then fun path => word_local.then fun mode =>
    Attributes.read_local.then fun attributes =>
    local_pure (Request.openFile path (.ofWord mode) attributes)

theorem read_local : Local 16 readRead :=
  (string_local.then fun _ => long_local.then fun _ => word_local.then fun _ =>
    local_pure _).weaken (Nat.le_refl 16)

theorem write_local : Local 16 readWrite :=
  (string_local.then fun _ => long_local.then fun _ => string_local.then fun _ =>
    local_pure _).weaken (Nat.le_refl 16)

-- Each code has one of these shapes, and each shape holds a string at the least.
theorem layout_local (found : layout? code = some layout) : Local 4 layout := by
  unfold layout? at found
  repeat
    rcases chosen found with ⟨-, rfl⟩ | found
    · first
      | exact one_local _
      | exact (two_local _).weaken (by decide)
      | exact (attributed_local _).weaken (by decide)
      | exact openFile_local.weaken (by decide)
      | exact read_local.weaken (by decide)
      | exact write_local.weaken (by decide)
  cases found

end Request

namespace Response

variable {code : UInt8} {layout : Octets → Option (Response × Octets)}

theorem status_local : Local 12 readStatus :=
  word_local.then fun code => Text.read_local.then fun text =>
    Text.read_local.then fun language => local_pure (Response.status ⟨.ofWord code, text, language⟩)

theorem one_local (make : Octets → Response) : Local 4 (readOne make) :=
  string_local.then fun _ => local_pure _

theorem names_local : Local 4 readNames := Entry.read_local.counted.then fun _ => local_pure _

theorem attributes_local : Local 4 readAttributes :=
  Attributes.read_local.then fun _ => local_pure _

theorem layout_local (found : layout? code = some layout) : Local 4 layout := by
  unfold layout? at found
  repeat
    rcases chosen found with ⟨-, rfl⟩ | found
    · first
      | exact one_local _
      | exact status_local.weaken (by decide)
      | exact names_local
      | exact attributes_local
  cases found

end Response

namespace Message

variable {message shorter : Message} {packet front more octets body : Octets} {code : UInt8}
  {id number : UInt32} {pairs others : List Text.Pair} {pieces parts : List Octets}
  {make : UInt32 → List Text.Pair → Message}

inductive Opens : UInt8 → (UInt32 → List Text.Pair → Message) → Prop
  | init : Opens 1 .init
  | version : Opens 2 .version

def Spells (pieces : List Octets) (pairs : List Text.Pair) : Prop :=
  List.Forall₂ (fun piece pair => Text.readPair piece = some (pair, [])) pieces pairs

-- A packet with an ID, whose body is read by a local reader that has come to its end.
inductive Identified (packet : Octets) (message : Message) : Prop
  | of (code : UInt8) (id : UInt32) (body : Octets) (reads : Octets → Option (Message × Octets))
    (split : packet = code :: Octets.writeWord id ++ body) (other : code ≠ 1 ∧ code ≠ 2)
    (named : message.id? = some id) (within : Local 4 reads)
    (same : ∀ octets, readBody code id octets = whole (reads octets))
    (found : reads body = some (message, []))

inductive Greeted (packet : Octets) (message : Message) : Prop
  | of (code : UInt8) (make : UInt32 → List Text.Pair → Message) (number : UInt32)
    (pairs : List Text.Pair) (pieces : List Octets) (opens : Opens code make)
    (made : message = make number pairs) (spelled : Spells pieces pairs)
    (split : packet = code :: Octets.writeWord number ++ pieces.flatten)

theorem Opens.alike {key : UInt8} {build : UInt32 → List Text.Pair → Message} {other : UInt32}
    (opens : Opens code make) (opened : Opens key build)
    (same : make number pairs = build other others) :
    code = key ∧ make = build ∧ number = other ∧ pairs = others := by
  cases opens <;> cases opened <;> cases same <;> exact ⟨rfl, rfl, rfl, rfl⟩

theorem Opens.nameless (opens : Opens code make) (number : UInt32) (pairs : List Text.Pair) :
    (make number pairs).id? = none := by
  cases opens <;> rfl

theorem Opens.read (opens : Opens code make) (octets : Octets) :
    Message.read (code :: octets) = greeting make octets := by
  cases opens <;> rfl

theorem readPairs_spells {rounds : Nat} (found : readPairs rounds octets = some pairs) :
    ∃ pieces, Spells pieces pairs ∧ octets = pieces.flatten := by
  induction rounds generalizing octets pairs with
  | zero =>
    cases octets with
    | nil =>
      cases found
      exact ⟨[], .nil, rfl⟩
    | cons octet octets => cases found
  | succ rounds ih =>
    cases octets with
    | nil =>
      cases found
      exact ⟨[], .nil, rfl⟩
    | cons octet octets =>
      have nonempty : 0 < (octet :: octets).length := Nat.succ_pos _
      rw [readPairs_succ rounds nonempty] at found
      simp only [Option.bind_eq_some_iff, Option.map_eq_some_iff] at found
      obtain ⟨⟨pair, rest⟩, head, others, later, rfl⟩ := found
      obtain ⟨piece, split, -, again⟩ := Text.readPair_local head
      obtain ⟨pieces, spelled, rfl⟩ := ih later
      have alone := again []
      rw [List.append_nil] at alone
      exact ⟨piece :: pieces, .cons alone spelled, split⟩

theorem Spells.readPairs (spelled : Spells pieces pairs) {rounds : Nat}
    (enough : pieces.flatten.length ≤ rounds) : readPairs rounds pieces.flatten = some pairs := by
  induction spelled generalizing rounds with
  | nil => rw [List.flatten_nil, Message.readPairs]
  | @cons piece pair pieces pairs alone spelled ih =>
    obtain ⟨_, split, long, -⟩ := Text.readPair_local alone
    rw [List.append_nil] at split
    subst split
    have total : (piece :: pieces).flatten.length = piece.length + pieces.flatten.length := by
      rw [List.flatten_cons, List.length_append]
    have room : 0 < rounds := by omega
    obtain ⟨rounds, rfl⟩ := Nat.exists_eq_add_one_of_ne_zero (Nat.ne_of_gt room)
    have head := Text.readPair_local.extends alone pieces.flatten
    have later : Message.readPairs rounds pieces.flatten = some pairs := ih (by omega)
    rw [readPairs_succ rounds (by omega), List.flatten_cons, head, List.nil_append]
    simp [later]

theorem greeting_ok_iff : greeting make octets = .ok message ↔
    ∃ number pairs pieces, message = make number pairs ∧ Spells pieces pairs ∧
      octets = Octets.writeWord number ++ pieces.flatten := by
  constructor
  · intro found
    unfold greeting at found
    split at found
    · rename_i number pairs greeted
      cases found
      simp only [readGreeting, Option.bind_eq_bind, Option.bind_eq_some_iff, Prod.exists] at greeted
      obtain ⟨_, rest, head, _, later, made⟩ := greeted
      cases made
      obtain ⟨pieces, spelled, rfl⟩ := readPairs_spells later
      exact ⟨number, pairs, pieces, rfl, spelled, word_canonical head⟩
    · cases found
  · rintro ⟨number, pairs, pieces, rfl, spelled, rfl⟩
    have later := spelled.readPairs (Nat.le_refl _)
    simp only [greeting, readGreeting, word_roundtrip, Option.bind_eq_bind, Option.bind_some, later]
    rfl

theorem readBody_local (found : readBody code id body = .ok message) :
    message.id? = some id ∧ ∃ reads, Local 4 reads ∧
      (∀ octets, readBody code id octets = whole (reads octets)) ∧
      reads body = some (message, []) := by
  unfold readBody at found ⊢
  cases asked : Request.layout? code with
  | some layout =>
    rw [asked] at found
    obtain ⟨⟨_, _⟩, _, made⟩ := Option.map_eq_some_iff.mp (whole_ok found)
    cases made
    exact ⟨rfl, _, (Request.layout_local asked).map (request id), fun _ => rfl, whole_ok found⟩
  | none =>
    cases given : Response.layout? code with
    | some layout =>
      rw [asked, given] at found
      obtain ⟨⟨_, _⟩, _, made⟩ := Option.map_eq_some_iff.mp (whole_ok found)
      cases made
      exact ⟨rfl, _, (Response.layout_local given).map (response id), fun _ => rfl, whole_ok found⟩
    | none =>
      rw [asked, given] at found
      cases found

theorem greeted_or_identified (found : read packet = .ok message) :
    Greeted packet message ∨ Identified packet message := by
  have greeted {code make octets} (opens : Opens code make)
      (read : greeting make octets = .ok message) : Greeted (code :: octets) message := by
    obtain ⟨number, pairs, pieces, made, spelled, rfl⟩ := greeting_ok_iff.mp read
    exact .of code make number pairs pieces opens made spelled rfl
  cases packet with
  | nil => cases found
  | cons code rest =>
    rw [read] at found
    split at found
    · subst code
      exact .inl (greeted .init found)
    split at found
    · subst code
      exact .inl (greeted .version found)
    rename_i noInit noVersion
    split at found
    · cases found
    · rename_i id body identified
      obtain ⟨named, reads, within, same, whole⟩ := readBody_local found
      refine .inr (.of code id body reads ?_ ⟨noInit, noVersion⟩ named within same whole)
      rw [word_canonical identified]
      rfl

theorem Identified.extended (packed : Identified packet message) (rest : more ≠ []) :
    read (packet ++ more) = .error .trailingOctets := by
  obtain ⟨code, id, body, reads, rfl, other, -, within, same, found⟩ := packed
  rw [List.append_assoc, read_identified other, same, within.extends found, List.nil_append]
  cases more with
  | nil => exact absurd rfl rest
  | cons octet more => rfl

-- Fewer are too few: a reader that made do with them would have left some of the packet.
theorem Identified.cut (packed : Identified (front ++ more) message) (rest : more ≠ []) :
    read front = .error .shortData := by
  obtain ⟨code, id, body, reads, split, other, -, within, same, found⟩ := packed
  cases front with
  | nil => rfl
  | cons first front =>
    obtain ⟨rfl, tail⟩ := List.cons.inj split
    cases head : Octets.readWord front with
    | none => rw [read, if_neg other.1, if_neg other.2, head]
    | some identified =>
      obtain ⟨number, early⟩ := identified
      have whole : Octets.readWord (front ++ more) = some (number, early ++ more) :=
        word_local.extends head more
      have named : Octets.readWord (front ++ more) = some (id, body) := by
        rw [List.append_eq, List.append_eq] at tail
        rw [tail, word_roundtrip]
      cases whole.symm.trans named
      rw [word_canonical head, ← List.cons_append, read_identified other, same]
      cases done : reads early with
      | none => rfl
      | some result =>
        obtain ⟨shorter, left⟩ := result
        have again := within.extends done more
        rw [found, Option.some.injEq, Prod.mk.injEq, List.nil_eq, List.append_eq_nil_iff] at again
        exact absurd again.2.2 rest

theorem Spells.cut (spelled : Spells parts others) (whole : Spells pieces pairs)
    (split : pieces.flatten = parts.flatten ++ more) :
    parts = pieces.take parts.length ∧ others = pairs.take parts.length := by
  induction spelled generalizing pieces pairs with
  | nil => exact ⟨rfl, rfl⟩
  | @cons part other parts others alone spelled ih =>
    have early := Text.readPair_local.extends alone (parts.flatten ++ more)
    rw [← List.append_assoc, ← List.flatten_cons, ← split] at early
    cases whole with
    | nil => cases early
    | @cons piece pair pieces pairs single whole =>
      rw [List.flatten_cons, Text.readPair_local.extends single, Option.some.injEq,
        Prod.mk.injEq] at early
      obtain ⟨rfl, tail⟩ := early
      rw [List.flatten_cons, List.flatten_cons, List.append_assoc] at split
      obtain ⟨same, others⟩ := ih whole tail
      rw [List.nil_append, List.nil_append] at tail
      rw [tail] at split
      rw [List.append_cancel_right split, List.length_cons, List.take_succ_cons, List.take_succ_cons,
        ← same, ← others]
      exact ⟨rfl, rfl⟩

theorem greeting_cut (opens : Opens code make) (whole : Spells pieces pairs) (rest : more ≠ [])
    (split : code :: Octets.writeWord number ++ pieces.flatten = front ++ more) :
    read front = .ok shorter ↔ ∃ count < pairs.length,
      front = code :: Octets.writeWord number ++ (pieces.take count).flatten ∧
        shorter = make number (pairs.take count) := by
  constructor
  · intro found
    cases front with
    | nil => cases found
    | cons first early =>
      obtain ⟨rfl, tail⟩ := List.cons.inj split
      rw [List.append_eq, List.append_eq] at tail
      rw [opens.read, greeting_ok_iff] at found
      obtain ⟨other, others, parts, rfl, spelled, rfl⟩ := found
      have named := word_roundtrip number pieces.flatten
      rw [tail, List.append_assoc, word_roundtrip, Option.some.injEq, Prod.mk.injEq] at named
      obtain ⟨rfl, joined⟩ := named
      obtain ⟨taken, made⟩ := spelled.cut whole joined.symm
      refine ⟨parts.length, Nat.lt_of_not_le fun all => rest ?_, ?_, ?_⟩
      · rw [← whole.length_eq] at all
        rw [List.take_of_length_le all] at taken
        rw [taken] at joined
        exact List.append_right_eq_self.mp joined
      · rw [← taken]
        rfl
      · rw [← made]
  · rintro ⟨count, -, rfl, rfl⟩
    rw [List.cons_append, opens.read, greeting_ok_iff]
    exact ⟨number, pairs.take count, pieces.take count, rfl, List.forall₂_take count whole, rfl⟩

-- Where a packet ends, its message ends, and not before.
structure Delimited (packet : Octets) (message : Message) : Prop where
  extended : ∀ id more, message.id? = some id → more ≠ [] →
    read (packet ++ more) = .error .trailingOctets
  cut : ∀ id front more, message.id? = some id → packet = front ++ more → more ≠ [] →
    read front = .error .shortData
  -- A greeting may end after its number or after any of its pairs, and then has only these.
  greeting : ∀ code make number pairs, Opens code make → message = make number pairs →
    ∃ pieces, Spells pieces pairs ∧ packet = code :: Octets.writeWord number ++ pieces.flatten ∧
      ∀ front more shorter, packet = front ++ more → more ≠ [] →
        (read front = .ok shorter ↔ ∃ count < pairs.length,
          front = code :: Octets.writeWord number ++ (pieces.take count).flatten ∧
            shorter = make number (pairs.take count))

theorem Identified.delimited (packed : Identified packet message) : Delimited packet message where
  extended _ _ _ rest := packed.extended rest
  cut id front more named split rest := by
    subst split
    exact packed.cut rest
  greeting code make number pairs opens made := by
    obtain ⟨_, _, _, _, _, _, named, -⟩ := packed
    rw [made, opens.nameless] at named
    cases named

theorem Greeted.delimited (greeted : Greeted packet message) : Delimited packet message := by
  obtain ⟨code, make, number, pairs, pieces, opens, rfl, spelled, rfl⟩ := greeted
  have nameless := opens.nameless number pairs
  refine ⟨fun id _ named => ?_, fun id _ _ named => ?_, fun _ _ _ _ opened same => ?_⟩
  · cases nameless.symm.trans named
  · cases nameless.symm.trans named
  · obtain ⟨rfl, rfl, rfl, rfl⟩ := opens.alike opened same
    exact ⟨pieces, spelled, rfl, fun _ _ _ split rest => greeting_cut opens spelled rest split⟩

theorem packets_delimited (found : read packet = .ok message) : Delimited packet message :=
  (greeted_or_identified found).elim Greeted.delimited Identified.delimited

def directoryPage : Octets :=
  [104, 0, 0, 0, 7, 0, 0, 0, 1, 0, 0, 0, 1, 0x61, 0, 0, 0, 1, 0x61, 0, 0, 0, 0]

def versionHello : Octets :=
  [2, 0, 0, 0, 3, 0, 0, 0, 1, 0x76, 0, 0, 0, 1, 0x31, 0, 0, 0, 0, 0, 0, 0, 0]

theorem packets_delimited_page_and_greeting :
    read directoryPage = .ok (.response 7 (.names [⟨[0x61], "a", {}⟩])) ∧
      read (directoryPage ++ [0]) = .error .trailingOctets ∧
      read (directoryPage.take 19) = .error .shortData ∧
      read versionHello = .ok (.version 3 [("v", "1"), ("", "")]) ∧
      read (versionHello.take 5) = .ok (.version 3 []) := by
  have listed : read directoryPage = .ok (.response 7 (.names [⟨[0x61], "a", {}⟩])) := by
    decide +kernel
  have greeted : read versionHello = .ok (.version 3 [("v", "1"), ("", "")]) := by decide +kernel
  have names := packets_delimited listed
  obtain ⟨pieces, -, -, shorter⟩ := (packets_delimited greeted).greeting 2 .version 3 _ .version rfl
  refine ⟨listed, names.extended 7 [0] rfl (by decide), ?_, greeted, ?_⟩
  · exact names.cut 7 (directoryPage.take 19) (directoryPage.drop 19) rfl rfl (by decide)
  · rw [shorter (versionHello.take 5) (versionHello.drop 5) _ rfl (by decide)]
    exact ⟨0, by decide, rfl, rfl⟩

end Message
end SecureShell.Sftp
