import SecureShell.Proofs.Packet.Calls

namespace SecureShell.Packet

-- The two parts of what comes in: the packet under its keystream, and the tag behind it.
def body (source : Octets) : Octets := source.take (source.length - Hmac.tagLength)

def stamp (source : Octets) : Octets := source.drop (source.length - Hmac.tagLength)

def Direction.plain (direction : Direction) (source : Octets) : Octets :=
  direction.masked (body source)

def padding (packet : Octets) : Nat := (packet.getD 4 0).toNat

def content (packet : Octets) : Octets := packet.extract 5 (packet.length - padding packet)

-- A packet in whole blocks that carries something.
structure Proper (packet : Octets) : Prop where
  present : packet.length ≠ 0
  whole : packet.length % blockLength = 0
  carries : padding packet < packet.length - 5

-- Stripping a packet where no number may go below zero and every octet asked for must be there.
-- It comes to nothing as soon as one of its steps cannot be done.
def payloadChecked (packet : Octets) : Option (Except Fault Octets) := do
  let (_, rest) ← Octets.takeExact 4 packet
  let (count, body) ← Octets.takeExact 1 rest
  let padding := (count.getD 0 0).toNat
  if body.length ≤ padding then return .error .padding
  let kept ← if padding ≤ body.length then some (body.length - padding) else none
  return .ok (body.take kept)

-- The one judgement on a packet that came in, against the ends of the traffic it came from. The tag
-- in question is the MAC of the sequence number and the packet, under the key for tags in force.
structure Judged (keys : Keys) (sender receiver : Protection) (source : Octets)
    (sequence : UInt32) : Prop where
  bears : receiver.inbound.Bears keys.inboundKey keys.inboundIv keys.inboundMac
  accepted : ∀ payload, (receiver.receive source sequence).1 = .ok payload ↔
    ∃! packet, Proper packet ∧ (sender.encrypt packet sequence).1 = .ok source ∧
      payload = content packet
  filled : ∀ payload, (receiver.receive source sequence).1 = .ok payload → payload ≠ []
  produced : ∀ packet, (sender.encrypt packet sequence).1 = .ok source ↔
    packet.length ≠ 0 ∧ packet.length % blockLength = 0 ∧
      source = sender.outbound.masked packet ++
        Hmac.tag keys.inboundMac (Octets.writeWord sequence ++ packet)
  misshapen : Misshapen source → (receiver.receive source sequence).1 = .error .packetLength
  forged : ¬ Misshapen source →
    stamp source ≠ Hmac.tag keys.inboundMac
      (Octets.writeWord sequence ++ receiver.inbound.plain source) →
      (receiver.receive source sequence).1 = .error .mac
  overfull : ¬ Misshapen source →
    stamp source = Hmac.tag keys.inboundMac
      (Octets.writeWord sequence ++ receiver.inbound.plain source) →
      ¬ Proper (receiver.inbound.plain source) →
        (receiver.receive source sequence).1 = .error .padding
  resealed : ∀ packet, (sender.encrypt packet sequence).1 = .ok source →
    ∀ tag, tag.length = Hmac.tagLength →
      tag ≠ Hmac.tag keys.inboundMac (Octets.writeWord sequence ++ packet) →
        (receiver.receive (body source ++ tag) sequence).1 = .error .mac
  unforced : ¬ Misshapen source → payloadChecked (receiver.inbound.plain source) =
    some (Protection.payload (receiver.inbound.plain source))

variable {sender receiver after : Protection} {direction : Direction} {keys : Keys}
  {source opened packet payload tag : Octets} {sequence : UInt32}

@[simp] theorem body_append_stamp (source : Octets) : body source ++ stamp source = source :=
  List.take_append_drop _ _

theorem body_append (front : Octets) (full : tag.length = Hmac.tagLength) :
    body (front ++ tag) = front := by
  simp [body, full]

theorem stamp_append (front : Octets) (full : tag.length = Hmac.tagLength) :
    stamp (front ++ tag) = tag := by
  simp [stamp, full]

theorem length_body (source : Octets) : (body source).length = source.length - Hmac.tagLength := by
  rw [body, List.length_take]
  omega

theorem shapely_length (shapely : ¬ Misshapen source) :
    blockLength + Hmac.tagLength ≤ source.length ∧ (body source).length % blockLength = 0 := by
  obtain ⟨long, whole⟩ := not_or.mp shapely
  exact ⟨Nat.le_of_not_lt long, by rw [length_body]; exact not_not.mp whole⟩

namespace Direction

theorem Keyed.apply_body (keyed : direction.Keyed) (source : Octets) :
    (direction.apply (body source)).1 = direction.plain source :=
  keyed.apply_masked _

theorem length_plain (direction : Direction) (source : Octets) :
    (direction.plain source).length = (body source).length :=
  List.length_mapIdx ..

theorem Keyed.sealed_iff (keyed : direction.Keyed) :
    (direction.apply packet).1 = body source ↔ direction.plain source = packet := by
  constructor
  · intro same
    rw [← keyed.apply_body, ← same, keyed.apply_apply]
  · rintro rfl
    rw [← keyed.apply_body, keyed.apply_apply]

end Direction

namespace Protection

theorem encrypt_whole (present : packet.length ≠ 0) (whole : packet.length % blockLength = 0)
    (sender : Protection) (sequence : UInt32) :
    sender.encrypt packet sequence =
      (.ok ((sender.outbound.apply packet).1 ++ sender.outbound.tag sequence packet),
       { sender with outbound := (sender.outbound.apply packet).2 }) :=
  if_neg (not_or.mpr ⟨present, not_not.mpr whole⟩)

theorem encrypt_iff (keyed : sender.outbound.Keyed) :
    (sender.encrypt packet sequence).1 = .ok source ↔
      ¬ Misshapen source ∧ sender.outbound.plain source = packet ∧
        stamp source = sender.outbound.tag sequence packet := by
  have tagged := sender.outbound.length_tag sequence packet
  by_cases fits : packet.length = 0 ∨ packet.length % blockLength ≠ 0
  · have refused : sender.encrypt packet sequence = (.error .packetLength, sender) := if_pos fits
    rw [refused]
    refine ⟨nofun, ?_⟩
    rintro ⟨shapely, rfl, -⟩
    obtain ⟨long, whole⟩ := shapely_length shapely
    rw [Direction.length_plain, length_body] at fits
    rw [length_body] at whole
    unfold blockLength at long
    omega
  · obtain ⟨present, whole⟩ := not_or.mp fits
    rw [encrypt_whole present (not_not.mp whole), ← keyed.sealed_iff]
    constructor
    · intro sealed
      cases sealed
      refine ⟨?_, (body_append _ tagged).symm, stamp_append _ tagged⟩
      unfold Misshapen
      rw [List.length_append, keyed.length_apply, tagged]
      unfold blockLength at whole ⊢
      omega
    · rintro ⟨-, same, stamped⟩
      rw [same, ← stamped, body_append_stamp]

theorem encrypt_produces (keyed : sender.outbound.Keyed) :
    (sender.encrypt packet sequence).1 = .ok source ↔
      packet.length ≠ 0 ∧ packet.length % blockLength = 0 ∧
        source = sender.outbound.masked packet ++
          Hmac.tag sender.outbound.macKey (Octets.writeWord sequence ++ packet) := by
  by_cases fits : packet.length = 0 ∨ packet.length % blockLength ≠ 0
  · have refused : sender.encrypt packet sequence = (.error .packetLength, sender) := if_pos fits
    rw [refused]
    exact ⟨nofun, fun made => absurd fits (not_or.mpr ⟨made.1, not_not.mpr made.2.1⟩)⟩
  · obtain ⟨present, whole⟩ := not_or.mp fits
    rw [encrypt_whole present (not_not.mp whole), keyed.apply_masked, Except.ok.injEq]
    exact ⟨fun same => ⟨present, not_not.mp whole, same.symm⟩, fun made => made.2.2.symm⟩

theorem openFirst_long (long : blockLength ≤ source.length) (receiver : Protection) :
    receiver.openFirst source =
      (.ok ((receiver.inbound.apply (source.take blockLength)).1 ++ source.drop blockLength),
       { receiver with inbound := (receiver.inbound.apply (source.take blockLength)).2 }) :=
  if_neg (Nat.not_lt.mpr long)

theorem length_openFirst (keyed : receiver.inbound.Keyed)
    (first : receiver.openFirst source = (.ok opened, after)) : opened.length = source.length := by
  by_cases long : blockLength ≤ source.length
  · rw [openFirst_long long] at first
    cases first
    rw [List.length_append, keyed.length_apply, List.length_take, List.length_drop]
    omega
  · have refused : receiver.openFirst source = (.error .packetLength, receiver) :=
      if_pos (Nat.not_le.mp long)
    rw [refused] at first
    cases first

theorem openRest_shapely (shapely : ¬ Misshapen opened) (receiver : Protection)
    (sequence : UInt32) :
    receiver.openRest opened sequence =
      let (rest, inbound) := receiver.inbound.apply ((body opened).drop blockLength)
      let plain := (body opened).take blockLength ++ rest
      (if receiver.inbound.tag sequence plain = stamp opened then Protection.payload plain
        else .error .mac,
       { receiver with inbound }) := by
  by_cases right : receiver.inbound.tag sequence ((body opened).take blockLength ++
      (receiver.inbound.apply ((body opened).drop blockLength)).1) = stamp opened
  · simp only [if_pos right]
    exact (if_neg shapely).trans (if_pos right)
  · simp only [if_neg right]
    exact (if_neg shapely).trans (if_neg right)

def judge (receiver : Protection) (source : Octets) (sequence : UInt32) : Except Fault Octets :=
  if receiver.inbound.tag sequence (receiver.inbound.plain source) = stamp source then
    Protection.payload (receiver.inbound.plain source)
  else .error .mac

theorem openRest_of_openFirst (keyed : receiver.inbound.Keyed) (shapely : ¬ Misshapen source)
    (first : receiver.openFirst source = (.ok opened, after)) (sequence : UInt32) :
    after.openRest opened sequence =
      (receiver.judge source sequence,
       { receiver with inbound := (receiver.inbound.apply (body source)).2 }) := by
  have same := length_openFirst keyed first
  obtain ⟨long, -⟩ := shapely_length shapely
  have still : ¬ Misshapen opened := by
    unfold Misshapen
    rwa [same]
  have block : (source.take blockLength).length = blockLength := by
    rw [List.length_take]; omega
  have start : (receiver.inbound.apply (source.take blockLength)).1.length = blockLength := by
    rw [keyed.length_apply, block]
  have split : source.take blockLength ++ (body source).drop blockLength = body source := by
    conv_rhs => rw [← List.take_append_drop blockLength (body source)]
    rw [body, List.take_take, Nat.min_eq_left (by omega)]
  have parts := receiver.inbound.apply_append (by rw [block, Nat.mod_self])
    ((body source).drop blockLength)
  rw [split] at parts
  rw [openFirst_long (by omega)] at first
  cases first
  have front : body ((receiver.inbound.apply (source.take blockLength)).1 ++
      source.drop blockLength) =
        (receiver.inbound.apply (source.take blockLength)).1 ++ (body source).drop blockLength := by
    rw [body, same, List.take_append, start, List.take_of_length_le (by omega), body,
      List.drop_take]
  have tail : stamp ((receiver.inbound.apply (source.take blockLength)).1 ++
      source.drop blockLength) = stamp source := by
    rw [stamp, same, List.drop_append, start, List.drop_of_length_le (by omega), List.nil_append,
      List.drop_drop, stamp]
    congr 1
    omega
  simp only [openRest_shapely still, front, tail, List.take_left' start, List.drop_left' start,
    judge, ← keyed.apply_body, parts, Direction.tag_apply]

theorem receive_shapely (keyed : receiver.inbound.Keyed) (shapely : ¬ Misshapen source)
    (sequence : UInt32) :
    receiver.receive source sequence =
      (receiver.judge source sequence,
       { receiver with inbound := (receiver.inbound.apply (body source)).2 }) := by
  have long := (shapely_length shapely).1
  have first : receiver.openFirst source = _ := openFirst_long (by omega) receiver
  rw [receive, first]
  exact openRest_of_openFirst keyed shapely first sequence

theorem receive_misshapen (keyed : receiver.inbound.Keyed) (misshapen : Misshapen source)
    (sequence : UInt32) : (receiver.receive source sequence).1 = .error .packetLength := by
  by_cases long : blockLength ≤ source.length
  · have first := openFirst_long long receiver
    have same := length_openFirst keyed first
    have still : Misshapen ((receiver.inbound.apply (source.take blockLength)).1 ++
        source.drop blockLength) := by
      unfold Misshapen
      rwa [same]
    rw [receive, first]
    exact congrArg Prod.fst (if_pos still)
  · rw [receive, show receiver.openFirst source = (.error .packetLength, receiver) from
      if_pos (Nat.not_le.mp long)]

theorem payload_iff :
    Protection.payload packet = .ok payload ↔
      padding packet < packet.length - 5 ∧ payload = content packet := by
  have kept : (packet.drop 5).take ((packet.drop 5).length - padding packet) = content packet := by
    rw [content, List.extract_eq_take_drop, List.length_drop]
    congr 1
    omega
  by_cases stuffed : packet.length - 5 ≤ padding packet
  · have refused : Protection.payload packet = .error .padding := if_pos (by rwa [List.length_drop])
    rw [refused]
    exact ⟨nofun, fun fits => absurd fits.1 (Nat.not_lt.mpr stuffed)⟩
  · have passed : Protection.payload packet = .ok (content packet) := by
      rw [← kept]
      exact if_neg (by rwa [List.length_drop])
    rw [passed, Except.ok.injEq]
    exact ⟨fun same => ⟨Nat.lt_of_not_le stuffed, same.symm⟩, fun same => same.2.symm⟩

theorem payload_overfull (stuffed : ¬ padding packet < packet.length - 5) :
    Protection.payload packet = .error .padding := by
  refine if_pos ?_
  rw [List.length_drop]
  exact Nat.le_of_not_lt stuffed

theorem payloadChecked_eq (long : 5 ≤ packet.length) :
    payloadChecked packet = some (Protection.payload packet) := by
  match packet, long with
  | a :: b :: c :: d :: count :: rest, _ =>
    have front : Octets.takeExact 4 (a :: b :: c :: d :: count :: rest) =
        some ([a, b, c, d], count :: rest) := Octets.takeExact_append [a, b, c, d] _
    have next : Octets.takeExact 1 (count :: rest) = some ([count], rest) :=
      Octets.takeExact_append [count] rest
    simp only [payloadChecked, front, next, Option.bind_eq_bind, Option.bind_some]
    by_cases stuffed : rest.length ≤ count.toNat
    · simp [Protection.payload, stuffed]
    · simp [Protection.payload, stuffed, Nat.le_of_lt (Nat.lt_of_not_le stuffed)]

theorem content_filled (fits : padding packet < packet.length - 5) : content packet ≠ [] := by
  intro nothing
  have length := congrArg List.length nothing
  rw [content, List.extract_eq_take_drop, List.length_take, List.length_drop,
    List.length_nil] at length
  omega

theorem proper_plain (receiver : Protection) (shapely : ¬ Misshapen source) :
    Proper (receiver.inbound.plain source) ↔
      padding (receiver.inbound.plain source) < (receiver.inbound.plain source).length - 5 := by
  obtain ⟨long, whole⟩ := shapely_length shapely
  refine ⟨Proper.carries, fun fits => ⟨?_, ?_, fits⟩⟩
  · rw [Direction.length_plain, length_body]
    unfold blockLength at long
    omega
  · rwa [Direction.length_plain]

theorem receive_iff (keyed : receiver.inbound.Keyed) :
    (receiver.receive source sequence).1 = .ok payload ↔
      ¬ Misshapen source ∧
        stamp source = receiver.inbound.tag sequence (receiver.inbound.plain source) ∧
          Proper (receiver.inbound.plain source) ∧
            payload = content (receiver.inbound.plain source) := by
  by_cases misshapen : Misshapen source
  · rw [receive_misshapen keyed misshapen]
    exact ⟨nofun, fun accepted => absurd misshapen accepted.1⟩
  · rw [receive_shapely keyed misshapen, judge, proper_plain receiver misshapen]
    by_cases stamped : receiver.inbound.tag sequence (receiver.inbound.plain source) = stamp source
    · rw [if_pos stamped, payload_iff]
      exact ⟨fun fits => ⟨misshapen, stamped.symm, fits⟩, fun accepted => accepted.2.2⟩
    · rw [if_neg stamped]
      exact ⟨nofun, fun accepted => absurd accepted.2.1.symm stamped⟩

theorem receive_forged (keyed : receiver.inbound.Keyed) (shapely : ¬ Misshapen source)
    (forged : stamp source ≠ receiver.inbound.tag sequence (receiver.inbound.plain source)) :
    (receiver.receive source sequence).1 = .error .mac := by
  rw [receive_shapely keyed shapely]
  exact if_neg forged.symm

theorem accepted_iff (keyed : receiver.inbound.Keyed)
    (mirrored : sender.outbound = receiver.inbound) :
    (receiver.receive source sequence).1 = .ok payload ↔
      ∃! packet, Proper packet ∧ (sender.encrypt packet sequence).1 = .ok source ∧
        payload = content packet := by
  have sealing : sender.outbound.Keyed := mirrored ▸ keyed
  simp only [encrypt_iff sealing, mirrored]
  rw [receive_iff keyed]
  constructor
  · rintro ⟨shapely, stamped, proper, carried⟩
    refine ⟨_, ⟨proper, ⟨shapely, rfl, stamped⟩, carried⟩, ?_⟩
    rintro other ⟨-, ⟨-, found, -⟩, -⟩
    exact found.symm
  · rintro ⟨packet, ⟨proper, ⟨shapely, rfl, stamped⟩, carried⟩, -⟩
    exact ⟨shapely, stamped, proper, carried⟩

theorem resealed_forged (keyed : receiver.inbound.Keyed)
    (mirrored : sender.outbound = receiver.inbound)
    (sealed : (sender.encrypt packet sequence).1 = .ok source)
    (full : tag.length = Hmac.tagLength) (other : tag ≠ sender.outbound.tag sequence packet) :
    (receiver.receive (body source ++ tag) sequence).1 = .error .mac := by
  have sealing : sender.outbound.Keyed := mirrored ▸ keyed
  obtain ⟨shapely, found, -⟩ := (encrypt_iff sealing).mp sealed
  have same : (body source ++ tag).length = source.length := by
    have long := (shapely_length shapely).1
    rw [List.length_append, length_body, full]
    omega
  have still : ¬ Misshapen (body source ++ tag) := by
    unfold Misshapen
    rwa [same]
  refine receive_forged keyed still ?_
  rw [Direction.plain, body_append _ full, stamp_append _ full]
  rwa [← found, mirrored] at other

end Protection

-- A packet is accepted just if a sender that stands where the receiver stands can have sealed it.
theorem reception_judged {fresh : Protection} (made : Protection.create keys = .ok fresh)
    (history : List Call) (mirrored : sender.outbound = (calls.reach fresh history).inbound)
    (source : Octets) (sequence : UInt32) :
    Judged (keys.inForce history) sender (calls.reach fresh history) source sequence := by
  have bears := (Protection.reach_bears (Protection.create_bears made) history).inbound
  have keyed := bears.keyed
  have mac := bears.macKey.symm
  generalize calls.reach fresh history = receiver at mirrored bears keyed mac
  constructor
  case bears => exact bears
  case accepted => exact fun payload => Protection.accepted_iff keyed mirrored
  case filled =>
    rintro payload accepted
    obtain ⟨-, -, proper, rfl⟩ := (Protection.receive_iff keyed).mp accepted
    exact Protection.content_filled proper.carries
  case produced =>
    rw [mac, ← mirrored]
    exact fun packet => Protection.encrypt_produces (mirrored ▸ keyed)
  case misshapen => exact fun misshapen => Protection.receive_misshapen keyed misshapen sequence
  case forged =>
    rw [mac]
    exact Protection.receive_forged keyed
  case overfull =>
    rw [mac]
    intro shapely stamped improper
    rw [Protection.proper_plain receiver shapely] at improper
    have tagged : receiver.inbound.tag sequence (receiver.inbound.plain source) = stamp source :=
      stamped.symm
    rw [Protection.receive_shapely keyed shapely, Protection.judge, if_pos tagged]
    exact Protection.payload_overfull improper
  case resealed =>
    rw [mac, ← mirrored]
    exact fun packet sealed tag full other =>
      Protection.resealed_forged keyed mirrored sealed full other
  case unforced =>
    intro shapely
    refine Protection.payloadChecked_eq ?_
    rw [Direction.length_plain, length_body]
    have long := (shapely_length shapely).1
    unfold blockLength at long
    omega

-- Keys for both directions alike.
def seeded (seed : UInt8) : Keys where
  inboundIv := List.replicate 16 seed
  outboundIv := List.replicate 16 seed
  inboundKey := List.replicate 16 (seed + 1)
  outboundKey := List.replicate 16 (seed + 1)
  inboundMac := List.replicate 32 (seed + 2)
  outboundMac := List.replicate 32 (seed + 2)

theorem seeded_fit (seed : UInt8) : (seeded seed).Fit := ⟨rfl, rfl, rfl, rfl⟩

-- Length, padding count, "hello" and six octets of padding.
def greeting : Octets := [0, 0, 0, 12, 6, 104, 101, 108, 108, 111, 0, 0, 0, 0, 0, 0]

theorem greeting_proper : Proper greeting := ⟨by decide, by decide, by decide⟩

-- Another first block was opened before, keys were refused, and a packet went the other way.
def distracted : List Call :=
  [.openFirst greeting, .updateKeys { seeded 9 with outboundKey := [1] }, .encrypt greeting 4]

-- A padding that would be longer than the packet.
def stuffed : Octets := List.replicate 16 16

theorem reception_judged_distracted :
    ∃ fresh, Protection.create (seeded 7) = .ok fresh ∧
      let receiver := calls.reach fresh distracted
      let sender : Protection := ⟨receiver.outbound, receiver.inbound⟩
      let sealed := fun packet => (sender.outbound.apply packet).1 ++ sender.outbound.tag 3 packet
      (receiver.receive (sealed greeting) 3).1 = .ok [104, 101, 108, 108, 111] ∧
      (receiver.receive (sealed greeting ++ [0]) 3).1 = .error .packetLength ∧
      (receiver.receive (body (sealed greeting) ++ (stamp (sealed greeting)).map (· + 1)) 3).1 =
        .error .mac ∧
      (receiver.receive (sealed stuffed) 3).1 = .error .padding := by
  have made := Protection.create_fit (seeded_fit 7)
  refine ⟨_, made, ?_⟩
  intro receiver sender sealed
  have judged (source : Octets) : Judged ((seeded 7).inForce distracted) sender receiver source 3 :=
    reception_judged made distracted rfl source 3
  have keyed : sender.outbound.Keyed := (judged []).bears.keyed
  have seals (packet : Octets) (present : packet.length ≠ 0) (whole : packet.length % blockLength = 0) :
      (sender.encrypt packet 3).1 = .ok (sealed packet) :=
    congrArg Prod.fst (Protection.encrypt_whole present whole sender 3)
  have greets := seals greeting (by decide) (by decide)
  obtain ⟨-, found, stamped⟩ := (Protection.encrypt_iff keyed).mp greets
  refine ⟨((judged _).accepted _).mpr ⟨greeting, ⟨greeting_proper, greets, rfl⟩, ?_⟩,
    (judged _).misshapen ?_, (judged _).resealed greeting greets _ ?_ ?_, ?_⟩
  · rintro other ⟨-, same, -⟩
    rw [← ((Protection.encrypt_iff keyed).mp same).2.1, found]
  · have tagged := sender.outbound.length_tag 3 greeting
    have carried : (sender.outbound.apply greeting).1.length = 16 := keyed.length_apply greeting
    right
    simp only [sealed, List.length_append, carried, tagged]
    decide
  · rw [stamped, List.length_map, Direction.length_tag]
  · intro same
    have tagged := sender.outbound.length_tag 3 greeting
    have unlike (octet : UInt8) : octet + 1 ≠ octet := by grind
    change _ = sender.outbound.tag 3 greeting at same
    rw [stamped] at same
    cases tag : sender.outbound.tag 3 greeting with
    | nil => simp [tag, Hmac.tagLength] at tagged
    | cons octet rest =>
      rw [tag, List.map_cons, List.cons.injEq] at same
      exact unlike octet same.1
  · obtain ⟨shapely, found, stamped⟩ :=
      (Protection.encrypt_iff keyed).mp (seals stuffed (by decide) (by decide))
    have same : receiver.inbound.plain (sealed stuffed) = stuffed := found
    refine (judged _).overfull shapely ?_ ?_
    · rw [same]
      exact stamped
    · rw [same]
      exact fun proper => absurd proper.carries (by decide)

end SecureShell.Packet
