import SecureShell.Proofs.Packet.Reception

namespace SecureShell.Packet

-- What is on its way to the receiver: a sealed packet, or word of the keys to take next.
inductive Parcel
  | packet (source : Octets) (sequence : UInt32)
  | keys (receiving : Keys)

-- One way of the traffic between two protections. The sender may be ahead of the receiver by
-- any number of parcels, and they arrive in order.
structure Traffic where
  sender : Protection
  receiver : Protection
  transit : List Parcel := []

inductive Turn
  | send (packet : Octets) (sequence : UInt32)
  | rekey (sending receiving : Keys)
  -- The receiver takes what comes next. It may be called between the two steps that open a packet.
  | take (between : List Call)
  | toSender (call : Call)
  | toReceiver (call : Call)

def Protection.take (receiver : Protection) (source : Octets) (sequence : UInt32)
    (between : List Call) : Except Fault Octets × Protection :=
  match receiver.openFirst source with
  | (.error fault, receiver) => (.error fault, receiver)
  | (.ok opened, receiver) => (calls.reach receiver between).openRest opened sequence

-- A packet that cannot be sealed, or what one came to at the other end; and the traffic after
-- the turn.
def Traffic.advance (traffic : Traffic) : Turn → Option (Except Fault Octets) × Traffic
  | .send packet sequence =>
    match traffic.sender.encrypt packet sequence with
    | (.error fault, sender) => (some (.error fault), { traffic with sender })
    | (.ok source, sender) =>
      (none, { traffic with sender, transit := traffic.transit ++ [.packet source sequence] })
  | .rekey sending receiving =>
    (none, { traffic with
      sender := (traffic.sender.updateKeys sending).2
      transit := traffic.transit ++ [.keys receiving] })
  | .take between =>
    match traffic.transit with
    | [] => (none, traffic)
    | .packet source sequence :: transit =>
      (some (traffic.receiver.take source sequence between).1,
       { traffic with receiver := (traffic.receiver.take source sequence between).2, transit })
    | .keys receiving :: transit =>
      (none, { traffic with receiver := (traffic.receiver.updateKeys receiving).2, transit })
  | .toSender call => (none, { traffic with sender := (traffic.sender.perform call).2 })
  | .toReceiver call => (none, { traffic with receiver := (traffic.receiver.perform call).2 })

def exchange : Machine Traffic Turn (Option (Except Fault Octets) × Traffic) where
  advance := Traffic.advance
  next := Prod.snd

def outcomes (traffic : Traffic) (turns : List Turn) : List (Except Fault Octets) :=
  (exchange.steps traffic turns).filterMap Prod.fst

def Turn.sent? : Turn → Option Octets
  | .send packet _ => some (content packet)
  | .rekey .. | .take _ | .toSender _ | .toReceiver _ => none

def Traffic.underway (traffic : Traffic) : Nat :=
  traffic.transit.countP fun parcel => parcel matches .packet ..

structure Keys.Meet (sending receiving : Keys) : Prop where
  key : receiving.inboundKey = sending.outboundKey
  iv : receiving.inboundIv = sending.outboundIv
  mac : receiving.inboundMac = sending.outboundMac

-- A packet that carries something, new keys that both take and that meet, or a call that is
-- refused for its lengths.
def Turn.Orderly : Turn → Prop
  | .send packet _ => Proper packet
  | .rekey sending receiving => sending.Fit ∧ receiving.Fit ∧ sending.Meet receiving
  | .take between => ∀ call ∈ between, call.Misfit
  | .toSender call | .toReceiver call => call.Misfit

-- From one direction through all that is on its way, and what that carries, to the direction
-- it was sealed with last.
inductive Leads : Direction → List Parcel → List Octets → Direction → Prop
  | done {direction : Direction} (keyed : direction.Keyed) : Leads direction [] [] direction
  | packet {direction last : Direction} {source packet : Octets} {sequence : UInt32}
      {transit : List Parcel} {contents : List Octets} (keyed : direction.Keyed)
      (proper : Proper packet) (shapely : ¬ Misshapen source)
      (found : direction.plain source = packet)
      (stamped : stamp source = direction.tag sequence packet)
      (rest : Leads (direction.apply (body source)).2 transit contents last) :
      Leads direction (.packet source sequence :: transit) (content packet :: contents) last
  | keys {direction last : Direction} {receiving : Keys} {fresh : Protection}
      {transit : List Parcel} {contents : List Octets}
      (made : Protection.create receiving = .ok fresh)
      (rest : Leads fresh.inbound transit contents last) :
      Leads direction (.keys receiving :: transit) contents last

variable {traffic : Traffic} {sending receiving : Keys} {sender receiver fresh : Protection}
  {direction last : Direction} {source packet : Octets} {sequence : UInt32} {between : List Call}
  {turn : Turn} {turns : List Turn} {transit : List Parcel} {contents : List Octets}

theorem Keys.Meet.mirrored (meet : sending.Meet receiving)
    (sent : Protection.create sending = .ok sender)
    (received : Protection.create receiving = .ok receiver) :
    receiver.inbound = sender.outbound := by
  rw [Protection.create_fit (Protection.fit_of_create sent)] at sent
  rw [Protection.create_fit (Protection.fit_of_create received)] at received
  cases sent
  cases received
  dsimp only
  rw [meet.key, meet.iv, meet.mac]

theorem Leads.keyed_last (leads : Leads direction transit contents last) : last.Keyed := by
  induction leads with
  | done keyed => exact keyed
  | packet _ _ _ _ _ _ ih => exact ih
  | keys _ _ ih => exact ih

theorem Leads.snoc_packet (leads : Leads direction transit contents last)
    (proper : Proper packet) (shapely : ¬ Misshapen source) (found : last.plain source = packet)
    (stamped : stamp source = last.tag sequence packet) :
    Leads direction (transit ++ [.packet source sequence]) (contents ++ [content packet])
      (last.apply (body source)).2 := by
  induction leads with
  | done keyed => exact .packet keyed proper shapely found stamped (.done (keyed.moved _))
  | packet keyed first long opened sealed rest ih =>
    exact .packet keyed first long opened sealed (ih found stamped)
  | keys made rest ih => exact .keys made (ih found stamped)

theorem Leads.snoc_keys (leads : Leads direction transit contents last)
    (made : Protection.create receiving = .ok fresh) :
    Leads direction (transit ++ [.keys receiving]) contents fresh.inbound := by
  induction leads with
  | done keyed => exact .keys made (.done (Protection.create_bears made).inbound.keyed)
  | packet keyed first long opened sealed rest ih =>
    exact .packet keyed first long opened sealed ih
  | keys before rest ih => exact .keys before ih

theorem Leads.length_contents (leads : Leads direction transit contents last) :
    contents.length = transit.countP fun parcel => parcel matches .packet .. := by
  induction leads with
  | done => rfl
  | packet _ _ _ _ _ _ ih => simp [ih]
  | keys _ _ ih => simp [ih]

theorem Leads.of_nil (leads : Leads direction [] contents last) :
    contents = [] ∧ direction = last := by
  cases leads
  exact ⟨rfl, rfl⟩

theorem Leads.of_keys (leads : Leads direction (.keys receiving :: transit) contents last) :
    ∃ fresh, Protection.create receiving = .ok fresh ∧
      Leads fresh.inbound transit contents last := by
  cases leads with
  | keys made rest => exact ⟨_, made, rest⟩

theorem take_sealed (keyed : receiver.inbound.Keyed) (proper : Proper packet)
    (shapely : ¬ Misshapen source) (found : receiver.inbound.plain source = packet)
    (stamped : stamp source = receiver.inbound.tag sequence packet)
    (misfits : ∀ call ∈ between, call.Misfit) :
    receiver.take source sequence between =
      (.ok (content packet),
       { receiver with inbound := (receiver.inbound.apply (body source)).2 }) := by
  have long := (shapely_length shapely).1
  have first : receiver.openFirst source = _ := Protection.openFirst_long (by omega) receiver
  have opened := Protection.openRest_of_openFirst keyed shapely first sequence
  have judged : receiver.judge source sequence = .ok (content packet) := by
    rw [Protection.judge, found, if_pos stamped.symm]
    exact Protection.payload_iff.mpr ⟨proper.carries, rfl⟩
  simp only [Protection.take, first, Protection.reach_misfits misfits, opened, judged]

theorem Leads.of_packet
    (leads : Leads receiver.inbound (.packet source sequence :: transit) contents last)
    (misfits : ∀ call ∈ between, call.Misfit) :
    ∃ first rest, contents = first :: rest ∧
      (receiver.take source sequence between).1 = .ok first ∧
      Leads (receiver.take source sequence between).2.inbound transit rest last := by
  generalize same : receiver.inbound = direction at leads
  cases leads with
  | packet keyed proper shapely found stamped rest =>
    subst same
    have taken := take_sealed keyed proper shapely found stamped misfits
    rw [taken]
    exact ⟨_, _, rfl, rfl, rest⟩

theorem advance_orderly
    (leads : Leads traffic.receiver.inbound traffic.transit contents traffic.sender.outbound)
    (orderly : turn.Orderly) :
    ∃ arrived left,
      (traffic.advance turn).1.toList = arrived.map .ok ∧
      arrived ++ left = contents ++ turn.sent?.toList ∧
      Leads (traffic.advance turn).2.receiver.inbound (traffic.advance turn).2.transit left
        (traffic.advance turn).2.sender.outbound := by
  obtain ⟨sender, receiver, transit⟩ := traffic
  cases turn with
  | send packet sequence =>
    have keyed := leads.keyed_last
    have sealing := Protection.encrypt_whole orderly.present orderly.whole sender sequence
    have sealed := congrArg Prod.fst sealing
    have moved : ((sender.outbound.apply packet).1 ++ sender.outbound.tag sequence packet).length =
      packet.length + Hmac.tagLength := by
        rw [List.length_append, keyed.length_apply, sender.outbound.length_tag]
    generalize (sender.outbound.apply packet).1 ++
      sender.outbound.tag sequence packet = source at sealing sealed moved
    obtain ⟨shapely, found, stamped⟩ := (Protection.encrypt_iff keyed).mp sealed
    have along : (sender.outbound.apply packet).2 = (sender.outbound.apply (body source)).2 :=
      Direction.apply_moves (by rw [length_body]; omega)
    refine ⟨[], contents ++ [content packet], ?_, rfl, ?_⟩
    · simp [Traffic.advance, sealing]
    · simp only [Traffic.advance, sealing, along]
      exact leads.snoc_packet orderly shapely found stamped
  | rekey sending receiving =>
    obtain ⟨sent, received, meet⟩ := orderly
    have sent := Protection.create_fit sent
    have received := Protection.create_fit received
    refine ⟨[], contents, rfl, (List.append_nil contents).symm, ?_⟩
    simp only [Traffic.advance, Protection.updateKeys_of_create sent]
    have leads := leads.snoc_keys received
    rwa [meet.mirrored sent received] at leads
  | take between =>
    cases transit with
    | nil =>
      obtain ⟨rfl, -⟩ := leads.of_nil
      exact ⟨[], [], rfl, rfl, leads⟩
    | cons parcel transit =>
      cases parcel with
      | packet source sequence =>
        obtain ⟨first, rest, rfl, taken, leads⟩ := leads.of_packet orderly
        refine ⟨[first], rest, ?_, by simp [Turn.sent?], leads⟩
        simp only [Traffic.advance, taken]
        rfl
      | keys receiving =>
        obtain ⟨fresh, made, leads⟩ := leads.of_keys
        simp only [Traffic.advance, Protection.updateKeys_of_create made]
        exact ⟨[], contents, rfl, (List.append_nil contents).symm, leads⟩
  | toSender call =>
    have refused : sender.perform call = _ := Protection.perform_misfit orderly sender
    simp only [Traffic.advance, refused]
    exact ⟨[], contents, rfl, (List.append_nil contents).symm, leads⟩
  | toReceiver call =>
    have refused : receiver.perform call = _ := Protection.perform_misfit orderly receiver
    simp only [Traffic.advance, refused]
    exact ⟨[], contents, rfl, (List.append_nil contents).symm, leads⟩

theorem outcomes_cons (traffic : Traffic) (turn : Turn) (turns : List Turn) :
    outcomes traffic (turn :: turns) =
      (traffic.advance turn).1.toList ++ outcomes (traffic.advance turn).2 turns :=
  exchange.filterMap_steps_cons Prod.fst traffic turn turns

theorem run_orderly (traffic : Traffic)
    (leads : Leads traffic.receiver.inbound traffic.transit contents traffic.sender.outbound)
    (orderly : ∀ turn ∈ turns, turn.Orderly) :
    ∃ arrived left,
      outcomes traffic turns = arrived.map .ok ∧
      arrived ++ left = contents ++ turns.filterMap Turn.sent? ∧
      Leads (exchange.reach traffic turns).receiver.inbound (exchange.reach traffic turns).transit
        left (exchange.reach traffic turns).sender.outbound := by
  induction turns generalizing traffic contents with
  | nil => exact ⟨[], contents, rfl, (List.append_nil contents).symm, leads⟩
  | cons turn turns ih =>
    obtain ⟨first, between, came, here, leads⟩ :=
      advance_orderly leads (orderly turn List.mem_cons_self)
    obtain ⟨more, left, later, there, leads⟩ :=
      ih _ leads fun turn member => orderly turn (List.mem_cons_of_mem _ member)
    refine ⟨first ++ more, left, ?_, ?_, leads⟩
    · rw [outcomes_cons, came, later, List.map_append]
    · have sent : turn.sent?.toList ++ turns.filterMap Turn.sent? =
          (turn :: turns).filterMap Turn.sent? := by
        rw [List.filterMap_cons]
        cases turn.sent? <;> rfl
      rw [List.append_assoc, there, ← List.append_assoc, here, List.append_assoc, sent]

-- The keystreams of both ends stay together block for block. New keys that meet change nothing
-- about that, nor do calls that are refused for their lengths.
theorem packets_survive (sent : Protection.create sending = .ok sender)
    (received : Protection.create receiving = .ok receiver) (meet : sending.Meet receiving)
    (orderly : ∀ turn ∈ turns, turn.Orderly) :
    let reached := exchange.reach { sender, receiver } turns
    let contents := turns.filterMap Turn.sent?
    outcomes { sender, receiver } turns =
        (contents.take (contents.length - reached.underway)).map .ok ∧
      reached.underway ≤ contents.length ∧
      (reached.transit = [] → reached.receiver.inbound = reached.sender.outbound) ∧
      ∀ (protection : Protection) (call : Call), call.Misfit →
        protection.perform call = (.error call.refusal, protection) := by
  intro reached contents
  have start : Leads receiver.inbound [] [] sender.outbound := by
    rw [meet.mirrored sent received]
    exact .done (Protection.create_bears sent).outbound.keyed
  obtain ⟨arrived, left, came, all, leads⟩ :=
    run_orderly { sender, receiver } start orderly
  have count : left.length = reached.underway := leads.length_contents
  have all : arrived ++ left = contents := all
  have total : contents.length = arrived.length + left.length := by
    rw [← all, List.length_append]
  refine ⟨?_, by omega, ?_, fun protection call misfit =>
    Protection.perform_misfit misfit protection⟩
  · have exact : contents.length - reached.underway = arrived.length := by omega
    rw [exact, ← all, List.take_left]
    exact came
  · intro nothing
    have leads : Leads reached.receiver.inbound reached.transit left reached.sender.outbound :=
      leads
    rw [nothing] at leads
    exact leads.of_nil.2

-- The sender is two packets and a change of keys ahead; both ends are called in vain meanwhile.
def busy : List Turn :=
  [.toReceiver (.openFirst [1, 2]), .send greeting 4294967295, .send (greeting ++ greeting) 0,
   .take [.openRest [] 7, .encrypt greeting.tail 3], .rekey (seeded 6) (seeded 6),
   .toSender (.updateKeys { seeded 9 with outboundKey := [1] }), .send greeting 1,
   .take [], .take [.updateKeys { seeded 6 with inboundIv := [] }], .take []]

theorem busy_orderly : ∀ turn ∈ busy, turn.Orderly := by
  have unfit : ∀ keys : Keys, keys.outboundKey.length ≠ keyLength ∨
      keys.inboundIv.length ≠ blockLength → ¬ keys.Fit :=
    fun keys wrong fit => wrong.elim (· fit.outboundKey) (· fit.inboundIv)
  have double : Proper (greeting ++ greeting) := ⟨by decide, by decide, by decide⟩
  simp only [busy, List.forall_mem_cons, Turn.Orderly, Call.Misfit, Misshapen]
  refine ⟨by decide, greeting_proper, double, ?_, ?_, ?_, greeting_proper, ?_, ?_, ?_, ?_⟩
  · exact ⟨by decide, by decide, nofun⟩
  · exact ⟨seeded_fit 6, seeded_fit 6, rfl, rfl, rfl⟩
  · exact unfit _ (.inl (by decide))
  · exact nofun
  · exact ⟨unfit _ (.inr (by decide)), nofun⟩
  · exact nofun
  · exact nofun

theorem packets_survive_busy :
    ∃ sender receiver, Protection.create (seeded 5) = .ok sender ∧
      Protection.create { seeded 5 with outboundMac := [] } = .ok receiver ∧
      (∀ turn ∈ busy, turn.Orderly) ∧
      outcomes { sender, receiver } busy =
        [.ok [104, 101, 108, 108, 111], .ok (greeting.drop 5 ++ greeting.take 10),
         .ok [104, 101, 108, 108, 111]] ∧
      (exchange.reach { sender, receiver } busy).receiver.inbound =
        (exchange.reach { sender, receiver } busy).sender.outbound := by
  have sent := Protection.create_fit (seeded_fit 5)
  have fit : Keys.Fit { seeded 5 with outboundMac := [] } := ⟨rfl, rfl, rfl, rfl⟩
  have received := Protection.create_fit fit
  have survive := packets_survive sent received ⟨rfl, rfl, rfl⟩ busy_orderly
  exact ⟨_, _, sent, received, busy_orderly, survive.1, survive.2.2.1 rfl⟩

end SecureShell.Packet
