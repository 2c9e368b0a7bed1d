import SensorGateway.Proofs.Session.Acts
import SensorGateway.Proofs.Topic.Table

/-!
What the topic ids of a session stand for. An id above the predefined ones gets
its meaning as it is given out, to a device that asked for a name or in an offer
to the device, and from then on it stands for this name or for nothing. A device
that was told an id once is therefore never misled by it, however often ids are
given out, refused, forgotten and told again, and across all its connections.
-/

namespace SensorGateway

namespace Session

/-- What a session does to its topic ids and to what it waits for. -/
inductive Change (input : Input) (before after : Session) : Prop where
  /-- Nothing that is about topics, but what the session waits for may be
  forgotten. -/
  | rest (htopics : after.topics = before.topics)
      (hphase : after.phase = before.phase ∨ after.phase.isConnected = false)
  | accept (hinput : input.isAcceptance = true) (htopics : after.topics = before.topics)
      (hafter : after.phase = .connected {})
  | exchange {exchanges exchanges' : Exchanges} (htopics : after.topics = before.topics)
      (hbefore : before.phase = .connected exchanges)
      (hafter : after.phase = .connected exchanges')
      (hoffer : ∀ registration ∈ exchanges'.registration, ∃ earlier ∈ exchanges.registration,
        earlier.offered = registration.offered)
      (hasked : ∀ request ∈ exchanges'.unsubscribe, request ∈ exchanges.unsubscribe ∨
        request.AskedBy input)
  | register (name : String) (htopics : after.topics = (before.topics.register name).2)
      (hphase : after.phase = before.phase) (hinput : input.mayName = true)
  | offer {exchanges : Exchanges} {registration : Registration} (name : String)
      (hnext : before.topics.next ≤ 65535)
      (htopics : after.topics = { before.topics with next := before.topics.next + 1 })
      (hoffered : registration.offered = (UInt16.ofNat before.topics.next, name))
      (hbefore : before.phase = .connected exchanges)
      (hafter : after.phase = .connected { exchanges with registration := some registration })
      (hunknown : before.topics.id? name = none)
  | bind {exchanges : Exchanges} {registration : Registration}
      (htopics : after.topics =
        (before.topics.assign registration.topicId registration.publication.topic).2)
      (hsome : exchanges.registration = some registration)
      (hbefore : before.phase = .connected exchanges)
      (hafter : after.phase = .connected { exchanges with registration := none })
      (hinput : input.mayName = true)
  | forgetId {seen : Address} {ack : Sensor.TopicAck} {link : LinkName}
      (htopics : after.topics = (before.topics.removeId ack.topicId).2)
      (hinput : input = .sensor seen (.puback ack) link)
      (hcode : ack.returnCode = .invalidTopicId)
      (hbefore : before.phase.isConnected = true) (hphase : after.phase = before.phase)
  | forgetName {exchanges : Exchanges} {request : RequestInFlight} {name : String}
      (htopics : after.topics = (before.topics.removeName request.name).2)
      (hinput : input = .broker (.unsuback request.msgId))
      (hsome : exchanges.unsubscribe = some request) (htopic : request.topic = .named name)
      (hbefore : before.phase = .connected exchanges) (hphase : after.phase = before.phase)

theorem isConnected_of_usesBroker {phase : Phase} (h : phase.usesBroker = false) :
    phase.isConnected = false := by
  cases phase with
  | connected exchanges => cases h
  | _ => rfl

namespace Transition

variable {context : Context} {input : Input} {t next : Transition}

theorem session_tearDown :
    t.tearDown.session =
      { t.session with phase := .idle, tornDown := true, brokerOpen := false } := by
  have hsession : (t.toDevice (.disconnect none)).session = t.session := session_toDevice _
  change { (t.toDevice (.disconnect none)).session with
    phase := .idle, tornDown := true, brokerOpen := false } = _
  rw [hsession]

theorem change_tearDown : Change input t.session t.tearDown.session := by
  rw [session_tearDown]
  exact .rest rfl (.inr rfl)

theorem change_connectBroker (request : Sensor.Connect) (will : Option Broker.Will) :
    Change input t.session (t.connectBroker context request will).session := by
  unfold connectBroker
  simp only [openBroker]
  split
  next hresult =>
    rw [← (Prod.mk.inj hresult).2]
    exact .rest rfl (.inr rfl)
  next opened hresult =>
    rw [← (Prod.mk.inj hresult).2]
    simp only [sendBroker]
    split
    next hsent =>
      rw [← (Prod.mk.inj hsent).2]
      exact .rest rfl (.inr rfl)
    next hsent =>
      rw [← (Prod.mk.inj hsent).2]
      exact .rest rfl (.inr rfl)

theorem change_forward (line : Broker.Line) (message : Broker.Message) :
    Change input t.session (t.forward line message).2.session := by
  have hsent : Change input t.session (t.sendBroker line message).2.session :=
    .rest rfl (.inl rfl)
  have htorn : Change input t.session (t.sendBroker line message).2.tearDown.session := by
    rw [session_tearDown]
    exact .rest rfl (.inr rfl)
  unfold forward
  rcases hresult : t.sendBroker line message with ⟨taken, sent⟩
  rw [hresult] at hsent htorn
  cases taken with
  | true => exact hsent
  | false =>
    simp only [connectionLost]
    split
    · exact hsent
    · exact htorn

theorem change_offerTopic {exchanges : Exchanges} (publication : Broker.Publish)
    (hphase : t.session.phase = .connected exchanges)
    (hunknown : t.session.topics.id? publication.topic = none) :
    Change input t.session (t.offerTopic exchanges publication).session := by
  unfold offerTopic
  split
  · exact .rest rfl (.inl rfl)
  · unfold Topic.Table.allocate
    by_cases hnext : t.session.topics.next > 65535
    · rw [if_pos hnext]
      exact .rest rfl (.inl rfl)
    · rw [if_neg hnext]
      simp only [emit, enter, update]
      rw [session_toDevice]
      exact .offer publication.topic (Nat.not_lt.mp hnext) rfl rfl hphase rfl hunknown

/-- Every act is one change at most. -/
theorem act_change (hact : Act context input t next) :
    Change input t.session next.session := by
  cases hact with
  | tell message =>
    rw [session_toDevice]
    exact .rest rfl (.inl rfl)
  | emit => exact .rest rfl (.inl rfl)
  | note => exact .rest rfl (.inl rfl)
  | wait hbefore hafter => exact .rest rfl (.inr (isConnected_of_usesBroker hafter))
  | ask request will => exact change_connectBroker request will
  | restart => exact .rest rfl (.inr rfl)
  | accept hphase hinput => exact .accept hinput rfl rfl
  | exchange hphase hoffer hasked => exact .exchange rfl hphase rfl hoffer hasked
  | forward => exact change_forward context.line _
  | tearDown => exact change_tearDown
  | leave =>
    rw [session_tearDown]
    exact .rest rfl (.inr rfl)
  | shutDown =>
    simp only [shutDown]
    split <;> exact .rest rfl (.inl rfl)
  | close => exact .rest rfl (.inl rfl)
  | register name hinput => exact .register name rfl rfl hinput
  | offer publication hphase hunknown => exact change_offerTopic publication hphase hunknown
  | bind hphase hsome hinput => exact .bind rfl hsome hphase rfl hinput
  | forgetId hphase hinput hcode => exact .forgetId rfl hinput hcode hphase rfl
  | forgetName hphase hinput hsome htopic => exact .forgetName rfl hinput hsome htopic hphase rfl

end Transition

/-! ### Meanings -/

def offered? (session : Session) : Option (UInt16 × String) :=
  session.exchanges.registration.map (·.offered)

/-- Whether an id stands for a name: the name is under it, or the device is asked
to take it for the name. -/
def Means (session : Session) (id : UInt16) (name : String) : Prop :=
  session.topics.name? id = some name ∨ session.offered? = some (id, name)

structure Sound (config : Config) (session : Session) : Prop where
  proper : session.topics.Proper config
  offered : ∀ id name, session.offered? = some (id, name) →
    config.predefinedTopicIdSize < id ∧ id.toNat < session.topics.next ∧
      session.topics.name? id = none

/-- What becomes of the ids that were given out before: they mean what they meant
or nothing, and what means something by now is not offered again. -/
structure Keeps (before after : Session) : Prop where
  next : before.topics.next ≤ after.topics.next
  mapped : ∀ id name, id.toNat < before.topics.next → after.topics.name? id = some name →
    before.Means id name
  offered : ∀ id name, id.toNat < before.topics.next → after.offered? = some (id, name) →
    before.offered? = some (id, name)

variable {config : Config} {input : Input} {session before between after : Session}

theorem Keeps.refl (session : Session) : Keeps session session :=
  ⟨Nat.le_refl _, fun _ _ _ hsome => .inl hsome, fun _ _ _ hsome => hsome⟩

/-- An id that was given out means nothing that it did not mean before. -/
theorem Keeps.means (h : Keeps before after) {id : UInt16} {name : String}
    (hid : id.toNat < before.topics.next) (hmeans : after.Means id name) :
    before.Means id name :=
  hmeans.elim (h.mapped id name hid) fun hoffered => .inr (h.offered id name hid hoffered)

theorem Keeps.trans (h : Keeps before between) (h' : Keeps between after) :
    Keeps before after := by
  refine ⟨Nat.le_trans h.next h'.next, fun id name hid hsome => ?_, fun id name hid hsome => ?_⟩
  · exact h.means hid (h'.mapped id name (Nat.lt_of_lt_of_le hid h.next) hsome)
  · exact h.offered id name hid (h'.offered id name (Nat.lt_of_lt_of_le hid h.next) hsome)

theorem isConnected_of_connected {exchanges : Exchanges}
    (h : session.phase = .connected exchanges) : session.phase.isConnected = true := by
  rw [h]
  rfl

theorem exists_connected (h : session.phase.isConnected = true) :
    ∃ exchanges, session.phase = .connected exchanges := by
  cases hphase : session.phase with
  | connected exchanges => exact ⟨exchanges, rfl⟩
  | _ => rw [hphase] at h; cases h

theorem awaits_connack_iff :
    session.awaits .connack = true ↔ session.phase = .awaitingConnack := by
  unfold awaits
  cases session.phase <;> simp

theorem exchanges_of_connected {exchanges : Exchanges} (h : session.phase = .connected exchanges) :
    session.exchanges = exchanges := by
  unfold Session.exchanges
  rw [h]

theorem exchanges_of_not_connected (h : session.phase.isConnected = false) :
    session.exchanges = {} := by
  unfold Session.exchanges
  split
  next exchanges hphase =>
    rw [hphase] at h
    cases h
  next => rfl

theorem exchanges_congr (h : after.phase = before.phase) : after.exchanges = before.exchanges := by
  unfold Session.exchanges
  rw [h]

theorem offered?_of_connected {exchanges : Exchanges} (h : session.phase = .connected exchanges) :
    session.offered? = exchanges.registration.map (·.offered) := by
  rw [offered?, exchanges_of_connected h]

theorem offered?_of_not_connected (h : session.phase.isConnected = false) :
    session.offered? = none := by
  rw [offered?, exchanges_of_not_connected h]
  rfl

theorem offered?_congr (h : after.phase = before.phase) : after.offered? = before.offered? := by
  rw [offered?, exchanges_congr h, offered?]

/-- Names may be taken away, and nothing new is offered. -/
theorem Sound.lose (h : Sound config before) (hproper : after.topics.Proper config)
    (hnext : after.topics.next = before.topics.next)
    (hnames : ∀ id name, after.topics.name? id = some name → before.topics.name? id = some name)
    (hoffer : ∀ id name, after.offered? = some (id, name) → before.offered? = some (id, name)) :
    Sound config after ∧ Keeps before after := by
  refine ⟨⟨hproper, fun id name hsome => ?_⟩, ⟨Nat.le_of_eq hnext.symm, ?_, ?_⟩⟩
  · obtain ⟨hid, hbelow, hnone⟩ := h.offered id name (hoffer id name hsome)
    refine ⟨hid, hnext ▸ hbelow, ?_⟩
    cases hname : after.topics.name? id with
    | none => rfl
    | some known => cases hnone.symm.trans (hnames id known hname)
  · exact fun id name _ hsome => .inl (hnames id name hsome)
  · exact fun id name _ hsome => hoffer id name hsome

/-- The topic ids stay, and nothing new is offered. -/
theorem Sound.stay (h : Sound config before) (htopics : after.topics = before.topics)
    (hoffer : ∀ id name, after.offered? = some (id, name) → before.offered? = some (id, name)) :
    Sound config after ∧ Keeps before after :=
  h.lose (htopics ▸ h.proper) (congrArg _ htopics) (fun _ _ hsome => htopics ▸ hsome) hoffer

/-- A name gets the id that is given out next, if it has none. -/
theorem Sound.register (h : Sound config before) {name : String}
    (htopics : after.topics = (before.topics.register name).2)
    (hoffer : after.offered? = before.offered?) : Sound config after ∧ Keeps before after := by
  have hkept (id : UInt16) (hbelow : id.toNat < before.topics.next) :
      after.topics.name? id = before.topics.name? id := by
    rw [htopics]
    exact h.proper.name?_register name hbelow
  have hlater : before.topics.next ≤ after.topics.next := by
    rw [htopics]
    exact Topic.Table.next_le_register _ name
  refine ⟨⟨htopics ▸ h.proper.register name, fun id known hsome => ?_⟩, hlater,
    fun id known hbelow hsome => .inl (hkept id hbelow ▸ hsome),
    fun id known _ hsome => hoffer ▸ hsome⟩
  obtain ⟨habove, hbelow, hnone⟩ := h.offered id known (hoffer ▸ hsome)
  exact ⟨habove, Nat.lt_of_lt_of_le hbelow hlater, (hkept id hbelow).trans hnone⟩

/-- The id that is given out next is offered, and no name is under it. -/
theorem Sound.offer (h : Sound config before) {name : String}
    (hnext : before.topics.next ≤ 65535)
    (htopics : after.topics = { before.topics with next := before.topics.next + 1 })
    (hoffered : after.offered? = some (UInt16.ofNat before.topics.next, name)) :
    Sound config after ∧ Keeps before after := by
  obtain ⟨hid, htoNat⟩ := h.proper.lt_next hnext
  have hnames (id : UInt16) : after.topics.name? id = before.topics.name? id := by
    rw [htopics]
    rfl
  have hgrown : after.topics.next = before.topics.next + 1 := congrArg _ htopics
  refine ⟨⟨htopics ▸ h.proper.allocate, fun id known hsome => ?_⟩,
    hgrown ▸ Nat.le_succ _, fun id known _ hsome => .inl (hnames id ▸ hsome),
    fun id known hbelow hsome => ?_⟩
  · cases hoffered.symm.trans hsome
    refine ⟨hid, ?_, ?_⟩
    · rw [htoNat, hgrown]
      exact Nat.lt_succ_self _
    · cases hname : after.topics.name? (UInt16.ofNat before.topics.next) with
      | none => rfl
      | some other =>
        have hbelow := (h.proper.given _ other (hnames _ ▸ hname)).2
        rw [htoNat] at hbelow
        exact (Nat.lt_irrefl _ hbelow).elim
  · cases hoffered.symm.trans hsome
    rw [htoNat] at hbelow
    exact (Nat.lt_irrefl _ hbelow).elim

/-- Taking an offer gives the id its name and leaves all others alone. -/
theorem Sound.name?_assign (h : Sound config before) {id : UInt16} {name : String}
    (hoffered : before.offered? = some (id, name)) (other : UInt16) :
    (before.topics.assign id name).2.name? other =
      if other = id then some name else before.topics.name? other := by
  obtain ⟨hid, -, -⟩ := h.offered id name hoffered
  exact Topic.Table.name?_assign (Topic.Table.ne_zero_of_lt hid)
    (h.proper.isPredefined_of_lt hid) name other

/-- The name that was offered for an id is put under it. -/
theorem Sound.bind (h : Sound config before) {id : UInt16} {name : String}
    (hoffered : before.offered? = some (id, name))
    (htopics : after.topics = (before.topics.assign id name).2)
    (hended : after.offered? = none) : Sound config after ∧ Keeps before after := by
  obtain ⟨hid, hbelow, hnone⟩ := h.offered id name hoffered
  have hnames (other : UInt16) : after.topics.name? other =
      if other = id then some name else before.topics.name? other :=
    htopics ▸ h.name?_assign hoffered other
  have hkept : after.topics.next = before.topics.next := by
    rw [htopics, Topic.Table.next_assign]
  refine ⟨⟨htopics ▸ h.proper.assign hid hbelow name, fun other known hsome => ?_⟩,
    Nat.le_of_eq hkept.symm, fun other known _ hsome => ?_, fun other known _ hsome => ?_⟩
  · cases hended.symm.trans hsome
  · rw [hnames] at hsome
    split at hsome
    next heq =>
      cases hsome
      exact .inr (heq ▸ hoffered)
    next => exact .inl hsome
  · cases hended.symm.trans hsome

/-- A change leaves a session sound, and what was given out as it was. -/
theorem Change.sound (hchange : Change input before after) (h : Sound config before) :
    Sound config after ∧ Keeps before after := by
  cases hchange with
  | rest htopics hphase =>
    refine h.stay htopics fun id name hsome => ?_
    rcases hphase with hsame | hgone
    · rw [← offered?_congr hsame, hsome]
    · cases (offered?_of_not_connected hgone).symm.trans hsome
  | accept hinput htopics hafter =>
    refine h.stay htopics fun id name hsome => ?_
    cases (offered?_of_connected hafter).symm.trans hsome
  | exchange htopics hbefore hafter hoffer hasked =>
    refine h.stay htopics fun id name hsome => ?_
    rw [offered?_of_connected hafter] at hsome
    obtain ⟨registration, hin, heq⟩ := Option.map_eq_some_iff.mp hsome
    obtain ⟨earlier, hearlier, hsame⟩ := hoffer registration hin
    rw [offered?_of_connected hbefore, Option.mem_def.mp hearlier, Option.map_some, hsame, heq]
  | register name htopics hphase => exact h.register htopics (offered?_congr hphase)
  | offer name hnext htopics hoffered hbefore hafter =>
    have hoffer : after.offered? = some (UInt16.ofNat before.topics.next, name) := by
      rw [offered?_of_connected hafter, Option.map_some, hoffered]
    exact h.offer hnext htopics hoffer
  | bind htopics hsome hbefore hafter =>
    refine h.bind ?_ htopics (offered?_of_connected hafter)
    rw [offered?_of_connected hbefore, hsome]
    rfl
  | forgetId htopics hinput hcode hbefore hphase =>
    refine h.lose (htopics ▸ h.proper.removeId _) ?_ (fun id name hsome => ?_)
      fun id name hsome => offered?_congr hphase ▸ hsome
    · rw [htopics, Topic.Table.next_removeId]
    · rw [htopics] at hsome
      exact h.proper.name?_of_removeId hsome
  | forgetName htopics hinput hsome htopic hbefore hphase =>
    refine h.lose (htopics ▸ h.proper.removeName _) ?_ (fun id name hnamed => ?_)
      fun id name hoffered => offered?_congr hphase ▸ hoffered
    · rw [htopics, Topic.Table.next_removeName]
    · rw [htopics, Topic.Table.name?_removeName h.proper.sorted] at hnamed
      exact Option.eq_some_of_filter_eq_some hnamed

/-! ### Losses -/

/-- Why an id may lose its name in a turn: the device does not know the id, or the
broker tells that the subscription to the name is over. -/
inductive Lost (input : Input) (session : Session) (id : UInt16) (name : String) : Prop where
  | refused {seen : Address} {ack : Sensor.TopicAck} {link : LinkName}
      (hinput : input = .sensor seen (.puback ack) link)
      (hcode : ack.returnCode = .invalidTopicId) (hid : ack.topicId = id)
      (hconnected : session.phase.isConnected = true)
  | unsubscribed {request : RequestInFlight} {full : String}
      (hrequest : request ∈ session.exchanges.unsubscribe)
      (hinput : input = .broker (.unsuback request.msgId))
      (htopic : request.topic = .named full) (hname : request.name = name)

/-- How a session stands in the midst of a turn to how it was before: it is
connected, asks the broker and has lost names for a reason only. -/
structure Stands (input : Input) (before after : Session) : Prop where
  connected : after.phase.isConnected = true →
    before.phase.isConnected = true ∨ input.isAcceptance = true
  asked : ∀ request ∈ after.exchanges.unsubscribe,
    request ∈ before.exchanges.unsubscribe ∨ request.AskedBy input
  named : ∀ id name, before.topics.name? id = some name →
    after.topics.name? id = some name ∨ Lost input before id name

/-- Names may be lost, but nothing else changes. -/
theorem Stands.of_phase (hphase : after.phase = before.phase)
    (hnamed : ∀ id name, before.topics.name? id = some name →
      after.topics.name? id = some name ∨ Lost input before id name) :
    Stands input before after := by
  refine ⟨?_, ?_, hnamed⟩
  · intro hconnected
    exact .inl (hphase ▸ hconnected)
  · intro request hin
    exact .inl (exchanges_congr hphase ▸ hin)

theorem Stands.refl (input : Input) (session : Session) : Stands input session session :=
  .of_phase rfl fun _ _ hsome => .inl hsome

/-- A connected session stays one, and asks for nothing that it did not ask for. -/
theorem Stands.of_connected {exchanges exchanges' : Exchanges}
    (hbefore : before.phase = .connected exchanges) (hafter : after.phase = .connected exchanges')
    (hasked : ∀ request ∈ exchanges'.unsubscribe, request ∈ exchanges.unsubscribe ∨
      request.AskedBy input)
    (hnamed : ∀ id name, before.topics.name? id = some name → after.topics.name? id = some name) :
    Stands input before after := by
  refine ⟨?_, ?_, fun id name hsome => .inl (hnamed id name hsome)⟩
  · intro _
    rw [hbefore]
    exact .inl rfl
  · rw [exchanges_of_connected hbefore, exchanges_of_connected hafter]
    exact hasked

/-- A session that is not connected waits for nothing. -/
theorem Stands.of_not_connected (hphase : after.phase.isConnected = false)
    (htopics : after.topics = before.topics) : Stands input before after := by
  refine ⟨?_, ?_, ?_⟩
  · intro hconnected
    cases hphase.symm.trans hconnected
  · intro request hin
    rw [exchanges_of_not_connected hphase] at hin
    cases hin
  · intro id name hsome
    exact .inl (htopics ▸ hsome)

/-- A reason in the midst of a turn is one before the turn: neither message is
one that connects the session or asks the broker for something. -/
theorem Stands.lost (h : Stands input before between) {id : UInt16} {name : String}
    (hlost : Lost input between id name) : Lost input before id name := by
  cases hlost with
  | refused hinput hcode hid hconnected =>
    rcases h.connected hconnected with hbefore | haccepted
    · exact .refused hinput hcode hid hbefore
    · rw [hinput] at haccepted
      cases haccepted
  | unsubscribed hrequest hinput htopic hname =>
    rcases h.asked _ hrequest with hbefore | ⟨seen, flags, link, hasked, -⟩
    · exact .unsubscribed hbefore hinput htopic hname
    · cases hinput.symm.trans hasked

theorem Stands.trans (h : Stands input before between) (h' : Stands input between after) :
    Stands input before after := by
  refine ⟨?_, ?_, ?_⟩
  · intro hconnected
    rcases h'.connected hconnected with hbetween | haccepted
    · exact h.connected hbetween
    · exact .inr haccepted
  · intro request hin
    rcases h'.asked request hin with hbetween | hasked
    · exact h.asked request hbetween
    · exact .inr hasked
  · intro id name hsome
    rcases h.named id name hsome with hkept | hlost
    · exact (h'.named id name hkept).imp_right h.lost
    · exact .inr hlost

/-- A change takes names away for a reason only. -/
theorem Change.stands (hchange : Change input before after) (h : Sound config before) :
    Stands input before after := by
  cases hchange with
  | rest htopics hphase =>
    rcases hphase with hsame | hgone
    · exact .of_phase hsame fun id name hsome => .inl (htopics ▸ hsome)
    · exact .of_not_connected hgone htopics
  | accept hinput htopics hafter =>
    refine ⟨fun _ => .inr hinput, ?_, fun id name hsome => .inl (htopics ▸ hsome)⟩
    intro request hin
    rw [exchanges_of_connected hafter] at hin
    cases hin
  | exchange htopics hbefore hafter hoffer hasked =>
    exact .of_connected hbefore hafter hasked fun id name hsome => htopics ▸ hsome
  | register name htopics hphase =>
    refine .of_phase hphase fun id known hsome => .inl ?_
    rw [htopics, h.proper.name?_register name (h.proper.given id known hsome).2, hsome]
  | offer name hnext htopics hoffered hbefore hafter =>
    refine .of_connected hbefore hafter (fun _ hin => .inl hin) fun id known hsome => ?_
    rw [htopics]
    exact hsome
  | @bind exchanges registration htopics hoffer hbefore hafter =>
    refine .of_connected hbefore hafter (fun _ hin => .inl hin) fun id known hsome => ?_
    have hoffered : before.offered? =
        some (registration.topicId, registration.publication.topic) := by
      rw [offered?_of_connected hbefore, hoffer]
      rfl
    have hother : id ≠ registration.topicId := by
      rintro rfl
      cases (h.offered _ _ hoffered).2.2.symm.trans hsome
    rw [htopics, h.name?_assign hoffered, if_neg hother, hsome]
  | @forgetId seen ack link htopics hinput hcode hbefore hphase =>
    refine .of_phase hphase fun id known hsome => ?_
    by_cases hid : id = ack.topicId
    · exact .inr (.refused hinput hcode hid.symm hbefore)
    · refine .inl ?_
      rw [htopics, h.proper.name?_removeId_of_ne hid, hsome]
  | @forgetName exchanges request full htopics hinput hrequest htopic hbefore hphase =>
    refine .of_phase hphase fun id known hsome => ?_
    by_cases hname : request.name = known
    · refine .inr (.unsubscribed ?_ hinput htopic hname)
      rw [exchanges_of_connected hbefore]
      exact hrequest
    · refine .inl ?_
      rw [htopics, Topic.Table.name?_removeName h.proper.sorted, hsome]
      simp [Option.filter, Ne.symm hname]

/-! ### Turns and runs -/

/-- Whom a session hears makes no difference to its topic ids. -/
theorem change_hear (config : Config) (turn : Turn) (session : Session) :
    Change turn.input session (session.hear config turn) :=
  .rest (topics_hear config turn session) (.inl (phase_hear config turn session))

theorem acts_sound {context : Context} {t next : Transition} (hacts : Acts context input t next)
    (h : Sound config t.session) :
    Sound config next.session ∧ Keeps t.session next.session ∧
      Stands input t.session next.session := by
  induction hacts with
  | refl => exact ⟨h, .refl _, .refl _ _⟩
  | tail _ hact ih =>
    obtain ⟨hsound, hkeeps, hstands⟩ := ih
    have hchange := Transition.act_change hact
    obtain ⟨hafter, hkept⟩ := hchange.sound hsound
    exact ⟨hafter, hkeeps.trans hkept, hstands.trans (hchange.stands hsound)⟩

/-- A turn leaves a session sound, whatever it brings. -/
theorem take_sound (turn : Turn) (h : Sound config session) :
    let after := (session.take config turn).session
    Sound config after ∧ Keeps session after ∧ Stands turn.input session after := by
  have hheard := change_hear config turn session
  obtain ⟨hbegun, hkeeps⟩ := hheard.sound h
  obtain ⟨hafter, hkept, hstands⟩ := acts_sound (take_acts config turn session) hbegun
  exact ⟨hafter, hkeeps.trans hkept, (hheard.stands h).trans hstands⟩

/-- So does any number of turns. -/
theorem run_sound (turns : List Turn) (h : Sound config session) :
    let after := (session.run config turns).session
    Sound config after ∧ Keeps session after := by
  induction turns generalizing session with
  | nil => exact ⟨h, .refl session⟩
  | cons turn turns ih =>
    obtain ⟨hfirst, hkeeps, -⟩ := take_sound turn h
    obtain ⟨hlast, hkept⟩ := ih hfirst
    exact ⟨hlast, hkeeps.trans hkept⟩

/-- What a session asks the broker to end was asked for by its device. -/
theorem run_asked (turns : List Turn) (h : Sound config session) {request : RequestInFlight}
    (hin : request ∈ (session.run config turns).session.exchanges.unsubscribe) :
    request ∈ session.exchanges.unsubscribe ∨ ∃ turn ∈ turns, request.AskedBy turn.input := by
  induction turns generalizing session with
  | nil => exact .inl hin
  | cons turn turns ih =>
    obtain ⟨hfirst, -, hstands⟩ := take_sound turn h
    rcases ih hfirst hin with hearlier | ⟨asked, hlater, hasked⟩
    · rcases hstands.asked request hearlier with hbefore | hasked
      · exact .inl hbefore
      · exact .inr ⟨turn, List.mem_cons_self, hasked⟩
    · exact .inr ⟨asked, List.mem_cons_of_mem _ hlater, hasked⟩

theorem sound_begin (config : Config) (address : Address) (now : Nat) :
    Sound config (begin config address now) :=
  ⟨Topic.Table.proper_topicTable config, fun _ _ hsome => by cases hsome⟩

/-- At no time does an id stand for two names. -/
theorem Sound.means_unique (h : Sound config session) {id : UInt16} {name known : String}
    (hname : session.Means id name) (hknown : session.Means id known) : name = known := by
  rcases hname with hname | hname
  · rcases hknown with hknown | hknown
    · exact Option.some.inj (hname.symm.trans hknown)
    · cases hname.symm.trans (h.offered id known hknown).2.2
  · rcases hknown with hknown | hknown
    · cases hknown.symm.trans (h.offered id name hname).2.2
    · cases hname.symm.trans hknown
      rfl

/-- An id that stands for something was given out. -/
theorem Sound.lt_next (h : Sound config session) {id : UInt16} {name : String}
    (hname : session.Means id name) : id.toNat < session.topics.next :=
  hname.elim (fun hsome => (h.proper.given id name hsome).2)
    fun hoffered => (h.offered id name hoffered).2.1

/-- A topic id is never given to another name, not even after it was given up. Of
the ids that have a name the predefined ones have that of the configuration, and
the others were given out; what is offered is among these and has no name yet.
An id loses its name only if the device does not know it, or if the subscription
ends that the device had asked to end by this name. -/
theorem run_meanings (config : Config) (address : Address) (now : Nat)
    (turns later : List Turn) (turn : Turn) (id : UInt16) (name : String) :
    let first := ((begin config address now).run config turns).session
    let last := (first.run config later).session
    let next := (first.take config turn).session
    (∀ known, first.Means id known → last.Means id name → name = known) ∧
    (id.toNat < first.topics.next → (∀ known, ¬ first.Means id known) → ¬ last.Means id name) ∧
    (first.topics.name? id = some name →
      (id ≠ 0 ∧ id ≤ config.predefinedTopicIdSize) ∨
        (config.predefinedTopicIdSize < id ∧ id.toNat < first.topics.next)) ∧
    (first.offered? = some (id, name) →
      config.predefinedTopicIdSize < id ∧ id.toNat < first.topics.next ∧
        first.topics.name? id = none) ∧
    (id ≠ 0 → id ≤ config.predefinedTopicIdSize →
      first.topics.name? id = config.predefinedName? id) ∧
    (first.topics.name? id = some name → next.topics.name? id ≠ some name →
      (first.phase.isConnected = true ∧ ∃ seen ack link,
        turn.input = .sensor seen (.puback ack) link ∧ ack.returnCode = .invalidTopicId ∧
          ack.topicId = id) ∨
      ∃ request ∈ first.exchanges.unsubscribe,
        turn.input = .broker (.unsuback request.msgId) ∧ request.topic = .named name ∧
          ∃ asked ∈ turns, ∃ seen flags link,
            asked.input =
              .sensor seen (.unsubscribe ⟨flags, request.msgId, .named name⟩) link) := by
  intro first last next
  have hbegin := sound_begin config address now
  obtain ⟨hfirst, -⟩ : Sound config first ∧ _ := run_sound turns hbegin
  obtain ⟨-, hkeeps⟩ : Sound config last ∧ Keeps first last := run_sound later hfirst
  obtain ⟨-, -, hstands⟩ : Sound config next ∧ Keeps first next ∧ Stands turn.input first next :=
    take_sound turn hfirst
  refine ⟨?_, ?_, ?_, hfirst.offered id name, ?_, ?_⟩
  · intro known hknown hname
    exact hfirst.means_unique (hkeeps.means (hfirst.lt_next hknown) hname) hknown
  · intro hbelow hnone hname
    exact hnone name (hkeeps.means hbelow hname)
  · intro hsome
    obtain ⟨hne, hbelow⟩ := hfirst.proper.given id name hsome
    by_cases hrange : id ≤ config.predefinedTopicIdSize
    · exact .inl ⟨hne, hrange⟩
    · exact .inr ⟨UInt16.not_le.mp hrange, hbelow⟩
  · intro hne hrange
    exact hfirst.proper.predefined id (hfirst.proper.isPredefined_iff.mpr ⟨hne, hrange⟩)
  · intro hsome hgone
    rcases hstands.named id name hsome with hkept | hlost
    · exact (hgone hkept).elim
    · cases hlost with
      | refused hinput hcode hid hconnected =>
        exact .inl ⟨hconnected, _, _, _, hinput, hcode, hid⟩
      | @unsubscribed request full hrequest hinput htopic hname =>
        rcases run_asked turns hbegin hrequest with hbefore | ⟨asked, hin, hasked⟩
        · cases hbefore
        · obtain ⟨seen, flags, link, htold, hfull⟩ := hasked
          have hnamed : request.topic = .named name := by
            rw [htopic, ← hname, hfull full htopic]
          rw [hnamed] at htold
          exact .inr ⟨request, hrequest, hinput, hnamed, asked, hin, seen, flags, link, htold⟩

def connectAndRegister : List Turn :=
  [⟨0, {}, .sensor meter (.connect
      { flags := {}, protocolId := 1, duration := 60, clientId := "d" }) "udp:20000"⟩,
    ⟨1, {}, .broker (.connack Broker.Message.accepted)⟩,
    ⟨2, {}, .sensor meter (.register ⟨0, 1, "temperature"⟩) "udp:20000"⟩]

def refuseTopic (topicId : UInt16) : Turn :=
  ⟨3, {}, .sensor meter (.puback ⟨topicId, 0, .invalidTopicId⟩) "udp:20000"⟩

/-- The id that the name gets is lost as the device refuses it, and stands for
nothing when the name is registered again. -/
theorem run_meanings_connectAndRegister :
    let first := ((begin {} meter 0).run {} connectAndRegister).session
    let later := [refuseTopic 51] ++ connectAndRegister.drop 2
    let last := (first.run {} later).session
    first.topics.name? 51 = some "temperature" ∧ 51 < first.topics.next ∧
      last.topics.name? 51 = none ∧ ¬ last.Means 51 "humidity" ∧
      last.topics.name? 52 = some "temperature" ∧
      first.phase.isConnected = true := by
  have hmeanings := run_meanings {} meter 0 connectAndRegister
    ([refuseTopic 51] ++ connectAndRegister.drop 2) (refuseTopic 51) 51
  obtain ⟨hunique, -⟩ := hmeanings "humidity"
  obtain ⟨-, -, hmapped, -, -, hlost⟩ := hmeanings "temperature"
  refine ⟨rfl, ?_, rfl, ?_, rfl, ?_⟩
  · rcases hmapped rfl with hrange | hrange
    · exact absurd hrange.2 (by decide)
    · exact hrange.2
  · intro hmeans
    exact absurd (hunique "temperature" (.inl rfl) hmeans) (by decide)
  · rcases hlost rfl nofun with ⟨hconnected, -⟩ | ⟨request, hin, -⟩
    · exact hconnected
    · cases hin

end Session

end SensorGateway
