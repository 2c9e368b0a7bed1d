import SensorGateway.Proofs.Session.Agreement
import SensorGateway.Proofs.Session.Deeds

/-!
What becomes of the publications of the broker. One whose topic the device can be
told is sent at once. For any other the device is offered an id first; the
publication waits meanwhile, and the offer is repeated under new message ids.
`deliveries_attributed` says, over a whole life, that the device gets nothing
that was not published for it, nothing twice and nothing under a wrong name, and
what happens to what waits.
-/

namespace SensorGateway.Session

/-- A publication of the broker as the device gets it, under an id of this type. -/
def delivered (publication : Broker.Publish) (type : Sensor.TopicIdType) (topicId : UInt16) :
    Sensor.Publish where
  flags := .ofData publication.dup ((Sensor.QoS.ofLevel? publication.qos).getD .atMostOnce)
    publication.retain type
  topicId := topicId
  msgId := publication.msgId
  data := publication.data

/-- The offer of the next id, if there is one and nothing else is offered. -/
theorem Transition.offerTopic_eq {t : Transition} {exchanges : Exchanges}
    (publication : Broker.Publish) (hfree : exchanges.registration = none)
    (hroom : t.session.topics.next ≤ 65535) :
    let registration : Registration :=
      ⟨UInt16.ofNat t.session.topics.next, t.session.nextMsgId, publication, 1⟩
    t.offerTopic exchanges publication =
      ((((t.update fun session => { session with
        topics := { session.topics with next := session.topics.next + 1 } }).takeMsgId.2).toDevice
          (.register registration.register)).enter
            (.connected { exchanges with registration := some registration })).emit
              (.arm .regackTimeout) := by
  simp only [offerTopic, hfree, Topic.Table.allocate_of_room hroom]
  rfl

namespace Life

def deliveries (life : Life) (n : Nat) : List Sensor.Publish :=
  (life.step n).told.filterMap (·.publication?)

def offers (life : Life) (n : Nat) : List Sensor.Register :=
  (life.step n).told.filterMap (·.registration?)

def openOffer (life : Life) (n : Nat) : Option Registration :=
  (life.before n).exchanges.registration

def Publishes (life : Life) (n : Nat) (publication : Broker.Publish) : Prop :=
  (life.turn n).input = .broker (.publish publication)

/-- What a turn does to the offer and to the publication that waits with it. -/
inductive Dealing (life : Life) (n : Nat) : Prop where
  /-- There is no more than before. -/
  | rest (hkept : life.openOffer (n + 1) = life.openOffer n ∨ life.openOffer (n + 1) = none)
      (hdeliveries : life.deliveries n = []) (hoffers : life.offers n = [])
  | atOnce {publication : Broker.Publish} {type : Sensor.TopicIdType} {topicId : UInt16}
      (hpublished : life.Publishes n publication)
      (hrefers : (life.before n).topics.reference? publication.topic = some (type, topicId))
      (hconnected : (life.before n).phase.isConnected = true)
      (hphase : (life.before (n + 1)).phase = (life.before n).phase)
      (htopics : (life.before (n + 1)).topics = (life.before n).topics)
      (hdeliveries : life.deliveries n = [delivered publication type topicId])
      (hoffers : life.offers n = [])
  | offer {registration : Registration} (hpublished : life.Publishes n registration.publication)
      (hrefers : (life.before n).topics.reference? registration.publication.topic = none)
      (hconnected : (life.before n).phase.isConnected = true)
      (hfree : life.openOffer n = none) (hnext : life.openOffer (n + 1) = some registration)
      (hdeliveries : life.deliveries n = []) (hoffers : life.offers n = [registration.register])
  | again {registration next : Registration} (hinput : (life.turn n).input = .signal .regackTimeout)
      (hsome : life.openOffer n = some registration) (hnext : life.openOffer (n + 1) = some next)
      (htopicId : next.topicId = registration.topicId)
      (hpublication : next.publication = registration.publication)
      (hleft : registration.tries.toNat ≤ life.config.maxRetries)
      (hdeliveries : life.deliveries n = []) (hoffers : life.offers n = [next.register])
  | bind {registration : Registration} {ack : Sensor.TopicAck} (hheard : life.Hears n (.regack ack))
      (hsome : life.openOffer n = some registration) (hid : ack.msgId = registration.msgId)
      (hcode : ack.returnCode = .accepted) (hnext : life.openOffer (n + 1) = none)
      (hconnected : (life.before (n + 1)).phase.isConnected = true)
      (htopics : (life.before (n + 1)).topics =
        ((life.before n).topics.assign registration.topicId registration.publication.topic).2)
      (hdeliveries :
        life.deliveries n = [delivered registration.publication .normal registration.topicId])
      (hoffers : life.offers n = [])

/-- The publication of one turn waits before another turn. The device was connected
all the time and is asked to take an id for the name; this is the latest offer. -/
structure Waits (life : Life) (j n : Nat) (publication : Broker.Publish)
    (offer : Sensor.Register) : Prop where
  order : j < n
  published : life.Publishes j publication
  unmapped : ¬ (life.before j).topics.Refers publication.topic
  begun : life.offers j ≠ []
  connected : ∀ k, j ≤ k → k ≤ n → (life.before k).isConnected = true
  waiting : ∀ k, j < k → k ≤ n → ∃ registration ∈ life.openOffer k,
    registration.publication = publication ∧ registration.topicId = offer.topicId
  current : ∃ registration ∈ life.openOffer n, registration.register = offer
  latest : ∃ k, j ≤ k ∧ k < n ∧ life.offers k = [offer] ∧
    ∀ m, k < m → m < n → life.offers m = []

structure Accepts (life : Life) (n : Nat) (offer : Sensor.Register) : Prop where
  heard : ∃ ack, life.Hears n (.regack ack) ∧ ack.msgId = offer.msgId ∧
    ack.returnCode = .accepted
  ended : life.openOffer (n + 1) = none

/-- What ends an offer without the device taking it: that it declines, that it was
asked often enough, or that it is not connected any more. -/
inductive Discards (life : Life) (n : Nat) (offer : Sensor.Register) : Prop where
  | declined {ack : Sensor.TopicAck} (hheard : life.Hears n (.regack ack))
      (hid : ack.msgId = offer.msgId) (hcode : ack.returnCode ≠ .accepted)
  | exhausted (hinput : (life.turn n).input = .signal .regackTimeout)
      (htries : life.config.maxRetries < ((life.before n).tries .regack).toNat)
  | tornDown (hafter : (life.before (n + 1)).isConnected = false)

/-- A device gets what the broker published. The levels of the broker are 0, 1
and 2. -/
structure Carries (publication : Broker.Publish) (delivery : Sensor.Publish) : Prop where
  dup : delivery.flags.dup = publication.dup
  qos : publication.qos ≤ 2 → delivery.flags.qos.level? = some publication.qos
  retain : delivery.flags.retain = publication.retain
  msgId : delivery.msgId = publication.msgId
  data : delivery.data = publication.data

/-- What the device is sent in one turn is what was published in another. If there
is an id for the name it is sent at once, and otherwise as the device takes the
one that it is offered. -/
structure Stems (life : Life) (j n : Nat) (delivery : Sensor.Publish) : Prop where
  order : j ≤ n
  connected : ∀ k, j ≤ k → k ≤ n + 1 → (life.before k).isConnected = true
  origin : ∃ publication, life.Publishes j publication ∧ Carries publication delivery ∧
    (life.before (n + 1)).topics.Denotes delivery.flags.topicIdType delivery.topicId
      publication.topic ∧
    ((life.before j).topics.Refers publication.topic → j = n) ∧
    (¬ (life.before j).topics.Refers publication.topic → ∃ offer,
      life.Waits j n publication offer ∧ life.Accepts n offer ∧
        delivery.topicId = offer.topicId)

variable {life : Life} {j k m n : Nat} {publication : Broker.Publish}

/-! ### One turn -/

/-- The broker publishes one thing in a turn. -/
theorem Publishes.unique {other : Broker.Publish} (h : life.Publishes n publication)
    (h' : life.Publishes n other) : other = publication := by
  cases h'.symm.trans h
  rfl

theorem Publishes.not_hears (h : life.Publishes n publication) (message : Sensor.Message) :
    ¬ life.Hears n message := by
  rintro ⟨seen, link, hinput⟩
  cases hinput.symm.trans h

theorem openOffer_of_phase {exchanges : Exchanges}
    (h : (life.before n).phase = .connected exchanges) :
    life.openOffer n = exchanges.registration := by
  rw [openOffer, exchanges_of_connected h]

/-- Nothing is on offer to a device that is not connected. -/
theorem openOffer_of_not_connected (h : (life.before n).phase.isConnected = false) :
    life.openOffer n = none := by
  rw [openOffer, exchanges_of_not_connected h]

theorem openOffer_congr (h : (life.before m).phase = (life.before n).phase) :
    life.openOffer m = life.openOffer n := by
  rw [openOffer, exchanges_congr h, openOffer]

/-- A turn that says nothing about publications. -/
theorem silent_of_adds {concern : Concern} (hother : concern ≠ .delivery)
    (h : Transition.Adds concern (life.opening n) (life.step n)) :
    life.deliveries n = [] ∧ life.offers n = [] := by
  have hnone {α : Type} {f : Sensor.Message → Option α}
      (hf : ∀ message, message.concern ≠ .delivery → f message = none) :
      (life.step n).told.filterMap f = (life.opening n).told.filterMap f := by
    refine h.filterMap_told fun message hconcern => hf message ?_
    rcases hconcern with heq | heq <;> rw [heq]
    · decide
    · exact hother
  constructor
  · refine hnone fun message hconcern => ?_
    cases message with
    | publish => exact (hconcern rfl).elim
    | _ => rfl
  · refine hnone fun message hconcern => ?_
    cases message with
    | register => exact (hconcern rfl).elim
    | _ => rfl

theorem deliveries_of_told {message : Sensor.Message} (h : (life.step n).told = [message]) :
    life.deliveries n = message.publication?.toList := by
  rw [deliveries, h]
  cases message <;> rfl

theorem offers_of_told {message : Sensor.Message} (h : (life.step n).told = [message]) :
    life.offers n = message.registration?.toList := by
  rw [offers, h]
  cases message <;> rfl

/-- Delivering is dealing with one publication or offer. -/
theorem dealing_of_delivering
    (h : Delivering (life.context n) (life.turn n).input (life.opening n) (life.step n)) :
    life.Dealing n := by
  have hlink := link_of_isConnected h.connected.1
  have htold (t : Transition) (hsame : t.session.link = (life.opening n).session.link)
      (hnothing : t.told = []) (message : Sensor.Message) :
      (t.toDevice message).told = [message] := by
    rw [Transition.told_toDevice (hsame ▸ hlink), hnothing, List.nil_append]
  have hbefore : (life.before n).phase.isConnected = true := by
    rw [← phase_opening]
    exact h.connected.1
  have hafter : (life.before (n + 1)).phase.isConnected = true := h.connected.2
  have hoffered {exchanges : Exchanges}
      (hphase : (life.opening n).session.phase = .connected exchanges) :
      life.openOffer n = exchanges.registration :=
    openOffer_of_phase ((life.phase_opening n).symm.trans hphase)
  cases h with
  | atOnce hinput hphase hrefers hnext =>
    rw [topics_opening] at hrefers
    have hsession : life.before (n + 1) = (life.opening n).session := by
      rw [before_succ, hnext, Transition.session_toDevice]
    have hsaid := hnext ▸ htold (life.opening n) rfl rfl _
    exact .atOnce hinput hrefers hbefore (by rw [hsession, phase_opening])
      (by rw [hsession, topics_opening]) (deliveries_of_told hsaid) (offers_of_told hsaid)
  | @offer exchanges publication hinput hphase hrefers hfree hroom hnext =>
    rw [topics_opening] at hrefers
    rw [Transition.offerTopic_eq publication hfree hroom] at hnext
    have hsaid : (life.step n).told = [.register (Registration.register
        ⟨UInt16.ofNat (life.opening n).session.topics.next, (life.opening n).session.nextMsgId,
          publication, 1⟩)] := by
      rw [hnext, Transition.told_emit rfl]
      exact htold _ (by rfl) (by rfl) _
    have hfree : life.openOffer n = none := (hoffered hphase).trans hfree
    have hsome : life.openOffer (n + 1) = some ⟨UInt16.ofNat (life.opening n).session.topics.next,
        (life.opening n).session.nextMsgId, publication, 1⟩ := by
      rw [openOffer, before_succ, hnext]
      rfl
    refine .offer ?_ ?_ hbefore hfree hsome (deliveries_of_told hsaid) (offers_of_told hsaid)
    · exact hinput
    · exact hrefers
  | @bind exchanges registration seen ack link hinput hphase hsome hid hcode hnext =>
    have hsaid : (life.step n).told =
        [.publish (delivered registration.publication .normal registration.topicId)] := by
      rw [hnext]
      exact htold _ (by rfl) (by rfl) _
    have hsome : life.openOffer n = some registration := (hoffered hphase).trans hsome
    have hsession := (congrArg Transition.session hnext).trans (Transition.session_toDevice _)
    exact .bind ⟨seen, link, hinput⟩ hsome hid hcode (by rw [openOffer, before_succ, hsession]; rfl)
      hafter (by rw [before_succ, hsession, ← topics_opening]; rfl) (deliveries_of_told hsaid)
      (offers_of_told hsaid)
  | @repeatOffer exchanges registration hinput hphase hsome hleft hnext =>
    have hsaid : (life.step n).told = [.register (Registration.register
        ⟨registration.topicId, (life.opening n).session.nextMsgId, registration.publication,
          registration.tries + 1⟩)] := by
      rw [hnext]
      exact htold _ (by rfl) (by rfl) _
    have hsome : life.openOffer n = some registration := (hoffered hphase).trans hsome
    have hrepeated : life.openOffer (n + 1) = some ⟨registration.topicId,
        (life.opening n).session.nextMsgId, registration.publication, registration.tries + 1⟩ := by
      rw [openOffer, before_succ, hnext]
      rfl
    exact .again hinput hsome hrepeated rfl rfl hleft (deliveries_of_told hsaid)
      (offers_of_told hsaid)
  | endOffer hphase hsome hnext =>
    have hadds : Transition.Adds .other (life.opening n) (life.step n) :=
      hnext ▸ ((Transition.Adds.refl _ _).update _).emit (.inl rfl)
    obtain ⟨hdeliveries, hoffers⟩ := silent_of_adds (by decide) hadds
    refine .rest (.inr ?_) hdeliveries hoffers
    rw [openOffer, before_succ, hnext]
    rfl

/-- Every turn deals in one of these ways with what is on offer. -/
theorem dealing (life : Life) (n : Nat) : life.Dealing n := by
  have hrest {concern : Concern} (hother : concern ≠ .delivery)
      (hadds : Transition.Adds concern (life.opening n) (life.step n))
      (hkept : life.openOffer (n + 1) = life.openOffer n ∨ life.openOffer (n + 1) = none) :
      life.Dealing n :=
    .rest hkept (silent_of_adds hother hadds).1 (silent_of_adds hother hadds).2
  have hsame (hphase : (life.step n).session.phase = (life.opening n).session.phase) :
      life.openOffer (n + 1) = life.openOffer n :=
    openOffer_congr (hphase.trans (life.phase_opening n))
  have hnone (hphase : (life.step n).session.phase.isConnected = false) :
      life.openOffer (n + 1) = none := openOffer_of_not_connected hphase
  cases life.deed n with
  | quiet h => exact hrest (by decide) h.adds (.inl (hsame h.phase))
  | tearDown h hnext =>
    exact hrest (by decide) (hnext ▸ (h.adds.among _).trans Transition.adds_tearDown)
      (.inr (hnone (hnext ▸ rfl)))
  | refuse hphase hnext =>
    refine hrest (by decide) (hnext ▸ Transition.adds_refuse) (.inr (hnone ?_))
    rwa [hnext, Transition.refuse, Transition.session_toDevice]
  | accept _ _ hnext =>
    have hadds : Transition.Adds .other (life.opening n) (life.step n) :=
      hnext ▸ ((Transition.Adds.refl _ _).update _).toDevice (.inl rfl)
    refine hrest (by decide) hadds (.inr ?_)
    rw [openOffer, before_succ, hnext, Transition.session_toDevice]
    rfl
  | establish h => exact hrest (by decide) h.adds (.inr (hnone h.not_connected.2))
  | deliver h => exact dealing_of_delivering h
  | request h =>
    refine hrest (by decide) h.adds (.inl (h.registration.trans ?_))
    rw [exchanges_congr (life.phase_opening n), openOffer]

/-! ### What waits -/

theorem connected_of_openOffer {registration : Registration}
    (h : life.openOffer n = some registration) : (life.before n).isConnected = true := by
  by_contra hnot
  rw [openOffer_of_not_connected (Bool.eq_false_iff.mpr hnot)] at h
  cases h

theorem offered?_of_openOffer {registration : Registration}
    (h : life.openOffer n = some registration) :
    (life.before n).offered? = some registration.offered :=
  congrArg (Option.map Registration.offered) h

theorem offered?_of_openOffer_eq_none (h : life.openOffer n = none) :
    (life.before n).offered? = none :=
  congrArg (Option.map Registration.offered) h

variable {offer : Sensor.Register}

/-- A turn in which nothing becomes of an offer. -/
theorem Waits.keep (h : life.Waits j n publication offer)
    (hkept : life.openOffer (n + 1) = life.openOffer n) (hoffers : life.offers n = []) :
    life.Waits j (n + 1) publication offer := by
  obtain ⟨k, hafter, hbefore, hoffered, hsince⟩ := h.latest
  obtain ⟨registration, hsome, hregister⟩ := h.current
  obtain ⟨known, hknown, hsame⟩ := h.waiting n h.order (Nat.le_refl n)
  refine ⟨Nat.lt_succ_of_lt h.order, h.published, h.unmapped, h.begun, ?_, ?_, ?_, ?_⟩
  · exact forall_le_succ h.connected (connected_of_openOffer (hkept.trans hsome))
  · exact forall_le_succ h.waiting ⟨known, hkept ▸ hknown, hsame⟩
  · exact ⟨registration, hkept ▸ hsome, hregister⟩
  · refine ⟨k, hafter, Nat.lt_succ_of_lt hbefore, hoffered, fun m hlater hlast => ?_⟩
    rcases Nat.lt_succ_iff_lt_or_eq.mp hlast with hlast | rfl
    · exact hsince m hlater hlast
    · exact hoffers

/-- A publication goes on waiting as its offer is made once more. -/
theorem Waits.again {registration next : Registration}
    (h : life.Waits j n registration.publication registration.register)
    (hnext : life.openOffer (n + 1) = some next) (htopicId : next.topicId = registration.topicId)
    (hpublication : next.publication = registration.publication)
    (hoffers : life.offers n = [next.register]) :
    life.Waits j (n + 1) next.publication next.register := by
  refine ⟨Nat.lt_succ_of_lt h.order, hpublication ▸ h.published, hpublication ▸ h.unmapped, h.begun,
    ?_, ?_, ?_, ?_⟩
  · exact forall_le_succ h.connected (connected_of_openOffer hnext)
  · refine forall_le_succ (fun k hafter hbefore => ?_) ⟨next, hnext, rfl, rfl⟩
    obtain ⟨known, hknown, hsame, hid⟩ := h.waiting k hafter hbefore
    exact ⟨known, hknown, hsame.trans hpublication.symm, hid.trans htopicId.symm⟩
  · exact ⟨next, hnext, rfl⟩
  · exact ⟨n, Nat.le_of_lt h.order, Nat.lt_succ_self n, hoffers, fun m hlater hlast => by omega⟩

/-- A publication without an id waits as soon as one is offered. -/
theorem waits_of_offer {registration : Registration}
    (hpublished : life.Publishes n registration.publication)
    (hrefers : (life.before n).topics.reference? registration.publication.topic = none)
    (hconnected : (life.before n).isConnected = true)
    (hnext : life.openOffer (n + 1) = some registration)
    (hoffers : life.offers n = [registration.register]) :
    life.Waits n (n + 1) registration.publication registration.register := by
  have hlast {k : Nat} (hafter : n < k) (hbefore : k ≤ n + 1) : k = n + 1 := by omega
  refine ⟨Nat.lt_succ_self n, hpublished, Topic.Table.not_refers_of_reference? hrefers,
    hoffers ▸ List.cons_ne_nil _ _, ?_, ?_, ⟨registration, hnext, rfl⟩, ?_⟩
  · refine forall_le_succ (fun k hafter hbefore => ?_) (connected_of_openOffer hnext)
    exact Nat.le_antisymm hbefore hafter ▸ hconnected
  · intro k hafter hbefore
    exact ⟨registration, hlast hafter hbefore ▸ hnext, rfl, rfl⟩
  · exact ⟨n, Nat.le_refl n, Nat.lt_succ_self n, hoffers, fun m hlater hbefore => by omega⟩

/-- Whatever the device is asked to take an id for was published for it. -/
theorem waits_of_openOffer {registration : Registration}
    (h : life.openOffer n = some registration) :
    ∃ j, life.Waits j n registration.publication registration.register := by
  -- a repeated offer is another registration, so the one before it is left open
  induction n generalizing registration with
  | zero => cases h
  | succ n ih =>
    cases life.dealing n with
    | rest hkept _ hoffers =>
      rcases hkept with hkept | hnone
      · obtain ⟨j, hwaits⟩ := ih (hkept ▸ h)
        exact ⟨j, hwaits.keep hkept hoffers⟩
      · cases hnone.symm.trans h
    | atOnce _ _ _ hphase _ _ hoffers =>
      have hkept : life.openOffer (n + 1) = life.openOffer n := openOffer_congr hphase
      obtain ⟨j, hwaits⟩ := ih (hkept ▸ h)
      exact ⟨j, hwaits.keep hkept hoffers⟩
    | offer hpublished hrefers hconnected _ hnext _ hoffers =>
      cases hnext.symm.trans h
      exact ⟨n, waits_of_offer hpublished hrefers hconnected hnext hoffers⟩
    | again _ hsome hnext htopicId hpublication _ _ hoffers =>
      cases hnext.symm.trans h
      obtain ⟨j, hwaits⟩ := ih hsome
      exact ⟨j, hwaits.again hnext htopicId hpublication hoffers⟩
    | bind _ _ _ _ hnone => cases hnone.symm.trans h

/-! ### What is delivered -/

/-- What is delivered is what was published. -/
theorem carries_delivered (publication : Broker.Publish) (type : Sensor.TopicIdType)
    (topicId : UInt16) : Carries publication (delivered publication type topicId) := by
  refine ⟨rfl, fun hlevel => ?_, rfl, rfl, rfl⟩
  have hlevels : publication.qos = 0 ∨ publication.qos = 1 ∨ publication.qos = 2 := by
    simp only [← UInt8.toNat_inj, UInt8.le_iff_toNat_le, UInt8.reduceToNat] at hlevel ⊢
    omega
  simp only [delivered, Sensor.Flags.ofData]
  rcases hlevels with hqos | hqos | hqos <;> rw [hqos] <;> rfl

/-- Every publication that a device is sent stems from one of the broker. -/
theorem stems_of_mem {delivery : Sensor.Publish} (hin : delivery ∈ life.deliveries n) :
    life.deliveries n = [delivery] ∧ ∃ j, life.Stems j n delivery := by
  have honly {sent : Sensor.Publish} (h : life.deliveries n = [sent]) :
      life.deliveries n = [delivery] ∧ delivery = sent := by
    obtain rfl : delivery = sent := List.mem_singleton.mp (h ▸ hin)
    exact ⟨h, rfl⟩
  cases life.dealing n with
  | rest _ hnone => rw [hnone] at hin; cases hin
  | offer _ _ _ _ _ hnone => rw [hnone] at hin; cases hin
  | again _ _ _ _ _ _ hnone => rw [hnone] at hin; cases hin
  | @atOnce publication type topicId hpublished hrefers hconnected hphase htopics hdeliveries =>
    obtain ⟨hone, rfl⟩ := honly hdeliveries
    have hdenotes := Topic.Table.denotes_of_reference? (life.sound_before n).proper.sorted hrefers
    refine ⟨hone, n, Nat.le_refl n, ?_, publication, hpublished, carries_delivered _ _ _,
      htopics ▸ hdenotes, fun _ => rfl, fun hnot => (hnot ⟨type, topicId, hdenotes⟩).elim⟩
    refine forall_le_succ (fun k hafter hbefore => ?_) ?_
    · exact Nat.le_antisymm hbefore hafter ▸ hconnected
    · rw [Session.isConnected, hphase]
      exact hconnected
  | @bind registration ack hheard hsome hid hcode hnext hconnected htopics hdeliveries =>
    obtain ⟨hone, rfl⟩ := honly hdeliveries
    obtain ⟨j, hwaits⟩ := waits_of_openOffer hsome
    have hfree := ((life.sound_before n).offered _ _ (offered?_of_openOffer hsome)).1
    refine ⟨hone, j, Nat.le_of_lt hwaits.order, ?_, registration.publication, hwaits.published,
      carries_delivered _ _ _, ⟨?_, ?_⟩, fun hrefers => (hwaits.unmapped hrefers).elim,
      fun _ => ⟨_, hwaits, ⟨⟨ack, hheard, hid, hcode⟩, hnext⟩, rfl⟩⟩
    · exact forall_le_succ hwaits.connected hconnected
    · exact (life.sound_before (n + 1)).proper.isPredefined_of_lt hfree
    · rw [htopics, Topic.Table.name?_assign (Topic.Table.ne_zero_of_lt hfree)
        ((life.sound_before n).proper.isPredefined_of_lt hfree)]
      exact if_pos rfl

/-- While a publication waits the offer goes on. -/
theorem Waits.not_ended (h : life.Waits j n publication offer) (hafter : j < m) (hbefore : m < n) :
    life.openOffer (m + 1) ≠ none := by
  obtain ⟨registration, hsome, -⟩ := h.waiting (m + 1) (Nat.lt_succ_of_lt hafter) hbefore
  exact fun hnone => nomatch hnone.symm.trans hsome

/-- Of two publications that wait at the same time neither came later. -/
theorem Waits.not_lt {other : Broker.Publish} {offer' : Sensor.Register}
    (h : life.Waits j n publication offer) (h' : life.Waits k n other offer') : ¬ j < k := by
  intro hlater
  obtain ⟨registration, hsome, -⟩ := h.waiting k hlater (Nat.le_of_lt h'.order)
  have hpublished := h'.published
  cases life.dealing k with
  | rest _ _ hoffers => exact h'.begun hoffers
  | atOnce _ _ _ _ _ _ hoffers => exact h'.begun hoffers
  | offer _ _ _ hfree => cases hfree.symm.trans hsome
  | again hinput => cases hinput.symm.trans hpublished
  | bind hheard => exact hpublished.not_hears _ hheard

/-- It is settled where a publication comes from. -/
theorem Stems.unique {delivery : Sensor.Publish} (h : life.Stems j n delivery)
    (h' : life.Stems k n delivery) : j = k := by
  obtain ⟨publication, hpublished, -, -, hnow, hlater⟩ := h.origin
  obtain ⟨other, hpublished', -, -, hnow', hlater'⟩ := h'.origin
  -- an id is taken in a turn of the device, so nothing is published in it
  have hdistinct {offer : Sensor.Register} {i : Nat} {publication : Broker.Publish}
      (haccepts : life.Accepts n offer) (hpublished : life.Publishes i publication) : i ≠ n := by
    rintro rfl
    obtain ⟨ack, hheard, -⟩ := haccepts.heard
    exact hpublished.not_hears _ hheard
  by_cases hrefers : (life.before j).topics.Refers publication.topic
  · obtain rfl := hnow hrefers
    by_cases hrefers' : (life.before k).topics.Refers other.topic
    · exact (hnow' hrefers').symm
    · obtain ⟨offer, -, haccepts, -⟩ := hlater' hrefers'
      exact (hdistinct haccepts hpublished rfl).elim
  · obtain ⟨offer, hwaits, haccepts, -⟩ := hlater hrefers
    by_cases hrefers' : (life.before k).topics.Refers other.topic
    · exact (hdistinct haccepts hpublished' (hnow' hrefers')).elim
    · obtain ⟨offer', hwaits', -, -⟩ := hlater' hrefers'
      exact Nat.le_antisymm (Nat.not_lt.mp (hwaits'.not_lt hwaits))
        (Nat.not_lt.mp (hwaits.not_lt hwaits'))

/-! ### What becomes of what waits -/

theorem exchanges_of_openOffer {registration : Registration}
    (h : life.openOffer n = some registration) :
    ∃ exchanges, (life.opening n).session.phase = .connected exchanges ∧
      exchanges.registration = some registration := by
  obtain ⟨exchanges, hphase⟩ := exists_connected (connected_of_openOffer h)
  exact ⟨exchanges, (life.phase_opening n).trans hphase, (openOffer_of_phase hphase).symm.trans h⟩

theorem step_of_regack {exchanges : Exchanges} {ack : Sensor.TopicAck}
    (hphase : (life.opening n).session.phase = .connected exchanges)
    (h : life.Hears n (.regack ack)) : life.step n = (life.opening n).regack exchanges ack := by
  obtain ⟨seen, link, hinput⟩ := h
  rw [life.step_of_sensor hinput]
  exact Transition.whenConnected_eq hphase _

/-- Nothing is said and what waits goes on to wait. -/
theorem Waits.undisturbed (h : life.Waits j n publication offer)
    (hstep : life.step n = life.opening n) :
    (life.step n).told = [] ∧ life.Waits j (n + 1) publication offer := by
  have hnothing : (life.step n).told = [] := hstep ▸ rfl
  refine ⟨hnothing, h.keep (openOffer_congr ?_) (by rw [offers, hnothing]; rfl)⟩
  rw [before_succ, hstep, phase_opening]

/-- While a publication waits, another one without a topic id is dropped. -/
theorem Waits.drops (h : life.Waits j n publication offer) {other : Broker.Publish}
    (hpublished : life.Publishes n other)
    (hunmapped : ¬ (life.before n).topics.Refers other.topic) :
    (life.step n).told = [] ∧ life.Waits j (n + 1) publication offer := by
  obtain ⟨registration, hsome, -⟩ := h.current
  obtain ⟨exchanges, hphase, hregistration⟩ := exchanges_of_openOffer hsome
  have hnone : (life.opening n).session.topics.reference? other.topic = none := by
    rw [topics_opening]
    cases hrefers : (life.before n).topics.reference? other.topic with
    | none => rfl
    | some reference =>
      have hdenotes := Topic.Table.denotes_of_reference? (life.sound_before n).proper.sorted hrefers
      exact (hunmapped ⟨_, _, hdenotes⟩).elim
  refine h.undisturbed ?_
  rw [life.step_of_broker hpublished, Transition.broker_eq hphase (by rintro code ⟨⟩)]
  refine (Transition.deliver_eq other).trans ?_
  rw [hnone, Transition.offerTopic, hregistration, Option.isSome_some, if_pos rfl, ite_self,
    ite_self]

/-- An answer to an offer that was repeated since does not count. -/
theorem Waits.ignores (h : life.Waits j n publication offer) {ack : Sensor.TopicAck}
    (hheard : life.Hears n (.regack ack)) (hid : ack.msgId ≠ offer.msgId) :
    (life.step n).told = [] ∧ life.Waits j (n + 1) publication offer := by
  obtain ⟨registration, hsome, rfl⟩ := h.current
  obtain ⟨exchanges, hphase, hregistration⟩ := exchanges_of_openOffer hsome
  refine h.undisturbed ?_
  rw [step_of_regack hphase hheard]
  simp only [Transition.regack, hregistration]
  exact if_pos hid

theorem ended_of_step (exchanges : Exchanges)
    (hstep : life.step n = (life.opening n).endRegistration exchanges) :
    life.deliveries n = [] ∧ life.openOffer (n + 1) = none := by
  rw [deliveries, openOffer, before_succ, hstep]
  exact ⟨rfl, rfl⟩

/-- A publication whose offer is discarded is not delivered, and nothing is on offer after
that. -/
theorem Waits.discarded (h : life.Waits j n publication offer) (hdiscards : life.Discards n offer) :
    life.deliveries n = [] ∧ life.openOffer (n + 1) = none := by
  obtain ⟨registration, hsome, rfl⟩ := h.current
  obtain ⟨exchanges, hphase, hregistration⟩ := exchanges_of_openOffer hsome
  cases hdiscards with
  | @declined ack hheard hid hcode =>
    refine ended_of_step exchanges ?_
    rw [step_of_regack hphase hheard]
    simp only [Transition.regack, hregistration]
    have hid : ack.msgId = registration.msgId := hid
    rw [if_neg (not_not.mpr hid), if_pos hcode]
  | exhausted hinput htries =>
    refine ended_of_step exchanges ?_
    have htries : life.config.maxRetries < registration.tries.toNat := by
      rw [phase_opening] at hphase
      simpa [tries, Session.exchanges, hphase, hregistration] using htries
    rw [life.step_of_signal hinput nofun]
    simp only [Transition.signal, Transition.regackTimeout, hphase, hregistration]
    exact if_pos htries
  | tornDown hafter =>
    refine ⟨?_, openOffer_of_not_connected hafter⟩
    have hnot {next : Registration} (hnext : life.openOffer (n + 1) = some next) : False := by
      rw [connected_of_openOffer hnext] at hafter
      cases hafter
    cases life.dealing n with
    | rest _ hdeliveries => exact hdeliveries
    | atOnce _ _ hconnected hsame =>
      rw [Session.isConnected, hsame, hconnected] at hafter
      cases hafter
    | offer _ _ _ _ hnext => exact (hnot hnext).elim
    | again _ _ hnext => exact (hnot hnext).elim
    | bind _ _ _ _ _ hconnected => cases hafter.symm.trans hconnected

/-- What was discarded is never delivered. -/
theorem Waits.not_stems (h : life.Waits j n publication offer) (hdiscards : life.Discards n offer)
    {delivery : Sensor.Publish} : ¬ life.Stems j m delivery := by
  intro hstems
  obtain ⟨other, hpublished, -, -, -, hlater⟩ := hstems.origin
  obtain rfl := h.published.unique hpublished
  obtain ⟨offer', hwaits, haccepts, -⟩ := hlater h.unmapped
  -- it was not taken earlier, or it would not wait; nor later, as it waits no more
  rcases Nat.lt_trichotomy m n with hbefore | rfl | hafter
  · exact h.not_ended hwaits.order hbefore haccepts.ended
  · obtain ⟨ack, ⟨seen, link, hinput⟩, -, hcode⟩ := haccepts.heard
    cases hdiscards with
    | declined hheard _ hdeclined =>
      obtain ⟨seen', link', hinput'⟩ := hheard
      cases hinput.symm.trans hinput'
      exact hdeclined hcode
    | exhausted hinput' => cases hinput.symm.trans hinput'
    | tornDown hafter =>
      have hconnected := hstems.connected (m + 1) (Nat.le_succ_of_le hstems.order) (Nat.le_refl _)
      cases hafter.symm.trans hconnected
  · exact hwaits.not_ended h.order hafter (h.discarded hdiscards).2

/-- What was dropped is never delivered. -/
theorem Waits.not_stems_dropped (h : life.Waits j n publication offer) {other : Broker.Publish}
    (hpublished : life.Publishes n other)
    (hunmapped : ¬ (life.before n).topics.Refers other.topic) {delivery : Sensor.Publish} :
    ¬ life.Stems n m delivery := by
  intro hstems
  obtain ⟨same, hpublished', -, -, -, hlater⟩ := hstems.origin
  obtain rfl := hpublished.unique hpublished'
  obtain ⟨offer', hwaits, -, -⟩ := hlater hunmapped
  refine hwaits.begun ?_
  rw [offers, (h.drops hpublished hunmapped).1]
  rfl

/-- A publication is delivered once. -/
theorem Stems.once {delivery other : Sensor.Publish} (h : life.Stems j m delivery)
    (h' : life.Stems j n other) : ¬ m < n := by
  intro hbefore
  obtain ⟨publication, hpublished, -, -, hnow, hlater⟩ := h.origin
  obtain ⟨same, hpublished', -, -, hnow', hlater'⟩ := h'.origin
  obtain rfl := hpublished.unique hpublished'
  by_cases hrefers : (life.before j).topics.Refers same.topic
  · have heq := (hnow hrefers).symm.trans (hnow' hrefers)
    exact Nat.ne_of_lt hbefore heq
  · obtain ⟨offer, hwaits, haccepts, -⟩ := hlater hrefers
    obtain ⟨offer', hwaits', -, -⟩ := hlater' hrefers
    exact hwaits'.not_ended hwaits.order hbefore haccepts.ended

/-- What the device is sent are publications of the broker, each at most once and
from the same connection, with everything that was in them and under an id that
denotes their topic: `source` tells in which turn they were published. A
publication without such an id waits until the device takes the one that it was
offered last, and whatever is offered is offered for one that waits. Until then no
other of this kind is kept or sent, and if the offer ends in another way it is never
sent. -/
theorem deliveries_attributed (life : Life) :
    ∃ source : Nat → Nat,
      (∀ n, ∀ delivery ∈ life.deliveries n,
        life.deliveries n = [delivery] ∧ life.Stems (source n) n delivery ∧
          ∀ j, life.Stems j n delivery → j = source n) ∧
      (∀ m n, life.deliveries m ≠ [] → life.deliveries n ≠ [] → source m = source n → m = n) ∧
      (∀ n registration, life.openOffer n = some registration →
        ∃ j, life.Waits j n registration.publication registration.register) ∧
      ∀ j n publication offer, life.Waits j n publication offer →
        (∀ other, life.Publishes n other → ¬ (life.before n).topics.Refers other.topic →
          (life.step n).told = [] ∧ life.Waits j (n + 1) publication offer ∧
            ∀ m, life.deliveries m ≠ [] → source m ≠ n) ∧
        (∀ ack, life.Hears n (.regack ack) → ack.msgId ≠ offer.msgId →
          (life.step n).told = [] ∧ life.Waits j (n + 1) publication offer) ∧
        (life.Discards n offer →
          life.deliveries n = [] ∧ life.openOffer (n + 1) = none ∧
            ∀ m, life.deliveries m ≠ [] → source m ≠ j) := by
  obtain ⟨source, hsource⟩ := exists_source fun n _ => stems_of_mem (n := n)
  have hstems {n : Nat} (hsome : life.deliveries n ≠ []) :
      ∃ delivery, life.Stems (source n) n delivery := by
    obtain ⟨delivery, hin⟩ := List.exists_mem_of_ne_nil _ hsome
    exact ⟨delivery, (hsource n delivery hin).2⟩
  refine ⟨source, fun n delivery hin => ?_, fun m n hm hn hsame => ?_, fun n registration =>
    waits_of_openOffer, fun j n publication offer hwaits => ⟨fun other hpublished hunmapped => ?_,
      fun ack => hwaits.ignores, fun hdiscards => ?_⟩⟩
  · obtain ⟨hone, hfrom⟩ := hsource n delivery hin
    exact ⟨hone, hfrom, fun j hother => hother.unique hfrom⟩
  · obtain ⟨first, hfirst⟩ := hstems hm
    obtain ⟨last, hlast⟩ := hstems hn
    rw [hsame] at hfirst
    exact Nat.le_antisymm (Nat.not_lt.mp (hlast.once hfirst)) (Nat.not_lt.mp (hfirst.once hlast))
  · obtain ⟨hnothing, hkept⟩ := hwaits.drops hpublished hunmapped
    refine ⟨hnothing, hkept, fun m hsome hsame => ?_⟩
    obtain ⟨delivery, hfrom⟩ := hstems hsome
    exact hwaits.not_stems_dropped hpublished hunmapped (hsame ▸ hfrom)
  · obtain ⟨hnothing, hended⟩ := hwaits.discarded hdiscards
    refine ⟨hnothing, hended, fun m hsome hsame => ?_⟩
    obtain ⟨delivery, hfrom⟩ := hstems hsome
    exact hwaits.not_stems hdiscards (hsame ▸ hfrom)

/-- A device that takes its time: it is offered an id for one of two publications,
is asked once more, and answers to the first offer and then to the second. -/
def hesitant : Life :=
  ofTurns {} meter 0
    [⟨0, {}, .sensor meter (.connect
        { flags := {}, protocolId := 1, duration := 60, clientId := "d" }) "udp:20000"⟩,
      ⟨1, {}, .broker (.connack Broker.Message.accepted)⟩,
      ⟨2, {}, .broker (.publish ⟨false, 1, false, "temperature", 7, [21]⟩)⟩,
      ⟨3, {}, .broker (.publish ⟨false, 1, false, "humidity", 8, [40]⟩)⟩,
      ⟨4, {}, .signal .regackTimeout⟩,
      ⟨5, {}, .sensor meter (.regack ⟨51, 1, .accepted⟩) "udp:20000"⟩,
      ⟨6, {}, .sensor meter (.regack ⟨51, 2, .accepted⟩) "udp:20000"⟩]

/-- It gets the first publication, and only then. -/
theorem deliveries_attributed_hesitant :
    hesitant.deliveries 5 = [] ∧
      hesitant.deliveries 6 = [delivered ⟨false, 1, false, "temperature", 7, [21]⟩ .normal 51] ∧
      hesitant.Stems 2 6 (delivered ⟨false, 1, false, "temperature", 7, [21]⟩ .normal 51) := by
  obtain ⟨source, hsource, -⟩ := deliveries_attributed hesitant
  have hdeliveries : hesitant.deliveries 6 =
      [delivered ⟨false, 1, false, "temperature", 7, [21]⟩ .normal 51] := rfl
  obtain ⟨-, hstems, -⟩ := hsource 6 _ (hdeliveries ▸ List.mem_singleton_self _)
  have hfirst : source 6 = 2 := by
    obtain ⟨publication, hpublished, -, -, hnow, hlater⟩ := hstems.origin
    have horder := hstems.order
    generalize source 6 = i at hpublished horder hnow hlater
    match i, horder with
    | 2, _ => rfl
    | 3, _ =>
      by_cases hrefers : (hesitant.before 3).topics.Refers publication.topic
      · cases hnow hrefers
      · obtain ⟨offer, hwaits, -⟩ := hlater hrefers
        exact (hwaits.begun rfl).elim
    | 0, _ | 1, _ | 4, _ | 5, _ | 6, _ => cases hpublished
  exact ⟨rfl, hdeliveries, hfirst ▸ hstems⟩

end Life

end SensorGateway.Session
