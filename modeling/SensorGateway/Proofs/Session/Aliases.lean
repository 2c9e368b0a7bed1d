import SensorGateway.Proofs.Session.Deliveries
import SensorGateway.Proofs.Session.Publications

/-!
How many ids a name has. The gateway looks for an id before it gives one out, so a name that has
one gets no other. But between an offer to the device and the answer to it the name has no id
yet, and if the device asks for one meanwhile it gets a second one. `aliases_raced` says that
this is the only way to two ids of one name, and that there are never three.
-/

namespace SensorGateway.Session

/-! ### Ids that get a name -/

/-- Where no id may get a name, none does. -/
theorem Change.name?_of_mayName {config : Config} {input : Input} {before after : Session}
    (hchange : Change input before after) (h : Sound config before)
    (hinput : input.mayName = false) {id : UInt16} {name : String}
    (hsome : after.topics.name? id = some name) : before.topics.name? id = some name := by
  cases hchange with
  | rest htopics => exact htopics ▸ hsome
  | accept _ htopics => exact htopics ▸ hsome
  | exchange htopics => exact htopics ▸ hsome
  | register _ _ _ hmay => cases hinput.symm.trans hmay
  | offer _ _ htopics =>
    rw [htopics] at hsome
    exact hsome
  | bind _ _ _ _ hmay => cases hinput.symm.trans hmay
  | forgetId htopics => exact h.proper.name?_of_removeId (htopics ▸ hsome)
  | forgetName htopics =>
    rw [htopics, Topic.Table.name?_removeName h.proper.sorted] at hsome
    exact Option.eq_some_of_filter_eq_some hsome

/-- An id gets a name only from an input that may give it one. -/
theorem acts_name?_of_mayName {config : Config} {context : Context} {input : Input}
    {t next : Transition} (hacts : Acts context input t next) (h : Sound config t.session)
    (hinput : input.mayName = false) {id : UInt16} {name : String}
    (hsome : next.session.topics.name? id = some name) :
    t.session.topics.name? id = some name := by
  induction hacts with
  | refl => exact hsome
  | tail hearlier hact ih =>
    have hsound := (acts_sound hearlier h).1
    exact ih ((Transition.act_change hact).name?_of_mayName hsound hinput hsome)

namespace Transition

/-- The answer to a subscription is passed over, or the device is told what it is granted. -/
theorem confirmSubscribe_cases (t : Transition) (exchanges : Exchanges) (msgId : UInt16)
    (level : UInt8) :
    t.confirmSubscribe exchanges msgId level = t ∨
      ∃ (request : RequestInFlight) (flags : Sensor.Flags) (mid : Transition),
        exchanges.subscribe = some request ∧ request.msgId = msgId ∧
        t.confirmSubscribe exchanges msgId level = mid.toDevice
          (.suback ⟨flags, (grantTopic t.session.topics request.topic).2.1, msgId, .accepted⟩) ∧
        mid.session.link = t.session.link ∧
        mid.session.topics = (grantTopic t.session.topics request.topic).2.2 := by
  unfold confirmSubscribe
  split
  next => exact .inl rfl
  next request hsome =>
    split
    next => exact .inl rfl
    next hid =>
      exact .inr ⟨request, _, _, hsome, Decidable.not_not.mp hid, rfl, rfl, rfl⟩

/-- An id gets the name that it was offered for, if the device takes the offer. -/
theorem regack_cases (t : Transition) (exchanges : Exchanges) (ack : Sensor.TopicAck) :
    (t.regack exchanges ack).session.topics = t.session.topics ∨
      ∃ registration, exchanges.registration = some registration ∧
        ack.msgId = registration.msgId ∧ ack.returnCode = .accepted ∧
        (t.regack exchanges ack).session.topics = (t.session.topics.assign registration.topicId
          registration.publication.topic).2 ∧
        (t.regack exchanges ack).session.phase =
          .connected { exchanges with registration := none } := by
  unfold regack
  split
  next => exact .inl rfl
  next registration hsome =>
    split
    next => exact .inl rfl
    next hid =>
      simp only
      split
      next => exact .inl rfl
      next hcode =>
        refine .inr ⟨registration, hsome, Decidable.not_not.mp hid, Decidable.not_not.mp hcode, ?_⟩
        rw [session_toDevice]
        exact ⟨rfl, rfl⟩

end Transition

namespace Life

variable {life : Life} {j k m n : Nat} {name : String} {id : UInt16}

def GivesOut (life : Life) (n : Nat) (id : UInt16) : Prop :=
  (life.before n).topics.next ≤ id.toNat ∧ id.toNat < (life.before (n + 1)).topics.next

inductive Names (life : Life) (n : Nat) (name : String) (id : UInt16) : Prop where
  /-- The name had no id, and the device is told a new one for it. -/
  | granted (hgrants : life.Grants n name id)
      (hunknown : (life.before n).topics.id? name = none) (hgiven : life.GivesOut n id)
  /-- The device takes the id that it was offered for the name. -/
  | accepted {registration : Registration} (hopen : life.openOffer n = some registration)
      (hoffered : registration.offered = (id, name))
      (haccepts : life.Accepts n registration.register)

/-- What is given out before some turn is kept until any later one. -/
theorem keeps_before (life : Life) (h : m ≤ n) : Keeps (life.before m) (life.before n) := by
  induction h with
  | refl => exact .refl _
  | step _ ih => exact ih.trans (take_sound (life.turn _) (life.sound_before _)).2.1

/-- No id is given out twice. -/
theorem GivesOut.unique (h : life.GivesOut m id) (h' : life.GivesOut n id) : m = n := by
  have hnot {m n : Nat} (h : life.GivesOut m id) (h' : life.GivesOut n id) : ¬ m < n := by
    intro hlt
    have hnext : (life.before (m + 1)).topics.next ≤ (life.before n).topics.next :=
      (life.keeps_before hlt).next
    have hbelow := h.2
    have habove := h'.1
    omega
  exact Nat.le_antisymm (Nat.not_lt.mp (hnot h' h)) (Nat.not_lt.mp (hnot h h'))

/-- In a turn that leaves the table alone an id has its name from before. -/
theorem name?_of_topics_eq
    (htopics : (life.step n).session.topics = (life.opening n).session.topics)
    (hsome : (life.before (n + 1)).topics.name? id = some name) :
    (life.before n).topics.name? id = some name := by
  rwa [before_succ, htopics, topics_opening] at hsome

/-- A name that is registered gets a new id if it had none. -/
theorem names_of_registered {known : String}
    (htopics : (life.before (n + 1)).topics = ((life.before n).topics.register known).2)
    (hgrants : ∀ id, ((life.before n).topics.register known).1 = some id →
      life.Grants n known id)
    (hsome : (life.before (n + 1)).topics.name? id = some name) :
    (life.before n).topics.name? id = some name ∨ life.Names n name id := by
  have hbelow := ((life.sound_before (n + 1)).proper.given id name hsome).2
  rw [htopics] at hsome
  rcases (life.sound_before n).proper.name?_of_register hsome with
    hold | ⟨rfl, hunknown, hgiven, hid⟩
  · exact .inl hold
  · exact .inr (.granted (hgrants id hgiven) hunknown ⟨Nat.le_of_eq hid.symm, hbelow⟩)

theorem mem_told_of_toDevice {mid : Transition} {message : Sensor.Message}
    (hstep : life.step n = mid.toDevice message) (hlink : mid.session.link.isSome = true) :
    message ∈ (life.step n).told := by
  rw [hstep, Transition.told_toDevice hlink]
  exact List.mem_append_right _ (List.mem_singleton_self _)

/-- With a REGISTER an id gets its name because it is asked for. -/
theorem names_of_register {registration : Sensor.Register}
    (hheard : life.Hears n (.register registration))
    (hsome : (life.before (n + 1)).topics.name? id = some name) :
    (life.before n).topics.name? id = some name ∨ life.Names n name id := by
  obtain ⟨seen, link, hinput⟩ := hheard
  have hstep : life.step n = (life.opening n).whenConnected
      fun _ => Transition.register registration := life.step_of_sensor hinput
  cases hconnected : (life.opening n).session.phase.isConnected with
  | true =>
    have hlink := link_of_isConnected hconnected
    obtain ⟨exchanges, hphase⟩ := exists_connected hconnected
    rw [Transition.whenConnected_eq hphase] at hstep
    simp only [Transition.register, topics_opening] at hstep
    have htopics : (life.before (n + 1)).topics =
        ((life.before n).topics.register registration.topic).2 := by
      rw [before_succ, hstep, Transition.session_toDevice]
      rfl
    refine names_of_registered htopics (fun id hid => ?_) hsome
    rw [hid] at hstep
    exact .register ⟨seen, link, hinput⟩ rfl (mem_told_of_toDevice hstep hlink)
  | false =>
    rw [Transition.whenConnected_eq_refuse hconnected] at hstep
    refine .inl (name?_of_topics_eq ?_ hsome)
    rw [hstep, Transition.refuse, Transition.session_toDevice]

/-- With a SUBACK it gets the name that was subscribed to. -/
theorem names_of_suback {msgId : UInt16} {granted : Bytes}
    (hinput : (life.turn n).input = .broker (.suback msgId granted))
    (hsome : (life.before (n + 1)).topics.name? id = some name) :
    (life.before n).topics.name? id = some name ∨ life.Names n name id := by
  have hstep : life.step n = (life.opening n).broker (life.context n) _ :=
    life.step_of_broker hinput
  cases hconnected : (life.opening n).session.phase.isConnected with
  | true =>
    have hlink := link_of_isConnected hconnected
    obtain ⟨exchanges, hphase⟩ := exists_connected hconnected
    rw [Transition.broker_eq hphase (by rintro code ⟨⟩)] at hstep
    have hstep : life.step n = (life.opening n).confirmSubscribe exchanges msgId
        (granted.head?.getD 0) := hstep
    rcases Transition.confirmSubscribe_cases (life.opening n) exchanges msgId
      (granted.head?.getD 0) with hsame | ⟨request, flags, mid, hopen, rfl, hmid, hreach, htopics⟩
    · exact .inl (name?_of_topics_eq (by rw [hstep, hsame]) hsome)
    · rw [hmid] at hstep
      have hlater : (life.before (n + 1)).topics = mid.session.topics := by
        rw [before_succ, hstep, Transition.session_toDevice]
      have htold := mem_told_of_toDevice hstep (hreach ▸ hlink)
      rcases Transition.grantTopic_cases (life.opening n).session.topics request.topic with
        hsame | ⟨known, hname, hsingle, hid, hregistered⟩
      · exact .inl (name?_of_topics_eq (hlater.trans (htopics.trans hsame)) hsome)
      · rw [htopics, hregistered, topics_opening] at hlater
        refine names_of_registered hlater (fun other hother => ?_) hsome
        rw [hid, topics_opening, hother] at htold
        rw [phase_opening] at hphase
        exact .subscribe hinput ((exchanges_of_connected hphase).symm ▸ hopen) hname hsingle htold
  | false =>
    rw [Transition.broker_eq_self hconnected (by rintro code ⟨⟩)] at hstep
    exact .inl (name?_of_topics_eq (by rw [hstep]) hsome)

/-- With a REGACK it gets the name that it was offered for. -/
theorem names_of_regack {ack : Sensor.TopicAck} (hheard : life.Hears n (.regack ack))
    (hsome : (life.before (n + 1)).topics.name? id = some name) :
    (life.before n).topics.name? id = some name ∨ life.Names n name id := by
  cases hconnected : (life.opening n).session.phase.isConnected with
  | true =>
    obtain ⟨exchanges, hphase⟩ := exists_connected hconnected
    have hstep := step_of_regack hphase hheard
    rcases Transition.regack_cases (life.opening n) exchanges ack with
      hsame | ⟨registration, hoffer, hid, hcode, htopics, hafter⟩
    · exact .inl (name?_of_topics_eq (by rw [hstep, hsame]) hsome)
    · rw [phase_opening] at hphase
      have hopen : life.openOffer n = some registration :=
        (openOffer_of_phase hphase).trans hoffer
      have hended : life.openOffer (n + 1) = none := by
        rw [← hstep, ← before_succ] at hafter
        exact openOffer_of_phase hafter
      rw [before_succ, hstep, htopics, topics_opening] at hsome
      rw [(life.sound_before n).name?_assign (offered?_of_openOffer hopen)] at hsome
      split at hsome
      next heq =>
        refine .inr (.accepted hopen ?_ ⟨⟨ack, hheard, hid, hcode⟩, hended⟩)
        rw [Registration.offered, heq, Option.some.inj hsome]
      next => exact .inl hsome
  | false =>
    obtain ⟨seen, link, hinput⟩ := hheard
    have hstep : life.step n = (life.opening n).whenConnected
        fun exchanges => Transition.regack exchanges ack := life.step_of_sensor hinput
    rw [Transition.whenConnected_eq_refuse hconnected] at hstep
    refine .inl (name?_of_topics_eq ?_ hsome)
    rw [hstep, Transition.refuse, Transition.session_toDevice]

/-- An id has its name from before, or gets it in this turn. -/
theorem name?_or_names (life : Life) (hsome : (life.before (n + 1)).topics.name? id = some name) :
    (life.before n).topics.name? id = some name ∨ life.Names n name id := by
  cases hmay : (life.turn n).input.mayName with
  | false =>
    have hheard := change_hear life.config (life.turn n) (life.before n)
    have hsound := (hheard.sound (life.sound_before n)).1
    have hacts := take_acts life.config (life.turn n) (life.before n)
    have hopening := acts_name?_of_mayName hacts hsound hmay hsome
    exact .inl (hheard.name?_of_mayName (life.sound_before n) hmay hopening)
  | true =>
    unfold Input.mayName at hmay
    split at hmay
    next seen registration link hinput => exact names_of_register ⟨seen, link, hinput⟩ hsome
    next seen ack link hinput => exact names_of_regack ⟨seen, link, hinput⟩ hsome
    next msgId granted hinput => exact names_of_suback hinput hsome
    next => cases hmay

/-! ### Offers that are overtaken -/

variable {publication : Broker.Publish} {offer : Sensor.Register} {first second : UInt16}

/-- The name has an id already, which it was given while the device was asked to take another one
for it, and the device takes that one, too. -/
structure Overtakes (life : Life) (j k m : Nat) (name : String) (first second : UInt16) : Prop where
  /-- The first id is offered in turn `j` and taken in turn `m`. -/
  offered : ∃ publication offer, life.Waits j m publication offer ∧ publication.topic = name ∧
    offer.topicId = first ∧ life.Accepts m offer
  between : j < k ∧ k < m
  unknown : (life.before k).topics.id? name = none
  granted : life.Grants k name second ∧ life.GivesOut k second

/-- Before a name waits nothing is offered. -/
theorem Waits.openOffer_eq_none (h : life.Waits j n publication offer) :
    life.openOffer j = none := by
  cases life.dealing j with
  | offer _ _ _ hfree => exact hfree
  | rest _ _ hoffers => exact (h.begun hoffers).elim
  | atOnce _ _ _ _ _ _ hoffers => exact (h.begun hoffers).elim
  | again hinput => cases hinput.symm.trans h.published
  | bind hheard => exact (h.published.not_hears _ hheard).elim

/-- The id that is offered is given out as the publication comes in. -/
theorem Waits.givesOut (h : life.Waits j n publication offer) :
    life.GivesOut j offer.topicId := by
  obtain ⟨registration, hopen, -, hid⟩ := h.waiting (j + 1) (Nat.lt_succ_self j) h.order
  have hoffered := offered?_of_openOffer hopen
  have hnothing := offered?_of_openOffer_eq_none h.openOffer_eq_none
  rw [← hid]
  refine ⟨Nat.not_lt.mp fun hgiven => ?_, ((life.sound_before (j + 1)).offered _ _ hoffered).2.1⟩
  have hearlier := (life.keeps_before (Nat.le_succ j)).offered _ _ hgiven hoffered
  cases hnothing.symm.trans hearlier

/-- A turn in which the broker publishes grants nothing. -/
theorem Publishes.not_grants (h : life.Publishes n publication) : ¬ life.Grants n name id := by
  intro hgrants
  cases hgrants with
  | register hheard => exact h.not_hears _ hheard
  | subscribe hinput => cases hinput.symm.trans h

/-- An id that a name has got since a turn. -/
theorem exists_names (hle : j ≤ n) (hnew : (life.before j).topics.next ≤ id.toNat)
    (hsome : (life.before n).topics.name? id = some name) :
    ∃ k, j ≤ k ∧ k < n ∧ life.Names k name id := by
  induction hle with
  | refl =>
    have hgiven := ((life.sound_before j).proper.given id name hsome).2
    exact (Nat.not_lt.mpr hnew hgiven).elim
  | @step n hle ih =>
    rcases life.name?_or_names hsome with hold | hnames
    · obtain ⟨k, hafter, hbefore, hnames⟩ := ih hold
      exact ⟨k, hafter, Nat.lt_succ_of_lt hbefore, hnames⟩
    · exact ⟨n, hle, Nat.lt_succ_self n, hnames⟩

theorem Accepts.not_grants (h : life.Accepts n offer) : ¬ life.Grants n name id := by
  obtain ⟨ack, ⟨seen, link, hinput⟩, -⟩ := h.heard
  intro hgrants
  cases hgrants with
  | register hheard =>
    obtain ⟨seen', link', hinput'⟩ := hheard
    cases hinput.symm.trans hinput'
  | subscribe hinput' => cases hinput.symm.trans hinput'

/-- At most one id gets a name in a turn. -/
theorem Names.unique {other : UInt16} (h : life.Names n name id) (h' : life.Names n name other) :
    id = other := by
  cases h with
  | granted hgrants =>
    cases h' with
    | granted hgrants' => exact hgrants.registered.2.2.trans hgrants'.registered.2.2.symm
    | accepted _ _ haccepts => exact (haccepts.not_grants hgrants).elim
  | accepted hopen hoffered haccepts =>
    cases h' with
    | granted hgrants' => exact (haccepts.not_grants hgrants').elim
    | accepted hopen' hoffered' =>
      cases hopen.symm.trans hopen'
      exact (Prod.mk.inj (hoffered.symm.trans hoffered')).1

/-- While a publication waits, its name gets an id only at a request of the device, and this id is
greater than the one that is offered. -/
theorem Waits.granted (h : life.Waits j n publication offer)
    (hsome : (life.before n).topics.name? id = some publication.topic) :
    ∃ k, j < k ∧ k < n ∧ (life.before k).topics.id? publication.topic = none ∧
      (life.Grants k publication.topic id ∧ life.GivesOut k id) ∧ offer.topicId < id := by
  have hnothing := offered?_of_openOffer_eq_none h.openOffer_eq_none
  have hnew : (life.before j).topics.next ≤ id.toNat := by
    refine Nat.not_lt.mp fun hgiven => ?_
    rcases (life.keeps_before (Nat.le_of_lt h.order)).mapped id _ hgiven hsome with
      hname | hoffered
    · exact h.unmapped (Topic.Table.refers_of_name? hname)
    · cases hnothing.symm.trans hoffered
  obtain ⟨k, hafter, hbefore, hnames⟩ := exists_names (Nat.le_of_lt h.order) hnew hsome
  cases hnames with
  | granted hgrants hunknown hgiven =>
    have hlater : j < k := by
      refine Nat.lt_of_le_of_ne hafter ?_
      rintro rfl
      exact h.published.not_grants hgrants
    have hnext : (life.before (j + 1)).topics.next ≤ (life.before k).topics.next :=
      (life.keeps_before hlater).next
    have hgrown : offer.topicId < id :=
      UInt16.lt_iff_toNat_lt.mpr
        (Nat.lt_of_lt_of_le h.givesOut.2 (Nat.le_trans hnext hgiven.1))
    exact ⟨k, hlater, hbefore, hunknown, ⟨hgrants, hgiven⟩, hgrown⟩
  | accepted hopen _ haccepts =>
    rcases Nat.eq_or_lt_of_le hafter with rfl | hlater
    · cases h.openOffer_eq_none.symm.trans hopen
    · exact (h.not_ended hlater hbefore haccepts.ended).elim

/-- Of two ids of a name the smaller one was offered and overtaken by the other. -/
theorem overtakes_of_name? (habove : life.config.predefinedTopicIdSize < first)
    (hlt : first < second) (hfirst : (life.before n).topics.name? first = some name)
    (hsecond : (life.before n).topics.name? second = some name) :
    ∃ j k m, m < n ∧ life.Overtakes j k m name first second := by
  -- by when the two got the name: the later one by an offer that was taken, or else the name
  -- would not have got it
  induction n with
  | zero =>
    have hgiven := ((life.sound_before 0).proper.given first name hfirst).2
    have hnext : (life.before 0).topics.next = life.config.predefinedTopicIdSize.toNat + 1 :=
      Topic.Table.next_ofPredefined _ _
    rw [hnext] at hgiven
    rw [UInt16.lt_iff_toNat_lt] at habove
    omega
  | succ n ih =>
    rcases life.name?_or_names hfirst with hold | hnames
    · rcases life.name?_or_names hsecond with hold' | hnames'
      · obtain ⟨j, k, m, hpast, hovertakes⟩ := ih hold hold'
        exact ⟨j, k, m, Nat.lt_succ_of_lt hpast, hovertakes⟩
      · cases hnames' with
        | granted _ hunknown =>
          exact (Topic.Table.name?_ne_of_id?_eq_none hunknown first hold).elim
        | accepted hopen hoffered =>
          obtain ⟨hid, htopic⟩ := Prod.mk.inj hoffered
          obtain ⟨j, hwaits⟩ := waits_of_openOffer hopen
          obtain ⟨k, -, -, -, -, hgreater⟩ := hwaits.granted (htopic ▸ hold)
          have hid : _ = second := hid
          exact (UInt16.lt_asymm hlt (hid ▸ hgreater)).elim
    · rcases life.name?_or_names hsecond with hold' | hnames'
      · cases hnames with
        | granted _ hunknown =>
          exact (Topic.Table.name?_ne_of_id?_eq_none hunknown second hold').elim
        | accepted hopen hoffered haccepts =>
          obtain ⟨hid, htopic⟩ := Prod.mk.inj hoffered
          obtain ⟨j, hwaits⟩ := waits_of_openOffer hopen
          obtain ⟨k, hafter, hbefore, hunknown, hgranted, -⟩ := hwaits.granted (htopic ▸ hold')
          rw [htopic] at hunknown hgranted
          exact ⟨j, k, n, Nat.lt_succ_self n, ⟨_, _, hwaits, htopic, hid, haccepts⟩,
            ⟨hafter, hbefore⟩, hunknown, hgranted⟩
      · exact (UInt16.ne_of_lt hlt (hnames.unique hnames')).elim

/-- What was granted in one turn is not what was offered in another. -/
theorem Overtakes.not_overtakes {j' k' m' : Nat} {third : UInt16}
    (h : life.Overtakes j k m name first second) :
    ¬ life.Overtakes j' k' m' name second third := by
  intro h'
  obtain ⟨publication, offer, hwaits, -, rfl, -⟩ := h'.offered
  obtain rfl := h.granted.2.unique hwaits.givesOut
  exact hwaits.published.not_grants h.granted.1

/-- Predefined names have no ids above the predefined ones. -/
theorem apart_before (life : Life) (n : Nat) : Apart life.config (life.before n) := by
  rw [before_eq_run]
  exact run_apart _ (sound_begin _ _ _) (apart_begin _ _ _)

/-- What the ids above the predefined ones stand for, at any time. None stands for a predefined
topic. Two stand for the same name only if the smaller one was offered to the device, the device
was given the greater one while it was asked to take the offer, and then took the offer. Three
never do. -/
theorem aliases_raced (life : Life) (n : Nat) (name : String) :
    let session := life.before n
    (∀ id, session.StandsFor life.config .normal id name → ¬ life.config.Predefines name) ∧
    (∀ first second, first < second → session.StandsFor life.config .normal first name →
      session.StandsFor life.config .normal second name →
        ∃ j k m, m < n ∧ life.Overtakes j k m name first second) ∧
    ∀ first second third, first < second → second < third →
      session.StandsFor life.config .normal first name →
        session.StandsFor life.config .normal second name →
          ¬ session.StandsFor life.config .normal third name := by
  intro session
  refine ⟨fun id hid => (life.apart_before n).not_predefines hid,
    fun first second hlt hfirst hsecond => overtakes_of_name? hfirst.1 hlt hfirst.2 hsecond.2,
    fun first second third hlt hlt' hfirst hsecond hthird => ?_⟩
  obtain ⟨j, k, m, -, hovertakes⟩ := overtakes_of_name? hfirst.1 hlt hfirst.2 hsecond.2
  obtain ⟨j', k', m', -, hovertakes'⟩ := overtakes_of_name? hsecond.1 hlt' hsecond.2 hthird.2
  exact hovertakes.not_overtakes hovertakes'

/-- A device that is offered an id for a name, asks for one itself before it answers, and then
takes the offer. -/
def overtaken : Life :=
  ofTurns {} meter 0
    [⟨0, {}, .sensor meter (.connect
        { flags := {}, protocolId := 1, duration := 60, clientId := "d" }) "udp:20000"⟩,
      ⟨1, {}, .broker (.connack Broker.Message.accepted)⟩,
      ⟨2, {}, .broker (.publish ⟨false, 0, false, "temperature", 0, [21]⟩)⟩,
      ⟨3, {}, .sensor meter (.register ⟨0, 7, "temperature"⟩) "udp:20000"⟩,
      ⟨4, {}, .sensor meter (.regack ⟨51, 1, .accepted⟩) "udp:20000"⟩]

/-- In the end the name has both ids. -/
theorem standsFor_overtaken (id : UInt16) (hid : id = 51 ∨ id = 52) :
    (overtaken.before 5).StandsFor overtaken.config .normal id "temperature" := by
  rcases hid with rfl | rfl <;> exact ⟨by decide, rfl⟩

/-- Both ids then stand for the name, and no third one does. -/
theorem aliases_raced_overtaken :
    (overtaken.before 5).StandsFor overtaken.config .normal 51 "temperature" ∧
      (overtaken.before 5).StandsFor overtaken.config .normal 52 "temperature" ∧
      (51 : UInt16) < 52 ∧ (∃ j k m, m < 5 ∧ overtaken.Overtakes j k m "temperature" 51 52) ∧
      ¬ (overtaken.before 5).StandsFor overtaken.config .normal 53 "temperature" := by
  have hfirst := standsFor_overtaken 51 (.inl rfl)
  have hsecond := standsFor_overtaken 52 (.inr rfl)
  obtain ⟨-, hovertakes, hthree⟩ := aliases_raced overtaken 5 "temperature"
  exact ⟨hfirst, hsecond, by decide, hovertakes 51 52 (by decide) hfirst hsecond,
    hthree 51 52 53 (by decide) (by decide) hfirst hsecond⟩

/-- So a name may have two ids above the predefined ones. -/
theorem not_all_names_once :
    ¬ ∀ (life : Life) (n : Nat) (first second : UInt16) (name : String),
      life.config.validate = .ok () →
        (life.before n).StandsFor life.config .normal first name →
          (life.before n).StandsFor life.config .normal second name → first = second := by
  intro hall
  exact absurd (hall overtaken 5 51 52 "temperature" rfl (standsFor_overtaken 51 (.inl rfl))
    (standsFor_overtaken 52 (.inr rfl))) (by decide)

end Life

end SensorGateway.Session
