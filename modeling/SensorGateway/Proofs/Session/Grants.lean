import SensorGateway.Config.Validation
import SensorGateway.Proofs.Session.Deeds

/-!
What a topic id is worth that a device was granted. It is told as a normal id, in
the answer to a REGISTER or to a SUBSCRIBE by name, and the next publication of the
device may go by it. `granted_publish` says which ids serve for that. Two kinds do
not, although the device was told that its request was accepted: the id of a
predefined topic, which is granted as a normal one, and 0, which stands in the
answer to a subscription when there is no id left.
-/

namespace SensorGateway.Session

namespace Transition

variable {t mid : Transition}

theorem handed_toDevice (message : Sensor.Message) : (t.toDevice message).handed = t.handed := by
  unfold toDevice
  split
  · rfl
  · simp [handed, emit, Effect.handed?]

theorem handed_tearDown : t.tearDown.handed = t.handed := by
  have htold : (t.toDevice (.disconnect none)).handed = t.handed := handed_toDevice _
  rw [← htold]
  simp [handed, tearDown, closeBroker, emit, update, Effect.handed?]

theorem handed_forward (line : Broker.Line) (message : Broker.Message) :
    (t.forward line message).2.handed = t.handed ++ [message] := by
  have hsent := t.handed_sendBroker line message
  unfold forward
  rcases hsend : t.sendBroker line message with ⟨taken, sent⟩
  rw [hsend] at hsent
  cases taken with
  | true => exact hsent
  | false =>
    simp only [connectionLost]
    split
    · exact hsent
    · exact handed_tearDown.trans hsent

end Transition

def published (publication : Sensor.Publish) (name : String) : Broker.Publish where
  dup := publication.flags.dup
  qos := brokerLevel publication.flags.qos
  retain := publication.flags.retain
  topic := name
  msgId := publication.msgId
  data := publication.data

namespace Transition

variable {t : Transition} {context : Context} {exchanges : Exchanges} {publication : Sensor.Publish}

/-- A publication under a name that is known, unless it has to wait for another one. -/
theorem publish_of_name {name : String}
    (hfree : ¬ (exchanges.publish.isSome = true ∧ publication.flags.qos = .atLeastOnce))
    (hname : t.session.topics.resolve? publication.flags.topicIdType publication.topicId =
      some name) :
    t.publish context exchanges publication =
      match t.forward context.line (.publish (published publication name)) with
      | (false, next) => next
      | (true, next) =>
          if publication.flags.qos = .atLeastOnce then
            next.enter (.connected
              { exchanges with publish := some ⟨publication.topicId, publication.msgId⟩ })
          else next := by
  simp only [publish, if_neg hfree, hname]
  rfl

/-- A publication with a name is handed to the broker under it. -/
theorem handed_publish {name : String}
    (hfree : ¬ (exchanges.publish.isSome = true ∧ publication.flags.qos = .atLeastOnce))
    (hname : t.session.topics.resolve? publication.flags.topicIdType publication.topicId =
      some name) :
    (t.publish context exchanges publication).handed =
      t.handed ++ [.publish (published publication name)] := by
  have hhanded := t.handed_forward context.line (.publish (published publication name))
  rw [publish_of_name hfree hname]
  revert hhanded
  generalize t.forward context.line _ = result
  rcases result with ⟨_ | _, next⟩ <;> intro hhanded
  · exact hhanded
  · simp only
    split <;> exact hhanded

/-- A publication without a name is refused. -/
theorem publish_refused
    (hfree : ¬ (exchanges.publish.isSome = true ∧ publication.flags.qos = .atLeastOnce))
    (hnone : t.session.topics.resolve? publication.flags.topicIdType publication.topicId = none) :
    t.publish context exchanges publication =
      t.toDevice (.puback ⟨publication.topicId, publication.msgId, .invalidTopicId⟩) := by
  simp only [publish, if_neg hfree, hnone]

end Transition

/-- A publication of a connected device, at any level but minus one. -/
theorem take_publish (config : Config) {session : Session} {turn : Turn} {seen : Address}
    {publication : Sensor.Publish} {link : LinkName} {exchanges : Exchanges}
    (hinput : turn.input = .sensor seen (.publish publication) link)
    (hlevel : publication.flags.qos ≠ .minusOne)
    (hphase : session.phase = .connected exchanges) :
    session.take config turn = (Transition.start (session.hear config turn)).publish
      (turn.context config) exchanges publication := by
  have hheard : (session.hear config turn).phase = .connected exchanges :=
    (phase_hear config turn session).trans hphase
  rw [take_sensor config hinput, Transition.sensor_of_ne_minusOne hlevel]
  exact Transition.whenConnected_eq hheard _

namespace Life

/-- The device is told in a turn that it may use an id for a name. -/
inductive Grants (life : Life) (n : Nat) (name : String) (id : UInt16) : Prop where
  | register {registration : Sensor.Register} (hheard : life.Hears n (.register registration))
      (hname : registration.topic = name)
      (htold : .regack ⟨id, registration.msgId, .accepted⟩ ∈ (life.step n).told)
  | subscribe {request : RequestInFlight} {granted : Bytes} {flags : Sensor.Flags}
      (hinput : (life.turn n).input = .broker (.suback request.msgId granted))
      (hopen : (life.before n).exchanges.subscribe = some request)
      (hname : request.topic = .named name) (hsingle : Topic.isWildcard name = false)
      (htold : .suback ⟨flags, id, request.msgId, .accepted⟩ ∈ (life.step n).told)

variable {life : Life} {n : Nat} {name : String} {id : UInt16}

/-- A step that ends with a message for the device has told it this. -/
theorem told_of_toDevice {mid : Transition} {message : Sensor.Message}
    (hstep : life.step n = mid.toDevice message) (hnothing : mid.told = [])
    {other : Sensor.Message} (hin : other ∈ (life.step n).told) : other = message := by
  rw [hstep] at hin
  cases hlink : mid.session.link with
  | none => simp [Transition.toDevice, hlink, hnothing] at hin
  | some link =>
    rw [Transition.told_toDevice (by rw [hlink]; rfl), hnothing] at hin
    exact List.mem_singleton.mp hin

/-- Both answers tell the id that the name got in the table, or else 0. -/
theorem Grants.registered (h : life.Grants n name id) :
    (life.before (n + 1)).isConnected = true ∧
      (life.before (n + 1)).topics = ((life.before n).topics.register name).2 ∧
      id = ((life.before n).topics.register name).1.getD 0 := by
  cases h with
  | @register registration hheard hname htold =>
    obtain ⟨seen, link, hinput⟩ := hheard
    have hstep : life.step n = (life.opening n).whenConnected
        fun _ => Transition.register registration := life.step_of_sensor hinput
    cases hphase : (life.before n).phase with
    | connected exchanges =>
      have hopening := (life.phase_opening n).trans hphase
      rw [Transition.whenConnected_eq hopening] at hstep
      simp only [Transition.register, topics_opening, hname] at hstep
      have hsaid := told_of_toDevice hstep rfl htold
      rw [before_succ, hstep, Transition.session_toDevice]
      refine ⟨?_, rfl, ?_⟩
      · exact (congrArg Phase.isConnected hopening :)
      · cases hid : ((life.before n).topics.register name).1 with
        | none => rw [hid] at hsaid; cases hsaid
        | some known => rw [hid] at hsaid; cases hsaid; rfl
    | _ =>
      rw [Transition.whenConnected_eq_refuse (by rw [phase_opening, hphase]; rfl)] at hstep
      cases told_of_toDevice hstep rfl htold
  | @subscribe request granted flags hinput hopen hname hsingle htold =>
    have hstep : life.step n = (life.opening n).broker (life.context n) _ :=
      life.step_of_broker hinput
    cases hphase : (life.before n).phase with
    | connected exchanges =>
      rw [exchanges_of_connected hphase] at hopen
      rw [Transition.broker_eq ((life.phase_opening n).trans hphase) (by rintro code ⟨⟩)] at hstep
      have hstep : life.step n = (life.opening n).confirmSubscribe exchanges request.msgId
          (granted.head?.getD 0) := hstep
      simp only [Transition.confirmSubscribe, hopen, topics_opening, hname, Transition.grantTopic,
        hsingle, ne_eq, not_true_eq_false, Bool.false_eq_true, if_false] at hstep
      have hsaid := told_of_toDevice hstep rfl htold
      rw [before_succ, hstep, Transition.session_toDevice]
      exact ⟨rfl, rfl, (Sensor.Suback.mk.inj (Sensor.Message.suback.inj hsaid)).2.1⟩
    | _ =>
      rw [exchanges_of_not_connected (by rw [hphase]; rfl)] at hopen
      cases hopen

/-- At level minus one an id is nothing to the session, granted or not: what the device
publishes is passed on to the gateway, the broker is handed nothing, and the device is
told nothing. -/
theorem step_of_minusOne (life : Life) {n : Nat} {seen : Address} {link : LinkName}
    {publication : Sensor.Publish}
    (hinput : (life.turn n).input = .sensor seen (.publish publication) link)
    (hlevel : publication.flags.qos = .minusOne) :
    life.step n = ⟨(life.before n).hear life.config (life.turn n),
        [.forGateway (.publish publication) link]⟩ ∧
      (life.step n).handed = [] ∧ (life.step n).told = [] := by
  have hstep : life.step n = ⟨(life.before n).hear life.config (life.turn n),
      [.forGateway (.publish publication) link]⟩ := by
    rw [life.step_of_sensor hinput, Transition.sensor_of_minusOne hlevel]
    rfl
  refine ⟨hstep, ?_⟩
  rw [hstep]
  exact ⟨rfl, rfl⟩

/-- A device that is granted an id for a name publishes next as the broker gets it
under this name, if the id is above the predefined ones. Under any other id it is
told that the id is invalid, and it was granted one only because the name is
predefined, or because there was no id left. What it publishes at level minus one is
not for its own connection, and an id is not granted for that (`step_of_minusOne`). -/
theorem granted_publish (life : Life) {n : Nat} {name : String} {id : UInt16}
    {publication : Sensor.Publish} (hgrants : life.Grants n name id)
    (hheard : life.Hears (n + 1) (.publish publication))
    (htype : publication.flags.topicIdType = .normal) (hid : publication.topicId = id)
    (hlevel : publication.flags.qos ≠ .minusOne)
    (hfree : (life.before (n + 1)).exchanges.publish = none) :
    (life.config.predefinedTopicIdSize < id →
        (life.step (n + 1)).handed = [.publish (published publication name)]) ∧
      (id ≤ life.config.predefinedTopicIdSize →
        (life.step (n + 1)).handed = [] ∧
          (life.step (n + 1)).told = [.puback ⟨id, publication.msgId, .invalidTopicId⟩] ∧
          (life.config.predefinedName? id = some name ∨
            id = 0 ∧ 65535 < (life.before n).topics.next)) := by
  subst hid
  obtain ⟨hconnected, htopics, hgranted⟩ := hgrants.registered
  have hproper := (life.sound_before n).proper
  have hresolve := Topic.Table.resolve?_register hproper name hgranted
  rw [← htopics, ← topics_opening, ← htype] at hresolve
  obtain ⟨seen, link, hinput⟩ := hheard
  obtain ⟨exchanges, hphase⟩ := exists_connected hconnected
  rw [exchanges_of_connected hphase] at hfree
  have hfree : ¬ (exchanges.publish.isSome = true ∧ publication.flags.qos = .atLeastOnce) := by
    rw [hfree]
    exact fun hbusy => Bool.false_ne_true hbusy.1
  have hstep : life.step (n + 1) =
      (life.opening (n + 1)).publish (life.context (n + 1)) exchanges publication :=
    take_publish life.config hinput hlevel hphase
  refine ⟨fun hfresh => ?_, fun hrange => ?_⟩
  · rw [if_pos hfresh] at hresolve
    rw [hstep, Transition.handed_publish hfree hresolve]
    rfl
  · rw [if_neg (UInt16.not_lt.mpr hrange)] at hresolve
    have hlink : (life.opening (n + 1)).session.link.isSome = true :=
      link_of_isConnected (by rw [phase_opening]; exact hconnected)
    rw [hstep, Transition.publish_refused hfree hresolve, Transition.handed_toDevice,
      Transition.told_toDevice hlink]
    refine ⟨rfl, rfl, ?_⟩
    rcases Topic.Table.register_cases hproper name with ⟨hfull, hout⟩ | ⟨known, hsome, -, hkind⟩
    · rw [hout] at hgranted
      exact .inr ⟨hgranted, hfull⟩
    · rw [hsome] at hgranted
      obtain rfl : publication.topicId = known := hgranted
      exact .inl (hkind.resolve_right (UInt16.not_lt.mpr hrange))

/-- A device that registers the name of a predefined topic and publishes under the id
that it is told. -/
def alarmed : Life :=
  ofTurns { predefinedTopicIdSize := 1, predefinedTopics := [⟨1, "alarm"⟩] } meter 0
    [⟨0, {}, .sensor meter (.connect
        { flags := {}, protocolId := 1, duration := 60, clientId := "d" }) "udp:20000"⟩,
      ⟨1, {}, .broker (.connack Broker.Message.accepted)⟩,
      ⟨2, {}, .sensor meter (.register ⟨0, 7, "alarm"⟩) "udp:20000"⟩,
      ⟨3, {}, .sensor meter (.publish ⟨{}, 1, 8, [1]⟩) "udp:20000"⟩]

theorem grants_alarmed : alarmed.Grants 2 "alarm" 1 :=
  .register ⟨_, _, rfl⟩ rfl (List.mem_singleton_self _)

/-- It is told that the id is invalid. -/
theorem granted_publish_alarmed :
    alarmed.Grants 2 "alarm" 1 ∧ (alarmed.step 3).handed = [] ∧
      (alarmed.step 3).told = [.puback ⟨1, 8, .invalidTopicId⟩] := by
  obtain ⟨-, hinvalid⟩ := @granted_publish alarmed 2 "alarm" 1 ⟨{}, 1, 8, [1]⟩ grants_alarmed
    ⟨_, _, rfl⟩ rfl rfl nofun rfl
  obtain ⟨hnothing, htold, -⟩ := hinvalid (by decide)
  exact ⟨grants_alarmed, hnothing, htold⟩

/-- So an id that was granted does not always serve to publish under the name. -/
theorem not_all_grants_usable :
    ¬ ∀ (life : Life) (n : Nat) (name : String) (id : UInt16) (publication : Sensor.Publish),
      life.config.validate = .ok () → life.Grants n name id →
        life.Hears (n + 1) (.publish publication) → publication.flags.topicIdType = .normal →
          publication.topicId = id → publication.flags.qos ≠ .minusOne →
            (life.before (n + 1)).exchanges.publish = none →
              ∃ message,
                (life.step (n + 1)).handed = [.publish message] ∧ message.topic = name := by
  intro hall
  obtain ⟨message, hhanded, -⟩ := hall alarmed 2 "alarm" 1 ⟨{}, 1, 8, [1]⟩ rfl grants_alarmed
    ⟨_, _, rfl⟩ rfl rfl nofun rfl
  have hnothing : (alarmed.step 3).handed = [] := rfl
  cases hnothing.symm.trans hhanded

end Life

end SensorGateway.Session
