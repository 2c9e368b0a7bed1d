import SensorGateway.Proofs.Session.Deliveries
import SensorGateway.Proofs.Session.Publications
import SensorGateway.Uplink

/-!
A device that answers under the topic id of what it was sent. The session translates names to
ids and ids to names in two different places: for a name it takes the smallest id that the table
has, or else its two bytes, and for an id it asks whether the id is predefined. What holds them
together is `Denotes`: a reference that denotes a name is resolved to it, whatever else is known
under this name. The gateway itself publishes at level minus one for devices, and has a table of
its own for it, in which nothing is registered; so there the way back ends for a normal id.
-/

namespace SensorGateway

/-- Two bytes of text stand for themselves. -/
theorem Topic.shortName_join {first second : UInt8} {name : String}
    (hbytes : Text.bytes name = [first, second]) : shortName (Word.join first second) = name := by
  have hlossy : Text.ofPairLossy first second = name := by
    rw [Text.ofPairLossy, ← hbytes, Text.ofBytes?_bytes]
  exact Session.shortName_eq_iff.mpr ⟨first, second, rfl, hlossy.symm⟩

namespace Topic.Table

variable {table : Table} {type : Sensor.TopicIdType} {id : UInt16} {name : String}

/-- What a device takes an id for is what it publishes under it. -/
theorem resolve?_of_denotes (h : table.Denotes type id name) :
    table.resolve? type id = some name := by
  cases type with
  | normal =>
    obtain ⟨hregistered, hname⟩ := h
    rw [resolve?, hregistered]
    exact hname
  | predefined =>
    obtain ⟨hpredefined, hname⟩ := h
    rw [resolve?, if_pos hpredefined, hname]
  | short =>
    obtain ⟨first, second, hbytes, rfl⟩ := h
    exact congrArg some (shortName_join hbytes)

end Topic.Table

namespace Uplink

def relayed (publication : Sensor.Publish) (topic : String) : Broker.Publish :=
  { dup := false, qos := 0, retain := false, topic, msgId := 0, data := publication.data }

namespace Transition

/-- Apart from normal ids, an id stands for the same in the gateway as in a session. -/
theorem topic?_of_standsFor {config : Config} {session : Session} {type : Sensor.TopicIdType}
    {id : UInt16} {name : String} (hkind : type ≠ .normal)
    (h : session.StandsFor config type id name) : topic? config type id = some name := by
  have hfresh := Session.sound_begin config (.gateway 0) 0
  have hresolves : config.topicTable.resolve? type id = some name := by
    refine (hfresh.resolve?_iff type).mpr ?_
    cases type with
    | normal => exact (hkind rfl).elim
    | predefined => exact h
    | short => exact h
  cases type with
  | normal => exact (hkind rfl).elim
  | predefined => exact hresolves
  | short => exact hresolves

end Transition

variable {context : Context} {uplink : Uplink} {publication : Sensor.Publish} {topic : String}

/-- A connected gateway forwards what is published at level minus one under a topic that it
knows. -/
theorem onSensor_of_topic (hlevel : publication.flags.qos = .minusOne)
    (hconnected : uplink.connected = true)
    (htopic : Transition.topic? context.config publication.flags.topicIdType
      publication.topicId = some topic) :
    onSensor context (.publish publication) uplink =
      (Transition.start uplink).forward context (.publish (relayed publication topic)) := by
  have hrelay : onSensor context (.publish publication) uplink =
      (Transition.start uplink).relay context publication := if_pos hlevel
  have hstart : (Transition.start uplink).uplink.connected = true := hconnected
  rw [hrelay, Transition.relay, if_pos hstart, htopic]
  rfl

/-- It passes over what is published under any other. -/
theorem onSensor_of_no_topic
    (htopic : Transition.topic? context.config publication.flags.topicIdType
      publication.topicId = none) :
    onSensor context (.publish publication) uplink = (Transition.start uplink, .ok ()) := by
  simp only [onSensor, Transition.relay, htopic, ite_self]

end Uplink

namespace Session.Life

variable {life : Life} {j n : Nat} {delivery reply : Sensor.Publish}

/-- After a delivery its id stands for the name under which it was published. -/
theorem Stems.standsFor (h : life.Stems j n delivery) {publication : Broker.Publish}
    (hpublished : life.Publishes j publication) :
    (life.before (n + 1)).StandsFor life.config delivery.flags.topicIdType delivery.topicId
      publication.topic := by
  obtain ⟨origin, horigin, -, hdenotes, -⟩ := h.origin
  obtain rfl := hpublished.unique horigin
  exact ((life.sound_before (n + 1)).resolve?_iff _).mp (Topic.Table.resolve?_of_denotes hdenotes)

theorem Stems.connected_after (h : life.Stems j n delivery) :
    ∃ exchanges, (life.before (n + 1)).phase = .connected exchanges :=
  exists_connected (h.connected (n + 1) (Nat.le_succ_of_le h.order) (Nat.le_refl _))

/-- What a device publishes under the id of what it was sent just before goes to the broker under
the name that this was published under, whether the id was known then or had to be offered first,
and whatever other ids there are for the name. At level minus one it goes to the gateway, which
knows the name as well, unless the id is normal: then it publishes nothing. -/
theorem references_lead_back (life : Life) (n : Nat) {delivery reply : Sensor.Publish}
    {seen : Address} {link : LinkName} (hin : delivery ∈ life.deliveries n)
    (hinput : (life.turn (n + 1)).input = .sensor seen (.publish reply) link)
    (htype : reply.flags.topicIdType = delivery.flags.topicIdType)
    (hid : reply.topicId = delivery.topicId) :
    let heard := (life.before (n + 1)).hear life.config (life.turn (n + 1))
    ∃ j publication, life.Publishes j publication ∧ life.Stems j n delivery ∧
      (∀ k, life.Stems k n delivery → k = j) ∧
      (reply.flags.qos ≠ .minusOne → ¬ (life.before (n + 1)).PassesOver reply →
        Forwards (life.turn (n + 1)).line heard reply publication.topic (life.step (n + 1))) ∧
      (reply.flags.qos = .minusOne →
        life.step (n + 1) = ⟨heard, [.forGateway (.publish reply) link]⟩ ∧
        ∀ (context : Uplink.Context) (uplink : Uplink), context.config = life.config →
          (delivery.flags.topicIdType = .normal →
            uplink.onSensor context (.publish reply) = (.start uplink, .ok ())) ∧
          (delivery.flags.topicIdType ≠ .normal → uplink.connected = true →
            uplink.onSensor context (.publish reply) =
              (Uplink.Transition.start uplink).forward context
                (.publish (Uplink.relayed reply publication.topic)))) := by
  intro heard
  obtain ⟨-, j, hstems⟩ := stems_of_mem hin
  obtain ⟨publication, hpublished, -⟩ := hstems.origin
  have hname : (life.before (n + 1)).StandsFor life.config reply.flags.topicIdType reply.topicId
      publication.topic := by
    rw [htype, hid]
    exact hstems.standsFor hpublished
  refine ⟨j, publication, hpublished, hstems, fun k hother => hother.unique hstems, ?_, ?_⟩
  · intro hlevel hfree
    obtain ⟨exchanges, hphase⟩ := hstems.connected_after
    exact forwards_of_standsFor hinput hlevel hphase (life.sound_before (n + 1)) hfree hname
  · intro hlevel
    constructor
    · exact (life.step_of_minusOne hinput hlevel).1
    · intro context uplink hconfig
      constructor
      · intro hnormal
        refine Uplink.onSensor_of_no_topic ?_
        rw [htype, hnormal]
        rfl
      · intro hkind hconnected
        rw [← htype] at hkind
        refine Uplink.onSensor_of_topic hlevel hconnected ?_
        rw [hconfig]
        exact Uplink.Transition.topic?_of_standsFor hkind hname

/-- A device that takes the id it is offered for a name and then publishes under it, at this
level. -/
def answering (qos : Sensor.QoS) : Life :=
  ofTurns {} meter 0
    [⟨0, {}, .sensor meter (.connect
        { flags := {}, protocolId := 1, duration := 60, clientId := "d" }) "udp:20000"⟩,
      ⟨1, {}, .broker (.connack Broker.Message.accepted)⟩,
      ⟨2, {}, .broker (.publish ⟨false, 0, false, "temperature", 0, [21]⟩)⟩,
      ⟨3, {}, .sensor meter (.regack ⟨51, 1, .accepted⟩) "udp:20000"⟩,
      ⟨4, {}, .sensor meter (.publish ⟨{ qos }, 51, 9, [22]⟩) "udp:20000"⟩]

def answered : Sensor.Publish :=
  delivered ⟨false, 0, false, "temperature", 0, [21]⟩ .normal 51

/-- At level 1 what it publishes reaches the broker under the name that it took the id for. -/
theorem references_lead_back_answering :
    (answering .atLeastOnce).Stems 2 3 answered ∧
      ((answering .atLeastOnce).step 4).handed =
        [.publish ⟨false, 1, false, "temperature", 9, [22]⟩] := by
  have hin : answered ∈ (answering .atLeastOnce).deliveries 3 := List.mem_singleton_self _
  have hfree : ¬ ((answering .atLeastOnce).before 4).PassesOver
      ⟨{ qos := .atLeastOnce }, 51, 9, [22]⟩ :=
    fun hpassed => Bool.false_ne_true hpassed.1
  obtain ⟨j, publication, hpublished, hstems, -, hforwards, -⟩ :=
    references_lead_back (answering .atLeastOnce) 3 hin rfl rfl rfl
  have hhanded := (hforwards nofun hfree).handed
  -- the broker publishes in turn 2 only
  have hturn : j = 2 := by
    match j, hstems.order, hpublished with
    | 2, _, _ => rfl
    | 0, _, hother | 1, _, hother | 3, _, hother => cases hother
  subst hturn
  cases hpublished
  exact ⟨hstems, hhanded⟩

/-- Not so at level minus one: under a normal id the session hands nothing to the broker, and the
gateway finds no name for it. -/
theorem references_lost_at_minusOne :
    ¬ ∀ (life : Life) (n : Nat) (delivery reply : Sensor.Publish) (seen : Address)
        (link : LinkName), delivery ∈ life.deliveries n →
      (life.turn (n + 1)).input = .sensor seen (.publish reply) link →
      (life.before (n + 1)).awaits .puback = false →
      reply.flags.topicIdType = delivery.flags.topicIdType → reply.topicId = delivery.topicId →
      ∃ j publication, life.Publishes j publication ∧ life.Stems j n delivery ∧
        ((∃ message, .publish message ∈ (life.step (n + 1)).handed ∧
            message.topic = publication.topic) ∨
          Uplink.Transition.topic? life.config reply.flags.topicIdType reply.topicId =
            some publication.topic) := by
  intro hclaimed
  have hin : answered ∈ (answering .minusOne).deliveries 3 := List.mem_singleton_self _
  have hnothing : ((answering .minusOne).step 4).handed = [] := rfl
  obtain ⟨j, publication, -, -, ⟨message, hhanded, -⟩ | htopic⟩ :=
    hclaimed (answering .minusOne) 3 answered ⟨{ qos := .minusOne }, 51, 9, [22]⟩ meter
      "udp:20000" hin rfl rfl rfl rfl
  · rw [hnothing] at hhanded
    cases hhanded
  · cases htopic

end Session.Life

end SensorGateway
