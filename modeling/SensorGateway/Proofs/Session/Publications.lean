import SensorGateway.Proofs.Session.Grants
import SensorGateway.Proofs.Session.Teardown

/-!
What becomes of what a device publishes. A topic id is a number of one of three kinds, and the
same number may stand for something in each of them. Either the id stands for a name, and the
broker is handed the publication under this name, or it stands for none, and the device is told
that the id is invalid: never both, and never neither. That the kinds stay apart is a matter of
the whole run. No name is under 0, the predefined ids never change, and an id above them is only
given to a name that has none.
-/

namespace SensorGateway

def Config.Predefines (config : Config) (name : String) : Prop :=
  ∃ id, id ≠ 0 ∧ id ≤ config.predefinedTopicIdSize ∧ config.predefinedName? id = some name

namespace Session

variable {config : Config} {input : Input} {session before after : Session}

/-! ### The predefined names and the others -/

/-- No id above the predefined ones means a name that one of these has. -/
def Apart (config : Config) (session : Session) : Prop :=
  ∀ id name, config.predefinedTopicIdSize < id → session.Means id name → ¬ config.Predefines name

/-- A name without an id is not predefined. -/
theorem Sound.not_predefines (h : Sound config session) {name : String}
    (hunknown : session.topics.id? name = none) : ¬ config.Predefines name := by
  rintro ⟨id, hne, hrange, hname⟩
  have hpredefined := h.proper.predefined id (h.proper.isPredefined_iff.mpr ⟨hne, hrange⟩)
  exact Topic.Table.name?_ne_of_id?_eq_none hunknown id (hpredefined.trans hname)

/-- An id that comes to mean a name is given to one that has none. -/
theorem Change.id?_eq_none (hchange : Change input before after) (h : Sound config before)
    {id : UInt16} {name : String} (hnew : ¬ id.toNat < before.topics.next)
    (hmeans : after.Means id name) : before.topics.id? name = none := by
  have hgiven : id.toNat < after.topics.next := (hchange.sound h).1.lt_next hmeans
  have hgrown : after.topics.next ≠ before.topics.next := fun hsame => hnew (hsame ▸ hgiven)
  cases hchange with
  | rest htopics => exact (hgrown (congrArg _ htopics)).elim
  | accept _ htopics => exact (hgrown (congrArg _ htopics)).elim
  | exchange htopics => exact (hgrown (congrArg _ htopics)).elim
  | bind htopics => exact (hgrown (by rw [htopics, Topic.Table.next_assign])).elim
  | forgetId htopics => exact (hgrown (by rw [htopics, Topic.Table.next_removeId])).elim
  | forgetName htopics => exact (hgrown (by rw [htopics, Topic.Table.next_removeName])).elim
  | register known htopics hphase =>
    rcases hmeans with hnamed | hoffered
    · rcases h.proper.name?_of_register (htopics ▸ hnamed) with hold | ⟨rfl, hunknown, -⟩
      · exact (hnew (h.lt_next (.inl hold))).elim
      · exact hunknown
    · exact (hnew (h.lt_next (.inr (offered?_congr hphase ▸ hoffered)))).elim
  | offer known hnext htopics hoffered hbefore hafter hunknown =>
    rcases hmeans with hnamed | hoffer
    · rw [htopics] at hnamed
      exact (hnew (h.lt_next (.inl hnamed))).elim
    · rw [offered?_of_connected hafter, Option.map_some, hoffered] at hoffer
      cases hoffer
      exact hunknown

/-- No change gives a predefined name an id of its own. -/
theorem Change.apart (hchange : Change input before after) (h : Sound config before)
    (hapart : Apart config before) : Apart config after := by
  intro id name habove hmeans
  by_cases hgiven : id.toNat < before.topics.next
  · exact hapart id name habove ((hchange.sound h).2.means hgiven hmeans)
  · exact h.not_predefines (hchange.id?_eq_none h hgiven hmeans)

/-- Neither does any number of acts. -/
theorem acts_apart {context : Context} {t next : Transition} (hacts : Acts context input t next)
    (h : Sound config t.session) (hapart : Apart config t.session) :
    Apart config next.session := by
  induction hacts with
  | refl => exact hapart
  | tail hearlier hact ih =>
    exact (Transition.act_change hact).apart (acts_sound hearlier h).1 ih

theorem take_apart (turn : Turn) (h : Sound config session) (hapart : Apart config session) :
    Apart config (session.take config turn).session := by
  have hheard := change_hear config turn session
  exact acts_apart (take_acts config turn session) (hheard.sound h).1 (hheard.apart h hapart)

theorem run_apart (turns : List Turn) (h : Sound config session) (hapart : Apart config session) :
    Apart config (session.run config turns).session := by
  induction turns generalizing session with
  | nil => exact hapart
  | cons turn turns ih => exact ih (take_sound turn h).1 (take_apart turn h hapart)

theorem apart_begin (config : Config) (address : Address) (now : Nat) :
    Apart config (begin config address now) := by
  intro id name habove hmeans
  have hgiven := (sound_begin config address now).lt_next hmeans
  have hnext : (begin config address now).topics.next = config.predefinedTopicIdSize.toNat + 1 :=
    Topic.Table.next_ofPredefined _ _
  rw [hnext, Nat.lt_succ_iff] at hgiven
  exact (Nat.not_lt.mpr hgiven (UInt16.lt_iff_toNat_lt.mp habove)).elim

/-! ### What an id stands for -/

/-- What an id of this type stands for in a publication of the device. -/
def StandsFor (config : Config) (session : Session) (type : Sensor.TopicIdType) (id : UInt16)
    (name : String) : Prop :=
  match type with
  | .normal => config.predefinedTopicIdSize < id ∧ session.topics.name? id = some name
  | .predefined =>
      id ≠ 0 ∧ id ≤ config.predefinedTopicIdSize ∧ config.predefinedName? id = some name
  | .short => ∃ first second, Word.join first second = id ∧ name = Text.ofPairLossy first second

theorem shortName_eq_iff {id : UInt16} {name : String} :
    Topic.shortName id = name ↔
      ∃ first second, Word.join first second = id ∧ name = Text.ofPairLossy first second := by
  constructor
  · rintro rfl
    exact ⟨_, _, Word.join_bytes id, rfl⟩
  · rintro ⟨first, second, rfl, rfl⟩
    have hbytes := Word.bytes_join first second
    simp only [Word.bytes, List.cons.injEq, and_true] at hbytes
    rw [Topic.shortName, hbytes.1, hbytes.2]

/-- The table knows what an id stands for. -/
theorem Sound.resolve?_iff (h : Sound config session) (type : Sensor.TopicIdType) {id : UInt16}
    {name : String} :
    session.topics.resolve? type id = some name ↔ session.StandsFor config type id name := by
  have hpredefined : session.topics.isPredefined id = true ↔
      id ≠ 0 ∧ id ≤ config.predefinedTopicIdSize := h.proper.isPredefined_iff
  cases type with
  | normal =>
    simp only [Topic.Table.resolve?, StandsFor]
    constructor
    · intro hsome
      split at hsome
      next => cases hsome
      next hother =>
        have hne := (h.proper.given id name hsome).1
        exact ⟨UInt16.not_le.mp fun hrange => hother (hpredefined.mpr ⟨hne, hrange⟩), hsome⟩
    · rintro ⟨habove, hsome⟩
      rw [h.proper.isPredefined_of_lt habove]
      exact hsome
  | predefined =>
    simp only [Topic.Table.resolve?, StandsFor]
    constructor
    · intro hsome
      split at hsome
      next hinside =>
        obtain ⟨hne, hrange⟩ := hpredefined.mp hinside
        exact ⟨hne, hrange, (h.proper.predefined id hinside).symm.trans hsome⟩
      next => cases hsome
    · rintro ⟨hne, hrange, hname⟩
      have hinside := hpredefined.mpr ⟨hne, hrange⟩
      rw [if_pos hinside, h.proper.predefined id hinside, hname]
  | short => exact Option.some_inj.trans shortName_eq_iff

/-- An id stands for one name at most. -/
theorem Sound.standsFor_unique (h : Sound config session) {type : Sensor.TopicIdType}
    {id : UInt16} {name other : String} (hname : session.StandsFor config type id name)
    (hother : session.StandsFor config type id other) : other = name := by
  rw [← h.resolve?_iff] at hname hother
  exact Option.some.inj (hother.symm.trans hname)

/-- Only as the two bytes of a short name does 0 stand for anything. -/
theorem StandsFor.ne_zero {type : Sensor.TopicIdType} {id : UInt16} {name : String}
    (h : session.StandsFor config type id name) (hkind : type ≠ .short) : id ≠ 0 := by
  cases type with
  | normal => exact Topic.Table.ne_zero_of_lt h.1
  | predefined => exact h.1
  | short => exact (hkind rfl).elim

/-- A normal id does not stand for a predefined topic. -/
theorem Apart.not_predefines (h : Apart config session) {id : UInt16} {name : String}
    (hname : session.StandsFor config .normal id name) : ¬ config.Predefines name :=
  h id name hname.1 (.inl hname.2)

/-- A predefined id does not stand for what another id means. -/
theorem Apart.not_means (h : Apart config session) {id other : UInt16} {name : String}
    (hname : session.StandsFor config .predefined id name)
    (habove : config.predefinedTopicIdSize < other) : ¬ session.Means other name :=
  fun hmeans => h other name habove hmeans ⟨id, hname⟩

/-! ### What is done with a publication -/

def Exchanges.remember (exchanges : Exchanges) (publication : Sensor.Publish) : Exchanges :=
  if publication.flags.qos = .atLeastOnce then
    { exchanges with publish := some ⟨publication.topicId, publication.msgId⟩ }
  else exchanges

/-- The publication is handed to the broker under a name. If the link takes it nothing else is
said, and at level 1 it is remembered. If not, the connection to the broker is over. -/
inductive Forwards (line : Broker.Line) (heard : Session) (publication : Sensor.Publish)
    (name : String) : Transition → Prop where
  | taken {frame : Bytes} {isOpen : Bool}
      (hsent : line.send heard.brokerOpen (.publish (published publication name)) =
        (.ok frame, isOpen)) :
      Forwards line heard publication name
        ⟨{ heard with
            brokerOpen := isOpen
            phase := .connected (heard.exchanges.remember publication) },
          [.broker (.sending heard.brokerOpen (.publish (published publication name))
              (.ok frame) isOpen)]⟩
  | lost {error : LinkError} {isOpen : Bool} {link : LinkName}
      (hsent : line.send heard.brokerOpen (.publish (published publication name)) =
        (.error error, isOpen))
      (hlink : heard.link = some link) :
      Forwards line heard publication name
        ⟨{ heard with phase := .idle, tornDown := true, brokerOpen := false },
          [.broker (.sending heard.brokerOpen (.publish (published publication name))
              (.error error) isOpen),
            .device link heard.address (.disconnect none), .disarmAll, .broker (.closing isOpen)]⟩

def Rejects (heard : Session) (publication : Sensor.Publish) (link : LinkName)
    (step : Transition) : Prop :=
  step = ⟨heard, [.device link heard.address
    (.puback ⟨publication.topicId, publication.msgId, .invalidTopicId⟩)]⟩

variable {line : Broker.Line} {heard : Session} {publication : Sensor.Publish} {name : String}
variable {link : LinkName} {step : Transition}

theorem Forwards.handed (h : Forwards line heard publication name step) :
    step.handed = [.publish (published publication name)] := by
  cases h <;> rfl

theorem Rejects.handed (h : Rejects heard publication link step) : step.handed = [] := by
  rw [h]
  rfl

/-- What is handed to the broker is not rejected. -/
theorem Forwards.not_rejects (h : Forwards line heard publication name step) :
    ¬ Rejects heard publication link step :=
  fun hrejects => List.cons_ne_nil _ _ (h.handed.symm.trans hrejects.handed)

/-- The level that the broker is told is that of the device. -/
theorem ofLevel?_published (hlevel : publication.flags.qos ≠ .minusOne) (name : String) :
    Sensor.QoS.ofLevel? (published publication name).qos = some publication.flags.qos := by
  change Sensor.QoS.ofLevel? (brokerLevel publication.flags.qos) = _
  cases hqos : publication.flags.qos with
  | minusOne => exact (hlevel hqos).elim
  | _ => rfl

namespace Transition

/-- A publication under a name that is known is handed to the broker. -/
theorem forwards_publish (context : Context) {exchanges : Exchanges}
    (hphase : heard.phase = .connected exchanges) (hlink : heard.link = some link)
    (hfree : ¬ (exchanges.publish.isSome = true ∧ publication.flags.qos = .atLeastOnce))
    (hname : heard.topics.resolve? publication.flags.topicIdType publication.topicId =
      some name) :
    Forwards context.line heard publication name
      ((start heard).publish context exchanges publication) := by
  rw [publish_of_name (t := start heard) hfree hname]
  have hbusy : (start heard).session.phase ≠ .idle := by
    change heard.phase ≠ .idle
    rw [hphase]
    exact nofun
  rcases hsent : context.line.send heard.brokerOpen (.publish (published publication name))
    with ⟨error | frame, isOpen⟩
  · rw [forward_of_lost (t := start heard) hsent hbusy]
    simp only
    rw [tearDown_eq hlink]
    exact .lost hsent hlink
  · rw [forward_of_taken (t := start heard) hsent]
    have htaken := Forwards.taken hsent
    rw [exchanges_of_connected hphase] at htaken
    simp only
    by_cases hlevel : publication.flags.qos = .atLeastOnce
    · rw [if_pos hlevel]
      rw [Exchanges.remember, if_pos hlevel] at htaken
      exact htaken
    · rw [if_neg hlevel]
      rw [Exchanges.remember, if_neg hlevel, ← hphase] at htaken
      exact htaken

end Transition

/-- Whether a publication is passed over: at level 1, while another one is in flight. -/
def PassesOver (session : Session) (publication : Sensor.Publish) : Prop :=
  session.awaits .puback = true ∧ publication.flags.qos = .atLeastOnce

section Heard

variable {turn : Turn} {seen : Address} {exchanges : Exchanges}

/-- A publication is passed over at level 1 while another one is in flight. -/
theorem passesOver_iff (hphase : session.phase = .connected exchanges) :
    session.PassesOver publication ↔
      exchanges.publish.isSome = true ∧ publication.flags.qos = .atLeastOnce := by
  rw [PassesOver, awaits, exchanges_of_connected hphase]

theorem link_hear_sensor {message : Sensor.Message}
    (hinput : turn.input = .sensor seen message link) (config : Config) (session : Session) :
    (session.hear config turn).link = some link := by
  unfold hear
  rw [hinput]

variable (hinput : turn.input = .sensor seen (.publish publication) link)
variable (hlevel : publication.flags.qos ≠ .minusOne)
variable (hphase : session.phase = .connected exchanges)

include hinput hlevel hphase

theorem take_of_passesOver (config : Config) (h : session.PassesOver publication) :
    session.take config turn = ⟨session.hear config turn, []⟩ := by
  rw [take_publish config hinput hlevel hphase]
  exact if_pos ((passesOver_iff hphase).mp h)

/-- A publication under an id that stands for a name is forwarded under it. -/
theorem forwards_of_standsFor (h : Sound config session)
    (hfree : ¬ session.PassesOver publication)
    (hname : session.StandsFor config publication.flags.topicIdType publication.topicId name) :
    Forwards turn.line (session.hear config turn) publication name
      (session.take config turn) := by
  rw [passesOver_iff hphase] at hfree
  rw [← h.resolve?_iff, ← topics_hear config turn] at hname
  rw [take_publish config hinput hlevel hphase]
  exact Transition.forwards_publish (turn.context config)
    ((phase_hear config turn session).trans hphase) (link_hear_sensor hinput config session)
    hfree hname

/-- A publication under any other id is rejected. -/
theorem rejects_of_not_standsFor (h : Sound config session)
    (hfree : ¬ session.PassesOver publication)
    (hnone : ∀ name,
      ¬ session.StandsFor config publication.flags.topicIdType publication.topicId name) :
    Rejects (session.hear config turn) publication link (session.take config turn) := by
  rw [passesOver_iff hphase] at hfree
  have hunknown : (session.hear config turn).topics.resolve? publication.flags.topicIdType
      publication.topicId = none := by
    rw [topics_hear, Option.eq_none_iff_forall_ne_some]
    exact fun name hsome => hnone name ((h.resolve?_iff _).mp hsome)
  rw [take_publish config hinput hlevel hphase, Transition.publish_refused hfree hunknown]
  exact Transition.toDevice_eq (link_hear_sensor hinput config session) _

/-- Whatever the broker is handed is the publication, under a name that the id stands for. -/
theorem standsFor_of_handed (h : Sound config session) {message : Broker.Message}
    (hin : message ∈ (session.take config turn).handed) :
    ∃ name, message = .publish (published publication name) ∧
      session.StandsFor config publication.flags.topicIdType publication.topicId name := by
  by_cases hpassed : session.PassesOver publication
  · rw [take_of_passesOver hinput hlevel hphase config hpassed] at hin
    cases hin
  · by_cases hname : ∃ name,
        session.StandsFor config publication.flags.topicIdType publication.topicId name
    · obtain ⟨name, hname⟩ := hname
      have hforwards := forwards_of_standsFor hinput hlevel hphase h hpassed hname
      rw [hforwards.handed] at hin
      exact ⟨name, List.mem_singleton.mp hin, hname⟩
    · have hrejects :=
        rejects_of_not_standsFor hinput hlevel hphase h hpassed (not_exists.mp hname)
      rw [hrejects.handed] at hin
      cases hin

end Heard

/-- What a connected device publishes is handed to the broker, under the one name that the topic
id stands for, or the device is told that the id is invalid, as it stands for none: one of both,
unless the publication is passed over. So no normal id gets through to a predefined topic, no
predefined id to a name that was registered or offered, and 0 of either kind to nothing. -/
theorem forwards_or_rejects (config : Config) (address : Address) (begun : Nat)
    (turns : List Turn) (turn : Turn) {seen : Address} {publication : Sensor.Publish}
    {link : LinkName} (hinput : turn.input = .sensor seen (.publish publication) link)
    (hlevel : publication.flags.qos ≠ .minusOne)
    (hconnected : ((begin config address begun).run config turns).session.isConnected = true) :
    let session := ((begin config address begun).run config turns).session
    let heard := session.hear config turn
    let step := session.take config turn
    let type := publication.flags.topicIdType
    let topicId := publication.topicId
    (session.PassesOver publication → step = ⟨heard, []⟩) ∧
    (¬ session.PassesOver publication →
      (∃ name, (∀ other, session.StandsFor config type topicId other ↔ other = name) ∧
        Forwards turn.line heard publication name step ∧
        ¬ Rejects heard publication link step) ∨
      ((∀ name, ¬ session.StandsFor config type topicId name) ∧
        Rejects heard publication link step ∧
        ∀ name, ¬ Forwards turn.line heard publication name step)) ∧
    (∀ message, .publish message ∈ step.handed →
      Sensor.QoS.ofLevel? message.qos = some publication.flags.qos ∧
      (type = .normal → ¬ config.Predefines message.topic) ∧
      (type = .predefined → ∀ other, config.predefinedTopicIdSize < other →
        ¬ session.Means other message.topic)) ∧
    (¬ session.PassesOver publication → type ≠ .short → topicId = 0 →
      Rejects heard publication link step) := by
  intro session heard step type topicId
  have hbegin := sound_begin config address begun
  have hsound : Sound config session := (run_sound turns hbegin).1
  have hapart : Apart config session := run_apart turns hbegin (apart_begin config address begun)
  obtain ⟨exchanges, hphase⟩ := exists_connected hconnected
  refine ⟨take_of_passesOver hinput hlevel hphase config, ?_, ?_, ?_⟩
  · intro hfree
    by_cases hknown : ∃ name, session.StandsFor config type topicId name
    · obtain ⟨name, hname⟩ := hknown
      have hforwards := forwards_of_standsFor hinput hlevel hphase hsound hfree hname
      refine .inl ⟨name, fun other => ?_, hforwards, hforwards.not_rejects⟩
      exact ⟨hsound.standsFor_unique hname, fun hsame => hsame ▸ hname⟩
    · have hnone := not_exists.mp hknown
      have hrejects := rejects_of_not_standsFor hinput hlevel hphase hsound hfree hnone
      exact .inr ⟨hnone, hrejects, fun name hforwards => hforwards.not_rejects hrejects⟩
  · intro message hin
    obtain ⟨name, hmessage, (hname : session.StandsFor config type topicId name)⟩ :=
      standsFor_of_handed hinput hlevel hphase hsound hin
    obtain rfl := Broker.Message.publish.inj hmessage
    refine ⟨ofLevel?_published hlevel name, fun hkind => ?_, fun hkind other habove => ?_⟩
    · exact hapart.not_predefines (hkind ▸ hname)
    · exact hapart.not_means (hkind ▸ hname) habove
  · intro hfree hkind hzero
    refine rejects_of_not_standsFor hinput hlevel hphase hsound hfree fun name hname => ?_
    exact hname.ne_zero hkind hzero

def publishUnder (topicId : UInt16) : Turn :=
  ⟨3, {}, .sensor meter
    (.publish ⟨{ qos := .atLeastOnce }, topicId, 7, [1]⟩) "udp:20000"⟩

/-- Of two ids the device registered a name for the first one only. -/
theorem forwards_or_rejects_registered :
    let session := ((begin {} meter 0).run {} connectAndRegister).session
    Forwards {} (session.hear {} (publishUnder 51)) ⟨{ qos := .atLeastOnce }, 51, 7, [1]⟩
        "temperature" (session.take {} (publishUnder 51)) ∧
      Rejects (session.hear {} (publishUnder 52)) ⟨{ qos := .atLeastOnce }, 52, 7, [1]⟩
        "udp:20000" (session.take {} (publishUnder 52)) := by
  intro session
  have hfree (publication : Sensor.Publish) : ¬ session.PassesOver publication :=
    fun hpassed => Bool.false_ne_true hpassed.1
  constructor
  · have hknown : session.StandsFor {} .normal 51 "temperature" := ⟨by decide, rfl⟩
    obtain ⟨-, honce, -⟩ := forwards_or_rejects {} meter 0 connectAndRegister
      (publishUnder 51) rfl nofun rfl
    rcases honce (hfree _) with ⟨name, hname, hforwards, -⟩ | ⟨hnone, -⟩
    · obtain rfl := (hname _).mp hknown
      exact hforwards
    · exact (hnone _ hknown).elim
  · obtain ⟨-, honce, -⟩ := forwards_or_rejects {} meter 0 connectAndRegister
      (publishUnder 52) rfl nofun rfl
    rcases honce (hfree _) with ⟨name, hname, -⟩ | ⟨-, hrejects, -⟩
    · cases ((hname name).mpr rfl).2
    · exact hrejects

end Session

end SensorGateway
