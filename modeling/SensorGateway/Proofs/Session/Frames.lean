import SensorGateway.Proofs.Config.Validation
import SensorGateway.Proofs.Sensor.RoundTrip
import SensorGateway.Proofs.Session.Deliveries
import SensorGateway.Proofs.Session.Speech

/-!
The frames that a device gets. What the broker publishes may be of any length, and
a part of it may wait for the device before it is sent. It is measured once, as it
arrives, and `told_readable` says that this is enough: every message for the
device has a frame, the frame is not longer than devices take, and the device
reads from it what was meant. Only the offer of an id for a topic without a name
cannot be read, since a frame that ends before the name is taken for a short one.
-/

namespace SensorGateway

namespace Sensor.Message

/-- Codes and ids take up to eight bytes, and they are read as they were written. -/
theorem fits_of_isPlain {message : Message} (h : message.isPlain = true) :
    message.frameLength ≤ 8 ∧ message.lacksName = false ∧ message.canonical = message := by
  cases message with
  | pingRequest clientId =>
    cases clientId with
    | none => exact ⟨by decide, rfl, rfl⟩
    | some clientId => cases h
  | disconnect duration =>
    cases duration with
    | none => exact ⟨by decide, rfl, rfl⟩
    | some duration => cases h
  | willTopicRequest | willMessageRequest | pingResponse => exact ⟨by decide, rfl, rfl⟩
  | connack | regack | puback | pubrec | pubrel | pubcomp | suback | unsuback =>
    simp [frameLength, lacksName, canonical]
  | _ => cases h

end Sensor.Message

namespace Session

/-- The greatest length of a frame for a device. Acknowledgements are sent whatever
the limit is, and the longest of them takes eight bytes. -/
def longestFrame (config : Config) : Nat := max config.maxFrameLength 8

variable {config : Config}

/-- The limit that is configured, and eight bytes, can be told in one byte. -/
theorem longestFrame_le (hvalid : config.validate = .ok ()) :
    longestFrame config ≤ Sensor.maxFrameLength := by
  have hmax := (Config.valid_of_validate hvalid).frames.2.1
  simp only [longestFrame, Sensor.maxFrameLength]
  omega

def Readable (config : Config) (message : Sensor.Message) : Prop :=
  ∃ frame, message.encode = .ok frame ∧ frame.length ≤ longestFrame config ∧
    Sensor.Message.decode frame = .ok message

theorem readable_of_fits (hvalid : config.validate = .ok ()) {message : Sensor.Message}
    (hlength : message.frameLength ≤ longestFrame config) (hname : message.lacksName = false)
    (hcanonical : message.canonical = message) : Readable config message := by
  have hfits := Nat.le_trans hlength (longestFrame_le hvalid)
  obtain ⟨frame, hencode, hframe, hdecode⟩ := message.exists_frame hfits
  rw [hname, hcanonical] at hdecode
  exact ⟨frame, hencode, hframe ▸ hlength, hdecode⟩

/-- A message of codes and ids is read whatever it says. -/
theorem readable_of_isPlain (hvalid : config.validate = .ok ()) {message : Sensor.Message}
    (hplain : message.isPlain = true) : Readable config message := by
  obtain ⟨hlength, hname, hcanonical⟩ := Sensor.Message.fits_of_isPlain hplain
  apply readable_of_fits hvalid _ hname hcanonical
  simp only [longestFrame]
  omega

/-- The frame of a publication has seven bytes besides the data. -/
theorem readable_delivery (hvalid : config.validate = .ok ()) {publication : Broker.Publish}
    (hfits : FitsFrame config publication) (type : Sensor.TopicIdType) (topicId : UInt16) :
    Readable config (Transition.delivery publication type topicId) := by
  apply readable_of_fits hvalid _ rfl rfl
  have hdata := hfits.data
  simp only [Transition.delivery, Sensor.Message.frameLength, longestFrame]
  omega

/-- The frame of an offer has six bytes besides the name, and is too short without
one. -/
theorem offer_readable (hvalid : config.validate = .ok ()) {registration : Registration}
    (hfits : FitsFrame config registration.publication) :
    Readable config (Transition.offer registration) ∨
      registration.publication.topic = "" ∧
        ∃ frame, (Transition.offer registration).encode = .ok frame ∧ frame.length = 6 ∧
          Sensor.Message.decode frame = .error (.tooShort "REGISTER" 6) := by
  by_cases hname : registration.publication.topic = ""
  · obtain ⟨frame, hencode, hframe, hdecode⟩ :=
      (Transition.offer registration).exists_frame (by
        simp [Transition.offer, hname, Sensor.Message.frameLength, Sensor.maxFrameLength])
    refine .inr ⟨hname, frame, hencode, ?_, ?_⟩
    · rw [hframe]
      simp [Transition.offer, hname, Sensor.Message.frameLength]
    · rw [hdecode]
      simp [Transition.offer, hname, Sensor.Message.frameLength, Sensor.Message.lacksName]
      rfl
  · left
    apply readable_of_fits hvalid
    · have htopic := hfits.topic
      simp only [Transition.offer, Sensor.Message.frameLength, longestFrame]
      omega
    · simp [Transition.offer, Sensor.Message.lacksName, hname]
    · rfl

namespace Life

variable {life : Life} {n : Nat}

/-- All that a device is told in a turn is one of these messages. -/
theorem tells (life : Life) {n : Nat} {message : Sensor.Message}
    (hin : message ∈ (life.step n).told) :
    Tells life.config (life.turn n).input (life.opening n).session message :=
  (take_speaks life.config (life.turn n) (life.before n)).told message hin

/-- What is offered for the first time was measured. -/
theorem fitsFrame_of_offers {publication : Broker.Publish}
    (hpublished : life.Publishes n publication) (hbegun : life.offers n ≠ []) :
    FitsFrame life.config publication := by
  obtain ⟨offered, hin⟩ := List.exists_mem_of_ne_nil _ hbegun
  obtain ⟨message, htold, hoffered⟩ := List.mem_filterMap.mp hin
  have htells := life.tells htold
  cases htells with
  | plain hplain =>
    cases message with
    | register => cases hplain
    | _ => cases hoffered
  | deliver => cases hoffered
  | offer hinput hfits =>
    cases hinput.symm.trans hpublished
    exact hfits
  | again hinput => cases hinput.symm.trans hpublished
  | release => cases hoffered

/-- What waits was measured as it was published. -/
theorem fitsFrame_of_openOffer {registration : Registration}
    (h : life.openOffer n = some registration) :
    FitsFrame life.config registration.publication ∧
      ∃ j < n, life.Publishes j registration.publication := by
  obtain ⟨j, hwaits⟩ := waits_of_openOffer h
  exact ⟨fitsFrame_of_offers hwaits.published hwaits.begun, j, hwaits.order, hwaits.published⟩

theorem openOffer_eq (life : Life) (n : Nat) :
    (life.opening n).session.exchanges.registration = life.openOffer n :=
  congrArg Exchanges.registration (exchanges_congr (life.phase_opening n))

/-- Whatever the broker publishes, every message for the device has a frame that is
not too long, and the device reads the message from it. Only where the broker
published under a topic without a name, the offer of an id for it has a frame of
six bytes, which is too short to be read. -/
theorem told_readable (life : Life) (hvalid : life.config.validate = .ok ()) (n : Nat)
    (message : Sensor.Message) (hin : message ∈ (life.step n).told) :
    (∃ frame, message.encode = .ok frame ∧ frame.length ≤ max life.config.maxFrameLength 8 ∧
      Sensor.Message.decode frame = .ok message) ∨
    (∃ topicId msgId, message = .register ⟨topicId, msgId, ""⟩) ∧
      (∃ frame, message.encode = .ok frame ∧ frame.length = 6 ∧
        Sensor.Message.decode frame = .error (.tooShort "REGISTER" 6)) ∧
      ∃ j ≤ n, ∃ publication, life.Publishes j publication ∧ publication.topic = "" := by
  have hoffered {registration : Registration}
      (hfits : FitsFrame life.config registration.publication)
      (hpublished : ∃ j ≤ n, life.Publishes j registration.publication) :
      Readable life.config (Transition.offer registration) ∨
      (∃ topicId msgId, Transition.offer registration = .register ⟨topicId, msgId, ""⟩) ∧
        (∃ frame, (Transition.offer registration).encode = .ok frame ∧ frame.length = 6 ∧
          Sensor.Message.decode frame = .error (.tooShort "REGISTER" 6)) ∧
        ∃ j ≤ n, ∃ publication, life.Publishes j publication ∧ publication.topic = "" := by
    rcases offer_readable hvalid hfits with hreadable | ⟨hname, hframe⟩
    · exact .inl hreadable
    · obtain ⟨j, hbefore, hpublished⟩ := hpublished
      have hregister : Transition.offer registration =
          .register ⟨registration.topicId, registration.msgId, ""⟩ := by
        rw [Transition.offer, hname]
      exact .inr ⟨⟨_, _, hregister⟩, hframe, j, hbefore, _, hpublished, hname⟩
  -- what is offered or sent later was measured in an earlier turn
  cases life.tells hin with
  | plain hplain => exact .inl (readable_of_isPlain hvalid hplain)
  | deliver type topicId hinput hfits => exact .inl (readable_delivery hvalid hfits type topicId)
  | offer hinput hfits => exact hoffered hfits ⟨n, Nat.le_refl n, hinput⟩
  | again hinput hsome hsame =>
    rw [openOffer_eq] at hsome
    obtain ⟨hfits, j, hbefore, hpublished⟩ := fitsFrame_of_openOffer hsome
    rw [← hsame] at hfits hpublished
    exact hoffered hfits ⟨j, Nat.le_of_lt hbefore, hpublished⟩
  | release hsome =>
    rw [openOffer_eq] at hsome
    obtain ⟨hfits, -⟩ := fitsFrame_of_openOffer hsome
    exact .inl (readable_delivery hvalid hfits _ _)

/-- A device that takes frames of seven bytes at most is connected, and the broker
publishes under a name of one byte, which is offered again. -/
def cramped : Life :=
  ofTurns { maxFrameLength := 7 } meter 0
    [⟨0, {}, .sensor meter (.connect
        { flags := {}, protocolId := 1, duration := 60, clientId := "d" }) "udp:20000"⟩,
      ⟨1, {}, .broker (.connack Broker.Message.accepted)⟩,
      ⟨2, {}, .broker (.publish ⟨false, 0, false, "t", 0, []⟩)⟩,
      ⟨3, {}, .signal .regackTimeout⟩,
      ⟨4, {}, .sensor meter (.regack ⟨51, 2, .accepted⟩) "udp:20000"⟩,
      ⟨5, {}, .broker (.publish ⟨false, 0, false, "", 0, []⟩)⟩]

/-- The second offer of the name and the publication that waited are read, and the
offer for the topic without a name is not. -/
theorem told_readable_cramped :
    cramped.config.validate = .ok () ∧
    (∃ frame, Sensor.Message.encode (.register ⟨51, 2, "t"⟩) = .ok frame ∧ frame.length ≤ 8 ∧
      Sensor.Message.decode frame = .ok (.register ⟨51, 2, "t"⟩)) ∧
    (∃ frame, Sensor.Message.encode (.publish ⟨{}, 51, 0, []⟩) = .ok frame ∧ frame.length ≤ 8 ∧
      Sensor.Message.decode frame = .ok (.publish ⟨{}, 51, 0, []⟩)) ∧
    ∃ frame, Sensor.Message.encode (.register ⟨52, 3, ""⟩) = .ok frame ∧ frame.length = 6 ∧
      Sensor.Message.decode frame = .error (.tooShort "REGISTER" 6) := by
  have hvalid : cramped.config.validate = .ok () := rfl
  have hagain : (cramped.step 3).told = [.register ⟨51, 2, "t"⟩] := by decide
  have hreleased : (cramped.step 4).told = [.publish ⟨{}, 51, 0, []⟩] := by decide
  have hunnamed : (cramped.step 5).told = [.register ⟨52, 3, ""⟩] := by decide
  refine ⟨hvalid, ?_, ?_, ?_⟩
  · rcases told_readable cramped hvalid 3 _ (hagain ▸ List.mem_singleton_self _) with
      hreads | ⟨⟨topicId, msgId, hnone⟩, -⟩
    · exact hreads
    · simp at hnone
  · rcases told_readable cramped hvalid 4 _ (hreleased ▸ List.mem_singleton_self _) with
      hreads | ⟨⟨topicId, msgId, hnone⟩, -⟩
    · exact hreads
    · cases hnone
  · rcases told_readable cramped hvalid 5 _ (hunnamed ▸ List.mem_singleton_self _) with
      ⟨frame, hencode, -, hreads⟩ | ⟨-, hshort, -⟩
    · have hframe : Sensor.Message.encode (.register ⟨52, 3, ""⟩) = .ok [6, 10, 0, 52, 0, 3] := rfl
      cases hframe.symm.trans hencode
      exact absurd hreads (by decide)
    · exact hshort

end Life

end Session

end SensorGateway
