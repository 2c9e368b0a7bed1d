import SensorGateway.Proofs.Session.Agreement

/-!
What a ledger looks like that was kept from the beginning. Its marks and messages
are set and cleared one by one, and yet belong together at all times, as
`Ledger.Coherent` says. The way there is short because a session has no other
choice: what its phase shows of itself is coherent.
-/

namespace SensorGateway.Session

namespace Marks

def awaits (marks : Marks) : Handshake → Bool
  | .willTopic => marks.willTopic
  | .willMessage => marks.willMessage
  | .connack => marks.connack
  | .regack => marks.regack
  | .suback => marks.suback
  | .unsuback => marks.unsuback
  | .puback => marks.puback

/-- The counter of a request. Those to the broker have none. -/
def tries (marks : Marks) : Handshake → UInt32
  | .willTopic => marks.willTopicTries
  | .willMessage => marks.willMessageTries
  | .regack => marks.registerTries
  | .connack | .suback | .unsuback | .puback => 0

end Marks

namespace Ledger

/-- How the marks and messages of a ledger belong together. -/
structure Coherent (ledger : Ledger) : Prop where
  /-- At most one answer is waited for on the way to being connected. -/
  establishing :
    [ledger.marks.willTopic, ledger.marks.willMessage, ledger.marks.connack].count true ≤ 1
  established : ledger.state = .connected → ledger.marks.isEstablishing = false
  exchanging :
    (ledger.marks.regack || ledger.marks.suback || ledger.marks.unsuback ||
      ledger.marks.puback) = true → ledger.state = .connected
  connect :
    ledger.kept.connect.isSome = (ledger.marks.willTopic || ledger.marks.willMessage)
  willTopic : ledger.kept.willTopic.isSome = ledger.marks.willMessage
  register : ledger.kept.register.isSome = ledger.marks.regack
  brokerPublish : ledger.kept.brokerPublish.isSome = ledger.marks.regack
  /-- What is offered to the device is an id for the topic of the publication
  that waits. -/
  sameTopic : ∀ registration ∈ ledger.kept.register, ∀ publication ∈ ledger.kept.brokerPublish,
    registration.topic = publication.topic
  subscribe : ledger.kept.subscribe.isSome = ledger.marks.suback
  unsubscribe : ledger.kept.unsubscribe.isSome = ledger.marks.unsuback
  publish : ledger.kept.publish.isSome = ledger.marks.puback

end Ledger

def Phase.marks : Phase → Marks
  | idle => {}
  | awaitingWillTopic _ tries => { willTopic := true, willTopicTries := tries }
  | awaitingWillMessage _ _ tries => { willMessage := true, willMessageTries := tries }
  | awaitingConnack => { connack := true }
  | connected exchanges =>
      { regack := exchanges.registration.isSome
        suback := exchanges.subscribe.isSome
        unsuback := exchanges.unsubscribe.isSome
        puback := exchanges.publish.isSome
        registerTries := (exchanges.registration.map (·.tries)).getD 0 }

theorem ledger_marks (session : Session) : session.ledger.marks = session.phase.marks := by
  obtain ⟨_, _, _, _, _, phase, _, _, _⟩ := session
  cases phase <;> rfl

theorem ledger_kept (session : Session) : session.ledger.kept = session.phase.kept := rfl

theorem ledger_state (session : Session) :
    session.ledger.state = .connected ↔ session.phase.isConnected = true := by
  obtain ⟨_, _, _, _, _, phase, tornDown, _, _⟩ := session
  cases phase <;> cases tornDown <;> simp [ledger, state, isConnected, Phase.isConnected]

/-- A ledger waits for the answers that its session waits for. -/
theorem ledger_awaits (session : Session) (handshake : Handshake) :
    session.ledger.marks.awaits handshake = session.awaits handshake := by
  cases handshake <;> rfl

/-- A ledger counts what its session counts. -/
theorem ledger_tries (session : Session) (handshake : Handshake) :
    session.ledger.marks.tries handshake = session.tries handshake := by
  cases handshake <;> rfl

/-- The ledger of a session is coherent in every phase. -/
theorem ledger_coherent (session : Session) : session.ledger.Coherent := by
  have hmarks := ledger_marks session
  have hkept := ledger_kept session
  have hstate := ledger_state session
  generalize session.phase = phase at hmarks hkept hstate
  cases phase with
  | idle =>
    constructor <;>
      simp [hmarks, hkept, hstate, Phase.marks, Phase.kept, Phase.isConnected,
        Marks.isEstablishing]
  | awaitingConnack | awaitingWillTopic | awaitingWillMessage =>
    constructor <;>
      simp [hmarks, hkept, hstate, Phase.marks, Phase.kept, Phase.isConnected]
  | connected exchanges =>
    obtain ⟨registration, publish, subscribe, unsubscribe⟩ := exchanges
    cases registration with
    | none =>
      constructor <;>
        simp [hmarks, hkept, hstate, Phase.marks, Phase.kept, Phase.isConnected,
          Marks.isEstablishing]
    | some registration =>
      constructor <;>
        simp [hmarks, hkept, hstate, Phase.marks, Phase.kept, Phase.isConnected,
          Marks.isEstablishing, Registration.register]

/-- A ledger that is kept from the beginning is the one of the session. -/
theorem run_begin_ledger (config : Config) (address : Address) (now : Nat) (turns : List Turn) :
    (Ledger.begin config address now).run config turns =
      ((begin config address now).run config turns).ledger :=
  ledger_run config turns (begin config address now)

end SensorGateway.Session
