import SensorGateway.Proofs.Gateway.Isolation
import SensorGateway.Proofs.Session.Stray

/-!
What becomes of the gateway if a device, its broker or a timer says something out of
sequence. The session of the device passes over it, and whatever else the gateway has, its
timers, its queue and the other sessions, is as it was before.
-/

namespace SensorGateway

/-- Nothing that comes out of sequence ends a session. -/
theorem Session.endsWith_of_stray {session : Session} {turn : Turn}
    (h : session.ledger.Stray turn.input) (config : Config) :
    session.endsWith config turn = false := by
  unfold endsWith
  cases hinput : turn.input with
  | sensor | broker => rfl
  | signal signal =>
    rw [hinput] at h
    simp [endsAt, h.stays]

/-- To correct a device takes no timer, and nothing is put on the queue. -/
theorem Session.Ledger.rebuff_outside (ledger : Ledger) (config : Config) (input : Input) :
    (ledger.rebuff input).filter (·.usesTimer) = [] ∧
      (ledger.rebuff input).filterMap (·.envelope? config) = [] := by
  cases input with
  | sensor seen message link =>
    rw [rebuff]
    cases message.needsConnection && !ledger.isConnected <;> exact ⟨rfl, rfl⟩
  | broker message | signal signal => exact ⟨rfl, rfl⟩

namespace Gateway

variable {gateway : Gateway} {circumstances : Circumstances} {address : Address}
variable {session : Session} {payload : Payload} {turn : Session.Turn}

/-- The session of a device takes the turn that an envelope for it is. -/
theorem dispatch_known (hforeign : gateway.isOwn address = false)
    (hknown : gateway.session? address = some session)
    (hturn : Handling.turnFor? address ⟨circumstances, ⟨some address, payload⟩⟩ = some turn)
    (hstays : session.endsWith gateway.config turn = false) :
    (gateway.dispatch circumstances ⟨some address, payload⟩).progress =
      (Progress.start gateway).stepSession circumstances.network
        (session.take gateway.config turn) := by
  cases payload with
  | sensor message link =>
    change (gateway.dispatchSensor circumstances address message link).progress = _
    simp only [Handling.turnFor?, Address.same_self, if_true] at hturn
    cases hturn
    simp only [dispatchSensor, hforeign, hknown]
    rfl
  | broker message =>
    change (gateway.dispatchBroker circumstances address message).progress = _
    simp only [Handling.turnFor?, Address.same_self, if_true] at hturn
    cases hturn
    simp only [dispatchBroker, hforeign, hknown]
    rfl
  | signal signal =>
    change (gateway.dispatchSignal circumstances address signal).progress = _
    simp only [Handling.turnFor?, Address.same_self, if_true] at hturn
    cases hturn
    have hturn : signalTurn circumstances session.address signal =
        signalTurn circumstances address signal := by
      unfold signalTurn
      rw [Address.same_iff.mp (same_of_session? hknown)]
    simp only [dispatchSignal, hforeign, hknown]
    change signalSession circumstances signal (.start gateway) session = _
    rw [signalSession_eq, hturn]
    exact if_neg (Bool.eq_false_iff.mp hstays)

/-- Whatever a device was told before, what comes out of sequence then changes nothing: its
session and its ledger are as they were, except that the device was heard, nothing is sent
but DISCONNECT to a device that acts as if it were connected, and nothing else of the gateway
is different. -/
theorem stray_changes_nothing (config : Config) (first : Address) (begun : Nat)
    (turns : List Session.Turn) (turn : Session.Turn)
    (hstray : ((Session.Ledger.begin config first begun).run config turns).ledger.Stray
      turn.input) :
    let session := ((Session.begin config first begun).run config turns).session
    let ledger := ((Session.Ledger.begin config first begun).run config turns).ledger
    session.take config turn = ⟨session.hear config turn, ledger.rebuff turn.input⟩ ∧
      ledger.take config turn = ⟨ledger.hear config turn, ledger.rebuff turn.input, []⟩ ∧
      ∀ (gateway : Gateway) (circumstances : Circumstances) (address : Address) (payload : Payload),
        gateway.config = config → gateway.isOwn address = false →
        gateway.session? address = some session →
        Handling.turnFor? address ⟨circumstances, ⟨some address, payload⟩⟩ = some turn →
        let outcome := gateway.dispatch circumstances ⟨some address, payload⟩
        outcome.result = .ok .continue ∧
          outcome.progress.gateway = gateway.setSession (session.hear config turn) := by
  intro session ledger
  have hledger : ledger = session.ledger :=
    congrArg (·.ledger) (Session.run_begin_ledger config first begun turns)
  have hpassed : session.ledger.Stray turn.input := hledger ▸ hstray
  have htake := Session.take_of_stray config hpassed
  refine ⟨hledger ▸ htake, ?_, ?_⟩
  · rw [hledger, Session.ledger_take, htake, ← Session.ledger_hear]
    rfl
  · intro gateway circumstances address payload hconfig hforeign hknown hturn
    have hstays := Session.endsWith_of_stray hpassed gateway.config
    obtain ⟨htimers, hqueue⟩ := session.ledger.rebuff_outside config turn.input
    refine ⟨result_dispatch gateway circumstances hforeign payload, ?_⟩
    rw [dispatch_known hforeign hknown hturn hstays, hconfig, htake, stepSession_gateway]
    simp only [Session.Transition.timerUses, Progress.start, hconfig, htimers, hqueue]
    rfl

/-- A device that was asked for the topic of its will publishes instead, from another
endpoint. -/
theorem stray_changes_nothing_hasty :
    ∃ (gateway : Gateway) (session : Session) (turn : Session.Turn), Reachable {} gateway ∧
      gateway.session? (.plain ⟨.v4 10 0 0 7, 1234, 0⟩) = some session ∧
      (session.hear {} turn).awaits .willTopic = true ∧
      (session.take {} turn).effects =
        [.device "udp:20001" (.plain ⟨.v4 10 0 0 7, 1234, 0⟩) (.disconnect none)] ∧
      (gateway.dispatch ⟨1, {}⟩ ⟨some (.plain ⟨.v4 10 0 0 7, 1234, 0⟩), .sensor (.publish
        { flags := {}, topicId := 5, msgId := 0, data := [1] }) "udp:20001"⟩).progress.gateway =
          gateway.setSession (session.hear {} turn) := by
  let device : Address := .plain ⟨.v4 10 0 0 7, 1234, 0⟩
  let publication : Sensor.Publish := { flags := {}, topicId := 5, msgId := 0, data := [1] }
  let request : Sensor.Connect :=
    { flags := { will := true }, protocolId := 1, duration := 60, clientId := "d" }
  let turn : Session.Turn := ⟨1, {}, .sensor device (.publish publication) "udp:20001"⟩
  have hcreated : Reachable {} _ := .create rfl
  have hreach := hcreated.handle .empty ⟨0, {}⟩ (askWithWill device) rfl rfl
  let asked : Session.Turn := ⟨0, {}, .sensor device (.connect request) "udp:20000"⟩
  obtain ⟨hsession, -, hgateway⟩ :=
    stray_changes_nothing {} device 0 [asked] turn (.unconnected rfl rfl)
  refine ⟨_, ((Session.begin {} device 0).run {} [asked]).session, turn, hreach, rfl, rfl,
    congrArg (·.effects) hsession, ?_⟩
  exact (hgateway _ ⟨1, {}⟩ device (.sensor (.publish publication) "udp:20001")
    rfl rfl rfl rfl).2

end Gateway

end SensorGateway
