import SensorGateway.Proofs.Gateway.Stray
import SensorGateway.Proofs.Session.Teardown

/-!
What is left in the gateway when a session breaks off: the session itself, in which nothing is
going on, and no timer of the device. `breaks_off_cleanly` puts this together with what is said
on the links and with what becomes of the session later.
-/

namespace SensorGateway

/-- The gateway keeps a session that breaks off. -/
theorem Session.endsWith_of_breaksOff {session : Session} {turn : Turn}
    (h : session.ledger.BreaksOff turn.input) (config : Config) :
    session.endsWith config turn = false := by
  unfold endsWith
  cases hinput : turn.input with
  | sensor | broker => rfl
  | signal signal =>
    rw [hinput] at h
    cases h
    rfl

namespace Gateway

variable {gateway : Gateway} {circumstances : Circumstances} {address : Address}
variable {session : Session} {payload : Payload} {turn : Session.Turn}

/-- The timers of a device end with all that was going on. -/
theorem tasksAt_of_disarmAll (hforeign : gateway.isOwn address = false)
    (hknown : gateway.session? address = some session)
    (hturn : Handling.turnFor? address ⟨circumstances, ⟨some address, payload⟩⟩ = some turn)
    (hstays : session.endsWith gateway.config turn = false)
    (huses : (session.take gateway.config turn).timerUses = [.disarmAll]) :
    (gateway.dispatch circumstances ⟨some address, payload⟩).progress.gateway.timers.tasksAt
      address = [] := by
  have hsame : (session.take gateway.config turn).session.address.same address = true := by
    rw [Session.same_take]
    exact same_of_session? hknown
  rw [dispatch_known hforeign hknown hturn hstays, stepSession_gateway, huses]
  exact List.map_eq_nil_iff.mp (Timers.signalsAt_unregisterAll hsame)

/-- Whatever is going on in a session, if its device leaves, its link to the broker is lost or
the broker refuses the connection, the device hears DISCONNECT once, the broker hears it only
from a device that leaves over an open link, and nothing is left but the topic ids and the
count of the message ids. What comes late makes no difference. Later the session does the same
as one in which nothing had been going on, whichever client id it had and whether it was torn
down before or not. -/
theorem breaks_off_cleanly (config : Config) (first : Address) (begun : Nat)
    (turns : List Session.Turn) (turn : Session.Turn)
    (hbusy : let ledger := ((Session.Ledger.begin config first begun).run config turns).ledger
      (ledger.isConnected || ledger.marks.isEstablishing) = true)
    (hends : ((Session.Ledger.begin config first begun).run config turns).ledger.BreaksOff
      turn.input) :
    let session := ((Session.begin config first begun).run config turns).session
    let ledger := ((Session.Ledger.begin config first begun).run config turns).ledger
    let step := session.take config turn
    step.told = [.disconnect none] ∧
      step.handed = ledger.leaveTaking turn.input ∧
      ledger.take config turn = ⟨(ledger.hear config turn).cleared, step.effects, []⟩ ∧
      (∀ (gateway : Gateway) (circumstances : Circumstances) (address : Address)
        (payload : Payload),
        gateway.config = config → gateway.isOwn address = false →
        gateway.session? address = some session →
        Handling.turnFor? address ⟨circumstances, ⟨some address, payload⟩⟩ = some turn →
        (gateway.dispatch circumstances ⟨some address, payload⟩).progress.gateway.timers.tasksAt
          address = []) ∧
      (∀ next : Session.Turn, next.input.ComesLate →
        step.session.take config next = ⟨step.session.hear config next, []⟩) ∧
      ∀ (clientId : String) (tornDown : Bool) (later : List Session.Turn),
        let other := { session.hear config turn with
          phase := .idle, brokerOpen := false, clientId, tornDown }
        (step.session.run config later).Twin (other.run config later) ∧
          ((∃ asks ∈ later, ∃ seen request link,
              asks.input = .sensor seen (.connect request) link) →
            (step.session.run config later).session.clientId =
              (other.run config later).session.clientId) := by
  intro session ledger step
  have hledger : ledger = session.ledger :=
    congrArg (·.ledger) (Session.run_begin_ledger config first begun turns)
  have hphase : session.phase ≠ .idle := by
    rw [← Session.ledger_isBusy_iff, ← hledger]
    exact hbusy
  have hbreaks : session.ledger.BreaksOff turn.input := hledger ▸ hends
  have hreached : session.Reached := Session.reached_run config first begun turns
  obtain ⟨htold, hhanded, huses⟩ := Session.said_of_breaksOff config hreached hphase hbreaks
  have hafter : step.session = { session.hear config turn with
      phase := .idle, brokerOpen := false, tornDown := true } :=
    Session.session_of_breaksOff config hphase hbreaks
  refine ⟨htold, hledger ▸ hhanded, ?_, ?_, ?_, ?_⟩
  · rw [hledger, Session.ledger_take, ← Session.ledger_hear, ← Session.ledger_cleared, ← hafter]
    rfl
  · intro gateway circumstances address payload hconfig hforeign hknown hturn
    have hstays := Session.endsWith_of_breaksOff hbreaks gateway.config
    exact tasksAt_of_disarmAll hforeign hknown hturn hstays (hconfig ▸ huses)
  · intro next hlate
    exact Session.take_of_comesLate config (by rw [hafter]) hlate
  · intro clientId tornDown later other
    have htwin : step.session.Twin other := by
      rw [hafter]
      exact ⟨rfl, rfl, rfl, rfl, rfl, rfl, rfl⟩
    exact ⟨htwin.run config later, fun hasked => Session.clientId_run later (.inr hasked)⟩

/-- A connected device waits for a subscription to be confirmed, and leaves over a link that
breaks at that moment. The loss of the link is then told too late. -/
theorem breaks_off_cleanly_severed :
    ∃ (session : Session) (leaves lost : Session.Turn), session.awaits .suback = true ∧
      (session.take {} leaves).told = [.disconnect none] ∧
      (session.take {} leaves).handed = [.disconnect] ∧
      (session.take {} leaves).session.awaits .suback = false ∧
      lost.input = .signal .connectionLost ∧
      ((session.take {} leaves).session.take {} lost).effects = [] := by
  let device : Address := .plain ⟨.v4 10 0 0 7, 1234, 0⟩
  let request : Sensor.Connect := { flags := {}, protocolId := 1, duration := 60, clientId := "d" }
  let turns : List Session.Turn :=
    [⟨0, {}, .sensor device (.connect request) "udp:20000"⟩,
      ⟨1, {}, .broker (.connack Broker.Message.accepted)⟩,
      ⟨2, {}, .sensor device (.subscribe { flags := {}, msgId := 1, topic := .named "a" })
        "udp:20000"⟩]
  let broken : Broker.Line := { handover := { failure := some (.send "broken pipe") } }
  let leaves : Session.Turn := ⟨3, broken, .sensor device (.disconnect none) "udp:20000"⟩
  let lost : Session.Turn := ⟨4, {}, .signal .connectionLost⟩
  obtain ⟨htold, hhanded, -, -, hlate, -⟩ :=
    breaks_off_cleanly {} device 0 turns leaves (by decide +kernel) .leave
  exact ⟨_, leaves, lost, by decide +kernel, htold, hhanded.trans (by decide +kernel),
    by decide +kernel, rfl, congrArg (·.effects) (hlate lost .lose)⟩

end Gateway

end SensorGateway
