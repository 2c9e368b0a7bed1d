import SensorGateway.Proofs.Session.Speech
import SensorGateway.Proofs.Session.Stray
import SensorGateway.Proofs.Session.Twins

/-!
How a session ends what is going on: because its device leaves, because its link to the broker
is lost, or because the broker refuses the connection. Whatever is going on at the time, the
device hears DISCONNECT once, nothing is left of it but the ids of the topics and the count of
the message ids, and what comes late makes no difference. From then on the session does the
same as one in which nothing had been going on.
-/

namespace SensorGateway.Session

/-- What ends all that is going on in a session. -/
inductive Ledger.BreaksOff (ledger : Ledger) : Input → Prop where
  | leave {seen : Address} {duration : Option UInt16} {link : LinkName} :
      BreaksOff ledger (.sensor seen (.disconnect duration) link)
  | lose : BreaksOff ledger (.signal .connectionLost)
  | refuse {code : UInt8} (hasked : ledger.marks.connack = true)
      (hcode : code ≠ Broker.Message.accepted) : BreaksOff ledger (.broker (.connack code))

/-- What the broker is told if a session breaks off: only its device takes leave. -/
def Ledger.leaveTaking (ledger : Ledger) : Input → List Broker.Message
  | .sensor .. => if ledger.brokerOpen then [.disconnect] else []
  | .broker _ | .signal _ => []

def Ledger.cleared (ledger : Ledger) : Ledger :=
  { ledger with state := .disconnected, marks := {}, kept := {}, brokerOpen := false }

/-- What may be on its way when a session breaks off. -/
inductive Input.ComesLate : Input → Prop where
  | leave {seen : Address} {duration : Option UInt16} {link : LinkName} :
      ComesLate (.sensor seen (.disconnect duration) link)
  | lose : ComesLate (.signal .connectionLost)
  | timeout {handshake : Handshake} {signal : Signal}
      (htimeout : handshake.timeout? = some signal) : ComesLate (.signal signal)

variable {session : Session} {turn : Turn}

/-- A ledger shows that something is going on. -/
theorem ledger_isBusy_iff (session : Session) :
    (session.ledger.isConnected || session.ledger.marks.isEstablishing) = true ↔
      session.phase ≠ .idle := by
  rw [ledger_isConnected, ledger_marks]
  cases session.phase <;> simp [Phase.isConnected, Phase.marks, Marks.isEstablishing]

/-- The ledger of a session that was torn down. -/
theorem ledger_cleared (session : Session) :
    ledger { session with phase := .idle, brokerOpen := false, tornDown := true } =
      session.ledger.cleared := rfl

namespace Transition

variable {context : Context} {t : Transition}

/-- Tearing a session down closes the link, ends the timers and tells the device. -/
theorem tearDown_eq {link : LinkName} (hlink : t.session.link = some link) :
    t.tearDown = ⟨{ t.session with phase := .idle, tornDown := true, brokerOpen := false },
      t.effects ++ [.device link t.session.address (.disconnect none), .disarmAll,
        .broker (.closing t.session.brokerOpen)]⟩ := by
  rw [tearDown, toDevice_eq hlink]
  simp only [emit, update, closeBroker, List.append_assoc, List.cons_append, List.nil_append]

theorem disconnect_of_busy (h : t.session.phase ≠ .idle) :
    t.disconnect context =
      if t.session.brokerOpen then (t.sendBroker context.line .disconnect).2.tearDown
      else t.tearDown := by
  unfold disconnect
  split
  next hidle => exact (h hidle).elim
  next => rfl

end Transition

/-- A session that breaks off may use its link to take leave, and is then torn down. -/
theorem take_of_breaksOff (config : Config) (hbusy : session.phase ≠ .idle)
    (h : session.ledger.BreaksOff turn.input) :
    ∃ (uses : List Broker.LinkUse) (isOpen : Bool),
      session.take config turn = Transition.tearDown
        ⟨{ session.hear config turn with brokerOpen := isOpen }, uses.map .broker⟩ ∧
      (uses.map Effect.broker).filterMap (·.handed?) = session.ledger.leaveTaking turn.input := by
  let t := Transition.start (session.hear config turn)
  have hphase : t.session.phase = session.phase := phase_hear config turn session
  have hopen : t.session.brokerOpen = session.brokerOpen := brokerOpen_hear config turn session
  have hstill : t.session.phase ≠ .idle := hphase ▸ hbusy
  cases hinput : turn.input with
  | sensor seen message link =>
    rw [hinput] at h
    cases h
    have hstep : session.take config turn = t.disconnect (turn.context config) :=
      take_sensor config hinput session
    have hledger : session.ledger.brokerOpen = t.session.brokerOpen := hopen.symm
    rw [Ledger.leaveTaking, hstep, Transition.disconnect_of_busy hstill, hledger]
    split
    next => exact ⟨[_], _, rfl, rfl⟩
    next => exact ⟨[], _, rfl, rfl⟩
  | signal signal =>
    rw [hinput] at h
    cases h
    have hstep : session.take config turn = t.connectionLost :=
      take_signal config hinput (by rintro ⟨⟩) session
    exact ⟨[], _, hstep.trans (Transition.connectionLost_of_busy hstill), rfl⟩
  | broker message =>
    rw [hinput] at h
    cases h with
    | @refuse code hasked hcode =>
      have hstep : session.take config turn = t.connack code := take_broker config hinput session
      have hwaits : t.session.phase = .awaitingConnack :=
        hphase.trans (awaits_connack_iff.mp hasked)
      have hrefused : t.connack code = t.tearDown := by
        simp only [Transition.connack, hwaits]
        exact if_neg hcode
      exact ⟨[], _, hstep.trans hrefused, rfl⟩

/-- The session as it is when it has broken off. -/
theorem session_of_breaksOff (config : Config) (hbusy : session.phase ≠ .idle)
    (h : session.ledger.BreaksOff turn.input) :
    (session.take config turn).session = { session.hear config turn with
      phase := .idle, brokerOpen := false, tornDown := true } := by
  obtain ⟨uses, isOpen, htake, -⟩ := take_of_breaksOff config hbusy h
  rw [htake, Transition.session_tearDown]

/-- What is said in a session that breaks off, and what is done to its timers. -/
theorem said_of_breaksOff (config : Config) (hreached : session.Reached)
    (hbusy : session.phase ≠ .idle) (h : session.ledger.BreaksOff turn.input) :
    (session.take config turn).told = [.disconnect none] ∧
      (session.take config turn).handed = session.ledger.leaveTaking turn.input ∧
      (session.take config turn).timerUses = [.disarmAll] := by
  obtain ⟨uses, isOpen, htake, hhanded⟩ := take_of_breaksOff config hbusy h
  obtain ⟨link, hlink⟩ := Option.isSome_iff_exists.mp (hreached.link_hear config turn hbusy)
  have heffects : (session.take config turn).effects = uses.map Effect.broker ++
      [.device link (session.hear config turn).address (.disconnect none), .disarmAll,
        .broker (.closing isOpen)] := by
    rw [htake, Transition.tearDown_eq hlink]
  have htold : (uses.map Effect.broker).filterMap (·.told?) = [] := by
    rw [List.filterMap_map]
    exact List.filterMap_eq_nil_iff.mpr fun _ _ => rfl
  have huses : (uses.map Effect.broker).filter (·.usesTimer) = [] := by
    rw [List.filter_map]
    exact List.map_eq_nil_iff.mpr (List.filter_eq_nil_iff.mpr fun _ _ => nofun)
  refine ⟨?_, ?_, ?_⟩
  · rw [Transition.told, heffects, List.filterMap_append, htold]
    rfl
  · rw [Transition.handed, heffects, List.filterMap_append, hhanded]
    exact List.append_nil _
  · rw [Transition.timerUses, heffects, List.filter_append, huses]
    rfl

/-- In a session in which nothing is going on, what comes late makes no difference. -/
theorem take_of_comesLate (config : Config) (hidle : session.phase = .idle)
    (h : turn.input.ComesLate) : session.take config turn = ⟨session.hear config turn, []⟩ := by
  have hnot : session.ledger.isConnected = false := by
    rw [ledger_isConnected, hidle]
    rfl
  have hmarks : session.ledger.marks = {} := by
    rw [ledger_marks, hidle]
    rfl
  cases hinput : turn.input with
  | sensor seen message link =>
    have hstray : session.ledger.Stray turn.input := by
      rw [hinput] at h ⊢
      cases h
      exact .absent hnot (by rw [hmarks]; rfl)
    rw [take_of_stray config hstray]
    rw [hinput] at h ⊢
    cases h
    rfl
  | broker message =>
    rw [hinput] at h
    cases h
  | signal signal =>
    rw [hinput] at h
    cases h with
    | lose =>
      rw [take_signal config hinput (by rintro ⟨⟩)]
      simp only [Transition.signal, Transition.connectionLost, Transition.start, phase_hear, hidle]
    | @timeout handshake _ htimeout =>
      have hstray : session.ledger.Stray turn.input := by
        rw [hinput]
        exact .late htimeout (by rw [hmarks]; cases handshake <;> rfl)
      rw [take_of_stray config hstray, hinput]
      rfl

/-- Sessions that go by different client ids go by the same one as soon as the device asks to be
connected. -/
theorem clientId_run {first second : Session} (turns : List Turn)
    (h : first.clientId = second.clientId ∨
      ∃ turn ∈ turns, ∃ seen request link, turn.input = .sensor seen (.connect request) link) :
    (first.run config turns).session.clientId = (second.run config turns).session.clientId := by
  induction turns generalizing first second with
  | nil => exact h.resolve_right fun ⟨_, hin, _⟩ => List.not_mem_nil hin
  | cons turn turns ih =>
    have hfirst := (take_speaks config turn first).clientId
    have hsecond := (take_speaks config turn second).clientId
    refine ih ?_
    rw [hfirst, hsecond]
    rcases h with hsame | ⟨asked, hin, seen, request, link, hinput⟩
    · exact .inl (by rw [hsame])
    · rcases List.mem_cons.mp hin with rfl | hlater
      · exact .inl (by rw [hinput]; rfl)
      · exact .inr ⟨asked, hlater, seen, request, link, hinput⟩

end SensorGateway.Session
