import SensorGateway.Proofs.Session.Moves

/-!
Which timer a session needs. A request that the device has to answer is sent
again by a timer, so that every phase asks for one timer at most. The moves of a
session start and end timers such that the ones that run are the ones that the
phase asks for, and a signal never starts one.
-/

namespace SensorGateway.Session

def Phase.timer? : Phase → Option Signal
  | idle | awaitingConnack => none
  | awaitingWillTopic .. => some .willTopicTimeout
  | awaitingWillMessage .. => some .willMessageTimeout
  | connected exchanges => exchanges.registration.map fun _ => .regackTimeout

/-- The signal by which a request is sent again until it is answered. The broker
is asked only once. -/
def Handshake.timeout? : Handshake → Option Signal
  | willTopic => some .willTopicTimeout
  | willMessage => some .willMessageTimeout
  | regack => some .regackTimeout
  | connack | suback | unsuback | puback => none

def Effect.rearm (signals : List Signal) : Effect → List Signal
  | arm signal => if signal ∈ signals then signals else signals ++ [signal]
  | disarm signal => signals.filter (· != signal)
  | disarmAll => []
  | broker _ | device .. | forGateway .. => signals

def Effect.startsTimer : Effect → Bool
  | arm _ => true
  | disarm _ | disarmAll | broker _ | device .. | forGateway .. => false

variable {session : Session} {handshake : Handshake} {signal : Signal}
variable {maxRetries : Nat} {before after : Phase} {uses : List Effect}

/-- An answer is waited for just as long as its timer runs. -/
theorem awaits_iff (h : handshake.timeout? = some signal) :
    session.awaits handshake = true ↔ session.phase.timer? = some signal := by
  obtain ⟨_, _, _, _, _, phase, _, _, _⟩ := session
  cases handshake with
  | willTopic =>
    cases h
    cases phase <;> simp [awaits, Phase.timer?]
  | willMessage =>
    cases h
    cases phase <;> simp [awaits, Phase.timer?]
  | regack =>
    cases h
    cases phase <;> simp [awaits, Phase.timer?, exchanges, Option.isSome_iff_exists]
  | connack => cases h
  | suback => cases h
  | unsuback => cases h
  | puback => cases h

theorem timer?_of_free (h : before = .idle ∨ before = .awaitingConnack) :
    before.timer? = none := by
  rcases h with rfl | rfl
  · rfl
  · rfl

/-- A move takes the timer that the phase asked for to the one that the next
phase asks for. -/
theorem move_rearm (hmove : Phase.Move maxRetries before uses after) :
    uses.foldl Effect.rearm before.timer?.toList = after.timer?.toList := by
  cases hmove with
  | stay => rfl
  | askWillTopic request hfree =>
    rw [timer?_of_free hfree]
    rfl
  | repeatWillTopic => rfl
  | dropWillTopic => rfl
  | askWillMessage => rfl
  | repeatWillMessage => rfl
  | dropWillMessage => rfl
  | endWill hasked =>
    rw [timer?_of_free hasked]
    rfl
  | askBroker hfree hasked =>
    rw [timer?_of_free hfree, timer?_of_free hasked]
    rfl
  | accept => rfl
  | exchange hsame => simp only [Phase.timer?, hsame, List.foldl_nil]
  | offer registration hnone =>
    simp only [Phase.timer?, hnone]
    rfl
  | repeatOffer msgId hsome =>
    simp only [Phase.timer?, hsome]
    rfl
  | endOffer hsome =>
    simp only [Phase.timer?, hsome]
    rfl
  | tearDown => rfl

/-- As long as a phase asks for the same timer nothing happens to it. -/
theorem move_keeps (hmove : Phase.Move maxRetries before uses after)
    (hbefore : before.timer? = some signal) (hafter : after.timer? = some signal) : uses = [] := by
  cases hmove with
  | stay => rfl
  | askWillTopic request hfree =>
    rw [timer?_of_free hfree] at hbefore
    cases hbefore
  | repeatWillTopic => rfl
  | dropWillTopic => cases hafter
  | askWillMessage =>
    cases hbefore
    cases hafter
  | repeatWillMessage => rfl
  | dropWillMessage => cases hafter
  | endWill hasked =>
    rw [timer?_of_free hasked] at hafter
    cases hafter
  | askBroker => rfl
  | accept => rfl
  | exchange => rfl
  | offer registration hnone =>
    simp only [Phase.timer?, hnone] at hbefore
    cases hbefore
  | repeatOffer => rfl
  | endOffer => cases hafter
  | tearDown => cases hafter

/-- A timer is the last thing that a move starts, so that the move does not end
it again. -/
theorem move_startsTimer (hmove : Phase.Move maxRetries before uses after) :
    ∀ effect ∈ uses.dropLast, effect.startsTimer = false := by
  cases hmove <;> simp [Effect.startsTimer]

/-- A move starts no timer unless the next phase asks for one that did not run. -/
theorem move_quiet (hmove : Phase.Move maxRetries before uses after)
    (hquiet : after.timer? = none ∨ after.timer? = before.timer?) :
    ∀ effect ∈ uses, effect.startsTimer = false := by
  cases hmove with
  | askWillTopic request hfree =>
    rw [timer?_of_free hfree] at hquiet
    simp [Phase.timer?] at hquiet
  | askWillMessage => simp [Phase.timer?] at hquiet
  | offer registration hnone => simp [Phase.timer?, hnone] at hquiet
  | _ => simp [Effect.startsTimer]

namespace Transition

variable (t : Transition) (context : Context)

theorem willTopicTimeout_timer? :
    (t.willTopicTimeout context).session.phase.timer? = none ∨
      (t.willTopicTimeout context).session.phase.timer? = t.session.phase.timer? := by
  unfold willTopicTimeout
  split
  next request tries hphase =>
    split
    · exact .inl rfl
    · exact .inr (by rw [hphase]; rfl)
  next => exact .inr rfl

theorem willMessageTimeout_timer? :
    (t.willMessageTimeout context).session.phase.timer? = none ∨
      (t.willMessageTimeout context).session.phase.timer? = t.session.phase.timer? := by
  unfold willMessageTimeout
  split
  next request will tries hphase =>
    split
    · exact .inl rfl
    · exact .inr (by rw [hphase]; rfl)
  next => exact .inr rfl

theorem regackTimeout_timer? :
    (t.regackTimeout context).session.phase.timer? = none ∨
      (t.regackTimeout context).session.phase.timer? = t.session.phase.timer? := by
  unfold regackTimeout
  split
  next exchanges hphase =>
    split
    next => exact .inr rfl
    next registration hsome =>
      split
      · exact .inl rfl
      · refine .inr ?_
        rw [hphase]
        simp only [Phase.timer?, hsome]
        rfl
  next => exact .inr rfl

theorem connectionLost_timer? :
    t.connectionLost.session.phase.timer? = none ∨
      t.connectionLost.session.phase.timer? = t.session.phase.timer? := by
  unfold connectionLost
  split
  · exact .inr rfl
  · exact .inl rfl

end Transition

/-- A signal starts no handshake: the timer that runs after it ran before. -/
theorem onSignal_timer? (context : Context) (signal : Signal) :
    (session.onSignal context signal).session.phase.timer? = none ∨
      (session.onSignal context signal).session.phase.timer? = session.phase.timer? := by
  cases hlast : session.endsAt context signal with
  | true => exact .inr (congrArg Phase.timer? (onSignal_ends context hlast).phase)
  | false =>
    have hstep : session.onSignal context signal =
        (Transition.start session).signal context signal := by
      simp [onSignal, hlast]
    rw [hstep]
    cases signal with
    | connectionLost => exact Transition.connectionLost_timer? (.start session)
    | willTopicTimeout => exact Transition.willTopicTimeout_timer? (.start session) context
    | willMessageTimeout => exact Transition.willMessageTimeout_timer? (.start session) context
    | regackTimeout => exact Transition.regackTimeout_timer? (.start session) context
    | checkInactivity => exact .inr rfl
    | sendKeepAlive => exact .inr rfl
    | shutDown => exact .inr (congrArg Phase.timer? (onSignal_shutDown session context).phase)

end SensorGateway.Session
