import SensorGateway.Proofs.Gateway.Steps
import SensorGateway.Proofs.Session.Links

/-!
A gateway seen by one device. What a gateway has of a device is its session, its
timers and what has happened on links for it. A device could have all of this to
itself: `Holding.take` says what becomes of it when the device is told
something, without any other device, and the steps of a gateway do exactly this
for the device that they are about and nothing for any other.
-/

namespace SensorGateway

/-! ### Timers -/

namespace Timers

/-- The timers that run for an address, without their numbers. -/
def timersAt (timers : Timers) (address : Address) : List Timer :=
  (timers.tasksAt address).map (·.timer)

end Timers

def Session.Effect.onTimers (config : Config) (address : Address) (timers : List Timer) :
    Session.Effect → List Timer
  | .arm signal =>
      if timers.any (·.isFor address signal) then timers
      else timers ++ [Gateway.answerTimer config address signal]
  | .disarm signal => timers.filter (!·.isFor address signal)
  | .disarmAll => timers.filter (!·.address.same address)
  | .broker _ | .device .. | .forGateway .. => timers

namespace Timers

variable {config : Config} {address other : Address}

theorem timersAt_cancel (timers : Timers) (ends : Timer → Bool) (other : Address) :
    (timers.cancel ends).2.timersAt other = (timers.timersAt other).filter (!ends ·) := by
  simp [timersAt, tasksAt_cancel, List.filter_map, Function.comp_def]

theorem any_timersAt (h : address.same other = true) (timers : Timers) (signal : Signal) :
    (timers.timersAt other).any (·.isFor address signal) = timers.isRegistered address signal := by
  simp only [timersAt, tasksAt, isRegistered, List.any_map, List.any_filter]
  congr 1
  funext task
  simp only [Function.comp, Timer.isFor, Address.same_congr h]
  cases task.timer.address.same other <;> rfl

theorem timersAt_register {timer : Timer} (h : timer.address.same other = true)
    (timers : Timers) :
    (timers.register timer).2.timersAt other =
      if (timers.timersAt other).any (·.isFor timer.address timer.signal) then
        timers.timersAt other
      else timers.timersAt other ++ [timer] := by
  rw [any_timersAt h]
  unfold register
  split
  · rfl
  · simp [timersAt, tasksAt_schedule, h]

/-- What an effect of a session does to its timers does not depend on those of others. -/
theorem timersAt_use (h : address.same other = true) (timers : Timers) (effect : Session.Effect) :
    (timers.use config address effect).timersAt other =
      effect.onTimers config address (timers.timersAt other) := by
  cases effect with
  | broker use => rfl
  | device link target message => rfl
  | arm signal => exact timersAt_register h timers
  | disarm signal => exact timersAt_cancel timers _ other
  | disarmAll => exact timersAt_cancel timers _ other
  | forGateway message link => rfl

theorem timersAt_uses (h : address.same other = true) (effects : List Session.Effect)
    (timers : Timers) :
    (effects.foldl (use config address) timers).timersAt other =
      effects.foldl (Session.Effect.onTimers config address) (timers.timersAt other) := by
  induction effects generalizing timers with
  | nil => rfl
  | cons effect effects ih =>
    rw [List.foldl_cons, List.foldl_cons, ih, timersAt_use h]

theorem timersAt_uses_other (h : address.same other = false) (effects : List Session.Effect)
    (timers : Timers) :
    (effects.foldl (use config address) timers).timersAt other = timers.timersAt other := by
  unfold timersAt
  rw [tasksAt_uses_other h]

theorem timersAt_useUplink (hforeign : config.gatewayAddress.same other = false)
    (effects : List Uplink.Effect) (timers : Timers) :
    (effects.foldl (useUplink config) timers).timersAt other = timers.timersAt other := by
  induction effects generalizing timers with
  | nil => rfl
  | cons effect effects ih =>
    rw [List.foldl_cons, ih]
    unfold timersAt
    cases effect with
    | event event => rfl
    | checkInactivity => rfl
    | keepAlive => simp [useUplink, tasksAt_schedule, Gateway.keepAliveTimer, hforeign]
    | disarmAll => exact congrArg _ (tasksAt_cancel_other hforeign fun timer hsame => hsame)

end Timers

/-! ### Links -/

def Event.effectAt? (address : Address) : Event → Option Session.Effect
  | .broker owner use => if owner.same address then some (.broker use) else none
  | .device link target message _ =>
      if target.same address then some (.device link target message) else none
  | .broadcast .. | .openLink .. | .closeLink .. => none

def Session.Effect.event? (network : Network) (address : Address) : Session.Effect → Option Event
  | .broker use => some (.broker address use)
  | .device link target message =>
      some (.device link target message (network.sendDevice link target message))
  | .arm _ | .disarm _ | .disarmAll | .forGateway .. => none

def Uplink.Effect.event? : Uplink.Effect → Option Event
  | .event happened => some happened
  | .keepAlive | .disarmAll | .checkInactivity => none

theorem Progress.performAll_events (network : Network) (address : Address)
    (effects : List Session.Effect) (progress : Progress) :
    (progress.performAll network address effects).events =
      progress.events ++ effects.filterMap (·.event? network address) := by
  induction effects generalizing progress with
  | nil => exact (List.append_nil _).symm
  | cons effect effects ih =>
    have hrest := ih (progress.perform network address effect)
    cases effect with
    | broker use => exact hrest.trans (by simp [perform, note, Session.Effect.event?])
    | device link target message =>
      exact hrest.trans (by simp [perform, note, Session.Effect.event?])
    | arm signal => exact hrest
    | disarm signal => exact hrest
    | disarmAll => exact hrest
    | forGateway message link => exact hrest

def Session.Transition.WritesHome (t : Session.Transition) : Prop :=
  ∀ link target message, .device link target message ∈ t.effects → target = t.session.address

theorem Session.same_take (config : Config) (turn : Session.Turn) (session : Session)
    (other : Address) :
    (session.take config turn).session.address.same other = session.address.same other := by
  rw [(session.take_accounted config turn).address]
  apply Address.same_congr_left
  rw [Address.same_iff]
  unfold Session.hear
  split
  · exact Address.identity_refresh _ _
  · rfl
  · rfl

/-- Whatever a session is told, it writes to its own device only. -/
theorem Session.take_writesHome (config : Config) (turn : Session.Turn) (session : Session) :
    (session.take config turn).WritesHome := by
  intro link target message hin
  have haccounted := session.take_accounted config turn
  exact (haccounted.deliveries link target message hin).2.trans haccounted.address.symm

/-- What is done for a device as a session carries out its effects: all that uses
a link if it is the session of the device, and nothing otherwise. -/
theorem effectsAt_performed {network : Network} {t : Session.Transition} (h : t.WritesHome)
    (other : Address) :
    (t.effects.filterMap (·.event? network t.session.address)).filterMap (·.effectAt? other) =
      if t.session.address.same other then t.effects.filter (·.usesLink) else [] := by
  have hone : ∀ effect ∈ t.effects,
      (effect.event? network t.session.address).bind (·.effectAt? other) =
        if t.session.address.same other && effect.usesLink then some effect else none := by
    intro effect hin
    cases effect with
    | device link target message =>
      simp [Session.Effect.event?, Event.effectAt?, Session.Effect.usesLink,
        h link target message hin]
    | broker use => simp [Session.Effect.event?, Event.effectAt?, Session.Effect.usesLink]
    | _ => simp [Session.Effect.event?, Session.Effect.usesLink]
  rw [List.filterMap_filterMap, List.filterMap_congr hone]
  cases t.session.address.same other with
  | true =>
    simp only [Bool.true_and, if_true]
    exact congrFun List.filterMap_eq_filter t.effects
  | false => simp

/-! ### Holdings -/

/-- What a gateway has of one device. -/
structure Holding where
  session : Option Session
  timers : List Timer
  /-- The uses of the broker link of the device and the messages that were sent
  to it, in their order. -/
  dealings : List Session.Effect

namespace Session

/-- The session that a turn begins for a device that has none. -/
def Turn.newcomer? (config : Config) (turn : Turn) : Option Session :=
  match turn.input with
  | .sensor seen _ _ => some (fresh (turn.context config) seen)
  | .broker _ | .signal _ => none

/-- A device is known by the address under which it was first seen, so that nothing has
to be refreshed in the first turn. -/
theorem take_fresh (config : Config) (turn : Turn) {seen : Address} {message : Sensor.Message}
    {link : LinkName} (hinput : turn.input = .sensor seen message link) :
    (fresh (turn.context config) seen).take config turn =
      onSensor (turn.context config) message link (fresh (turn.context config) seen) := by
  have hsame : (fresh (turn.context config) seen).address.refresh seen =
      (fresh (turn.context config) seen).address := seen.refresh_self
  unfold take
  rw [hinput]
  simp only
  rw [hsame]

def endsWith (config : Config) (turn : Turn) (session : Session) : Bool :=
  match turn.input with
  | .signal signal => session.endsAt (turn.context config) signal
  | .sensor .. | .broker _ => false

end Session

namespace Holding

def none : Holding := ⟨.none, [], []⟩

/-- What becomes of a holding as its session carries out what it does. -/
def follow (config : Config) (ends : Bool) (t : Session.Transition) (holding : Holding) :
    Holding where
  session := if ends then .none else some t.session
  timers := t.effects.foldl (Session.Effect.onTimers config t.session.address) holding.timers
  dealings := holding.dealings ++ t.effects.filter (·.usesLink)

/-- What becomes of a holding as its device is told something. Only the device
itself can have its session begin. -/
def take (config : Config) (holding : Holding) (turn : Session.Turn) : Holding :=
  match holding.session.or (turn.newcomer? config) with
  | .none => holding
  | some session => holding.follow config (session.endsWith config turn) (session.take config turn)

/-- The session that takes a turn is there already, or begins with it. -/
theorem take_of_or {config : Config} {holding : Holding} {session : Session}
    {turn : Session.Turn}
    (h : holding.session.or (turn.newcomer? config) = some session) :
    holding.take config turn =
      holding.follow config (session.endsWith config turn) (session.take config turn) := by
  unfold take
  rw [h]

theorem take_of_some {config : Config} {holding : Holding} {session : Session}
    (h : holding.session = some session) (turn : Session.Turn) :
    holding.take config turn =
      holding.follow config (session.endsWith config turn) (session.take config turn) :=
  take_of_or (by rw [h, Option.some_or])

theorem take_newcomer {config : Config} {holding : Holding} {session : Session}
    {turn : Session.Turn} (h : holding.session = .none)
    (hturn : turn.newcomer? config = some session) :
    holding.take config turn =
      holding.follow config (session.endsWith config turn) (session.take config turn) :=
  take_of_or (by rw [h, hturn, Option.none_or])

theorem take_of_none {config : Config} {holding : Holding} {turn : Session.Turn}
    (h : holding.session = .none) (hturn : turn.newcomer? config = .none) :
    holding.take config turn = holding := by
  unfold take
  rw [h, hturn]
  rfl

def after (dealings : List Session.Effect) (holding : Holding) : Holding :=
  { holding with dealings := dealings ++ holding.dealings }

/-- What was done before makes no difference to what is done. -/
theorem take_after (config : Config) (dealings : List Session.Effect) (holding : Holding)
    (turn : Session.Turn) :
    (holding.after dealings).take config turn = (holding.take config turn).after dealings := by
  unfold take
  change (match holding.session.or (turn.newcomer? config) with
    | .none => holding.after dealings
    | some session => (holding.after dealings).follow config (session.endsWith config turn)
        (session.take config turn)) = _
  cases holding.session.or (turn.newcomer? config) with
  | none => rfl
  | some session => simp [follow, after, List.append_assoc]

/-- What was done for a device before a history stays in front of what is done in it. -/
theorem foldl_take_after (config : Config) (dealings : List Session.Effect)
    (turns : List Session.Turn) (holding : Holding) :
    turns.foldl (take config) (holding.after dealings) =
      (turns.foldl (take config) holding).after dealings := by
  induction turns generalizing holding with
  | nil => rfl
  | cons turn turns ih => rw [List.foldl_cons, List.foldl_cons, take_after, ih]

end Holding

namespace Progress

/-- What happened on links for a device: the uses of its broker link and the
messages that were sent to it, in their order. -/
def dealings (address : Address) (progress : Progress) : List Session.Effect :=
  progress.events.filterMap (·.effectAt? address)

def holding (address : Address) (progress : Progress) : Holding where
  session := progress.gateway.session? address
  timers := progress.gateway.timers.timersAt address
  dealings := progress.dealings address

def after (events : List Event) (progress : Progress) : Progress :=
  { progress with events := events ++ progress.events }

variable {progress : Progress} {network : Network} {t : Session.Transition} {other : Address}

theorem stepSession_events :
    (progress.stepSession network t).events =
      progress.events ++ t.effects.filterMap (·.event? network t.session.address) :=
  performAll_events network _ _ _

/-- The step of a session is followed by the holding of its device. -/
theorem holding_stepSession (network : Network) (hhome : t.WritesHome)
    (hsame : t.session.address.same other = true)
    (hknown : (progress.gateway.session? other).isSome = true) :
    (progress.stepSession network t).holding other =
      (progress.holding other).follow progress.gateway.config false t := by
  unfold holding dealings Holding.follow
  rw [stepSession_events, List.filterMap_append, effectsAt_performed hhome, if_pos hsame,
    Gateway.stepSession_gateway]
  congr 1
  · exact Gateway.session?_setSession hsame hknown
  · change (t.timerUses.foldl (Timers.use progress.gateway.config t.session.address)
      progress.gateway.timers).timersAt other = _
    rw [Session.Transition.timerUses, Timers.foldl_use_filter, Timers.timersAt_uses hsame]

/-- The holding of any other device stays as it is. -/
theorem holding_stepSession_other (network : Network) (hhome : t.WritesHome)
    (hother : t.session.address.same other = false) :
    (progress.stepSession network t).holding other = progress.holding other := by
  unfold holding dealings
  rw [stepSession_events, List.filterMap_append, effectsAt_performed hhome,
    if_neg (by simp [hother]), Gateway.stepSession_gateway]
  congr 1
  · exact Gateway.session?_setSession_other hother
  · change (t.timerUses.foldl (Timers.use progress.gateway.config t.session.address)
      progress.gateway.timers).timersAt other = _
    rw [Timers.timersAt_uses_other hother]
  · exact List.append_nil _

/-- What a device has had stays in front of what it gets. -/
theorem holding_after (events : List Event) (progress : Progress) (other : Address) :
    (progress.after events).holding other =
      (progress.holding other).after (events.filterMap (·.effectAt? other)) := by
  unfold holding dealings after
  rw [List.filterMap_append]
  rfl

theorem holding_start (progress : Progress) (other : Address) :
    ((start progress.gateway).holding other).after (progress.dealings other) =
      progress.holding other :=
  congrArg (Holding.mk _ _) (List.append_nil _)

theorem holding_removeSession {address : Address} (hsame : address.same other = true) :
    (progress.update (·.removeSession address)).holding other =
      { progress.holding other with session := .none } := by
  unfold holding update
  rw [Gateway.session?_removeSession hsame]
  rfl

/-- A session that goes leaves other devices what they have. -/
theorem holding_removeSession_other {address : Address} (hother : address.same other = false) :
    (progress.update (·.removeSession address)).holding other = progress.holding other := by
  unfold holding update
  rw [Gateway.session?_removeSession_other hother]
  rfl

/-! ### Steps of the uplink -/

theorem performUplink_events (effects : List Uplink.Effect) (progress : Progress) :
    (effects.foldl performUplink progress).events =
      progress.events ++ effects.filterMap (·.event?) := by
  induction effects generalizing progress with
  | nil => exact (List.append_nil _).symm
  | cons effect effects ih =>
    have hrest := ih (progress.performUplink effect)
    cases effect with
    | event event => exact hrest.trans (by simp [performUplink, note, Uplink.Effect.event?])
    | keepAlive => exact hrest
    | disarmAll => exact hrest
    | checkInactivity => exact hrest

/-- What the uplink does is for no device. -/
theorem effectAt_own {config : Config} {effect : Uplink.Effect} (hown : effect.IsOwn config)
    (hforeign : config.gatewayAddress.same other = false) :
    effect.event?.bind (·.effectAt? other) = .none := by
  cases effect with
  | event event =>
    cases event with
    | broker owner use =>
      have howner : owner = config.gatewayAddress := hown
      simp [Uplink.Effect.event?, Event.effectAt?, howner, hforeign]
    | device => exact hown.elim
    | _ => rfl
  | _ => rfl

/-- No step of the uplink makes a difference to a device. -/
theorem holding_stepUplink {context : Uplink.Context}
    {step : Uplink.Context → Uplink → Uplink.Outcome}
    (hown : (step context progress.gateway.uplink).1.Own context)
    (hconfig : context.config = progress.gateway.config)
    (hforeign : progress.gateway.isOwn other = false) :
    (progress.stepUplink context step).1.holding other = progress.holding other := by
  have hapart : progress.gateway.config.gatewayAddress.same other = false := by
    rw [Address.same_comm]
    exact hforeign
  unfold holding dealings stepUplink
  simp only
  rw [performUplink_gateway, performUplink_events, List.filterMap_append,
    List.filterMap_filterMap]
  congr 1
  · exact Timers.timersAt_useUplink hapart _ _
  · have hnone : ∀ effect ∈ (step context progress.gateway.uplink).1.effects,
        effect.event?.bind (·.effectAt? other) = .none :=
      fun effect hin => effectAt_own (hconfig ▸ hown effect hin) hapart
    rw [List.filterMap_eq_nil_iff.mpr hnone]
    exact List.append_nil _

end Progress

/-! ### Signals -/

namespace Gateway

variable {progress : Progress} {session : Session} {other : Address}

def signalTurn (circumstances : Circumstances) (address : Address) (signal : Signal) :
    Session.Turn :=
  ⟨circumstances.now, circumstances.network.line address.identity, .signal signal⟩

/-- A session that takes a signal takes the turn of its device, and is gone if it ends with
it. -/
theorem signalSession_eq (circumstances : Circumstances) (signal : Signal) (progress : Progress)
    (session : Session) :
    signalSession circumstances signal progress session =
      let turn := signalTurn circumstances session.address signal
      let stepped := progress.stepSession circumstances.network
        (session.take progress.gateway.config turn)
      if session.endsWith progress.gateway.config turn then
        stepped.update (·.removeSession session.address)
      else stepped := rfl

/-- For its own device this is a turn like any other. -/
theorem holding_signalSession (circumstances : Circumstances) (signal : Signal)
    (hsome : progress.gateway.session? session.address = some session)
    (hsame : session.address.same other = true) :
    (signalSession circumstances signal progress session).holding other =
      (progress.holding other).take progress.gateway.config
        (signalTurn circumstances other signal) := by
  have hturn : signalTurn circumstances session.address signal =
      signalTurn circumstances other signal := by
    unfold signalTurn
    rw [Address.same_iff.mp hsame]
  have hknown : progress.gateway.session? other = some session := by
    rw [← session?_congr hsame, hsome]
  have htaken := (session.same_take progress.gateway.config
    (signalTurn circumstances other signal) other).trans hsame
  have hstep := Progress.holding_stepSession circumstances.network
    (session.take_writesHome _ _) htaken (by rw [hknown]; rfl)
  have hholding : (progress.holding other).session = some session := hknown
  rw [signalSession_eq, hturn, Holding.take_of_some hholding]
  simp only
  split
  next hends =>
    rw [Progress.holding_removeSession hsame, hstep, hends]
    rfl
  next hends =>
    rw [hstep, Bool.eq_false_iff.mpr hends]

/-- For any other device it is nothing. -/
theorem holding_signalSession_other (circumstances : Circumstances) (signal : Signal)
    (hother : session.address.same other = false) :
    (signalSession circumstances signal progress session).holding other =
      progress.holding other := by
  have hstep (turn : Session.Turn) : (progress.stepSession circumstances.network
      (session.take progress.gateway.config turn)).holding other = progress.holding other :=
    Progress.holding_stepSession_other _ (session.take_writesHome _ _)
      ((session.same_take _ _ other).trans hother)
  rw [signalSession_eq]
  simp only
  split
  · rw [Progress.holding_removeSession_other hother, hstep]
  · exact hstep _

end Gateway

end SensorGateway
