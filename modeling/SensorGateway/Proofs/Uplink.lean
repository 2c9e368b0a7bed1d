import SensorGateway.Uplink

/-!
What one step of the uplink can do to its timers. The uplink starts one when it
becomes connected, and unless it fails or is shut down it stays connected from
then on, so that it never starts another. What it does on links is its own
affair: it uses its own broker link, and no message of it is for one device.
`Hands` lists what it hands to its broker link.
-/

namespace SensorGateway

def Broker.LinkUse.message? : Broker.LinkUse → Option Broker.Message
  | sending _ message _ _ => some message
  | opening .. | closing _ => none

/-- The message that is handed to a broker link, whether it is taken or not. -/
def Event.handed? : Event → Option Broker.Message
  | broker _ use => use.message?
  | device .. | broadcast .. | openLink .. | closeLink .. => none

namespace Uplink

def Effect.usesTimer : Effect → Bool
  | keepAlive | disarmAll => true
  | event _ | checkInactivity => false

/-- How the uplink may become connected, with what that does to the timers. -/
inductive Move : Bool → List Effect → Bool → Prop where
  | stay (connected : Bool) : Move connected [] connected
  | connect : Move false [.keepAlive] true

namespace Transition

def timerUses (transition : Transition) : List Effect :=
  transition.effects.filter (·.usesTimer)

def Leads (t next : Transition) : Prop :=
  ∃ uses, next.timerUses = t.timerUses ++ uses ∧
    Move t.uplink.connected uses next.uplink.connected

structure Alike (t next : Transition) : Prop where
  connected : next.uplink.connected = t.uplink.connected
  uses : next.timerUses = t.timerUses

variable {t next last : Transition} {context : Context}

@[simp] theorem timerUses_emit (effect : Effect) :
    (t.emit effect).timerUses = t.timerUses ++ if effect.usesTimer then [effect] else [] := by
  cases h : effect.usesTimer <;> simp [timerUses, emit, h]

@[simp] theorem timerUses_update (f : Uplink → Uplink) : (t.update f).timerUses = t.timerUses := rfl

theorem Alike.refl (t : Transition) : Alike t t := ⟨rfl, rfl⟩

theorem Alike.trans (h : Alike t next) (h' : Alike next last) : Alike t last :=
  ⟨h'.connected.trans h.connected, h'.uses.trans h.uses⟩

theorem Alike.stays (h : Alike t next) : Leads t next := by
  obtain ⟨hconnected, huses⟩ := h
  exact ⟨[], by simpa using huses, hconnected ▸ .stay _⟩

theorem alike_emit {effect : Effect} (h : effect.usesTimer = false) : Alike t (t.emit effect) :=
  ⟨rfl, by simp [timerUses_emit, h]⟩

theorem alike_useBroker (use : Broker.LinkUse) : Alike t (t.useBroker context use) :=
  alike_emit rfl

theorem alike_openBroker : Alike t (t.openBroker context).2 :=
  (alike_useBroker (.opening t.uplink.brokerOpen _)).trans ⟨rfl, rfl⟩

theorem alike_sendBroker (context : Context) (message : Broker.Message) :
    Alike t (t.sendBroker context message).2 :=
  (alike_useBroker (.sending t.uplink.brokerOpen message _ _)).trans ⟨rfl, rfl⟩

theorem alike_closeBroker : Alike t (t.closeBroker context) :=
  (alike_useBroker (.closing t.uplink.brokerOpen)).trans ⟨rfl, rfl⟩

theorem alike_forward (message : Broker.Message) : Alike t (t.forward context message).1 := by
  have hsent : Alike t (t.sendBroker context message).2 := alike_sendBroker context message
  unfold forward
  split
  next hresult =>
    rw [hresult] at hsent
    exact hsent
  next hresult =>
    rw [hresult] at hsent
    exact hsent

/-- What is alike after each of several steps is alike after all of them. -/
theorem alike_foldl {α : Type} (step : Transition → α → Transition)
    (h : ∀ t item, Alike t (step t item)) (items : List α) (t : Transition) :
    Alike t (items.foldl step t) := by
  induction items generalizing t with
  | nil => exact .refl t
  | cons item items ih => exact (h t item).trans (ih (step t item))

theorem alike_broadcast (radius : UInt8) (message : Sensor.Message) :
    Alike t (t.broadcast context radius message) :=
  alike_foldl _ (fun _ _ => alike_emit rfl) _ t

theorem alike_openLinks : Alike t (t.openLinks context) := by
  unfold openLinks
  apply alike_foldl
  intro t settings
  simp only
  split
  · exact (alike_emit rfl).trans ⟨rfl, rfl⟩
  · exact alike_emit rfl

/-- The uplink starts its timer after it became connected. -/
theorem leads_keepAlive {pinged : Transition} (hbefore : t.uplink.connected = false)
    (h : Alike (t.update fun uplink => { uplink with connected := true }) pinged) :
    Leads t (pinged.emit .keepAlive) := by
  refine ⟨[.keepAlive], ?_, ?_⟩
  · rw [timerUses_emit]
    exact congrArg (· ++ [Effect.keepAlive]) h.uses
  · have hafter : (pinged.emit .keepAlive).uplink.connected = true := h.connected
    rw [hbefore, hafter]
    exact .connect

theorem leads_connack (code : UInt8) (hok : (t.connack context code).2 = .ok ()) :
    Leads t (t.connack context code).1 := by
  unfold connack at hok ⊢
  split
  · exact (Alike.refl t).stays
  next hconnected =>
    rw [if_neg hconnected] at hok
    split
    next hrefused =>
      rw [if_pos hrefused] at hok
      cases hok
    next haccepted =>
      rw [if_neg haccepted] at hok
      simp only at hok ⊢
      generalize hopened :
        (t.update fun uplink => { uplink with connected := true }).openLinks context = opened
      have hlinks : Alike (t.update fun uplink => { uplink with connected := true }) opened :=
        hopened ▸ alike_openLinks
      rw [hopened] at hok
      split
      next hnone =>
        rw [if_pos hnone] at hok
        cases hok
      next hsome =>
        rw [if_neg hsome] at hok
        have hsent : Alike opened (opened.forward context .pingRequest).1 := alike_forward _
        split
        next pinged hpinged =>
          rw [hpinged] at hsent
          exact leads_keepAlive (Bool.not_eq_true _ ▸ hconnected) (hlinks.trans hsent)
        next hfailed =>
          split at hok
          next pinged hpinged => exact absurd hpinged (hfailed pinged)
          next => exact (hfailed _ (Prod.ext rfl hok)).elim

theorem alike_relay (publication : Sensor.Publish) : Alike t (t.relay context publication).1 := by
  unfold relay
  split
  · split
    · exact .refl t
    · exact alike_forward _
  · exact .refl t

/-- A beat counts towards the next advertisement, which may be due. -/
theorem alike_advertise (context : Context) (elapsed : Nat) : Alike t
    (if elapsed ≥ context.config.advertisePeriod then
      (t.update fun uplink => { uplink with advertiseElapsed := 0 }).broadcast context 0
        (.advertise context.config.gatewayId (periodWord context.config.advertisePeriod))
    else t.update fun uplink => { uplink with advertiseElapsed := elapsed }) := by
  split
  · have hreset : Alike t (t.update fun uplink => { uplink with advertiseElapsed := 0 }) :=
      ⟨rfl, rfl⟩
    exact hreset.trans (alike_broadcast 0 _)
  · exact ⟨rfl, rfl⟩

/-- It counts towards the next look for devices that are gone as well. -/
theorem alike_check (context : Context) (elapsed : Nat) : Alike t
    (if elapsed ≥ context.config.checkingPeriod then
      (t.update fun uplink => { uplink with checkElapsed := 0 }).emit .checkInactivity
    else t.update fun uplink => { uplink with checkElapsed := elapsed }) := by
  split
  · have hreset : Alike t (t.update fun uplink => { uplink with checkElapsed := 0 }) := ⟨rfl, rfl⟩
    exact hreset.trans (alike_emit rfl)
  · exact ⟨rfl, rfl⟩

theorem alike_keepAlive : Alike t (t.keepAlive context).1 := by
  have hsent : Alike t (t.forward context .pingRequest).1 := alike_forward _
  simp only [keepAlive]
  split
  · split
    next hresult =>
      rw [hresult] at hsent
      exact hsent
    next pinged hresult =>
      rw [hresult] at hsent
      have hadvertised := hsent.trans (alike_advertise context
        (addSeconds pinged.uplink.advertiseElapsed context.config.keepAlivePeriod))
      exact hadvertised.trans (alike_check context _)
  · exact .refl t

end Transition

variable {uplink : Uplink} {context : Context}

theorem connect_alike : (Transition.start uplink).Alike (uplink.connect context).1 := by
  have hopened : (Transition.start uplink).Alike
      ((Transition.start uplink).openBroker context).2 := Transition.alike_openBroker
  unfold connect
  split
  next hresult =>
    rw [hresult] at hopened
    exact hopened
  next opened hresult =>
    rw [hresult] at hopened
    have hsent := hopened.trans
      (Transition.alike_sendBroker context (.connect (brokerConnect context.config)))
    split
    next hresult' =>
      rw [hresult'] at hsent
      exact hsent
    next hresult' =>
      rw [hresult'] at hsent
      exact hsent.trans Transition.alike_closeBroker

/-- A message of the broker leads along one of the moves, if the uplink does not fail over
it. -/
theorem onBroker_leads (message : Broker.Message)
    (hok : (uplink.onBroker context message).2 = .ok ()) :
    (Transition.start uplink).Leads (uplink.onBroker context message).1 := by
  cases message with
  | connack code => exact Transition.leads_connack code hok
  | _ => exact (Transition.Alike.refl _).stays

/-- A message of a device makes no difference to whether the uplink is connected. -/
theorem onSensor_alike (message : Sensor.Message) :
    (Transition.start uplink).Alike (uplink.onSensor context message).1 := by
  cases message with
  | searchGateway radius => exact Transition.alike_broadcast _ _
  | publish publication =>
    simp only [onSensor]
    split
    · exact Transition.alike_relay publication
    · exact .refl _
  | _ => exact .refl _

theorem onSignal_alike {signal : Signal} (hlost : signal ≠ .connectionLost)
    (hdown : signal ≠ .shutDown) :
    (Transition.start uplink).Alike (uplink.onSignal context signal).1 := by
  cases signal with
  | connectionLost => exact absurd rfl hlost
  | sendKeepAlive => exact Transition.alike_keepAlive
  | shutDown => exact absurd rfl hdown
  | _ => exact .refl _

/-! ### What it does on links -/

def Effect.IsOwn (config : Config) : Effect → Prop
  | event (.broker owner _) => owner = config.gatewayAddress
  | event (.device ..) => False
  | event (.broadcast ..) | event (.openLink ..) | event (.closeLink ..) => True
  | keepAlive | disarmAll | checkInactivity => True

def Effect.handed? : Effect → Option Broker.Message
  | event happened => happened.handed?
  | keepAlive | disarmAll | checkInactivity => none

/-- What the uplink may ask its broker, if it was told something by a device or not. -/
inductive Hands (context : Context) (heard : Option Sensor.Message) : Broker.Message → Prop where
  | connect : Hands context heard (.connect (brokerConnect context.config))
  | ping : Hands context heard .pingRequest
  | disconnect : Hands context heard .disconnect
  | publish {publication : Sensor.Publish} {topic : String}
      (hheard : heard = some (.publish publication))
      (htopic : Transition.topic? context.config publication.flags.topicIdType
        publication.topicId = some topic) :
      Hands context heard (.publish
        { dup := false, qos := 0, retain := false, topic, msgId := 0, data := publication.data })

namespace Transition

def Own (context : Context) (t : Transition) : Prop :=
  ∀ effect ∈ t.effects, effect.IsOwn context.config

/-- What was done so far is the affair of the gateway, and nothing else was handed to the
broker link. -/
structure Speaks (context : Context) (heard : Option Sensor.Message) (t : Transition) : Prop where
  own : t.Own context
  handed : ∀ effect ∈ t.effects, ∀ message, effect.handed? = some message →
    Hands context heard message

variable {t next : Transition} {context : Context} {heard : Option Sensor.Message}

theorem speaks_start (uplink : Uplink) : (start uplink).Speaks context heard :=
  ⟨fun _ hin => (List.not_mem_nil hin).elim, fun _ hin => (List.not_mem_nil hin).elim⟩

theorem Speaks.update (h : t.Speaks context heard) (f : Uplink → Uplink) :
    (t.update f).Speaks context heard :=
  ⟨h.own, h.handed⟩

theorem Speaks.emit (h : t.Speaks context heard) {effect : Effect}
    (hown : effect.IsOwn context.config)
    (hhanded : ∀ message, effect.handed? = some message → Hands context heard message) :
    (t.emit effect).Speaks context heard where
  own := by
    intro other hin
    rcases List.mem_append.mp hin with hold | hnew
    · exact h.own other hold
    · rw [List.mem_singleton.mp hnew]
      exact hown
  handed := by
    intro other hin
    rcases List.mem_append.mp hin with hold | hnew
    · exact h.handed other hold
    · rw [List.mem_singleton.mp hnew]
      exact hhanded

/-- What hands nothing to the broker link has to be the affair of the gateway only. -/
theorem Speaks.quiet (h : t.Speaks context heard) {effect : Effect}
    (hown : effect.IsOwn context.config) (hnone : effect.handed? = none) :
    (t.emit effect).Speaks context heard := by
  refine h.emit hown fun message hsome => ?_
  rw [hnone] at hsome
  cases hsome

/-- The gateway uses its own link only. -/
theorem Speaks.use (h : t.Speaks context heard) {use : Broker.LinkUse} (isOpen : Bool)
    (hmessage : ∀ message, use.message? = some message → Hands context heard message) :
    Speaks context heard ((t.useBroker context use).update fun uplink =>
      { uplink with brokerOpen := isOpen }) := by
  have hused : (t.useBroker context use).Speaks context heard := h.emit rfl hmessage
  exact hused.update _

theorem Speaks.openBroker (h : t.Speaks context heard) :
    (t.openBroker context).2.Speaks context heard := by
  refine h.use _ fun message hnone => ?_
  cases hnone

theorem Speaks.closeBroker (h : t.Speaks context heard) :
    (t.closeBroker context).Speaks context heard := by
  refine h.use _ fun message hnone => ?_
  cases hnone

theorem Speaks.sendBroker (h : t.Speaks context heard) {message : Broker.Message}
    (hmessage : Hands context heard message) :
    (t.sendBroker context message).2.Speaks context heard := by
  refine h.use _ fun other hsome => ?_
  cases hsome
  exact hmessage

theorem Speaks.forward (h : t.Speaks context heard) {message : Broker.Message}
    (hmessage : Hands context heard message) :
    (t.forward context message).1.Speaks context heard := by
  have hsent := h.sendBroker hmessage
  unfold Transition.forward
  split
  next hresult =>
    rw [hresult] at hsent
    exact hsent
  next hresult =>
    rw [hresult] at hsent
    exact hsent

theorem Speaks.foldl {α : Type} {step : Transition → α → Transition}
    (hstep : ∀ t item, t.Speaks context heard → (step t item).Speaks context heard)
    (items : List α) (h : t.Speaks context heard) : (items.foldl step t).Speaks context heard := by
  induction items generalizing t with
  | nil => exact h
  | cons item items ih => exact ih (hstep t item h)

theorem Speaks.broadcast (h : t.Speaks context heard) (radius : UInt8) (message : Sensor.Message) :
    (t.broadcast context radius message).Speaks context heard := by
  refine Speaks.foldl (fun t link hlink => ?_) _ h
  have hsent : (t.emitEvent (.broadcast link radius message
      (context.network.broadcast link message))).Speaks context heard := hlink.quiet trivial rfl
  exact hsent

theorem Speaks.openLinks (h : t.Speaks context heard) :
    (t.openLinks context).Speaks context heard := by
  refine Speaks.foldl (fun t settings hlink => ?_) _ h
  have hopened : (t.emitEvent (.openLink settings.name
      (context.network.openFailure settings.name))).Speaks context heard :=
    hlink.quiet trivial rfl
  simp only
  split
  · exact hopened.update _
  · exact hopened

theorem Speaks.connack (h : t.Speaks context heard) (code : UInt8) :
    (t.connack context code).1.Speaks context heard := by
  unfold Transition.connack
  split
  · exact h
  · split
    · exact h.closeBroker
    · have hlinks := (h.update fun uplink => { uplink with connected := true }).openLinks
      simp only
      split
      · exact hlinks
      · have hpinged := hlinks.forward .ping
        split
        next hresult =>
          rw [hresult] at hpinged
          exact hpinged.quiet trivial rfl
        next => exact hpinged

theorem Speaks.relay (h : t.Speaks context heard) {publication : Sensor.Publish}
    (hheard : heard = some (.publish publication)) :
    (t.relay context publication).1.Speaks context heard := by
  unfold Transition.relay
  split
  · split
    next => exact h
    next topic htopic => exact h.forward (.publish hheard htopic)
  · exact h

theorem Speaks.advertise (h : t.Speaks context heard) (elapsed : Nat) : Speaks context heard
    (if elapsed ≥ context.config.advertisePeriod then
      (t.update fun uplink => { uplink with advertiseElapsed := 0 }).broadcast context 0
        (.advertise context.config.gatewayId (periodWord context.config.advertisePeriod))
    else t.update fun uplink => { uplink with advertiseElapsed := elapsed }) := by
  split
  · exact (h.update _).broadcast 0 _
  · exact h.update _

theorem Speaks.check (h : t.Speaks context heard) (elapsed : Nat) : Speaks context heard
    (if elapsed ≥ context.config.checkingPeriod then
      (t.update fun uplink => { uplink with checkElapsed := 0 }).emit .checkInactivity
    else t.update fun uplink => { uplink with checkElapsed := elapsed }) := by
  have hasked : Effect.IsOwn context.config .checkInactivity := trivial
  split
  · exact (h.update _).quiet hasked rfl
  · exact h.update _

theorem Speaks.keepAlive (h : t.Speaks context heard) :
    (t.keepAlive context).1.Speaks context heard := by
  have hsent := h.forward .ping
  simp only [Transition.keepAlive]
  split
  · split
    next hresult =>
      rw [hresult] at hsent
      exact hsent
    next pinged hresult =>
      rw [hresult] at hsent
      exact (hsent.advertise _).check _
  · exact h

/-- Whatever was done before, closing every link is the gateway's own affair. -/
theorem Speaks.closeLinks (h : t.Speaks context heard) : Speaks context heard
    (((t.uplink.links.foldl (fun t link => t.emitEvent (.closeLink link)) t).update
      fun uplink => { uplink with connected := false, links := [] }).emit .disarmAll) := by
  have hclosed : Speaks context heard
      (t.uplink.links.foldl (fun t link => t.emitEvent (.closeLink link)) t) := by
    refine Speaks.foldl (fun t link hlink => ?_) _ h
    have hown : (t.emitEvent (.closeLink link)).Speaks context heard := hlink.quiet trivial rfl
    exact hown
  exact (hclosed.update _).quiet trivial rfl

theorem Speaks.shutDown (h : t.Speaks context heard) :
    (t.shutDown context).Speaks context heard := by
  simp only [Transition.shutDown]
  split
  · exact (h.sendBroker .disconnect).closeBroker.closeLinks
  · exact h.closeBroker.closeLinks

end Transition

theorem connect_speaks : (uplink.connect context).1.Speaks context none := by
  have hstart : (Transition.start uplink).Speaks context none := Transition.speaks_start uplink
  have hopened := hstart.openBroker
  unfold connect
  split
  next hresult =>
    rw [hresult] at hopened
    exact hopened
  next opened hresult =>
    rw [hresult] at hopened
    have hsent := hopened.sendBroker .connect
    split
    next hresult' =>
      rw [hresult'] at hsent
      exact hsent
    next hresult' =>
      rw [hresult'] at hsent
      exact hsent.closeBroker

theorem onBroker_speaks (message : Broker.Message) :
    (uplink.onBroker context message).1.Speaks context none := by
  cases message with
  | connack code => exact (Transition.speaks_start uplink).connack code
  | _ => exact Transition.speaks_start uplink

theorem onSensor_speaks (message : Sensor.Message) :
    (uplink.onSensor context message).1.Speaks context (some message) := by
  cases message with
  | searchGateway radius => exact (Transition.speaks_start uplink).broadcast radius _
  | publish publication =>
    simp only [onSensor]
    split
    · exact (Transition.speaks_start uplink).relay rfl
    · exact Transition.speaks_start uplink
  | _ => exact Transition.speaks_start uplink

theorem onSignal_speaks (signal : Signal) :
    (uplink.onSignal context signal).1.Speaks context none := by
  cases signal with
  | connectionLost =>
    exact (Transition.speaks_start uplink).update fun uplink => { uplink with connected := false }
  | sendKeepAlive => exact (Transition.speaks_start uplink).keepAlive
  | shutDown => exact (Transition.speaks_start uplink).shutDown
  | _ => exact Transition.speaks_start uplink

theorem connect_own : (uplink.connect context).1.Own context := connect_speaks.own

theorem onBroker_own (message : Broker.Message) :
    (uplink.onBroker context message).1.Own context := (onBroker_speaks message).own

theorem onSensor_own (message : Sensor.Message) :
    (uplink.onSensor context message).1.Own context := (onSensor_speaks message).own

theorem onSignal_own (signal : Signal) : (uplink.onSignal context signal).1.Own context :=
  (onSignal_speaks signal).own

end Uplink

end SensorGateway
