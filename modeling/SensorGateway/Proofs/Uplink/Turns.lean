import SensorGateway.Proofs.Uplink

/-!
The uplink turn by turn. A turn is a beat if it is the signal to keep the connection alive
and the ping is taken; what a beat does is told exactly by `take_of_beats`. All other turns
are `Steady`: the seconds counted so far stay as they are, nothing is advertised and no one
is looked for, and as long as the link to the broker is open, every device link that was
open stays open.
-/

namespace SensorGateway

def Event.advertised? : Event → Option LinkName
  | .broadcast link _ (.advertise ..) _ => some link
  | _ => none

/-- Whether something that happened is a ping of the gateway that its broker link has taken. -/
def Event.isPing (config : Config) : Event → Bool
  | .broker owner (.sending _ .pingRequest (.ok _) _) => owner.same config.gatewayAddress
  | _ => false

namespace Broker.Line

variable {line : Line} {isOpen : Bool} {message : Message}

/-- Handing a message over opens no link. -/
theorem open_of_send (h : (line.send isOpen message).2 = true) : isOpen = true := by
  unfold send at h
  split at h
  · exact h
  · cases isOpen with
    | true => rfl
    | false => cases h

/-- Only an open link takes a message. -/
theorem open_of_taken {frame : Bytes} (h : (line.send isOpen message).1 = .ok frame) :
    isOpen = true := by
  unfold send at h
  split at h
  · cases h
  · cases isOpen with
    | true => rfl
    | false => cases h

end Broker.Line

namespace Uplink

inductive Input where
  | broker (message : Broker.Message)
  | sensor (message : Sensor.Message)
  | signal (signal : Signal)
deriving DecidableEq

structure Turn where
  network : Network
  input : Input

def Turn.context (config : Config) (turn : Turn) : Context := ⟨config, turn.network⟩

def take (config : Config) (turn : Turn) (uplink : Uplink) : Outcome :=
  match turn.input with
  | .broker message => uplink.onBroker (turn.context config) message
  | .sensor message => uplink.onSensor (turn.context config) message
  | .signal signal => uplink.onSignal (turn.context config) signal

theorem take_own (config : Config) (turn : Turn) (uplink : Uplink) :
    (uplink.take config turn).1.Own (turn.context config) := by
  unfold take
  split
  · exact onBroker_own _
  · exact onSensor_own _
  · exact onSignal_own _

/-! ### What the parts of a step come to -/

namespace Transition

variable {t : Transition} {context : Context}

theorem forward_fst (message : Broker.Message) :
    (t.forward context message).1 = (t.sendBroker context message).2 := by
  unfold forward
  split <;> simp_all

theorem forward_of_taken {message : Broker.Message} {frame : Bytes}
    (h : (context.line.send t.uplink.brokerOpen message).1 = .ok frame) :
    t.forward context message = ((t.sendBroker context message).2, .ok ()) := by
  have hsent : (t.sendBroker context message).1 = .ok frame := h
  unfold forward
  split <;> simp_all

/-- The uplink fails over a message that its link does not take. -/
theorem forward_of_lost {message : Broker.Message} {error : LinkError}
    (h : (context.line.send t.uplink.brokerOpen message).1 = .error error) :
    t.forward context message =
      ((t.sendBroker context message).2, .error .brokerConnectionLost) := by
  have hsent : (t.sendBroker context message).1 = .error error := h
  unfold forward
  split <;> simp_all

theorem foldl_emitEvent {α : Type} (f : α → Event) (items : List α) (t : Transition) :
    items.foldl (fun t item => t.emitEvent (f item)) t =
      ⟨t.uplink, t.effects ++ items.map fun item => .event (f item)⟩ := by
  induction items generalizing t with
  | nil => rw [List.map_nil, List.append_nil]; rfl
  | cons item items ih =>
    rw [List.foldl_cons, ih, List.map_cons, List.append_cons]
    rfl

theorem broadcast_eq (radius : UInt8) (message : Sensor.Message) :
    t.broadcast context radius message =
      ⟨t.uplink, t.effects ++ t.uplink.links.map fun link =>
        .event (.broadcast link radius message (context.network.broadcast link message))⟩ :=
  foldl_emitEvent (fun link =>
    .broadcast link radius message (context.network.broadcast link message)) _ t

end Transition

/-! ### Beats -/

abbrev IsDue (threshold period elapsed : Nat) : Prop :=
  addSeconds elapsed period ≥ threshold

/-- A count of seconds after one more period. At the threshold it begins anew. -/
def count (threshold period elapsed : Nat) : Nat :=
  if IsDue threshold period elapsed then 0 else addSeconds elapsed period

/-- Whether a turn is a beat: the uplink pings, and the ping is taken. -/
def Turn.beats (config : Config) (turn : Turn) (uplink : Uplink) : Bool :=
  turn.input = .signal .sendKeepAlive && uplink.connected &&
    ((turn.context config).line.send uplink.brokerOpen .pingRequest).1.isOk

def advertisement (config : Config) : Sensor.Message :=
  .advertise config.gatewayId (periodWord config.advertisePeriod)

/-- What a beat tells all devices: the gateway is advertised on every device link that is
open, if it is time to. -/
def advertisements (context : Context) (uplink : Uplink) : List Event :=
  let config := context.config
  if IsDue config.advertisePeriod config.keepAlivePeriod uplink.advertiseElapsed then
    uplink.links.map fun link =>
      .broadcast link 0 (advertisement config)
        (context.network.broadcast link (advertisement config))
  else []

theorem filterMap_advertised?_advertisements (context : Context) (uplink : Uplink) :
    (uplink.advertisements context).filterMap (·.advertised?) =
      if IsDue context.config.advertisePeriod context.config.keepAlivePeriod
          uplink.advertiseElapsed then uplink.links
      else [] := by
  simp only [advertisements]
  split
  · rw [List.filterMap_map]
    exact List.filterMap_some
  · rfl

theorem isPing_of_mem_advertisements {context : Context} {uplink : Uplink} {event : Event}
    (hin : event ∈ uplink.advertisements context) (config : Config) :
    event.isPing config = false := by
  simp only [advertisements] at hin
  split at hin
  · obtain ⟨link, -, rfl⟩ := List.mem_map.mp hin
    rfl
  · cases hin

/-- The look for silent devices that a beat causes, if it is time to. -/
def looks (config : Config) (uplink : Uplink) : List Effect :=
  if IsDue config.checkingPeriod config.keepAlivePeriod uplink.checkElapsed then
    [.checkInactivity]
  else []

/-- Where the uplink is after a beat. -/
def beaten (context : Context) (uplink : Uplink) : Uplink :=
  let config := context.config
  { uplink with
    brokerOpen := (context.line.send uplink.brokerOpen .pingRequest).2
    advertiseElapsed :=
      count config.advertisePeriod config.keepAlivePeriod uplink.advertiseElapsed
    checkElapsed := count config.checkingPeriod config.keepAlivePeriod uplink.checkElapsed }

namespace Transition

variable {t : Transition} {context : Context}

/-- The gateway is advertised once its period is over. -/
theorem advertise_eq (elapsed : Nat) :
    (if elapsed ≥ context.config.advertisePeriod then
      (t.update fun uplink => { uplink with advertiseElapsed := 0 }).broadcast context 0
        (.advertise context.config.gatewayId (periodWord context.config.advertisePeriod))
    else t.update fun uplink => { uplink with advertiseElapsed := elapsed }) =
      ⟨{ t.uplink with
          advertiseElapsed := if elapsed ≥ context.config.advertisePeriod then 0 else elapsed },
        t.effects ++ (if elapsed ≥ context.config.advertisePeriod then
          t.uplink.links.map fun link => Event.broadcast link 0 (advertisement context.config)
            (context.network.broadcast link (advertisement context.config))
          else []).map .event⟩ := by
  split
  · rw [broadcast_eq, List.map_map]
    rfl
  · rw [List.map_nil, List.append_nil]
    rfl

theorem check_eq (elapsed : Nat) :
    (if elapsed ≥ context.config.checkingPeriod then
      (t.update fun uplink => { uplink with checkElapsed := 0 }).emit .checkInactivity
    else t.update fun uplink => { uplink with checkElapsed := elapsed }) =
      ⟨{ t.uplink with
          checkElapsed := if elapsed ≥ context.config.checkingPeriod then 0 else elapsed },
        t.effects ++
          if elapsed ≥ context.config.checkingPeriod then [.checkInactivity] else []⟩ := by
  split
  · rfl
  · rw [List.append_nil]
    rfl

end Transition

/-- In a beat the gateway pings, and advertises itself and looks for silent devices where that
is due. -/
theorem take_of_beats {config : Config} {turn : Turn} {uplink : Uplink}
    (h : turn.beats config uplink = true) :
    ∃ frame, uplink.take config turn =
      (⟨uplink.beaten (turn.context config),
        .event (.broker config.gatewayAddress (.sending uplink.brokerOpen .pingRequest (.ok frame)
          ((turn.context config).line.send uplink.brokerOpen .pingRequest).2)) ::
            (uplink.advertisements (turn.context config)).map .event ++ uplink.looks config⟩,
        .ok ()) := by
  obtain ⟨network, input⟩ := turn
  simp only [Turn.beats, Bool.and_eq_true, decide_eq_true_eq] at h
  obtain ⟨⟨rfl, hconnected⟩, htaken⟩ := h
  let context : Context := ⟨config, network⟩
  change (context.line.send uplink.brokerOpen .pingRequest).1.isOk = true at htaken
  cases hsend : (context.line.send uplink.brokerOpen .pingRequest).1 with
  | error error =>
    rw [hsend] at htaken
    cases htaken
  | ok frame =>
    refine ⟨frame, ?_⟩
    change (Transition.start uplink).keepAlive context = _
    have hstart : (Transition.start uplink).uplink.connected = true := hconnected
    unfold Transition.keepAlive
    simp only [hstart, if_true]
    rw [Transition.forward_of_taken hsend]
    simp only
    rw [Transition.advertise_eq, Transition.check_eq]
    have hsent : ((Transition.start uplink).sendBroker context .pingRequest).2 =
        ⟨{ uplink with brokerOpen := (context.line.send uplink.brokerOpen .pingRequest).2 },
          [.event (.broker config.gatewayAddress (.sending uplink.brokerOpen .pingRequest
            (.ok frame) (context.line.send uplink.brokerOpen .pingRequest).2))]⟩ := by
      rw [← hsend]
      rfl
    rw [hsent]
    rfl

/-! ### All other turns -/

/-- Whether an effect neither advertises the gateway nor has anyone looked for, and is no
ping that was taken, unless it may be. -/
def Effect.isSteady (config : Config) (mayPing : Bool) : Effect → Bool
  | .event happened => happened.advertised?.isNone && (mayPing || !happened.isPing config)
  | .checkInactivity => false
  | .keepAlive | .disarmAll => true

namespace Transition

/-- What every transition has in common that began with an uplink and is no beat. -/
structure Steady (context : Context) (mayPing : Bool) (origin : Uplink) (t : Transition) :
    Prop where
  advertiseElapsed : t.uplink.advertiseElapsed = origin.advertiseElapsed
  checkElapsed : t.uplink.checkElapsed = origin.checkElapsed
  brokerOpen : t.uplink.brokerOpen = true → origin.brokerOpen = true
  links : t.uplink.brokerOpen = true → origin.links <+: t.uplink.links
  effects : ∀ effect ∈ t.effects, effect.isSteady context.config mayPing = true

variable {t : Transition} {context : Context} {mayPing : Bool} {origin : Uplink}

theorem steady_start (uplink : Uplink) : Steady context mayPing uplink (.start uplink) :=
  ⟨rfl, rfl, id, fun _ => List.prefix_rfl, fun _ hin => (List.not_mem_nil hin).elim⟩

theorem Steady.emit (h : t.Steady context mayPing origin) {effect : Effect}
    (heffect : effect.isSteady context.config mayPing = true) :
    (t.emit effect).Steady context mayPing origin := by
  refine ⟨h.advertiseElapsed, h.checkElapsed, h.brokerOpen, h.links, ?_⟩
  intro other hin
  rcases List.mem_append.mp hin with hold | hnew
  · exact h.effects other hold
  · rw [List.mem_singleton.mp hnew]
    exact heffect

theorem Steady.update (h : t.Steady context mayPing origin) {f : Uplink → Uplink}
    (hadvertise : (f t.uplink).advertiseElapsed = t.uplink.advertiseElapsed)
    (hcheck : (f t.uplink).checkElapsed = t.uplink.checkElapsed)
    (hopen : (f t.uplink).brokerOpen = true → t.uplink.brokerOpen = true)
    (hlinks : (f t.uplink).brokerOpen = true → t.uplink.links <+: (f t.uplink).links) :
    (t.update f).Steady context mayPing origin :=
  ⟨hadvertise.trans h.advertiseElapsed, hcheck.trans h.checkElapsed,
    fun hstill => h.brokerOpen (hopen hstill),
    fun hstill => (h.links (hopen hstill)).trans (hlinks hstill), h.effects⟩

/-- What is handed to the broker link is no ping that is taken, unless it may be. -/
theorem Steady.sendBroker (h : t.Steady context mayPing origin) (message : Broker.Message)
    (hping : mayPing = true ∨ message ≠ .pingRequest ∨
      ∃ error, (context.line.send t.uplink.brokerOpen message).1 = .error error) :
    (t.sendBroker context message).2.Steady context mayPing origin := by
  have hsteady : (Effect.event (.broker context.config.gatewayAddress
      (.sending t.uplink.brokerOpen message (context.line.send t.uplink.brokerOpen message).1
        (context.line.send t.uplink.brokerOpen message).2))).isSteady context.config mayPing =
          true := by
    rcases hping with hmay | hother | ⟨error, hlost⟩
    · rw [hmay]
      rfl
    · cases message with
      | pingRequest => exact absurd rfl hother
      | _ => exact Bool.or_true mayPing
    · rw [hlost]
      cases message <;> exact Bool.or_true mayPing
  have hopen : (context.line.send t.uplink.brokerOpen message).2 = true →
      t.uplink.brokerOpen = true := Broker.Line.open_of_send
  let f (uplink : Uplink) : Uplink :=
    { uplink with brokerOpen := (context.line.send t.uplink.brokerOpen message).2 }
  exact (h.emit hsteady).update (f := f) rfl rfl hopen fun _ => List.prefix_rfl

theorem Steady.forward (h : t.Steady context mayPing origin) (message : Broker.Message)
    (hping : mayPing = true ∨ message ≠ .pingRequest ∨
      ∃ error, (context.line.send t.uplink.brokerOpen message).1 = .error error) :
    (t.forward context message).1.Steady context mayPing origin := by
  rw [forward_fst]
  exact h.sendBroker message hping

theorem Steady.closeBroker (h : t.Steady context mayPing origin) :
    (t.closeBroker context).Steady context mayPing origin := by
  have hsteady : (Effect.event (.broker context.config.gatewayAddress
      (.closing t.uplink.brokerOpen))).isSteady context.config mayPing = true :=
    Bool.or_true mayPing
  exact (h.emit hsteady).update rfl rfl nofun nofun

theorem Steady.foldl {α : Type} {step : Transition → α → Transition}
    (hstep : ∀ t item, t.Steady context mayPing origin →
      (step t item).Steady context mayPing origin)
    (items : List α) (h : t.Steady context mayPing origin) :
    (items.foldl step t).Steady context mayPing origin := by
  induction items generalizing t with
  | nil => exact h
  | cons item items ih => exact ih (hstep t item h)

theorem Steady.openLinks (h : t.Steady context mayPing origin) :
    (t.openLinks context).Steady context mayPing origin := by
  refine Steady.foldl (fun t settings hlink => ?_) _ h
  have hopened : (t.emitEvent (.openLink settings.name
      (context.network.openFailure settings.name))).Steady context mayPing origin :=
    hlink.emit (Bool.or_true mayPing)
  simp only
  split
  · exact hopened.update rfl rfl id fun _ => List.prefix_append _ _
  · exact hopened

/-- The answer to a search. -/
theorem Steady.broadcast_gatewayInfo (h : t.Steady context mayPing origin) (radius gateway : UInt8)
    (address : Bytes) :
    (t.broadcast context radius (.gatewayInfo gateway address)).Steady context mayPing origin := by
  refine Steady.foldl (fun _ _ hlink => hlink.emit ?_) _ h
  exact Bool.or_true mayPing

/-- The ping with which a connection begins may be taken. -/
theorem Steady.connack (h : t.Steady context true origin) (code : UInt8) :
    (t.connack context code).1.Steady context true origin := by
  unfold Transition.connack
  split
  · exact h
  · split
    · exact h.closeBroker
    · have hopened : ((t.update fun uplink =>
          { uplink with connected := true }).openLinks context).Steady context true origin :=
        (h.update rfl rfl id fun _ => List.prefix_rfl).openLinks
      simp only
      split
      · exact hopened
      · have hpinged := hopened.forward .pingRequest (.inl rfl)
        split
        next hresult =>
          rw [hresult] at hpinged
          exact hpinged.emit rfl
        next => exact hpinged

theorem Steady.relay (h : t.Steady context mayPing origin) (publication : Sensor.Publish) :
    (t.relay context publication).1.Steady context mayPing origin := by
  unfold Transition.relay
  split
  · split
    · exact h
    · exact h.forward _ (.inr (.inl nofun))
  · exact h

/-- The link to the broker is closed before those to the devices. -/
theorem Steady.shutDown (h : t.Steady context mayPing origin) :
    (t.shutDown context).Steady context mayPing origin := by
  have hclosed {told : Transition} (htold : told.Steady context mayPing origin) :
      (((((told.closeBroker context).uplink.links.foldl
        (fun t link => t.emitEvent (.closeLink link)) (told.closeBroker context)).update
          fun uplink => { uplink with connected := false, links := [] }).emit
            .disarmAll).Steady context mayPing origin) := by
    have hlinks : ((told.closeBroker context).uplink.links.foldl
        (fun t link => t.emitEvent (.closeLink link)) (told.closeBroker context)).Steady context
          mayPing origin := by
      refine Steady.foldl (fun _ _ hlink => hlink.emit ?_) _ htold.closeBroker
      exact Bool.or_true mayPing
    rw [foldl_emitEvent] at hlinks ⊢
    refine Steady.emit (hlinks.update rfl rfl ?_ ?_) rfl
    · exact fun hopen => (Bool.false_ne_true hopen).elim
    · exact fun hopen => (Bool.false_ne_true hopen).elim
  simp only [Transition.shutDown]
  have hother : Broker.Message.disconnect ≠ .pingRequest := by simp
  split
  · exact hclosed (h.sendBroker .disconnect (.inr (.inl hother)))
  · exact hclosed h

theorem keepAlive_of_lost (hconnected : t.uplink.connected = true)
    (hlost : (context.line.send t.uplink.brokerOpen .pingRequest).1.isOk = false) :
    ∃ error, (context.line.send t.uplink.brokerOpen .pingRequest).1 = .error error ∧
      t.keepAlive context =
        ((t.sendBroker context .pingRequest).2, .error .brokerConnectionLost) := by
  cases hsend : (context.line.send t.uplink.brokerOpen .pingRequest).1 with
  | ok frame =>
    rw [hsend] at hlost
    cases hlost
  | error error =>
    refine ⟨error, rfl, ?_⟩
    simp only [Transition.keepAlive, hconnected, if_true]
    rw [forward_of_lost hsend]

/-- Without a ping that is taken there is no beat. -/
theorem Steady.keepAlive (h : t.Steady context mayPing origin)
    (hlost : t.uplink.connected = true →
      (context.line.send t.uplink.brokerOpen .pingRequest).1.isOk = false) :
    (t.keepAlive context).1.Steady context mayPing origin := by
  cases hconnected : t.uplink.connected with
  | false => simpa [Transition.keepAlive, hconnected] using h
  | true =>
    obtain ⟨error, hsend, hkept⟩ := keepAlive_of_lost hconnected (hlost hconnected)
    rw [hkept]
    exact h.sendBroker .pingRequest (.inr (.inr ⟨error, hsend⟩))

end Transition

/-- Whether a turn may bring up the connection, which begins with a ping. -/
def Turn.mayPing (turn : Turn) : Bool :=
  match turn.input with
  | .broker (.connack _) => true
  | _ => false

theorem Turn.beats_of_mayPing {config : Config} {turn : Turn} {uplink : Uplink}
    (h : turn.mayPing = true) : turn.beats config uplink = false := by
  have hinput : turn.input ≠ .signal .sendKeepAlive := by
    rintro hsignal
    simp [mayPing, hsignal] at h
  simp [beats, hinput]

/-- A connected uplink beats with every signal whose ping is taken. -/
theorem beats_sendKeepAlive {config : Config} {network : Network} {uplink : Uplink}
    (hconnected : uplink.connected = true) :
    Turn.beats config ⟨network, .signal .sendKeepAlive⟩ uplink =
      ((Turn.context config ⟨network, .signal .sendKeepAlive⟩).line.send uplink.brokerOpen
        .pingRequest).1.isOk := by
  simp only [Turn.beats, decide_true, Bool.true_and, hconnected]

/-- Any other turn moves no clock. -/
theorem take_steady {config : Config} {turn : Turn} {uplink : Uplink}
    (h : turn.beats config uplink = false) :
    (uplink.take config turn).1.Steady (turn.context config) turn.mayPing uplink := by
  have hstart {mayPing : Bool} :
      (Transition.start uplink).Steady (turn.context config) mayPing uplink :=
    Transition.steady_start uplink
  obtain ⟨network, input⟩ := turn
  cases input with
  | broker message =>
    cases message with
    | connack code => exact hstart.connack code
    | _ => exact hstart
  | sensor message =>
    cases message with
    | searchGateway radius => exact hstart.broadcast_gatewayInfo radius _ _
    | publish publication =>
      simp only [take, onSensor]
      split
      · exact hstart.relay publication
      · exact hstart
    | _ => exact hstart
  | signal signal =>
    cases signal with
    | connectionLost =>
      let f (uplink : Uplink) : Uplink := { uplink with connected := false }
      exact hstart.update (f := f) rfl rfl id fun _ => List.prefix_rfl
    | sendKeepAlive =>
      refine hstart.keepAlive fun hconnected => ?_
      exact (beats_sendKeepAlive hconnected).symm.trans h
    | shutDown => exact hstart.shutDown
    | _ => exact hstart

/-- No device link is opened or closed while the connection to the broker lasts. -/
theorem take_links {config : Config} {turn : Turn} {uplink : Uplink}
    (hlost : turn.input ≠ .signal .connectionLost) (hconnected : uplink.connected = true)
    (hopen : (uplink.take config turn).1.uplink.brokerOpen = true) :
    (uplink.take config turn).1.uplink.connected = true ∧
      (uplink.take config turn).1.uplink.links = uplink.links := by
  have hstart : (Transition.start uplink).uplink.connected = true := hconnected
  obtain ⟨network, input⟩ := turn
  cases input with
  | broker message =>
    cases message with
    | connack code =>
      have hagain : uplink.take config ⟨network, .broker (.connack code)⟩ =
          (.start uplink, .ok ()) := if_pos hstart
      rw [hagain]
      exact ⟨hconnected, rfl⟩
    | _ => exact ⟨hconnected, rfl⟩
  | sensor message =>
    cases message with
    | searchGateway radius =>
      simp only [take, onSensor, Transition.broadcast_eq]
      exact ⟨hconnected, rfl⟩
    | publish publication =>
      simp only [take, onSensor, Transition.relay, hstart, if_true]
      split
      · split
        · exact ⟨hconnected, rfl⟩
        · rw [Transition.forward_fst]
          exact ⟨hconnected, rfl⟩
      · exact ⟨hconnected, rfl⟩
    | _ => exact ⟨hconnected, rfl⟩
  | signal signal =>
    cases signal with
    | connectionLost => exact absurd rfl hlost
    | sendKeepAlive =>
      cases hbeats : Turn.beats config ⟨network, .signal .sendKeepAlive⟩ uplink with
      | true =>
        obtain ⟨frame, htaken⟩ := take_of_beats hbeats
        rw [htaken]
        exact ⟨hconnected, rfl⟩
      | false =>
        have hlost := (beats_sendKeepAlive hconnected).symm.trans hbeats
        obtain ⟨error, -, hkept⟩ := Transition.keepAlive_of_lost hstart hlost
        simp only [take, onSignal, hkept]
        exact ⟨hconnected, rfl⟩
    | shutDown =>
      simp only [take, onSignal, Transition.shutDown, Transition.foldl_emitEvent] at hopen
      exact (Bool.false_ne_true hopen).elim
    | _ => exact ⟨hconnected, rfl⟩

end Uplink

end SensorGateway
