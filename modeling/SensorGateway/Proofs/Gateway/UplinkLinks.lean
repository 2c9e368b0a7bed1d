import SensorGateway.Proofs.Gateway.OpenLinks
import SensorGateway.Proofs.Uplink.Turns

/-!
The links of the gateway itself: its own link to the broker and the links to the
devices. Which of them are open is seen in two places, in the uplink and in what has
happened on the links, and the two agree. Sessions have no part in it, as they
use the links of their devices only.
-/

namespace SensorGateway

/-! ### What has happened -/

def Event.useAt? (address : Address) : Event → Option Broker.LinkUse
  | .broker owner use => if owner.same address then some use else none
  | .device .. | .broadcast .. | .openLink .. | .closeLink .. => none

def Event.onLinks (links : List LinkName) : Event → List LinkName
  | .openLink link failure => if failure.isNone then links ++ [link] else links
  | .closeLink link => links.erase link
  | .broker .. | .device .. | .broadcast .. => links

/-- The device links that are open after all that has happened. At first there are
none. -/
def Progress.openLinks (progress : Progress) : List LinkName :=
  progress.events.foldl Event.onLinks []

/-- The uses of a link can be read off all that has happened. -/
theorem Progress.linkUses_eq (address : Address) (progress : Progress) :
    progress.linkUses address = progress.events.filterMap (·.useAt? address) := by
  unfold linkUses dealings
  rw [List.filterMap_filterMap]
  apply List.filterMap_congr
  intro event _
  cases event with
  | broker owner use => cases h : owner.same address <;> simp [Event.effectAt?, Event.useAt?, h,
      Session.Effect.use?]
  | device link target message result =>
    cases h : target.same address <;> simp [Event.effectAt?, Event.useAt?, h, Session.Effect.use?]
  | _ => rfl

/-- Closing the links one after the other leaves none open. -/
theorem foldl_onLinks_closeLink (links : List LinkName) :
    (links.map Event.closeLink).foldl Event.onLinks links = [] := by
  induction links with
  | nil => rfl
  | cons link links ih =>
    rw [List.map_cons, List.foldl_cons]
    simp only [Event.onLinks, List.erase_cons_head]
    exact ih

/-! ### Steps of the uplink -/

namespace Uplink

namespace Transition

def events (t : Transition) : List Event := t.effects.filterMap (·.event?)

/-- What a transition that began with an uplink shows of its links. -/
structure Accounted (origin : Uplink) (context : Context) (t : Transition) : Prop where
  brokerOpen : t.uplink.brokerOpen = Broker.openAfter origin.brokerOpen
    (t.events.filterMap (·.useAt? context.config.gatewayAddress))
  links : t.uplink.links = t.events.foldl Event.onLinks origin.links

variable {origin : Uplink} {context : Context} {t : Transition}

theorem events_emit (t : Transition) (effect : Effect) :
    (t.emit effect).events = t.events ++ effect.event?.toList := by
  unfold events emit
  rw [List.filterMap_append]
  cases h : effect.event? <;> simp [h]

theorem accounted_start (uplink : Uplink) : Accounted uplink context (.start uplink) := ⟨rfl, rfl⟩

theorem Accounted.update (h : t.Accounted origin context) {f : Uplink → Uplink}
    (hopen : (f t.uplink).brokerOpen = t.uplink.brokerOpen)
    (hlinks : (f t.uplink).links = t.uplink.links) : (t.update f).Accounted origin context :=
  ⟨hopen.trans h.brokerOpen, hlinks.trans h.links⟩

/-- What happens on a link is accounted for once the uplink knows of it. -/
theorem Accounted.happen (h : t.Accounted origin context) {event : Event} {f : Uplink → Uplink}
    (hopen : (f t.uplink).brokerOpen = Broker.openAfter t.uplink.brokerOpen
      (event.useAt? context.config.gatewayAddress).toList)
    (hlinks : (f t.uplink).links = event.onLinks t.uplink.links) :
    ((t.emitEvent event).update f).Accounted origin context := by
  have hevents : ((t.emitEvent event).update f).events = t.events ++ [event] :=
    events_emit t (.event event)
  have hlast : [event].filterMap (·.useAt? context.config.gatewayAddress) =
      (event.useAt? context.config.gatewayAddress).toList := by
    cases huse : event.useAt? context.config.gatewayAddress <;> simp [huse]
  constructor
  · rw [hevents, List.filterMap_append, Broker.openAfter_append, hlast, ← h.brokerOpen]
    exact hopen
  · rw [hevents, List.foldl_append, ← h.links]
    exact hlinks

theorem Accounted.emit (h : t.Accounted origin context) {effect : Effect}
    (hinner : effect.event? = none) : (t.emit effect).Accounted origin context := by
  have hevents : (t.emit effect).events = t.events := by
    rw [events_emit, hinner]
    exact List.append_nil _
  constructor
  · rw [hevents]
    exact h.brokerOpen
  · rw [hevents]
    exact h.links

theorem Accounted.use (h : t.Accounted origin context) (use : Broker.LinkUse) :
    ((t.useBroker context use).update fun uplink =>
      { uplink with brokerOpen := use.leavesOpen }).Accounted origin context := by
  refine h.happen ?_ rfl
  simp [Event.useAt?, Broker.openAfter]

theorem Accounted.openBroker (h : t.Accounted origin context) :
    (t.openBroker context).2.Accounted origin context :=
  h.use (.opening t.uplink.brokerOpen _)

theorem Accounted.sendBroker (h : t.Accounted origin context) (message : Broker.Message) :
    (t.sendBroker context message).2.Accounted origin context :=
  h.use (.sending t.uplink.brokerOpen message _ _)

theorem Accounted.closeBroker (h : t.Accounted origin context) :
    (t.closeBroker context).Accounted origin context :=
  h.use (.closing t.uplink.brokerOpen)

theorem Accounted.forward (h : t.Accounted origin context) (message : Broker.Message) :
    (t.forward context message).1.Accounted origin context := by
  have hsent := h.sendBroker message
  unfold Transition.forward
  split
  next hresult =>
    rw [hresult] at hsent
    exact hsent
  next hresult =>
    rw [hresult] at hsent
    exact hsent

/-- It holds over any number of steps if it holds over one. -/
theorem Accounted.foldl {α : Type} {step : Transition → α → Transition}
    (hstep : ∀ t item, t.Accounted origin context → (step t item).Accounted origin context)
    (items : List α) (h : t.Accounted origin context) :
    (items.foldl step t).Accounted origin context := by
  induction items generalizing t with
  | nil => exact h
  | cons item items ih => exact ih (hstep t item h)

theorem Accounted.broadcast (h : t.Accounted origin context) (radius : UInt8)
    (message : Sensor.Message) : (t.broadcast context radius message).Accounted origin context :=
  Accounted.foldl (fun _ _ hlink => hlink.happen (f := id) rfl rfl) _ h

theorem Accounted.openLinks (h : t.Accounted origin context) :
    (t.openLinks context).Accounted origin context := by
  refine Accounted.foldl (fun t settings hlink => ?_) _ h
  simp only
  split
  next hopened =>
    refine hlink.happen rfl ?_
    simp only [Event.onLinks, hopened, if_true]
  next hfailed =>
    have hsame : t.uplink.links = Event.onLinks t.uplink.links
        (.openLink settings.name (context.network.openFailure settings.name)) := by
      simp only [Event.onLinks, hfailed]
      rfl
    exact hlink.happen (f := id) rfl hsame

theorem Accounted.connack (h : t.Accounted origin context) (code : UInt8) :
    (t.connack context code).1.Accounted origin context := by
  unfold Transition.connack
  split
  · exact h
  · split
    · exact h.closeBroker
    · have hconnected : (t.update fun uplink =>
          { uplink with connected := true }).Accounted origin context := h.update rfl rfl
      have hlinks := hconnected.openLinks
      simp only
      split
      · exact hlinks
      · have hpinged := hlinks.forward .pingRequest
        split
        next hresult =>
          rw [hresult] at hpinged
          exact hpinged.emit rfl
        next => exact hpinged

theorem Accounted.relay (h : t.Accounted origin context) (publication : Sensor.Publish) :
    (t.relay context publication).1.Accounted origin context := by
  unfold Transition.relay
  split
  · split
    · exact h
    · exact h.forward _
  · exact h

theorem Accounted.advertise (h : t.Accounted origin context) (elapsed : Nat) :
    Accounted origin context
      (if elapsed ≥ context.config.advertisePeriod then
        (t.update fun uplink => { uplink with advertiseElapsed := 0 }).broadcast context 0
          (.advertise context.config.gatewayId (periodWord context.config.advertisePeriod))
      else t.update fun uplink => { uplink with advertiseElapsed := elapsed }) := by
  split
  · exact (h.update rfl rfl).broadcast 0 _
  · exact h.update rfl rfl

theorem Accounted.check (h : t.Accounted origin context) (elapsed : Nat) :
    Accounted origin context
      (if elapsed ≥ context.config.checkingPeriod then
        (t.update fun uplink => { uplink with checkElapsed := 0 }).emit .checkInactivity
      else t.update fun uplink => { uplink with checkElapsed := elapsed }) := by
  split
  · exact (h.update rfl rfl).emit rfl
  · exact h.update rfl rfl

theorem Accounted.keepAlive (h : t.Accounted origin context) :
    (t.keepAlive context).1.Accounted origin context := by
  have hsent := h.forward .pingRequest
  simp only [Transition.keepAlive]
  split
  · split
    next hresult =>
      rw [hresult] at hsent
      exact hsent
    next pinged hresult =>
      rw [hresult] at hsent
      exact (hsent.advertise _).check _
  · exact h

/-- Whatever was done before, no device link is open once all of them are closed. -/
theorem Accounted.closeLinks (h : t.Accounted origin context) :
    (((t.uplink.links.foldl (fun t link => t.emitEvent (.closeLink link)) t).update
      fun uplink => { uplink with connected := false, links := [] }).emit
        .disarmAll).Accounted origin context := by
  let closed : Transition := ⟨{ t.uplink with connected := false, links := [] },
    t.effects ++ t.uplink.links.map fun link => .event (.closeLink link)⟩
  have hevents : closed.events = t.events ++ t.uplink.links.map .closeLink := by
    change (t.effects ++ _).filterMap _ = _
    rw [List.filterMap_append, List.filterMap_map]
    exact congrArg (t.events ++ ·) (congrFun (List.filterMap_eq_map (f := Event.closeLink)) _)
  have hapart : (t.uplink.links.map Event.closeLink).filterMap
      (·.useAt? context.config.gatewayAddress) = [] := by
    rw [List.filterMap_map, List.filterMap_eq_nil_iff]
    exact fun _ _ => rfl
  have hclosed : closed.Accounted origin context := by
    constructor
    · rw [hevents, List.filterMap_append, hapart, List.append_nil]
      exact h.brokerOpen
    · rw [hevents, List.foldl_append, ← h.links, foldl_onLinks_closeLink]
  rw [foldl_emitEvent]
  exact hclosed.emit rfl

theorem Accounted.shutDown (h : t.Accounted origin context) :
    (t.shutDown context).Accounted origin context := by
  simp only [Transition.shutDown]
  split
  · exact (h.sendBroker .disconnect).closeBroker.closeLinks
  · exact h.closeBroker.closeLinks

end Transition

variable {context : Context} {uplink : Uplink}

/-- Asking the broker to connect the gateway shows on the links. -/
theorem connect_accounted : (uplink.connect context).1.Accounted uplink context := by
  have hopened : ((Transition.start uplink).openBroker context).2.Accounted uplink context :=
    (Transition.accounted_start uplink).openBroker
  unfold connect
  split
  next hresult =>
    rw [hresult] at hopened
    exact hopened
  next opened hresult =>
    rw [hresult] at hopened
    have hsent := hopened.sendBroker (.connect (brokerConnect context.config))
    split
    next hresult' =>
      rw [hresult'] at hsent
      exact hsent
    next hresult' =>
      rw [hresult'] at hsent
      exact hsent.closeBroker

theorem onBroker_accounted (message : Broker.Message) :
    (uplink.onBroker context message).1.Accounted uplink context := by
  have hstart : (Transition.start uplink).Accounted uplink context :=
    Transition.accounted_start uplink
  cases message with
  | connack code => exact hstart.connack code
  | _ => exact hstart

theorem onSensor_accounted (message : Sensor.Message) :
    (uplink.onSensor context message).1.Accounted uplink context := by
  have hstart : (Transition.start uplink).Accounted uplink context :=
    Transition.accounted_start uplink
  cases message with
  | searchGateway radius => exact hstart.broadcast radius _
  | publish publication =>
    simp only [onSensor]
    split
    · exact hstart.relay publication
    · exact hstart
  | _ => exact hstart

theorem onSignal_accounted (signal : Signal) :
    (uplink.onSignal context signal).1.Accounted uplink context := by
  have hstart : (Transition.start uplink).Accounted uplink context :=
    Transition.accounted_start uplink
  cases signal with
  | connectionLost =>
    have hlost : ((Transition.start uplink).update fun uplink =>
        { uplink with connected := false }).Accounted uplink context := hstart.update rfl rfl
    exact hlost
  | sendKeepAlive => exact hstart.keepAlive
  | shutDown => exact hstart.shutDown
  | _ => exact hstart

end Uplink

/-! ### The gateway at work -/

structure Progress.Accounted (origin : Uplink) (config : Config) (progress : Progress) : Prop where
  tidy : progress.gateway.Tidy config
  brokerOpen : progress.gateway.uplink.brokerOpen =
    Broker.openAfter origin.brokerOpen (progress.linkUses config.gatewayAddress)
  links : progress.gateway.uplink.links = progress.events.foldl Event.onLinks origin.links

namespace Progress

variable {config : Config} {gateway : Gateway} {progress : Progress} {origin : Uplink}

theorem accounted_start (h : gateway.Tidy config) :
    (start gateway).Accounted gateway.uplink config := ⟨h, rfl, rfl⟩

/-- What a session does is not done for the gateway. -/
theorem useAt?_event {effect : Session.Effect} {event : Event} {network : Network}
    {address other : Address} (hforeign : address.same other = false)
    (hevent : effect.event? network address = some event) : event.useAt? other = none := by
  cases effect with
  | broker use =>
    cases hevent
    simp [Event.useAt?, hforeign]
  | device link target message =>
    cases hevent
    rfl
  | arm signal => cases hevent
  | disarm signal => cases hevent
  | disarmAll => cases hevent
  | forGateway message link => cases hevent

theorem foldl_onLinks_session (network : Network) (address : Address)
    (effects : List Session.Effect) (links : List LinkName) :
    (effects.filterMap (·.event? network address)).foldl Event.onLinks links = links := by
  induction effects with
  | nil => rfl
  | cons effect effects ih =>
    rw [List.filterMap_cons]
    cases effect with
    | broker use => exact ih
    | device link target message => exact ih
    | arm signal => exact ih
    | disarm signal => exact ih
    | disarmAll => exact ih
    | forGateway message link => exact ih

theorem Accounted.stepSession (h : progress.Accounted origin config) (network : Network)
    {t : Session.Transition} (hforeign : t.session.address.same config.gatewayAddress = false) :
    (progress.stepSession network t).Accounted origin config := by
  have huses : (progress.stepSession network t).linkUses config.gatewayAddress =
      progress.linkUses config.gatewayAddress := by
    have hnone : (t.effects.filterMap (·.event? network t.session.address)).filterMap
        (·.useAt? config.gatewayAddress) = [] := by
      rw [List.filterMap_eq_nil_iff]
      intro event hin
      obtain ⟨effect, -, hevent⟩ := List.mem_filterMap.mp hin
      exact useAt?_event hforeign hevent
    rw [linkUses_eq, linkUses_eq, stepSession_events, List.filterMap_append, hnone,
      List.append_nil]
  have huplink : (progress.stepSession network t).gateway.uplink = progress.gateway.uplink := by
    rw [Gateway.stepSession_gateway]
    rfl
  refine ⟨h.tidy.stepSession network t, ?_, ?_⟩
  · rw [huplink, huses]
    exact h.brokerOpen
  · rw [huplink, stepSession_events, List.foldl_append, ← h.links, foldl_onLinks_session]

theorem Accounted.removeSession (h : progress.Accounted origin config) (address : Address) :
    (progress.update (·.removeSession address)).Accounted origin config :=
  ⟨h.tidy.removeSession address, h.brokerOpen, h.links⟩

theorem Accounted.updateTimers (h : progress.Accounted origin config) (f : Timers → Timers) :
    (progress.updateTimers f).Accounted origin config :=
  ⟨⟨h.tidy.config, h.tidy.nodup, h.tidy.foreign⟩, h.brokerOpen, h.links⟩

theorem Accounted.signalSession (h : progress.Accounted origin config)
    (circumstances : Circumstances) (signal : Signal) {session : Session}
    (hforeign : session.address.same config.gatewayAddress = false) :
    (Gateway.signalSession circumstances signal progress session).Accounted origin config := by
  let turn := Gateway.signalTurn circumstances session.address signal
  have hstepped : (progress.stepSession circumstances.network
      (session.take progress.gateway.config turn)).Accounted origin config :=
    h.stepSession circumstances.network ((session.same_take _ turn _).trans hforeign)
  rw [Gateway.signalSession_eq]
  simp only
  split
  · exact hstepped.removeSession session.address
  · exact hstepped

theorem Accounted.foldl_signalSession (h : progress.Accounted origin config)
    (circumstances : Circumstances) (signal : Signal) (sessions : List Session)
    (hforeign : ∀ session ∈ sessions, session.address.same config.gatewayAddress = false) :
    (sessions.foldl (Gateway.signalSession circumstances signal) progress).Accounted
      origin config := by
  induction sessions generalizing progress with
  | nil => exact h
  | cons session sessions ih =>
    have hfirst := h.signalSession circumstances signal (hforeign session List.mem_cons_self)
    exact ih hfirst fun later hlater => hforeign later (List.mem_cons_of_mem _ hlater)

theorem Accounted.same_of_mem (h : progress.Accounted origin config) {session : Session}
    (hmem : session ∈ progress.gateway.sessions) :
    session.address.same config.gatewayAddress = false :=
  h.tidy.foreign_session hmem

theorem Accounted.signalSessions (h : progress.Accounted origin config)
    (circumstances : Circumstances) (signal : Signal) :
    (Gateway.signalSessions circumstances signal progress).Accounted origin config :=
  h.foldl_signalSession circumstances signal _ fun _ hmem => h.same_of_mem hmem

theorem Accounted.stepUplink (h : progress.Accounted origin config) {context : Uplink.Context}
    {step : Uplink.Context → Uplink → Uplink.Outcome} (hconfig : context.config = config)
    (hstep : (step context progress.gateway.uplink).1.Accounted progress.gateway.uplink context) :
    (progress.stepUplink context step).1.Accounted origin config := by
  let t := (step context progress.gateway.uplink).1
  have huplink : (progress.stepUplink context step).1.gateway.uplink = t.uplink := by
    unfold Progress.stepUplink
    simp only
    rw [performUplink_gateway]
    rfl
  have hevents : (progress.stepUplink context step).1.events = progress.events ++ t.events :=
    performUplink_events _ _
  refine ⟨h.tidy.stepUplink context step, ?_, ?_⟩
  · rw [huplink, hstep.brokerOpen, h.brokerOpen, linkUses_eq, linkUses_eq, hevents,
      List.filterMap_append, Broker.openAfter_append, hconfig]
  · rw [huplink, hstep.links, h.links, hevents, List.foldl_append]

/-- What was done before counts too. -/
theorem Accounted.after {next : Progress} (h : progress.Accounted origin config)
    (h' : next.Accounted progress.gateway.uplink config) :
    (next.after progress.events).Accounted origin config := by
  refine ⟨h'.tidy, ?_, ?_⟩
  · have huses : (next.after progress.events).linkUses config.gatewayAddress =
        progress.linkUses config.gatewayAddress ++ next.linkUses config.gatewayAddress := by
      simp only [linkUses_eq, Progress.after, List.filterMap_append]
    rw [huses, Broker.openAfter_append, ← h.brokerOpen]
    exact h'.brokerOpen
  · refine h'.links.trans ?_
    rw [h.links, Progress.after, List.foldl_append]

end Progress

namespace Gateway

open Progress (accounted_start)

variable {config : Config} {gateway : Gateway} {progress : Progress}

theorem accounted_ofUplink (h : gateway.Tidy config) (circumstances : Circumstances)
    (step : Uplink.Context → Uplink → Uplink.Outcome)
    (hstep : (step (gateway.uplinkContext circumstances) gateway.uplink).1.Accounted
      gateway.uplink (gateway.uplinkContext circumstances)) :
    (Outcome.ofUplink ((Progress.start gateway).stepUplink
      (gateway.uplinkContext circumstances) step)).progress.Accounted gateway.uplink config :=
  (accounted_start h).stepUplink h.config hstep

theorem accounted_dispatchSensor (h : gateway.Tidy config) (circumstances : Circumstances)
    (address : Address) (message : Sensor.Message) (link : LinkName) :
    (gateway.dispatchSensor circumstances address message
      link).progress.Accounted gateway.uplink config := by
  let turn : Session.Turn :=
    ⟨circumstances.now, circumstances.network.line address.identity, .sensor address message link⟩
  unfold dispatchSensor
  simp only
  split
  · exact accounted_ofUplink h circumstances _ (Uplink.onSensor_accounted message)
  next hnot =>
    split
    next session hfound =>
      have hstart := accounted_start h
      have hforeign := hstart.same_of_mem (mem_of_session? hfound)
      exact hstart.stepSession circumstances.network
        (t := session.take gateway.config turn) ((session.same_take _ turn _).trans hforeign)
    next hnone =>
      let fresh := Session.fresh (gateway.sessionContext circumstances address) address
      have hforeign : fresh.address.same config.gatewayAddress = false := by
        rw [Bool.not_eq_true, isOwn, h.config] at hnot
        exact hnot
      have hadded : (gateway.addSession fresh).Tidy config :=
        h.addSession (Bool.not_eq_true _ ▸ hnot) hnone
      have htaken : fresh.take gateway.config turn =
          Session.onSensor (gateway.sessionContext circumstances address) message link fresh :=
        Session.take_fresh gateway.config turn rfl
      have hstep := (accounted_start hadded).stepSession circumstances.network
        (t := fresh.take gateway.config turn) ((fresh.same_take _ turn _).trans hforeign)
      rw [htaken] at hstep
      exact hstep

theorem accounted_dispatchBroker (h : gateway.Tidy config) (circumstances : Circumstances)
    (address : Address) (message : Broker.Message) :
    (gateway.dispatchBroker circumstances address message).progress.Accounted
      gateway.uplink config := by
  unfold dispatchBroker
  simp only
  split
  · exact accounted_ofUplink h circumstances _ (Uplink.onBroker_accounted message)
  · split
    next session hfound =>
      have hstart := accounted_start h
      have hforeign := hstart.same_of_mem (mem_of_session? hfound)
      let turn : Session.Turn :=
        ⟨circumstances.now, circumstances.network.line address.identity, .broker message⟩
      exact hstart.stepSession circumstances.network
        (t := session.take gateway.config turn) ((session.same_take _ turn _).trans hforeign)
    · exact accounted_start h

theorem accounted_dispatchSignal (h : gateway.Tidy config) (circumstances : Circumstances)
    (address : Address) (signal : Signal) :
    (gateway.dispatchSignal circumstances address signal).progress.Accounted
      gateway.uplink config := by
  unfold dispatchSignal
  simp only
  split
  · exact accounted_ofUplink h circumstances _ (Uplink.onSignal_accounted signal)
  · split
    next session hfound =>
      have hstart := accounted_start h
      exact hstart.signalSession circumstances signal
        (hstart.same_of_mem (mem_of_session? hfound))
    · exact accounted_start h

theorem accounted_broadcastSignal (h : gateway.Tidy config) (circumstances : Circumstances)
    {signal : Signal} (hsignal : signal ≠ .shutDown) :
    (gateway.broadcastSignal circumstances signal).progress.Accounted gateway.uplink config := by
  have huplink := accounted_ofUplink h circumstances
    (fun context => Uplink.onSignal context signal) (Uplink.onSignal_accounted signal)
  unfold broadcastSignal
  rw [if_neg hsignal]
  exact huplink.signalSessions circumstances signal

/-- So does all that the uplink does as an envelope is handled. -/
theorem accounted_dispatch (h : gateway.Tidy config) {handling : Handling}
    (hgoes : handling.endsAll = false) :
    (gateway.dispatch handling.circumstances handling.envelope).progress.Accounted
      gateway.uplink config := by
  obtain ⟨circumstances, address, payload⟩ := handling
  cases address with
  | none =>
    cases payload with
    | sensor message link => exact accounted_start h
    | broker message => exact accounted_start h
    | signal signal =>
      have hsignal : signal ≠ .shutDown := by
        rintro rfl
        cases hgoes
      exact accounted_broadcastSignal h circumstances hsignal
  | some address =>
    cases payload with
    | sensor message link => exact accounted_dispatchSensor h circumstances address message link
    | broker message => exact accounted_dispatchBroker h circumstances address message
    | signal signal => exact accounted_dispatchSignal h circumstances address signal

/-- A gateway at work knows which of its own links are open. -/
theorem Trace.accounted {handled : List Handling} (h : Trace config handled progress) :
    progress.Accounted {} config := by
  induction h with
  | @create gateway hcreate =>
    have htidy := tidy_create hcreate
    unfold Gateway.create at hcreate
    split at hcreate
    · cases hcreate
    · cases hcreate
      exact accounted_start htidy
  | @bootstrap handled progress circumstances htrace ih =>
    exact ih.after (accounted_ofUplink ih.tidy circumstances Uplink.connect
      Uplink.connect_accounted)
  | queue queue htrace ih =>
    exact ⟨⟨ih.tidy.config, ih.tidy.nodup, ih.tidy.foreign⟩, ih.brokerOpen, ih.links⟩
  | handle handling htrace hgoes ih => exact ih.after (accounted_dispatch ih.tidy hgoes)

end Gateway

end SensorGateway
