import SensorGateway.Proofs.Gateway.UplinkLinks

/-!
How a run ends. Whether the gateway is told to stop or fails, and wherever it fails,
everything that it ever opened is closed in the end, no timer is left, and the broker
is told on each link that is still open. `clean_stop` puts this together from what
a run does until it stops and from what the stop itself does.
-/

namespace SensorGateway

open Session (Turn)

/-! ### The stop of one session -/

namespace Session

def Turn.IsEnd (turn : Turn) : Prop := turn.input = .signal .shutDown

theorem take_end (config : Config) {turn : Turn} (hend : turn.IsEnd) (session : Session) :
    session.take config turn = (Transition.start session).shutDown (turn.context config) := by
  obtain ⟨now, line, input⟩ := turn
  cases hend
  rfl

/-- A session that ends leaves its link closed. -/
theorem brokerOpen_shutDown (context : Context) (t : Transition) :
    (t.shutDown context).session.brokerOpen = false := by
  unfold Transition.shutDown
  rfl

@[simp] theorem linkUses_start (session : Session) : (Transition.start session).linkUses = [] :=
  rfl

/-- The broker is told once if the link is open, and otherwise not at all. -/
theorem messages_shutDown {session : Session} {connections : Connections}
    (hfits : Fits false session connections) (context : Context) :
    ((Transition.start session).shutDown context).linkUses.filterMap (·.message?) =
      if session.brokerOpen then [.disconnect] else [] := by
  have hstart : (Transition.start session).session = session := rfl
  cases hopen : session.brokerOpen with
  | false =>
    simp [Transition.shutDown, hstart, hopen, Transition.closeBroker, Effect.use?,
      Broker.LinkUse.message?]
  | true =>
    have hbusy : (session.phase.isConnected || session.phase.isEstablishing) = true := by
      have huses := hfits.usesBroker hopen
      cases hphase : session.phase with
      | idle => rw [hphase] at huses; cases huses
      | awaitingWillTopic request tries => rfl
      | awaitingWillMessage request will tries => rfl
      | awaitingConnack => rfl
      | connected exchanges => rfl
    simp [Transition.shutDown, hstart, hopen, hbusy, Transition.closeBroker,
      Transition.sendBroker, Effect.use?, Broker.LinkUse.message?]

end Session

namespace Holding

variable {config : Config}

def messages (holding : Holding) : List Broker.Message :=
  (holding.dealings.filterMap (·.use?)).filterMap (·.message?)

theorem messages_follow (config : Config) (ends : Bool) (t : Session.Transition)
    (holding : Holding) :
    (holding.follow config ends t).messages =
      holding.messages ++ t.linkUses.filterMap (·.message?) := by
  unfold messages follow
  rw [List.filterMap_append, filterMap_use_filter, List.filterMap_append]
  rfl

/-- The end closes the broker link of a device, on which the broker is told before if the
link is open. -/
theorem Sealed.shutDown (config : Config) {holding : Holding} (h : holding.Sealed) {turn : Turn}
    (hend : turn.IsEnd) :
    (∀ session ∈ (holding.take config turn).session, session.brokerOpen = false) ∧
      (holding.take config turn).linkOpen = false ∧
      (holding.take config turn).messages =
        holding.messages ++ if holding.linkOpen then [.disconnect] else [] := by
  have hbegins : turn.newcomer? config = .none := by
    unfold Session.Turn.newcomer?
    rw [hend]
  cases hsession : holding.session with
  | none =>
    have hclosed := h.absent hsession
    rw [take_of_none hsession hbegins, hsession]
    refine ⟨fun session hin => (Option.not_mem_none session hin).elim, hclosed, ?_⟩
    rw [hclosed, if_neg Bool.false_ne_true, List.append_nil]
  | some session =>
    obtain ⟨hopen, connections, hfits⟩ := h.fits session hsession
    have hstays : session.endsWith config turn = false := by
      unfold Session.endsWith
      rw [hend]
      rfl
    have hsealed := h.take config turn
    rw [take_of_some hsession, hstays, Session.take_end config hend] at hsealed ⊢
    have hclosed := Session.brokerOpen_shutDown (turn.context config) (.start session)
    refine ⟨fun last hlast => ?_, (hsealed.fits _ rfl).1.symm.trans hclosed, ?_⟩
    · cases hlast
      exact hclosed
    · rw [messages_follow, Session.messages_shutDown hfits, hopen]

end Holding

/-! ### The stop of the uplink -/

namespace Uplink

namespace Transition

variable {context : Context} {t : Transition}

def messages (context : Context) (t : Transition) : List Broker.Message :=
  (t.events.filterMap (·.useAt? context.config.gatewayAddress)).filterMap (·.message?)

/-- What happens on a link adds to the messages if it is one. -/
theorem messages_happen (event : Event) (f : Uplink → Uplink) :
    ((t.emitEvent event).update f).messages context = t.messages context ++
      ((event.useAt? context.config.gatewayAddress).bind (·.message?)).toList := by
  have hevents : ((t.emitEvent event).update f).events = t.events ++ [event] :=
    events_emit t (.event event)
  unfold messages
  rw [hevents, List.filterMap_append, List.filterMap_append]
  cases huse : event.useAt? context.config.gatewayAddress with
  | none => simp [huse]
  | some use => cases hmessage : use.message? <;> simp [huse, hmessage]

theorem messages_use (use : Broker.LinkUse) (f : Uplink → Uplink) :
    ((t.useBroker context use).update f).messages context =
      t.messages context ++ use.message?.toList := by
  have huse : (Event.broker context.config.gatewayAddress use).useAt?
      context.config.gatewayAddress = some use := if_pos (Address.same_self _)
  rw [useBroker, messages_happen, huse, Option.bind_some]

/-- Closing device links hands nothing to the broker. -/
theorem messages_closeLinks (links : List LinkName) :
    (links.foldl (fun t link => t.emitEvent (.closeLink link)) t).messages context =
      t.messages context := by
  induction links generalizing t with
  | nil => rfl
  | cons link links ih =>
    rw [List.foldl_cons, ih]
    exact (messages_happen (.closeLink link) id).trans (List.append_nil _)

theorem messages_emit {effect : Effect} (hinner : effect.event? = none) :
    (t.emit effect).messages context = t.messages context := by
  unfold messages
  rw [events_emit, hinner, Option.toList_none, List.append_nil]

/-- The broker is told that the gateway ends if it can be. -/
theorem messages_shutDown (context : Context) (t : Transition) :
    (t.shutDown context).messages context =
      t.messages context ++ if t.uplink.brokerOpen then [.disconnect] else [] := by
  have hclosed (before : Transition) :
      (((before.closeBroker context).uplink.links.foldl
        (fun t link => t.emitEvent (.closeLink link)) (before.closeBroker context)).update
          fun uplink => { uplink with connected := false, links := [] }).messages context =
        before.messages context :=
    (messages_closeLinks _).trans ((messages_use _ _).trans (List.append_nil _))
  simp only [shutDown]
  rw [messages_emit rfl, hclosed]
  split
  · exact messages_use _ _
  · exact (List.append_nil _).symm

/-- The uplink keeps nothing open. -/
theorem uplink_shutDown (context : Context) (t : Transition) :
    let uplink := (t.shutDown context).uplink
    uplink.brokerOpen = false ∧ uplink.connected = false ∧ uplink.links = [] := by
  simp only [shutDown, foldl_emitEvent]
  exact ⟨rfl, rfl, rfl⟩

end Transition

end Uplink

/-! ### The stop of the gateway -/

namespace Progress

def messages (address : Address) (progress : Progress) : List Broker.Message :=
  (progress.linkUses address).filterMap (·.message?)

variable {progress : Progress}

theorem messages_eq_holding (address : Address) :
    progress.messages address = (progress.holding address).messages := rfl

theorem linkOpen_eq_holding (address : Address) :
    progress.linkOpen address = (progress.holding address).linkOpen := rfl

/-- It does not matter by which of its addresses a broker link goes. -/
theorem linkUses_congr {address other : Address} (h : address.same other = true) :
    progress.linkUses address = progress.linkUses other := by
  rw [linkUses_eq, linkUses_eq]
  apply List.filterMap_congr
  intro event _
  cases event with
  | broker owner use => simp only [Event.useAt?, Address.same_congr h]
  | _ => rfl

theorem messages_after (events : List Event) (address : Address) :
    (progress.after events).messages address =
      (Progress.mk progress.gateway events).messages address ++ progress.messages address := by
  simp only [messages, linkUses_eq, after, List.filterMap_append]

theorem eq_of_parts {next : Progress} (hgateway : progress.gateway = next.gateway)
    (hevents : progress.events = next.events) : progress = next := by
  cases progress
  cases next
  cases hgateway
  cases hevents
  rfl

/-! What was done before makes no difference to what is done. -/

theorem stepSession_after (events : List Event) (network : Network) (t : Session.Transition) :
    (progress.after events).stepSession network t =
      (progress.stepSession network t).after events := by
  have hgateway : ((progress.after events).stepSession network t).gateway =
      ((progress.stepSession network t).after events).gateway := by
    change _ = (progress.stepSession network t).gateway
    rw [Gateway.stepSession_gateway, Gateway.stepSession_gateway]
    rfl
  have hevents : ((progress.after events).stepSession network t).events =
      ((progress.stepSession network t).after events).events := by
    change _ = events ++ (progress.stepSession network t).events
    rw [stepSession_events, stepSession_events, ← List.append_assoc]
    rfl
  exact eq_of_parts hgateway hevents

theorem stepUplink_after (events : List Event) (context : Uplink.Context)
    (step : Uplink.Context → Uplink → Uplink.Outcome) :
    ((progress.after events).stepUplink context step).1 =
      (progress.stepUplink context step).1.after events := by
  have hgateway : ((progress.after events).stepUplink context step).1.gateway =
      ((progress.stepUplink context step).1.after events).gateway := by
    change _ = (progress.stepUplink context step).1.gateway
    simp only [stepUplink]
    rw [performUplink_gateway, performUplink_gateway]
    rfl
  have hevents : ((progress.after events).stepUplink context step).1.events =
      ((progress.stepUplink context step).1.after events).events := by
    change _ = events ++ (progress.stepUplink context step).1.events
    simp only [stepUplink]
    rw [performUplink_events, performUplink_events, ← List.append_assoc]
    rfl
  exact eq_of_parts hgateway hevents

end Progress

namespace Gateway

variable {config : Config} {gateway : Gateway} {progress : Progress}

theorem signalSession_after (events : List Event) (circumstances : Circumstances)
    (signal : Signal) (session : Session) :
    signalSession circumstances signal (progress.after events) session =
      (signalSession circumstances signal progress session).after events := by
  rw [signalSession_eq, signalSession_eq]
  simp only [Progress.stepSession_after]
  split
  next hends => rw [if_pos (by exact hends)]; rfl
  next hends => rw [if_neg (by exact hends)]; rfl

theorem foldl_signalSession_after (events : List Event) (circumstances : Circumstances)
    (signal : Signal) (sessions : List Session) :
    sessions.foldl (signalSession circumstances signal) (progress.after events) =
      (sessions.foldl (signalSession circumstances signal) progress).after events := by
  induction sessions generalizing progress with
  | nil => rfl
  | cons session sessions ih => rw [List.foldl_cons, List.foldl_cons, signalSession_after, ih]

def withoutUplink (circumstances : Circumstances) (progress : Progress) : Progress :=
  (progress.stepUplink (progress.gateway.uplinkContext circumstances)
    fun context => Uplink.onSignal context .shutDown).1

/-- The end of the gateway is that of its uplink, of its sessions and then of all timers. -/
theorem shutDownAll_def (circumstances : Circumstances) (progress : Progress) :
    shutDownAll circumstances progress =
      (signalSessions circumstances .shutDown
        (withoutUplink circumstances progress)).updateTimers fun timers =>
          (timers.cancel fun _ => true).2 := rfl

theorem shutDownAll_after (events : List Event) (circumstances : Circumstances)
    (progress : Progress) :
    shutDownAll circumstances (progress.after events) =
      (shutDownAll circumstances progress).after events := by
  have hstepped : withoutUplink circumstances (progress.after events) =
      (withoutUplink circumstances progress).after events :=
    Progress.stepUplink_after events _ _
  have hsignalled : signalSessions circumstances .shutDown
      ((withoutUplink circumstances progress).after events) =
        (signalSessions circumstances .shutDown
          (withoutUplink circumstances progress)).after events :=
    foldl_signalSession_after events circumstances .shutDown _
  rw [shutDownAll_def, shutDownAll_def, hstepped, hsignalled]
  rfl

/-- What was done before is no matter to the end of the gateway. -/
theorem shutDownAll_eq (circumstances : Circumstances) (progress : Progress) :
    shutDownAll circumstances progress =
      (shutDownAll circumstances (.start progress.gateway)).after progress.events := by
  have hstart : (Progress.start progress.gateway).after progress.events = progress :=
    Progress.eq_of_parts rfl (List.append_nil _)
  rw [← shutDownAll_after, hstart]

/-! What the stop makes of a gateway, wherever it was before. -/

/-- Sessions leave the uplink alone. -/
theorem uplink_signalSession (circumstances : Circumstances) (signal : Signal)
    (session : Session) :
    (signalSession circumstances signal progress session).gateway.uplink =
      progress.gateway.uplink := by
  rw [signalSession_eq]
  simp only
  split
  · change (progress.stepSession _ _).gateway.uplink = _
    rw [stepSession_gateway]
    rfl
  · rw [stepSession_gateway]
    rfl

theorem uplink_foldl_signalSession (circumstances : Circumstances) (signal : Signal)
    (sessions : List Session) :
    (sessions.foldl (signalSession circumstances signal) progress).gateway.uplink =
      progress.gateway.uplink := by
  induction sessions generalizing progress with
  | nil => rfl
  | cons session sessions ih => rw [List.foldl_cons, ih, uplink_signalSession]

theorem uplink_shutDownAll (circumstances : Circumstances) (progress : Progress) :
    (shutDownAll circumstances progress).gateway.uplink =
      ((Uplink.Transition.start progress.gateway.uplink).shutDown
        (progress.gateway.uplinkContext circumstances)).uplink := by
  have hsignalled : (signalSessions circumstances .shutDown
      (withoutUplink circumstances progress)).gateway.uplink =
        (withoutUplink circumstances progress).gateway.uplink :=
    uplink_foldl_signalSession circumstances .shutDown _
  rw [shutDownAll_def]
  refine hsignalled.trans ?_
  unfold withoutUplink Progress.stepUplink
  simp only
  rw [Progress.performUplink_gateway]
  rfl

/-- No timer is left once everything has been closed. -/
theorem tasks_shutDownAll (circumstances : Circumstances) (progress : Progress) :
    (shutDownAll circumstances progress).gateway.timers.tasks = [] :=
  List.filter_eq_nil_iff.mpr fun _ _ => by simp

theorem accounted_shutDownAll {origin : Uplink} (h : progress.Accounted origin config)
    (circumstances : Circumstances) :
    (shutDownAll circumstances progress).Accounted origin config := by
  have hstepped : (withoutUplink circumstances progress).Accounted origin config :=
    h.stepUplink h.tidy.config (Uplink.onSignal_accounted .shutDown)
  rw [shutDownAll_def]
  exact (hstepped.signalSessions circumstances .shutDown).updateTimers _

/-- The stop is the last turn of every address, and ends its timers. -/
theorem holding_shutDownAll (h : progress.gateway.Tidy config) (circumstances : Circumstances)
    (address : Address) :
    (shutDownAll circumstances progress).holding address =
      { ((withoutUplink circumstances progress).holding address).take config
        (signalTurn circumstances address .shutDown) with timers := [] } := by
  have htidy : (withoutUplink circumstances progress).gateway.Tidy config := h.stepUplink _ _
  have hsignalled : (signalSessions circumstances .shutDown
      (withoutUplink circumstances progress)).holding address =
        ((withoutUplink circumstances progress).holding address).take config
          (signalTurn circumstances address .shutDown) :=
    holding_signalSessions htidy circumstances .shutDown
  have htimers : (shutDownAll circumstances progress).gateway.timers.timersAt address = [] := by
    unfold Timers.timersAt Timers.tasksAt
    rw [tasks_shutDownAll]
    rfl
  rw [← hsignalled, ← htimers, shutDownAll_def]
  rfl

/-- For each device the end of the gateway is a turn, after which no timer is left. -/
theorem holding_shutDownAll_device (h : progress.gateway.Tidy config)
    (circumstances : Circumstances) {address : Address}
    (hforeign : address.same config.gatewayAddress = false) :
    (shutDownAll circumstances progress).holding address =
      { (progress.holding address).take config
        (signalTurn circumstances address .shutDown) with timers := [] } := by
  have hapart : progress.gateway.isOwn address = false := by
    rw [isOwn, h.config]
    exact hforeign
  have hstepped : (withoutUplink circumstances progress).holding address =
      progress.holding address :=
    Progress.holding_stepUplink (Uplink.onSignal_own .shutDown) rfl hapart
  rw [holding_shutDownAll h, hstepped]

/-- The sessions leave the link of the gateway to its uplink. -/
theorem messages_own_shutDownAll (h : progress.gateway.Tidy config)
    (circumstances : Circumstances) :
    (shutDownAll circumstances progress).messages config.gatewayAddress =
      (withoutUplink circumstances progress).messages config.gatewayAddress := by
  have htidy : (withoutUplink circumstances progress).gateway.Tidy config := h.stepUplink _ _
  have hnone : ((withoutUplink circumstances progress).holding
      config.gatewayAddress).session = none := by
    refine List.find?_eq_none.mpr fun session hmem hsame => ?_
    have hforeign := htidy.foreign_session hmem
    rw [hsame] at hforeign
    cases hforeign
  rw [Progress.messages_eq_holding, holding_shutDownAll h, Holding.take_of_none hnone rfl]
  rfl

/-- The uplink takes its leave of the broker if it has a connection to leave. -/
theorem messages_withoutUplink (h : gateway.Tidy config) (circumstances : Circumstances) :
    (withoutUplink circumstances (.start gateway)).messages config.gatewayAddress =
      if gateway.uplink.brokerOpen then [.disconnect] else [] := by
  let context := gateway.uplinkContext circumstances
  have hcontext : context.config = config := h.config
  have hmessages := Uplink.Transition.messages_shutDown context (.start gateway.uplink)
  have hevents : (withoutUplink circumstances (.start gateway)).events =
      ((Uplink.Transition.start gateway.uplink).shutDown context).events :=
    (Progress.performUplink_events _ _).trans (List.nil_append _)
  rw [Progress.messages, Progress.linkUses_eq, hevents, ← hcontext]
  exact hmessages

/-- As the gateway stops the broker is told once on each link that is open, and nothing
else is said. -/
theorem Trace.messages_shutDownAll {handled : List Handling}
    (htrace : Trace config handled progress) (circumstances : Circumstances)
    (address : Address) :
    (shutDownAll circumstances (.start progress.gateway)).messages address =
      if progress.linkOpen address then [.disconnect] else [] := by
  cases hown : address.same config.gatewayAddress with
  | true =>
    have hstart : (Progress.start progress.gateway).gateway.Tidy config := htrace.tidy
    have hopen : progress.linkOpen address = progress.gateway.uplink.brokerOpen := by
      rw [htrace.accounted.brokerOpen, Progress.linkOpen, Progress.linkUses_congr hown]
    rw [Progress.messages, Progress.linkUses_congr hown, ← Progress.messages,
      messages_own_shutDownAll hstart, messages_withoutUplink htrace.tidy, hopen]
  | false =>
    have hforeign : progress.gateway.isOwn address = false := by
      rw [isOwn, htrace.tidy.config]
      exact hown
    have hend : (signalTurn circumstances address .shutDown).IsEnd := rfl
    have hsealed := (htrace.sealed hforeign).shutDown config hend
    have hmessages : (shutDownAll circumstances progress).messages address =
        progress.messages address ++ if progress.linkOpen address then [.disconnect] else [] := by
      rw [Progress.messages_eq_holding, holding_shutDownAll_device htrace.tidy circumstances hown,
        Progress.messages_eq_holding, Progress.linkOpen_eq_holding, ← hsealed.2.2]
      rfl
    rw [shutDownAll_eq, Progress.messages_after] at hmessages
    exact List.append_cancel_left hmessages

/-- Nothing that was ever opened is open, and no timer is left. -/
structure Released (progress : Progress) : Prop where
  uplink : progress.gateway.uplink.brokerOpen = false ∧
    progress.gateway.uplink.connected = false ∧ progress.gateway.uplink.links = []
  sessions : ∀ session ∈ progress.gateway.sessions, session.brokerOpen = false
  timers : progress.gateway.timers.tasks = []
  /-- The broker link of the gateway and those of all devices that ever had one. -/
  brokerLinks : ∀ address, progress.linkOpen address = false
  deviceLinks : progress.openLinks = []

/-- Nothing is open at the end, whatever was opened before. -/
theorem Trace.released_shutDownAll {handled : List Handling}
    (htrace : Trace config handled progress) (circumstances : Circumstances) :
    Released (shutDownAll circumstances progress) := by
  have haccounted := accounted_shutDownAll htrace.accounted circumstances
  have huplink := Uplink.Transition.uplink_shutDown
    (progress.gateway.uplinkContext circumstances) (.start progress.gateway.uplink)
  rw [← uplink_shutDownAll] at huplink
  have hdevice (address : Address) (hforeign : address.same config.gatewayAddress = false) :
      (∀ session ∈ (shutDownAll circumstances progress).gateway.session? address,
        session.brokerOpen = false) ∧
      (shutDownAll circumstances progress).linkOpen address = false := by
    have hapart : progress.gateway.isOwn address = false := by
      rw [isOwn, htrace.tidy.config]
      exact hforeign
    have hend : (signalTurn circumstances address .shutDown).IsEnd := rfl
    have hsealed := (htrace.sealed hapart).shutDown config hend
    have hstopped := holding_shutDownAll_device htrace.tidy circumstances hforeign
    have hsession : (shutDownAll circumstances progress).gateway.session? address =
        ((progress.holding address).take config
          (signalTurn circumstances address .shutDown)).session :=
      congrArg Holding.session hstopped
    rw [hsession, Progress.linkOpen_eq_holding, hstopped]
    exact ⟨hsealed.1, hsealed.2.1⟩
  refine ⟨huplink, fun session hmem => ?_, tasks_shutDownAll circumstances progress,
    fun address => ?_, ?_⟩
  · exact (hdevice session.address (haccounted.same_of_mem hmem)).1 session
      (session?_of_mem haccounted.tidy.nodup hmem)
  · cases hown : address.same config.gatewayAddress with
    | true =>
      rw [Progress.linkOpen, Progress.linkUses_congr hown]
      exact haccounted.brokerOpen.symm.trans huplink.1
    | false => exact (hdevice address hown).2
  · exact haccounted.links.symm.trans huplink.2.2

/-! ### Runs -/

/-- The envelopes that are handled as the gateway works through rounds, with their
circumstances. -/
def handledBy : List Round → Gateway → List Handling
  | [], _ => []
  | round :: rounds, gateway =>
      let gateway := round.arrivals.foldl put gateway
      match gateway.queue.take? with
      | none => handledBy rounds gateway
      | some (envelope, queue) =>
          let outcome := { gateway with queue }.dispatch round.circumstances envelope
          ⟨round.circumstances, envelope⟩ ::
            match outcome.result with
            | .ok .continue => handledBy rounds outcome.progress.gateway
            | _ => []

theorem result_ofUplink (step : Progress × Except GatewayError Unit) :
    (Outcome.ofUplink step).result ≠ .ok .stop := by
  unfold Outcome.ofUplink
  cases step.2 <;> exact nofun

/-- Only the end of the gateway stops it. -/
theorem endsAll_of_stop (handling : Handling)
    (hstop : (gateway.dispatch handling.circumstances handling.envelope).result = .ok .stop) :
    handling.endsAll = true := by
  obtain ⟨circumstances, address, payload⟩ := handling
  cases address with
  | some address =>
    by_cases hown : gateway.isOwn address = true
    · cases payload with
      | sensor message link =>
        change (gateway.dispatchSensor circumstances address message link).result = _ at hstop
        unfold dispatchSensor at hstop
        simp only [hown, if_true] at hstop
        exact (result_ofUplink _ hstop).elim
      | broker message =>
        change (gateway.dispatchBroker circumstances address message).result = _ at hstop
        unfold dispatchBroker at hstop
        simp only [hown, if_true] at hstop
        exact (result_ofUplink _ hstop).elim
      | signal signal =>
        change (gateway.dispatchSignal circumstances address signal).result = _ at hstop
        unfold dispatchSignal at hstop
        simp only [hown, if_true] at hstop
        exact (result_ofUplink _ hstop).elim
    · have hgoes := result_dispatch gateway circumstances (Bool.not_eq_true _ ▸ hown) payload
      rw [hgoes] at hstop
      cases hstop
  | none =>
    cases payload with
    | sensor message link => cases hstop
    | broker message => cases hstop
    | signal signal =>
      by_cases hdown : signal = .shutDown
      · rw [hdown]
        rfl
      · change (gateway.broadcastSignal circumstances signal).result = _ at hstop
        unfold broadcastSignal at hstop
        rw [if_neg hdown] at hstop
        cases hstop

/-- Envelopes that arrive change nothing but the queue. -/
theorem foldl_put_eq (arrivals : List Envelope) (gateway : Gateway) :
    arrivals.foldl put gateway =
      { gateway with queue := arrivals.foldl Queue.put gateway.queue } := by
  induction arrivals generalizing gateway with
  | nil => rfl
  | cons envelope arrivals ih => exact ih (gateway.put envelope)

/-- How a gateway that went on to some progress has ended, if it has: told to stop, it has
closed everything. -/
def EndsAs (outcome : Outcome) (events : List Event) (handled : List Handling)
    (last : Progress) : Prop :=
  if handled.any (·.endsAll) then
    outcome.result = .ok .stop ∧ ∃ circumstances,
      outcome.progress.after events =
        (shutDownAll circumstances (.start last.gateway)).after last.events
  else outcome.result ≠ .ok .stop ∧ outcome.progress.after events = last

theorem endsAs_cons {outcome : Outcome} {events : List Event} {handling : Handling}
    {later : List Handling} {last : Progress} (hends : handling.endsAll = false) :
    EndsAs outcome events (handling :: later) last ↔ EndsAs outcome events later last := by
  unfold EndsAs
  rw [List.any_cons, hends, Bool.false_or]

theorem EndsAs.after (earlier : List Event) {outcome : Outcome} {events : List Event}
    {handled : List Handling} {last : Progress}
    (h : EndsAs outcome (earlier ++ events) handled last) :
    EndsAs (outcome.after events) earlier handled last := by
  have hsame : (outcome.after events).progress.after earlier =
      outcome.progress.after (earlier ++ events) :=
    Progress.eq_of_parts rfl (List.append_assoc ..).symm
  unfold EndsAs at h ⊢
  rw [hsame]
  exact h

/-- A gateway that serves goes on with its trace, whatever arrives, until it is told to
stop. -/
theorem Trace.serve {handled : List Handling} (h : Trace config handled progress)
    (rounds : List Round) :
    ∃ last, Trace config
        (handled ++ (handledBy rounds progress.gateway).filter (!·.endsAll)) last ∧
      EndsAs (progress.gateway.serve rounds) progress.events
        (handledBy rounds progress.gateway) last := by
  induction rounds generalizing handled progress with
  | nil =>
    refine ⟨progress, by simpa [handledBy] using h, ?_⟩
    exact ⟨nofun, Progress.eq_of_parts rfl (List.append_nil _)⟩
  | cons round rounds ih =>
    have harrived := h.queue (round.arrivals.foldl Queue.put progress.gateway.queue)
    unfold Gateway.serve handledBy dispatchNext
    simp only [foldl_put_eq]
    cases htake : (round.arrivals.foldl Queue.put progress.gateway.queue).take? with
    | none => exact ih harrived
    | some next =>
      obtain ⟨envelope, queue⟩ := next
      let taken : Progress := ⟨{ progress.gateway with queue }, progress.events⟩
      have htaken : Trace config handled taken := harrived.queue queue
      simp only [Option.map_some]
      generalize houtcome : dispatch round.circumstances envelope
        { progress.gateway with queue } = outcome
      generalize hhandling : Handling.mk round.circumstances envelope = handling
      have hdispatch : taken.gateway.dispatch handling.circumstances handling.envelope =
          outcome := by
        rw [← hhandling]
        exact houtcome
      cases hends : handling.endsAll with
      | true =>
        have hdown : handling.envelope = ⟨none, .signal .shutDown⟩ := eq_of_beq hends
        have hnone : [handling].filter (!·.endsAll) = [] := by simp [hends]
        rw [hdown] at hdispatch
        subst hdispatch
        refine ⟨taken, ?_, ?_⟩
        · change Trace config (handled ++ [handling].filter _) taken
          rw [hnone, List.append_nil]
          exact htaken
        · unfold EndsAs
          rw [List.any_cons, hends]
          exact ⟨rfl, handling.circumstances, rfl⟩
      | false =>
        have hhandled : Trace config (handled ++ [handling])
            (outcome.progress.after progress.events) := by
          rw [← hdispatch]
          exact htaken.handle handling hends
        have hgoes : outcome.result ≠ .ok .stop := by
          rw [← hdispatch]
          exact mt (endsAll_of_stop handling) (Bool.eq_false_iff.mp hends)
        have hlater (later : List Handling) : handled ++ (handling :: later).filter (!·.endsAll) =
            (handled ++ [handling]) ++ later.filter (!·.endsAll) := by
          rw [List.filter_cons_of_pos (by simp [hends]), List.append_assoc]
          rfl
        simp only [hlater, endsAs_cons hends]
        rcases hresult : outcome.result with error | flow
        · refine ⟨outcome.progress.after progress.events, ?_, hgoes, rfl⟩
          rw [List.filter_nil, List.append_nil]
          exact hhandled
        · cases flow with
          | stop => exact (hgoes hresult).elim
          | «continue» =>
            obtain ⟨last, hlast, hend⟩ := ih hhandled
            exact ⟨last, hlast, hend.after progress.events⟩

def handledIn (opening : Circumstances) (rounds : List Round) (gateway : Gateway) :
    List Handling :=
  let (begun, result) := gateway.bootstrap opening
  match result with
  | .error _ => []
  | .ok _ => handledBy rounds begun.gateway

/-- Closing everything does not change how a run has ended. -/
theorem result_closeOnError (closing : Circumstances) (outcome : Outcome) :
    (outcome.closeOnError closing).result = outcome.result := by
  unfold Outcome.closeOnError
  split <;> rfl

/-- A gateway that cannot bring its uplink up closes everything again. -/
theorem run_of_error {opening : Circumstances} {error : GatewayError}
    (h : (gateway.bootstrap opening).2 = .error error) (rounds : List Round)
    (closing : Circumstances) :
    gateway.run opening rounds closing =
      (Outcome.ofUplink (gateway.bootstrap opening)).closeOnError closing := by
  unfold run Outcome.ofUplink
  simp only [h]
  rfl

theorem run_of_ok {opening : Circumstances} {value : Unit}
    (h : (gateway.bootstrap opening).2 = .ok value) (rounds : List Round)
    (closing : Circumstances) :
    gateway.run opening rounds closing =
      (((gateway.bootstrap opening).1.gateway.serve rounds).after
        (gateway.bootstrap opening).1.events).closeOnError closing := by
  unfold run Outcome.ofUplink
  simp only [h]
  rfl

/-- A run that is over has closed everything. -/
theorem EndsAs.closeOnError {outcome : Outcome} {handled : List Handling} {last : Progress}
    (h : EndsAs outcome [] handled last) (closing : Circumstances) :
    ((outcome.closeOnError closing).result = .ok .stop ↔
      ∃ handling ∈ handled, handling.endsAll = true) ∧
    ((outcome.closeOnError closing).result ≠ .ok .continue →
      ∃ circumstances, (outcome.closeOnError closing).progress =
        (shutDownAll circumstances (.start last.gateway)).after last.events) := by
  rw [result_closeOnError, ← List.any_eq_true]
  unfold EndsAs at h
  split at h
  next hends =>
    obtain ⟨hstop, hlast⟩ := h
    refine ⟨⟨fun _ => hends, fun _ => hstop⟩, fun _ => ?_⟩
    unfold Outcome.closeOnError
    rw [hstop]
    exact hlast
  next hgoes =>
    obtain ⟨hstays, hlast⟩ := h
    refine ⟨⟨fun hstop => (hstays hstop).elim, fun hends => (hgoes hends).elim⟩, fun hover => ?_⟩
    have hsame : outcome.progress = last := hlast
    unfold Outcome.closeOnError
    rcases hresult : outcome.result with error | flow
    · rw [← hsame]
      exact ⟨closing, shutDownAll_eq closing outcome.progress⟩
    · cases flow with
      | stop => exact (hstays hresult).elim
      | «continue» => exact (hover hresult).elim

/-- Before a run is over it is a trace, and then everything is closed. -/
theorem exists_trace_of_run (hcreate : create config = .ok gateway)
    (opening : Circumstances) (rounds : List Round) (closing : Circumstances) :
    ∃ last, Trace config ((gateway.handledIn opening rounds).filter (!·.endsAll)) last ∧
      ((gateway.run opening rounds closing).result = .ok .stop ↔
        ∃ handling ∈ gateway.handledIn opening rounds, handling.endsAll = true) ∧
      ((gateway.run opening rounds closing).result ≠ .ok .continue →
        ∃ circumstances, (gateway.run opening rounds closing).progress =
          (shutDownAll circumstances (.start last.gateway)).after last.events) := by
  have hbegun : Trace config [] (gateway.bootstrap opening).1 :=
    (Trace.create hcreate).bootstrap opening
  cases hresult : (gateway.bootstrap opening).2 with
  | error error =>
    have hends : EndsAs (Outcome.ofUplink (gateway.bootstrap opening)) [] []
        (gateway.bootstrap opening).1 := ⟨result_ofUplink _, rfl⟩
    have hhandled : gateway.handledIn opening rounds = [] := by
      unfold handledIn
      simp only [hresult]
    rw [run_of_error hresult, hhandled]
    exact ⟨_, hbegun, hends.closeOnError closing⟩
  | ok value =>
    obtain ⟨last, hlast, hends⟩ := hbegun.serve rounds
    have hhandled : gateway.handledIn opening rounds =
        handledBy rounds (gateway.bootstrap opening).1.gateway := by
      unfold handledIn
      simp only [hresult]
    rw [run_of_ok hresult, hhandled]
    exact ⟨last, hlast, (EndsAs.after [] hends).closeOnError closing⟩

/-- However a run ends, everything is closed in the end. It ends well exactly if the gateway
was told to end; on each broker link that is open at the end the broker is told once,
and on the others nothing is said any more. -/
theorem clean_stop (hcreate : create config = .ok gateway) (opening : Circumstances)
    (rounds : List Round) (closing : Circumstances) :
    ((gateway.run opening rounds closing).result = .ok .stop ↔
      ∃ handling ∈ gateway.handledIn opening rounds, handling.endsAll = true) ∧
    ((gateway.run opening rounds closing).result ≠ .ok .continue →
      Released (gateway.run opening rounds closing).progress ∧
      ∃ last circumstances,
        Trace config ((gateway.handledIn opening rounds).filter (!·.endsAll)) last ∧
        let stopped := shutDownAll circumstances (.start last.gateway)
        (gateway.run opening rounds closing).progress = stopped.after last.events ∧
        ∀ address, stopped.messages address =
          if last.linkOpen address then [.disconnect] else []) := by
  obtain ⟨last, htrace, hstop, hclosed⟩ := exists_trace_of_run hcreate opening rounds closing
  refine ⟨hstop, fun hover => ?_⟩
  obtain ⟨circumstances, hprogress⟩ := hclosed hover
  have hreleased := htrace.released_shutDownAll circumstances
  rw [shutDownAll_eq, ← hprogress] at hreleased
  exact ⟨hreleased, last, circumstances, htrace, hprogress,
    htrace.messages_shutDownAll circumstances⟩

def connectAndLoseBroker (device : Address) : List Round :=
  [⟨[⟨some (Config.gatewayAddress {}), .broker (.connack Broker.Message.accepted)⟩], ⟨0, {}⟩⟩,
    ⟨[⟨some device, .sensor (.connect
      { flags := {}, protocolId := 1, duration := 60, clientId := "d" }) "udp:20000"⟩], ⟨1, {}⟩⟩,
    ⟨[⟨some device, .broker (.connack Broker.Message.accepted)⟩], ⟨2, {}⟩⟩,
    ⟨[⟨some (Config.gatewayAddress {}), .signal .connectionLost⟩], ⟨3, {}⟩⟩]

/-- The run fails, and its device links and both broker links are closed. -/
theorem clean_stop_connectAndLoseBroker :
    ∃ gateway, ∃ device : Address, create {} = .ok gateway ∧
      let outcome := gateway.run ⟨0, {}⟩ (connectAndLoseBroker device) ⟨4, {}⟩
      outcome.result = .error .brokerConnectionLost ∧ Released outcome.progress := by
  let gateway : Gateway :=
    { config := {}, uplink := {}, sessions := [], timers := .none, queue := .empty }
  have hcreate : create {} = .ok gateway := rfl
  have hover : (gateway.run ⟨0, {}⟩ (connectAndLoseBroker (.plain ⟨.v4 10 0 0 7, 1234, 0⟩))
      ⟨4, {}⟩).result = .error .brokerConnectionLost := by
    decide
  have hstopped := (clean_stop hcreate ⟨0, {}⟩ (connectAndLoseBroker
    (.plain ⟨.v4 10 0 0 7, 1234, 0⟩)) ⟨4, {}⟩).2 (by rw [hover]; exact nofun)
  exact ⟨gateway, _, hcreate, hover, hstopped.1⟩

end Gateway

end SensorGateway
