import Mathlib.Logic.Relation
import SensorGateway.Gateway.Run
import SensorGateway.Proofs.Gateway.Devices

/-!
What handling one envelope can do to a gateway. `Step` is a step of one device or
of the uplink, and there is nothing else: a message leads to one step at most,
and a signal for everyone to one after the other, none of which starts a
handshake.
-/

namespace SensorGateway

/-- Whether a signal has a request to a device sent again. -/
def Signal.isTimeout : Signal → Bool
  | willTopicTimeout | willMessageTimeout | regackTimeout => true
  | connectionLost | checkInactivity | sendKeepAlive | shutDown => false

def Envelope.isTimeout (envelope : Envelope) : Bool :=
  match envelope.payload with
  | .signal signal => signal.isTimeout
  | _ => false

/-- Whether an envelope leaves the gateway at work. The end of the gateway does
not, and neither does a lost connection of everyone. -/
def Envelope.isOrdinary (envelope : Envelope) : Bool :=
  match envelope.payload, envelope.address with
  | .signal .shutDown, _ => false
  | .signal .connectionLost, none => false
  | _, _ => true

def Queue.Extends (before after : Queue) : Prop :=
  ∃ puts : List Envelope, after = puts.foldl Queue.put before ∧
    ∀ envelope ∈ puts, envelope.isTimeout = false

theorem Queue.Extends.refl (queue : Queue) : queue.Extends queue :=
  ⟨[], rfl, by simp⟩

theorem Queue.Extends.trans {first second third : Queue} (h : first.Extends second)
    (h' : second.Extends third) : first.Extends third := by
  obtain ⟨puts, rfl, hputs⟩ := h
  obtain ⟨puts', rfl, hputs'⟩ := h'
  refine ⟨puts ++ puts', (List.foldl_append ..).symm, ?_⟩
  intro envelope henvelope
  rcases List.mem_append.mp henvelope with hin | hin
  · exact hputs envelope hin
  · exact hputs' envelope hin

/-- Putting envelopes on a queue loses none, in whatever order they come out. -/
theorem Queue.perm_foldl_put (puts : List Envelope) (queue : Queue) :
    (puts.foldl Queue.put queue).toList.Perm (puts ++ queue.toList) := by
  induction puts generalizing queue with
  | nil => exact .refl _
  | cons envelope puts ih =>
    have hput : (queue.put envelope).toList.Perm (envelope :: queue.toList) := by
      rw [toList_put]
      split
      · exact .refl _
      · exact List.perm_append_singleton envelope queue.toList
    exact (ih (queue.put envelope)).trans ((hput.append_left puts).trans List.perm_middle)

/-- The queue tells what was put on it, up to the order. -/
theorem Queue.Extends.isTimeout_of_mem {before after : Queue} (h : before.Extends after)
    {puts : List Envelope} (hputs : after = puts.foldl Queue.put before) {envelope : Envelope}
    (hmem : envelope ∈ puts) : envelope.isTimeout = false := by
  obtain ⟨others, hothers, htimeouts⟩ := h
  have hperm : (puts ++ before.toList).Perm (others ++ before.toList) := by
    refine (perm_foldl_put puts before).symm.trans ?_
    rw [← hputs, hothers]
    exact perm_foldl_put others before
  exact htimeouts envelope (((List.perm_append_right_iff before.toList).mp hperm).subset hmem)

namespace Gateway

/-- What a gateway does for one device. -/
structure DeviceStep (address : Address) (before after : Gateway) : Prop where
  config : after.config = before.config
  uplink : after.uplink = before.uplink
  /-- The session moves, and its timers follow. The device goes by an address
  that may have been refreshed. -/
  move : ∃ performer uses, performer.same address = true ∧
    Session.Phase.Move before.config.maxRetries (before.phaseAt address) uses
      (after.phaseAt address) ∧
    after.timers = uses.foldl (Timers.use before.config performer) before.timers
  others : ∀ other, address.same other = false → after.session? other = before.session? other
  known : ∀ identity ∈ after.known, identity = address.identity ∨ identity ∈ before.known
  nodup : before.known.Nodup → after.known.Nodup
  queue : before.queue.Extends after.queue

structure UplinkStep (before after : Gateway) : Prop where
  config : after.config = before.config
  sessions : after.sessions = before.sessions
  move : ∃ uses, Uplink.Move before.uplink.connected uses after.uplink.connected ∧
    after.timers = uses.foldl (Timers.useUplink before.config) before.timers
  queue : before.queue.Extends after.queue

/-- The uplink starts its timer as it becomes connected, and does nothing else to
the timers. -/
theorem UplinkStep.timers {before after : Gateway} (h : UplinkStep before after) :
    after.uplink.connected = before.uplink.connected ∧ after.timers = before.timers ∨
    before.uplink.connected = false ∧ after.uplink.connected = true ∧
      after.timers = before.timers.schedule (keepAliveTimer before.config) := by
  obtain ⟨uses, hmove, htimers⟩ := h.move
  generalize before.uplink.connected = connected at hmove ⊢
  generalize after.uplink.connected = connected' at hmove ⊢
  cases hmove with
  | stay => exact .inl ⟨rfl, htimers⟩
  | connect => exact .inr ⟨rfl, rfl, htimers⟩

inductive Step (before after : Gateway) : Prop where
  | device (address : Address) (hforeign : before.isOwn address = false)
      (hstep : DeviceStep address before after)
  | uplink (hstep : UplinkStep before after)

/-- No handshake was started, and no timer. -/
structure Quiet (before after : Gateway) : Prop where
  timer? : ∀ address, (after.phaseAt address).timer? = none ∨
    (after.phaseAt address).timer? = (before.phaseAt address).timer?
  started : after.timers.started = before.timers.started

abbrev QuietSteps : Gateway → Gateway → Prop :=
  Relation.ReflTransGen fun before after => Step before after ∧ Quiet before after

/-! ### Steps of a device -/

section Devices

variable {network : Network} {progress : Progress} {session : Session} {address : Address}
variable {t : Session.Transition}

theorem extends_effects (config : Config) (effects : List Session.Effect) (queue : Queue) :
    queue.Extends ((effects.filterMap (·.envelope? config)).foldl Queue.put queue) := by
  refine ⟨_, rfl, ?_⟩
  intro envelope henvelope
  obtain ⟨effect, -, heffect⟩ := List.mem_filterMap.mp henvelope
  cases effect with
  | forGateway message link =>
    cases heffect
    rfl
  | _ => cases heffect

theorem stepSession_gateway :
    (progress.stepSession network t).gateway =
      { progress.gateway.setSession t.session with
        timers := t.timerUses.foldl
          (Timers.use progress.gateway.config t.session.address) progress.gateway.timers
        queue := (t.effects.filterMap (·.envelope? progress.gateway.config)).foldl Queue.put
          progress.gateway.queue } := by
  unfold Progress.stepSession Session.Transition.timerUses
  rw [Progress.performAll_gateway, Timers.foldl_use_filter]
  rfl

/-- A session that takes a step of its own. -/
theorem deviceStep_stepSession (network : Network) (start : Session.Transition)
    (hsome : progress.gateway.session? address = some session)
    (haddress : start.session.address.same address = true)
    (hphase : start.session.phase = session.phase) (heffects : start.effects = [])
    (hleads : start.Leads progress.gateway.config.maxRetries t) :
    DeviceStep address progress.gateway (progress.stepSession network t).gateway := by
  have hsame : t.session.address.same address = true := by
    rw [hleads.address, haddress]
  obtain ⟨uses, huses, hmove⟩ := hleads.move
  have hstart : start.timerUses = [] := by simp [Session.Transition.timerUses, heffects]
  rw [hstart, List.nil_append] at huses
  have hset : (progress.gateway.setSession t.session).session? address = some t.session :=
    session?_setSession hsame (by simp [hsome])
  rw [stepSession_gateway]
  refine ⟨rfl, rfl, ⟨t.session.address, uses, hsame, ?_, by rw [huses]⟩, ?_, ?_, ?_, ?_⟩
  · rw [phaseAt_of_session? hsome, ← hphase]
    have hafter := phaseAt_of_session? hset
    exact hafter ▸ hmove
  · intro other hother
    apply session?_setSession_other
    rw [Address.same_congr_left hsame, hother]
  · intro identity hidentity
    exact .inr (known_setSession progress.gateway t.session ▸ hidentity)
  · intro hnodup
    exact known_setSession progress.gateway t.session ▸ hnodup
  · exact extends_effects _ _ _

/-- A device that is heard for the first time gets a session, which then takes
its step. -/
theorem deviceStep_fresh {gateway after : Gateway} (hnone : gateway.session? address = none)
    (haddress : session.address.same address = true) (hphase : session.phase = .idle)
    (hstep : DeviceStep address (gateway.addSession session) after) :
    DeviceStep address gateway after := by
  obtain ⟨hconfig, huplink, hmove, hothers, hknown, hnodup, hqueue⟩ := hstep
  have hfirst : (gateway.addSession session).phaseAt address = .idle := by
    simp [phaseAt, session?_addSession, hnone, haddress, hphase]
  refine ⟨hconfig, huplink, ?_, ?_, ?_, ?_, hqueue⟩
  · rw [phaseAt_of_none hnone, ← hfirst]
    exact hmove
  · intro other hother
    have hapart : session.address.same other = false := by
      rw [Address.same_congr_left haddress, hother]
    rw [hothers other hother, session?_addSession, hapart]
    exact Option.or_none
  · intro identity hin
    rcases hknown identity hin with heq | hold
    · exact .inl heq
    · rw [known_addSession, List.mem_append, List.mem_singleton,
        Address.same_iff.mp haddress] at hold
      exact hold.symm
  · intro hdistinct
    apply hnodup
    apply nodup_addSession _ hdistinct
    rw [session?_congr haddress]
    exact hnone

/-- A session that ends and is removed. -/
theorem deviceStep_end (hsome : progress.gateway.session? address = some session)
    (hends : Session.Transition.Ends (.start session) t) :
    DeviceStep address progress.gateway
      ((progress.stepSession network t).update (·.removeSession session.address)).gateway := by
  have hsession : session.address.same address = true := same_of_session? hsome
  have hsame : t.session.address.same address = true := by
    rw [hends.address]
    exact hsession
  have huses : t.timerUses = [.disarmAll] := hends.uses
  have hgone : ((progress.gateway.setSession t.session).removeSession session.address).session?
      address = none := session?_removeSession hsession
  simp only [Progress.update]
  rw [stepSession_gateway]
  refine ⟨rfl, rfl, ⟨t.session.address, [.disarmAll], hsame, ?_, by rw [huses]; rfl⟩,
    ?_, ?_, ?_, ?_⟩
  · change Session.Phase.Move _ _ _
      (phaseAt ((progress.gateway.setSession t.session).removeSession session.address) address)
    rw [phaseAt_of_none hgone]
    exact .tearDown _
  · intro other hother
    have hapart : session.address.same other = false := by
      rw [Address.same_congr_left hsession, hother]
    have hapart' : t.session.address.same other = false := by
      rw [Address.same_congr_left hsame, hother]
    have hset : (progress.gateway.setSession t.session).session? other =
        progress.gateway.session? other := session?_setSession_other hapart'
    have hremoved : ((progress.gateway.setSession t.session).removeSession
        session.address).session? other = _ := session?_removeSession_other hapart
    exact hremoved.trans hset
  · intro identity hidentity
    have hin := (known_removeSession (progress.gateway.setSession t.session)
      session.address).subset hidentity
    exact .inr (known_setSession progress.gateway t.session ▸ hin)
  · intro hnodup
    have hlist : (progress.gateway.setSession t.session).known.Nodup :=
      known_setSession progress.gateway t.session ▸ hnodup
    exact hlist.sublist (known_removeSession _ _)
  · exact extends_effects _ _ _

/-- A session that takes any signal but the end of the gateway is a step of its device. -/
theorem deviceStep_signalSession (circumstances : Circumstances) (progress : Progress)
    {signal : Signal}
    (hsome : progress.gateway.session? session.address = some session)
    (hdown : signal ≠ .shutDown) :
    DeviceStep session.address progress.gateway
      (signalSession circumstances signal progress session).gateway := by
  unfold signalSession
  simp only
  generalize hcontext : progress.gateway.sessionContext circumstances session.address = context
  have hconfig : context.config = progress.gateway.config := by rw [← hcontext]; rfl
  split
  next hlast => exact deviceStep_end hsome (Session.onSignal_ends context hlast)
  next hlast =>
    have hleads := Session.onSignal_leads context hdown (Bool.eq_false_iff.mpr hlast)
    exact deviceStep_stepSession circumstances.network (.start session) hsome
      (Address.same_self _) rfl rfl (hconfig ▸ hleads)

/-- What is quiet for the device of a step is quiet for everyone. -/
theorem DeviceStep.quiet {before after : Gateway} (h : DeviceStep address before after)
    (hquiet : (after.phaseAt address).timer? = none ∨
      (after.phaseAt address).timer? = (before.phaseAt address).timer?) :
    Quiet before after := by
  constructor
  · intro other
    cases hother : address.same other with
    | false =>
      right
      unfold phaseAt
      rw [h.others other hother]
    | true =>
      rw [← phaseAt_congr hother, ← phaseAt_congr hother]
      exact hquiet
  · obtain ⟨performer, uses, -, hmove, htimers⟩ := h.move
    rw [htimers]
    exact Timers.started_uses (Session.move_quiet hmove hquiet) before.timers

/-- A signal starts no handshake of the device that takes it. -/
theorem quiet_signalSession (circumstances : Circumstances) (progress : Progress)
    {signal : Signal}
    (hsome : progress.gateway.session? session.address = some session)
    (hdown : signal ≠ .shutDown) :
    Quiet progress.gateway (signalSession circumstances signal progress session).gateway := by
  have hstep := deviceStep_signalSession circumstances progress hsome hdown
  refine hstep.quiet ?_
  rw [phaseAt_of_session? hsome]
  clear hstep
  unfold signalSession
  simp only
  generalize progress.gateway.sessionContext circumstances session.address = context
  split
  next hlast =>
    left
    have hgone : (((progress.stepSession circumstances.network
        (session.onSignal context signal)).update
          (·.removeSession session.address)).gateway).session? session.address = none :=
      session?_removeSession (Address.same_self _)
    rw [phaseAt_of_none hgone]
    rfl
  next hlast =>
    have hleads := Session.onSignal_leads context hdown (Bool.eq_false_iff.mpr hlast)
    have hsame : (session.onSignal context signal).session.address.same session.address =
        true := by
      rw [hleads.address]
      exact Address.same_self _
    have hset : (progress.stepSession circumstances.network
        (session.onSignal context signal)).gateway.session? session.address =
        some (session.onSignal context signal).session := by
      have hset : (progress.gateway.setSession
          (session.onSignal context signal).session).session? session.address =
          some (session.onSignal context signal).session :=
        session?_setSession hsame (by simp [hsome])
      rw [stepSession_gateway]
      exact hset
    rw [phaseAt_of_session? hset]
    exact Session.onSignal_timer? context signal

end Devices

/-! ### Steps of the uplink -/

section Uplinks

theorem extends_uplinkEffects (effects : List Uplink.Effect) (queue : Queue) :
    queue.Extends ((effects.filterMap (·.envelope?)).foldl Queue.put queue) := by
  refine ⟨_, rfl, ?_⟩
  intro envelope henvelope
  obtain ⟨effect, -, heffect⟩ := List.mem_filterMap.mp henvelope
  cases effect with
  | checkInactivity =>
    cases heffect
    rfl
  | _ => cases heffect

theorem uplinkStep_stepUplink (progress : Progress) (context : Uplink.Context)
    (step : Uplink.Context → Uplink → Uplink.Outcome)
    (hleads : (Uplink.Transition.start progress.gateway.uplink).Leads
      (step context progress.gateway.uplink).1) :
    UplinkStep progress.gateway (progress.stepUplink context step).1.gateway := by
  obtain ⟨uses, huses, hmove⟩ := hleads
  have hall : (step context progress.gateway.uplink).1.timerUses = uses := huses
  unfold Progress.stepUplink
  simp only
  rw [Progress.performUplink_gateway]
  refine ⟨rfl, rfl, ⟨uses, hmove, ?_⟩, extends_uplinkEffects _ _⟩
  rw [← hall, Uplink.Transition.timerUses, Timers.foldl_useUplink_filter]
  rfl

/-- The uplink does not make the sessions start anything, and starts nothing
itself unless it becomes connected. -/
theorem UplinkStep.quiet {before after : Gateway} (h : UplinkStep before after)
    (hconnected : after.uplink.connected = before.uplink.connected) : Quiet before after := by
  constructor
  · intro address
    right
    simp only [phaseAt, session?, h.sessions]
  · rcases h.timers with ⟨-, htimers⟩ | ⟨hbefore, hafter, -⟩
    · rw [htimers]
    · rw [hbefore, hafter] at hconnected
      cases hconnected

/-- A signal does not make the uplink connected. -/
theorem quietStep_signalUplink (gateway : Gateway) (context : Uplink.Context) {signal : Signal}
    (hlost : signal ≠ .connectionLost) (hdown : signal ≠ .shutDown) :
    let stepped := (Progress.start gateway).stepUplink context
      fun context => Uplink.onSignal context signal
    UplinkStep gateway stepped.1.gateway ∧ Quiet gateway stepped.1.gateway := by
  intro stepped
  have halike : (Uplink.Transition.start gateway.uplink).Alike
      (gateway.uplink.onSignal context signal).1 := Uplink.onSignal_alike hlost hdown
  have hstep := uplinkStep_stepUplink (.start gateway) context
    (fun context => Uplink.onSignal context signal) halike.stays
  refine ⟨hstep, hstep.quiet ?_⟩
  simp only [Progress.stepUplink, Progress.performUplink_gateway]
  exact halike.connected

end Uplinks

/-! ### Envelopes -/

section Envelopes

variable {gateway : Gateway} {circumstances : Circumstances} {envelope : Envelope}

theorem ok_of_ofUplink {step : Progress × Except GatewayError Unit}
    (h : (Outcome.ofUplink step).result = .ok .continue) : step.2 = .ok () := by
  obtain ⟨progress, result⟩ := step
  cases result with
  | ok => rfl
  | error problem => cases h

/-- A message of a device is a step of its session or of the uplink. -/
theorem step_of_dispatchSensor (address : Address) (message : Sensor.Message) (link : LinkName) :
    Step gateway (gateway.dispatchSensor circumstances address message link).progress.gateway := by
  unfold dispatchSensor
  cases hown : gateway.isOwn address with
  | true =>
    have hstep := uplinkStep_stepUplink (.start gateway) (gateway.uplinkContext circumstances)
      (fun context => Uplink.onSensor context message)
      (Uplink.onSensor_alike message).stays
    exact .uplink hstep
  | false =>
    refine .device address hown ?_
    let context := gateway.sessionContext circumstances address
    cases hfound : gateway.session? address with
    | some session =>
      have hsame : (session.address.refresh address).same address = true := by
        rw [Address.same_iff, Address.identity_refresh]
        exact Address.same_iff.mp (same_of_session? hfound)
      have hbefore : (Progress.start gateway).gateway.session? address = some session := hfound
      have hstep := deviceStep_stepSession circumstances.network
        (.start { session with address := session.address.refresh address }) hbefore hsame rfl rfl
        (Session.onSensor_leads _ _ context message link)
      exact hstep
    | none =>
      have hknown : (Progress.start
          { gateway with
            sessions := gateway.sessions ++ [Session.fresh context address] }).gateway.session?
          address = some (Session.fresh context address) := by
        have hnone : gateway.sessions.find? (·.address.same address) = none := hfound
        simp [Progress.start, session?, List.find?_append, hnone, Session.fresh]
      have hstep := deviceStep_stepSession circumstances.network
        (.start (Session.fresh context address)) hknown (Address.same_self _) rfl rfl
        (Session.onSensor_leads _ _ context message link)
      exact deviceStep_fresh hfound (Address.same_self _) rfl hstep

/-- So is a message of the broker. -/
theorem step_of_dispatchBroker {address : Address} {message : Broker.Message}
    (hok : (gateway.dispatchBroker circumstances address message).result = .ok .continue) :
    (gateway.dispatchBroker circumstances address message).progress.gateway = gateway ∨
      Step gateway
        (gateway.dispatchBroker circumstances address message).progress.gateway := by
  unfold dispatchBroker at hok ⊢
  cases hown : gateway.isOwn address with
  | true =>
    simp only [hown, if_true] at hok ⊢
    have hstep := uplinkStep_stepUplink (.start gateway) (gateway.uplinkContext circumstances)
      (fun context => Uplink.onBroker context message)
      (Uplink.onBroker_leads message (ok_of_ofUplink hok))
    exact .inr (.uplink hstep)
  | false =>
    cases hfound : gateway.session? address with
    | some session =>
      have hbefore : (Progress.start gateway).gateway.session? address = some session := hfound
      have hstep := deviceStep_stepSession circumstances.network (.start session) hbefore
        (same_of_session? hfound) rfl rfl
        (Session.onBroker_leads _ _ (gateway.sessionContext circumstances address) message)
      exact .inr (.device address hown hstep)
    | none => exact .inl rfl

/-- A message leads to one step at most. -/
theorem step_of_message (hmessage : envelope.isSignal = false)
    (hok : (gateway.dispatch circumstances envelope).result = .ok .continue) :
    (gateway.dispatch circumstances envelope).progress.gateway = gateway ∨
      Step gateway (gateway.dispatch circumstances envelope).progress.gateway := by
  obtain ⟨address, payload⟩ := envelope
  cases payload with
  | signal signal => cases hmessage
  | sensor message link =>
    cases address with
    | none => exact .inl rfl
    | some address => exact .inr (step_of_dispatchSensor address message link)
  | broker message =>
    cases address with
    | none => exact .inl rfl
    | some address => exact step_of_dispatchBroker hok

/-- Sessions of different devices take a signal one after the other. -/
theorem quietSteps_signalSessions {signal : Signal} (hdown : signal ≠ .shutDown)
    (sessions : List Session) (progress : Progress)
    (hsome : ∀ session ∈ sessions, progress.gateway.session? session.address = some session)
    (hforeign : ∀ session ∈ sessions, progress.gateway.isOwn session.address = false)
    (hdistinct : (sessions.map (·.address.identity)).Nodup) :
    QuietSteps progress.gateway
      (sessions.foldl (signalSession circumstances signal) progress).gateway := by
  induction sessions generalizing progress with
  | nil => exact .refl
  | cons session sessions ih =>
    have hfirst := hsome session List.mem_cons_self
    have hstep := deviceStep_signalSession circumstances progress hfirst hdown
    have hquiet := quiet_signalSession circumstances progress hfirst hdown
    have hown := hforeign session List.mem_cons_self
    rw [List.map_cons, List.nodup_cons] at hdistinct
    refine .head ⟨.device session.address hown hstep, hquiet⟩ (ih _ ?_ ?_ hdistinct.2)
    · intro other hother
      have hapart : session.address.same other.address = false := by
        rw [Bool.eq_false_iff, ne_eq, Address.same_iff]
        intro heq
        exact hdistinct.1 (List.mem_map.mpr ⟨other, hother, heq.symm⟩)
      rw [hstep.others other.address hapart]
      exact hsome other (List.mem_cons_of_mem _ hother)
    · intro other hother
      have hold := hforeign other (List.mem_cons_of_mem _ hother)
      simp only [isOwn, hstep.config] at hold ⊢
      exact hold

/-- Signals start no handshake. -/
theorem quietSteps_dispatchSignal {address : Address} {signal : Signal} (hdown : signal ≠ .shutDown)
    (hok : (gateway.dispatchSignal circumstances address signal).result = .ok .continue) :
    QuietSteps gateway
      (gateway.dispatchSignal circumstances address signal).progress.gateway := by
  unfold dispatchSignal at hok ⊢
  cases hown : gateway.isOwn address with
  | true =>
    simp only [hown, if_true] at hok ⊢
    have hlost : signal ≠ .connectionLost := by
      rintro rfl
      cases hok
    have hstep := quietStep_signalUplink gateway (gateway.uplinkContext circumstances) hlost hdown
    exact .single ⟨.uplink hstep.1, hstep.2⟩
  | false =>
    cases hfound : gateway.session? address with
    | some session =>
      have hsame := same_of_session? hfound
      have hsome : gateway.session? session.address = some session := by
        rw [session?_congr hsame, hfound]
      have hforeign : gateway.isOwn session.address = false := by
        rw [isOwn, Address.same_congr_left hsame]
        exact hown
      exact .single ⟨.device session.address hforeign
        (deviceStep_signalSession circumstances (.start gateway) hsome hdown),
        quiet_signalSession circumstances (.start gateway) hsome hdown⟩
    | none => exact .refl

/-- Not even those for everyone, as long as nothing ends. -/
theorem quietSteps_broadcastSignal {signal : Signal} (hdown : signal ≠ .shutDown)
    (hlost : signal ≠ .connectionLost) (hnodup : gateway.known.Nodup)
    (hforeign : ∀ session ∈ gateway.sessions, gateway.isOwn session.address = false) :
    QuietSteps gateway
      (gateway.broadcastSignal circumstances signal).progress.gateway := by
  have hstep := quietStep_signalUplink gateway (gateway.uplinkContext circumstances) hlost hdown
  unfold broadcastSignal
  rw [if_neg hdown]
  revert hstep
  generalize (Progress.start gateway).stepUplink (gateway.uplinkContext circumstances)
    (fun context => Uplink.onSignal context signal) = stepped
  obtain ⟨progress, result⟩ := stepped
  rintro ⟨hstep, hquiet⟩
  have hsessions : progress.gateway.sessions = gateway.sessions := hstep.sessions
  have hknown : progress.gateway.known.Nodup := by
    simp only [known, hsessions]
    exact hnodup
  refine .head ⟨.uplink hstep, hquiet⟩ (quietSteps_signalSessions hdown _ _ ?_ ?_ hknown)
  · intro session hsession
    exact session?_of_mem hknown hsession
  · intro session hsession
    have hconfig : progress.gateway.config = gateway.config := hstep.config
    have hold := hforeign session (hsessions ▸ hsession)
    simp only [isOwn, hconfig]
    exact hold

/-- A signal leads to any number of steps, none of which starts a handshake. -/
theorem quietSteps_of_signal (hsignal : envelope.isSignal = true)
    (hordinary : envelope.isOrdinary = true) (hnodup : gateway.known.Nodup)
    (hforeign : ∀ session ∈ gateway.sessions, gateway.isOwn session.address = false)
    (hok : (gateway.dispatch circumstances envelope).result = .ok .continue) :
    QuietSteps gateway (gateway.dispatch circumstances envelope).progress.gateway := by
  obtain ⟨address, payload⟩ := envelope
  cases payload with
  | sensor message link => cases hsignal
  | broker message => cases hsignal
  | signal signal =>
    have hdown : signal ≠ .shutDown := by
      rintro rfl
      cases hordinary
    cases address with
    | some address => exact quietSteps_dispatchSignal hdown hok
    | none =>
      have hlost : signal ≠ .connectionLost := by
        rintro rfl
        cases hordinary
      exact quietSteps_broadcastSignal hdown hlost hnodup hforeign

end Envelopes

/-! ### What steps leave of the timers -/

/-- How the timers of one gateway come from those of another. The timer of a
handshake that goes on is the one that it had. -/
structure Follows (before after : Gateway) : Prop where
  timers : before.timers.Follows after.timers
  kept : ∀ address signal, before.isOwn address = false →
    (before.phaseAt address).timer? = some signal →
    (after.phaseAt address).timer? = some signal →
    after.timers.tasksAt address = before.timers.tasksAt address
  config : after.config = before.config
  queue : before.queue.Extends after.queue

section Following

variable {before between after : Gateway}

theorem Follows.isOwn (h : Follows before after) (address : Address) :
    after.isOwn address = before.isOwn address := by
  rw [Gateway.isOwn, Gateway.isOwn, h.config]

theorem Follows.refl (gateway : Gateway) : Follows gateway gateway :=
  ⟨.refl _, fun _ _ _ _ _ => rfl, rfl, .refl _⟩

/-- A handshake that goes on over some steps goes on in between, unless another
one is started. -/
theorem Follows.trans (h : Follows before between) (h' : Follows between after)
    (hquiet : Quiet between after) : Follows before after := by
  refine ⟨h.timers.trans h'.timers, ?_, h'.config.trans h.config, h.queue.trans h'.queue⟩
  intro address signal hforeign hbefore hafter
  have hforeign' : between.isOwn address = false := by
    rw [h.isOwn, hforeign]
  have hbetween : (between.phaseAt address).timer? = some signal := by
    rcases hquiet.timer? address with hnone | hsame
    · rw [hnone] at hafter
      cases hafter
    · rw [← hsame, hafter]
  rw [h'.kept address signal hforeign' hbetween hafter,
    h.kept address signal hforeign hbefore hbetween]

/-- After a step of one device a handshake that goes on has the timer that it had. -/
theorem DeviceStep.follows {address : Address} (h : DeviceStep address before after) :
    Follows before after := by
  obtain ⟨performer, uses, hperformer, hmove, htimers⟩ := h.move
  refine ⟨htimers ▸ Timers.follows_uses uses before.timers, ?_, h.config, h.queue⟩
  intro other signal _ hbefore hafter
  rw [htimers]
  cases hsame : address.same other with
  | true =>
    rw [← phaseAt_congr hsame] at hbefore hafter
    rw [Session.move_keeps hmove hbefore hafter]
    rfl
  | false =>
    have hapart : performer.same other = false := by
      rw [Address.same_congr_left hperformer, hsame]
    exact Timers.tasksAt_uses_other hapart uses before.timers

theorem UplinkStep.follows (h : UplinkStep before after) : Follows before after := by
  rcases h.timers with ⟨-, htimers⟩ | ⟨-, -, htimers⟩
  · exact ⟨htimers ▸ .refl _, fun _ _ _ _ _ => by rw [htimers], h.config, h.queue⟩
  · refine ⟨htimers ▸ Timers.follows_schedule _ _, ?_, h.config, h.queue⟩
    intro address signal hforeign _ _
    have hapart : (keepAliveTimer before.config).address.same address = false := by
      rw [Address.same_comm]
      exact hforeign
    rw [htimers, Timers.tasksAt_schedule, hapart]
    simp

theorem Step.follows (h : Step before after) : Follows before after := by
  cases h with
  | device address hforeign hstep => exact hstep.follows
  | uplink hstep => exact hstep.follows

/-- A step keeps the timers that it starts. -/
theorem Step.keeps (h : Step before after) : before.timers.Keeps after.timers := by
  cases h with
  | device address hforeign hstep =>
    obtain ⟨performer, uses, -, hmove, htimers⟩ := hstep.move
    rw [htimers]
    exact Timers.keeps_uses (Session.move_startsTimer hmove) before.timers
  | uplink hstep =>
    rcases hstep.timers with ⟨-, htimers⟩ | ⟨-, -, htimers⟩
    · exact Timers.keeps_of_started (congrArg Timers.started htimers)
    · rw [htimers]
      exact Timers.keeps_schedule before.timers _

theorem QuietSteps.quiet (h : QuietSteps before after) : Quiet before after := by
  induction h with
  | refl => exact ⟨fun _ => .inr rfl, rfl⟩
  | tail _ hstep ih =>
    refine ⟨?_, hstep.2.started.trans ih.started⟩
    intro address
    rcases hstep.2.timer? address with hnone | hsame
    · exact .inl hnone
    · rw [hsame]
      exact ih.timer? address

/-- So it has after any number of quiet steps. -/
theorem QuietSteps.follows (h : QuietSteps before after) : Follows before after := by
  induction h with
  | refl => exact .refl _
  | tail _ hstep ih => exact ih.trans hstep.1.follows hstep.2

end Following

end Gateway

end SensorGateway
