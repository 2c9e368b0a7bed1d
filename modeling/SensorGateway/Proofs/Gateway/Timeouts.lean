import SensorGateway.Proofs.Gateway.Steps

/-!
Which timers run. A device has the timer that the phase of its session asks for
and no other, and the gateway has its beat once it is connected and never a
second one. `Coherent` says so for all addresses at once, every step of a gateway
keeps it, and so it holds of every gateway that is at work.
-/

namespace SensorGateway.Gateway

def awaitsAt (gateway : Gateway) (address : Address) (handshake : Session.Handshake) : Bool :=
  (gateway.session? address).any (·.awaits handshake)

/-- The gateways that may be at work. Envelopes may come in any order, the queue
may change in between, and whatever the links do the gateway has not failed and was
not told to stop. -/
inductive Reachable (config : Config) : Gateway → Prop where
  | create {gateway : Gateway} (hcreate : create config = .ok gateway) :
      Reachable config gateway
  | bootstrap {gateway : Gateway} (circumstances : Circumstances)
      (hreach : Reachable config gateway)
      (hok : (gateway.bootstrap circumstances).2 = .ok ()) :
      Reachable config (gateway.bootstrap circumstances).1.gateway
  | handle {gateway : Gateway} (queue : Queue) (circumstances : Circumstances)
      (envelope : Envelope) (hreach : Reachable config gateway)
      (hordinary : envelope.isOrdinary = true)
      (hok : ({ gateway with queue }.dispatch circumstances envelope).result = .ok .continue) :
      Reachable config ({ gateway with queue }.dispatch circumstances envelope).progress.gateway

/-- How the sessions, the uplink and the timers of a gateway belong together. -/
structure Coherent (gateway : Gateway) : Prop where
  /-- No device has two sessions. -/
  nodup : gateway.known.Nodup
  foreign : gateway.config.gatewayAddress.identity ∉ gateway.known
  numbered : gateway.timers.Numbered
  devices : ∀ address, gateway.isOwn address = false →
    gateway.timers.signalsAt address = (gateway.phaseAt address).timer?.toList
  own : gateway.timers.signalsAt gateway.config.gatewayAddress =
    if gateway.uplink.connected then [.sendKeepAlive] else []

variable {gateway before after : Gateway} {address : Address}

/-- The queue makes no difference. -/
theorem Coherent.withQueue (h : gateway.Coherent) (queue : Queue) :
    Coherent { gateway with queue } := by
  obtain ⟨hnodup, hforeign, hnumbered, hdevices, hown⟩ := h
  exact ⟨hnodup, hforeign, hnumbered, hdevices, hown⟩

theorem Coherent.isOwn_session (h : gateway.Coherent) {session : Session}
    (hmem : session ∈ gateway.sessions) : gateway.isOwn session.address = false := by
  rw [isOwn, Bool.eq_false_iff, ne_eq, Address.same_iff]
  intro heq
  exact h.foreign (heq ▸ List.mem_map_of_mem hmem)

/-- What one device does leaves the timers of all others alone. -/
theorem coherent_deviceStep (hforeign : before.isOwn address = false)
    (hstep : DeviceStep address before after) (h : before.Coherent) : after.Coherent := by
  obtain ⟨performer, uses, hperformer, hmove, htimers⟩ := hstep.move
  have hown : performer.same before.config.gatewayAddress = false := by
    rw [Address.same_congr_left hperformer]
    exact hforeign
  refine ⟨hstep.nodup h.nodup, ?_, ?_, ?_, ?_⟩
  · rw [hstep.config]
    intro hin
    rcases hstep.known _ hin with heq | hold
    · rw [isOwn, Bool.eq_false_iff, ne_eq, Address.same_iff] at hforeign
      exact hforeign heq.symm
    · exact h.foreign hold
  · rw [htimers]
    exact (Timers.follows_uses uses before.timers).numbered h.numbered
  · intro other hother
    rw [isOwn, hstep.config] at hother
    have hbefore := h.devices other hother
    rw [htimers]
    cases hsame : address.same other with
    | true =>
      have hperforms : performer.same other = true := by
        rw [Address.same_congr_left hperformer, hsame]
      rw [Timers.signalsAt_uses hperforms, hbefore, ← phaseAt_congr hsame, ← phaseAt_congr hsame]
      exact Session.move_rearm hmove
    | false =>
      have hapart : performer.same other = false := by
        rw [Address.same_congr_left hperformer, hsame]
      unfold phaseAt at hbefore ⊢
      rw [hstep.others other hsame, ← hbefore]
      unfold Timers.signalsAt
      rw [Timers.tasksAt_uses_other hapart]
  · rw [hstep.config, hstep.uplink, ← h.own, htimers]
    unfold Timers.signalsAt
    rw [Timers.tasksAt_uses_other hown]

/-- The uplink keeps its own timer and no other. -/
theorem coherent_uplinkStep (hstep : UplinkStep before after) (h : before.Coherent) :
    after.Coherent := by
  have hknown : after.known = before.known := by simp only [known, hstep.sessions]
  have hphase : ∀ address, after.phaseAt address = before.phaseAt address := by
    intro address
    simp only [phaseAt, session?, hstep.sessions]
  have hforeign : after.config.gatewayAddress.identity ∉ after.known := by
    rw [hstep.config, hknown]
    exact h.foreign
  rcases hstep.timers with ⟨hconnected, htimers⟩ | ⟨hbefore, hafter, htimers⟩
  · refine ⟨hknown ▸ h.nodup, hforeign, htimers ▸ h.numbered, ?_, ?_⟩
    · intro other hother
      rw [isOwn, hstep.config] at hother
      rw [hphase, htimers, h.devices other hother]
    · rw [hstep.config, htimers, hconnected, h.own]
  · have hbeat : (keepAliveTimer before.config).address = before.config.gatewayAddress := rfl
    refine ⟨hknown ▸ h.nodup, hforeign,
      htimers ▸ (Timers.follows_schedule _ _).numbered h.numbered, ?_, ?_⟩
    · intro other hother
      rw [isOwn, hstep.config] at hother
      have hapart : before.config.gatewayAddress.same other = false := by
        rw [Address.same_comm]
        exact hother
      rw [hphase, ← h.devices other hother, htimers]
      simp [Timers.signalsAt, Timers.tasksAt_schedule, hbeat, hapart]
    · have hnone := h.own
      rw [hbefore] at hnone
      simp only [Bool.false_eq_true, if_false] at hnone
      unfold Timers.signalsAt at hnone
      rw [hstep.config, htimers, hafter]
      simp [Timers.signalsAt, Timers.tasksAt_schedule, hbeat, hnone]
      rfl

theorem coherent_step (hstep : Step before after) (h : before.Coherent) : after.Coherent := by
  cases hstep with
  | device address hforeign hstep => exact coherent_deviceStep hforeign hstep h
  | uplink hstep => exact coherent_uplinkStep hstep h

theorem coherent_quietSteps (hsteps : QuietSteps before after) (h : before.Coherent) :
    after.Coherent := by
  induction hsteps with
  | refl => exact h
  | tail _ hstep ih => exact coherent_step hstep.1 ih

theorem Coherent.quietSteps {circumstances : Circumstances} {envelope : Envelope}
    (h : gateway.Coherent) (hsignal : envelope.isSignal = true)
    (hordinary : envelope.isOrdinary = true)
    (hok : (gateway.dispatch circumstances envelope).result = .ok .continue) :
    QuietSteps gateway (gateway.dispatch circumstances envelope).progress.gateway :=
  quietSteps_of_signal hsignal hordinary h.nodup
    (fun _ hsession => h.isOwn_session hsession) hok

/-- Handling an envelope keeps sessions and timers together, if the gateway does not fail
over it. -/
theorem coherent_dispatch {circumstances : Circumstances} {envelope : Envelope}
    (hordinary : envelope.isOrdinary = true)
    (hok : (gateway.dispatch circumstances envelope).result = .ok .continue)
    (h : gateway.Coherent) :
    (gateway.dispatch circumstances envelope).progress.gateway.Coherent := by
  cases hsignal : envelope.isSignal with
  | true =>
    exact coherent_quietSteps (h.quietSteps hsignal hordinary hok) h
  | false =>
    rcases step_of_message hsignal hok with heq | hstep
    · rw [heq]
      exact h
    · exact coherent_step hstep h

/-- The timers after an envelope come from those before it. -/
theorem dispatch_follows {circumstances : Circumstances} {envelope : Envelope}
    (hordinary : envelope.isOrdinary = true)
    (hok : (gateway.dispatch circumstances envelope).result = .ok .continue)
    (h : gateway.Coherent) :
    Follows gateway (gateway.dispatch circumstances envelope).progress.gateway := by
  cases hsignal : envelope.isSignal with
  | true =>
    exact QuietSteps.follows (h.quietSteps hsignal hordinary hok)
  | false =>
    rcases step_of_message hsignal hok with heq | hstep
    · rw [heq]
      exact .refl gateway
    · exact hstep.follows

/-- No task comes and goes while one envelope is handled: what was started in
between runs afterwards. -/
theorem dispatch_keeps {circumstances : Circumstances} {envelope : Envelope}
    (hordinary : envelope.isOrdinary = true)
    (hok : (gateway.dispatch circumstances envelope).result = .ok .continue)
    (h : gateway.Coherent) :
    gateway.timers.Keeps (gateway.dispatch circumstances envelope).progress.gateway.timers := by
  cases hsignal : envelope.isSignal with
  | true =>
    have hquiet := QuietSteps.quiet (h.quietSteps hsignal hordinary hok)
    exact Timers.keeps_of_started hquiet.started
  | false =>
    rcases step_of_message hsignal hok with heq | hstep
    · rw [heq]
      exact Timers.keeps_of_started rfl
    · exact hstep.keeps

theorem coherent_create {config : Config} (hcreate : create config = .ok gateway) :
    gateway.Coherent := by
  unfold create at hcreate
  split at hcreate
  · cases hcreate
  · cases hcreate
    exact ⟨List.nodup_nil, List.not_mem_nil, ⟨by simp [Timers.none], List.Pairwise.nil⟩,
      fun _ _ => rfl, rfl⟩

theorem uplinkStep_bootstrap (circumstances : Circumstances) :
    UplinkStep gateway (gateway.bootstrap circumstances).1.gateway :=
  uplinkStep_stepUplink (.start gateway) (gateway.uplinkContext circumstances) Uplink.connect
    Uplink.connect_alike.stays

/-- So they belong together at all times. -/
theorem reachable_coherent {config : Config} (hreach : Reachable config gateway) :
    gateway.Coherent := by
  induction hreach with
  | create hcreate => exact coherent_create hcreate
  | bootstrap circumstances hreach hok ih =>
    exact coherent_uplinkStep (uplinkStep_bootstrap circumstances) ih
  | handle queue circumstances envelope hreach hordinary hok ih =>
    exact coherent_dispatch hordinary hok (ih.withQueue queue)

/-! ### Counting timers -/

/-- An answer of the device is waited for just where the timer of its request runs in the
phase. -/
theorem awaitsAt_iff (gateway : Gateway) (address : Address) {handshake : Session.Handshake}
    {signal : Signal} (h : handshake.timeout? = some signal) :
    gateway.awaitsAt address handshake = true ↔
      (gateway.phaseAt address).timer? = some signal := by
  unfold awaitsAt
  cases hfound : gateway.session? address with
  | none => simp [phaseAt_of_none hfound, Session.Phase.timer?]
  | some session =>
    rw [phaseAt_of_session? hfound]
    exact Session.awaits_iff h

/-- There is one timer for a request as long as its answer is waited for, and none
otherwise. -/
theorem Coherent.count_timeout (h : gateway.Coherent) (hforeign : gateway.isOwn address = false)
    {handshake : Session.Handshake} {signal : Signal} (hsignal : handshake.timeout? = some signal) :
    gateway.timers.count address signal = (gateway.awaitsAt address handshake).toNat := by
  have hiff := awaitsAt_iff gateway address hsignal
  rw [Timers.count_eq, h.devices address hforeign]
  cases hawaits : gateway.awaitsAt address handshake with
  | true =>
    rw [hiff.mp hawaits]
    simp
  | false =>
    rw [hawaits] at hiff
    cases htimer : (gateway.phaseAt address).timer? with
    | none => rfl
    | some other =>
      have hne : other ≠ signal := by
        rintro rfl
        exact absurd (hiff.mpr htimer) Bool.false_ne_true
      simp [hne]

/-- No phase asks for a timer that is not a timeout. -/
theorem isTimeout_of_timer? {phase : Session.Phase} {signal : Signal}
    (h : phase.timer? = some signal) : signal.isTimeout = true := by
  cases phase with
  | idle => cases h
  | awaitingConnack => cases h
  | awaitingWillTopic request tries =>
    cases h
    rfl
  | awaitingWillMessage request will tries =>
    cases h
    rfl
  | connected exchanges =>
    obtain ⟨registration, -, hsignal⟩ := Option.map_eq_some_iff.mp h
    rw [← hsignal]
    rfl

/-- Sessions start no other timers. -/
theorem Coherent.count_other (h : gateway.Coherent) (hforeign : gateway.isOwn address = false)
    {signal : Signal} (hsignal : signal.isTimeout = false) :
    gateway.timers.count address signal = 0 := by
  rw [Timers.count_eq, h.devices address hforeign, List.count_eq_zero]
  intro hin
  rw [isTimeout_of_timer? (Option.mem_toList.mp hin)] at hsignal
  cases hsignal

/-- As long as a gateway is at work, a device has one timer for the answer that
it owes, if it owes one, and no other timer; and the gateway has one beat at
most. -/
theorem reachable_timers {config : Config} (hreach : Reachable config gateway) :
    (∀ address, gateway.isOwn address = false →
      gateway.timers.count address .willTopicTimeout =
        (gateway.awaitsAt address .willTopic).toNat ∧
      gateway.timers.count address .willMessageTimeout =
        (gateway.awaitsAt address .willMessage).toNat ∧
      gateway.timers.count address .regackTimeout =
        (gateway.awaitsAt address .regack).toNat ∧
      ∀ signal : Signal, signal.isTimeout = false → gateway.timers.count address signal = 0) ∧
    gateway.timers.count gateway.config.gatewayAddress .sendKeepAlive ≤ 1 := by
  have hcoherent := reachable_coherent hreach
  constructor
  · intro address hforeign
    exact ⟨hcoherent.count_timeout hforeign rfl, hcoherent.count_timeout hforeign rfl,
      hcoherent.count_timeout hforeign rfl,
      fun signal hsignal => hcoherent.count_other hforeign hsignal⟩
  · rw [Timers.count_eq, hcoherent.own]
    split
    · exact Nat.le_refl 1
    · exact Nat.zero_le 1

def askWithWill (device : Address) : Envelope :=
  ⟨some device, .sensor (.connect
    { flags := { will := true }, protocolId := 1, duration := 60, clientId := "d" }) "udp:20000"⟩

/-- The device that asks for a will has a timer for the topic of it. -/
theorem reachable_timers_askWithWill :
    ∃ gateway : Gateway, Reachable {} gateway ∧
      gateway.timers.count (.plain ⟨.v4 10 0 0 7, 1234, 0⟩) .willTopicTimeout = 1 ∧
      gateway.timers.count gateway.config.gatewayAddress .sendKeepAlive ≤ 1 := by
  have hcreated : Reachable {} _ := .create rfl
  have hreach := hcreated.handle .empty ⟨0, {}⟩ (askWithWill (.plain ⟨.v4 10 0 0 7, 1234, 0⟩))
    rfl rfl
  have htimers := reachable_timers hreach
  exact ⟨_, hreach, (htimers.1 _ rfl).1.trans rfl, htimers.2⟩

end SensorGateway.Gateway
