import SensorGateway.Proofs.Gateway.OpenLinks
import SensorGateway.Proofs.Session.Failures
import SensorGateway.Proofs.Session.Handshakes

/-!
What the failure of a broker link leaves in the gateway. The device keeps its
session, but there is nothing left in it: no mark, no message and no timer, and the
link is closed. `failure_breaks_off` also says what the device hears of it, which is
not the same for every message: DISCONNECT, or nothing if the broker was asked to
connect the device.
-/

namespace SensorGateway

def Progress.told (address : Address) (progress : Progress) : List Sensor.Message :=
  (progress.dealings address).filterMap (·.told?)

theorem Session.filterMap_told_filter (effects : List Session.Effect) :
    (effects.filter (·.usesLink)).filterMap (·.told?) = effects.filterMap (·.told?) := by
  rw [List.filterMap_filter]
  apply List.filterMap_congr
  intro effect _
  cases effect <;> rfl

namespace Gateway

/-- The session of a device is there, but nothing goes on in it. -/
structure Emptied (gateway : Gateway) (address : Address) : Prop where
  session : ∃ session, gateway.session? address = some session ∧ session.brokerOpen = false ∧
    session.ledger.marks = {} ∧ session.ledger.kept = {}
  timers : gateway.timers.signalsAt address = []

variable {config : Config} {gateway : Gateway} {circumstances : Circumstances} {address : Address}
variable {message : Sensor.Message} {link : LinkName}

def sensorTurn (circumstances : Circumstances) (address : Address) (message : Sensor.Message)
    (link : LinkName) : Session.Turn :=
  ⟨circumstances.now, circumstances.network.line address.identity, .sensor address message link⟩

/-- A device that is heard has a session, which takes the turn. -/
theorem holding_heard (h : gateway.Tidy config) (circumstances : Circumstances)
    (hforeign : address.same config.gatewayAddress = false) (message : Sensor.Message)
    (link : LinkName) :
    ∃ session : Session,
      (gateway.dispatchSensor circumstances address message link).progress.holding address =
        ((Progress.start gateway).holding address).follow config false
          (session.take config (sensorTurn circumstances address message link)) := by
  rw [holding_dispatchSensor h hforeign address message link, if_pos address.same_self]
  cases hfound : ((Progress.start gateway).holding address).session with
  | some session => exact ⟨session, Holding.take_of_some hfound _⟩
  | none => exact ⟨_, Holding.take_newcomer hfound rfl⟩

/-- A coherent gateway whose broker link fails has nothing left of what went on. -/
theorem Coherent.breaks_off (h : gateway.Coherent) (hforeign : gateway.isOwn address = false)
    (hfails : ((gateway.dispatchSensor circumstances address message
      link).progress.linkUses address).any (·.fails) = true) :
    (gateway.dispatchSensor circumstances address message link).progress.gateway.Emptied address ∧
      (gateway.dispatchSensor circumstances address message link).progress.told address =
        Session.farewell message := by
  have htidy : Tidy gateway.config gateway := ⟨rfl, h.nodup, h.foreign⟩
  let handled := gateway.dispatchSensor circumstances address message link
  have hok : (gateway.dispatch circumstances ⟨some address, .sensor message link⟩).result =
      .ok .continue := result_dispatch gateway circumstances hforeign (.sensor message link)
  have hafter : handled.progress.gateway.Coherent := coherent_dispatch rfl hok h
  have hown : handled.progress.gateway.isOwn address = false := by
    rw [isOwn, (htidy.dispatchSensor circumstances address message link).config]
    exact hforeign
  obtain ⟨session, hholding⟩ := holding_heard htidy circumstances hforeign message link
  let t := session.take gateway.config (sensorTurn circumstances address message link)
  have hsession : handled.progress.gateway.session? address = some t.session :=
    congrArg Holding.session hholding
  have hdealings : handled.progress.dealings address = t.effects.filter (·.usesLink) :=
    congrArg Holding.dealings hholding
  have huses : handled.progress.linkUses address = t.linkUses := by
    rw [Progress.linkUses, hdealings]
    exact Holding.filterMap_use_filter t.effects
  have htold : handled.progress.told address = t.told := by
    rw [Progress.told, hdealings]
    exact Session.filterMap_told_filter t.effects
  have hbroken : t.BrokenOff (Session.farewell message) := by
    obtain ⟨use, hin, hfails⟩ := List.any_eq_true.mp hfails
    exact Session.take_brokenOff gateway.config rfl session (huses ▸ hin) hfails
  have htimers : handled.progress.gateway.timers.signalsAt address = [] := by
    rw [hafter.devices address hown, phaseAt_of_session? hsession, hbroken.phase]
    rfl
  have hmarks : t.session.ledger.marks = {} := by
    rw [Session.ledger_marks, hbroken.phase]
    rfl
  have hkept : t.session.ledger.kept = {} := by
    rw [Session.ledger_kept, hbroken.phase]
    rfl
  exact ⟨⟨⟨t.session, hsession, hbroken.closed, hmarks, hkept⟩, htimers⟩,
    htold.trans hbroken.told⟩

/-- If the broker link of a device does not take what comes of a message, nothing goes
on in the session any more and its link is closed. A device that was connected or
wanted to leave hears DISCONNECT once, and one that was to be connected hears
nothing. -/
theorem failure_breaks_off (hreach : Reachable config gateway) (queue : Queue)
    (circumstances : Circumstances) (address : Address) (hforeign : gateway.isOwn address = false)
    (message : Sensor.Message) (link : LinkName)
    (hfails : (({ gateway with queue }.dispatch circumstances
      ⟨some address, .sensor message link⟩).progress.linkUses address).any (·.fails) = true) :
    let after := ({ gateway with queue }.dispatch circumstances
      ⟨some address, .sensor message link⟩).progress
    after.gateway.Emptied address ∧
      after.told address = if message.mayConnect then [] else [.disconnect none] := by
  have hcoherent : Coherent { gateway with queue } := (reachable_coherent hreach).withQueue queue
  exact hcoherent.breaks_off hforeign hfails

/-- Broker links that can be opened but take no message. -/
def severed : Network where
  line := fun _ => { handover := { failure := some (.send "broken pipe") } }

/-- A device that is connected hears of the failure as it pings the broker, and one that
asks to be connected does not. -/
theorem failure_breaks_off_severed :
    ∃ (gateway connected : Gateway) (device : Address), Reachable {} gateway ∧
      Reachable {} connected ∧
      ({ gateway with queue := .empty }.dispatch ⟨0, severed⟩
        ⟨some device, .sensor (.connect
          { flags := {}, protocolId := 1, duration := 60, clientId := "d" })
            "udp:20000"⟩).progress.told device = [] ∧
      ({ connected with queue := .empty }.dispatch ⟨2, severed⟩
        ⟨some device, .sensor (.pingRequest none) "udp:20000"⟩).progress.told device =
          [.disconnect none] := by
  let device : Address := .plain ⟨.v4 10 0 0 7, 1234, 0⟩
  let request : Sensor.Connect := { flags := {}, protocolId := 1, duration := 60, clientId := "d" }
  have hcreated : Reachable {} _ := .create rfl
  have hasked := hcreated.handle .empty ⟨0, {}⟩
    ⟨some device, .sensor (.connect request) "udp:20000"⟩ rfl (by decide +kernel)
  have hconnected := hasked.handle .empty ⟨1, {}⟩
    ⟨some device, .broker (.connack Broker.Message.accepted)⟩ rfl (by decide +kernel)
  have hunheard := failure_breaks_off hcreated .empty ⟨0, severed⟩ device rfl
    (.connect request) "udp:20000" (by decide +kernel)
  have hheard := failure_breaks_off hconnected .empty ⟨2, severed⟩ device
    (by decide +kernel) (.pingRequest none) "udp:20000" (by decide +kernel)
  exact ⟨_, _, device, hcreated, hconnected, hunheard.2, hheard.2⟩

/-- So a device does not always hear that its broker link has failed. -/
theorem not_all_failures_told :
    ¬ ∀ (config : Config) (gateway : Gateway) (queue : Queue) (circumstances : Circumstances)
      (address : Address) (message : Sensor.Message) (link : LinkName),
      Reachable config gateway → gateway.isOwn address = false →
        (({ gateway with queue }.dispatch circumstances
          ⟨some address, .sensor message link⟩).progress.linkUses address).any (·.fails) = true →
          ({ gateway with queue }.dispatch circumstances
            ⟨some address, .sensor message link⟩).progress.told address = [.disconnect none] := by
  intro hall
  have htold := hall {} _ .empty ⟨0, severed⟩ (.plain ⟨.v4 10 0 0 7, 1234, 0⟩)
    (.connect { flags := {}, protocolId := 1, duration := 60, clientId := "d" }) "udp:20000"
    (.create rfl) rfl rfl
  cases htold

end Gateway

end SensorGateway
