import SensorGateway.Gateway.Basic

/-!
How one envelope is handled. A message of a device goes to the session of the
device, which comes into being with the first one; a message of the broker goes
to the session or the uplink on whose connection it came; a signal goes to the
one it is for, or to everyone. Only the uplink can fail, and a failure stops the
gateway unless it comes from a signal for everyone.
-/

namespace SensorGateway.Gateway

/-- Whether the gateway goes on after an envelope. -/
inductive Flow where
  | continue
  | stop
deriving DecidableEq

/-- What handling an envelope leads to. -/
structure Outcome where
  progress : Progress
  result : Except GatewayError Flow

/-- Whether an address is the one of this gateway. -/
def isOwn (gateway : Gateway) (address : Address) : Bool :=
  address.same gateway.config.gatewayAddress

/-- Goes on unless the uplink failed. -/
def Outcome.ofUplink (step : Progress × Except GatewayError Unit) : Outcome :=
  ⟨step.1, step.2.map fun _ => .continue⟩

/-- Goes on in any case. -/
def Outcome.proceed (progress : Progress) : Outcome := ⟨progress, .ok .continue⟩

/-- A message of a device. A device that was never heard gets a session. -/
def dispatchSensor (circumstances : Circumstances) (address : Address) (message : Sensor.Message)
    (link : LinkName) (gateway : Gateway) : Outcome :=
  let progress := Progress.start gateway
  if gateway.isOwn address then
    .ofUplink (progress.stepUplink (gateway.uplinkContext circumstances)
      fun context => Uplink.onSensor context message)
  else
    let context := gateway.sessionContext circumstances address
    match gateway.session? address with
    | some session =>
        let transition :=
          Session.onSensor context message link
            { session with address := session.address.refresh address }
        .proceed (progress.stepSession circumstances.network transition)
    | none =>
        let session := Session.fresh context address
        let known := { gateway with sessions := gateway.sessions ++ [session] }
        .proceed ((Progress.start known).stepSession circumstances.network
          (Session.onSensor context message link session))

/-- A message of the broker. -/
def dispatchBroker (circumstances : Circumstances) (address : Address) (message : Broker.Message)
    (gateway : Gateway) : Outcome :=
  let progress := Progress.start gateway
  if gateway.isOwn address then
    .ofUplink (progress.stepUplink (gateway.uplinkContext circumstances)
      fun context => Uplink.onBroker context message)
  else
    match gateway.session? address with
    | some session =>
        let context := gateway.sessionContext circumstances address
        .proceed (progress.stepSession circumstances.network
          (Session.onBroker context message session))
    | none => .proceed progress

/-- Has one session take a signal, which may end it. -/
def signalSession (circumstances : Circumstances) (signal : Signal) (progress : Progress)
    (session : Session) : Progress :=
  let context := progress.gateway.sessionContext circumstances session.address
  let transition := Session.onSignal context signal session
  let stepped := progress.stepSession circumstances.network transition
  if session.endsAt context signal then stepped.update (·.removeSession session.address)
  else stepped

/-- A signal for one address. -/
def dispatchSignal (circumstances : Circumstances) (address : Address) (signal : Signal)
    (gateway : Gateway) : Outcome :=
  let progress := Progress.start gateway
  if gateway.isOwn address then
    .ofUplink (progress.stepUplink (gateway.uplinkContext circumstances)
      fun context => Uplink.onSignal context signal)
  else
    match gateway.session? address with
    | some session => .proceed (signalSession circumstances signal progress session)
    | none => .proceed progress

/-- Has every session take a signal, in their order. -/
def signalSessions (circumstances : Circumstances) (signal : Signal) (progress : Progress) :
    Progress :=
  progress.gateway.sessions.foldl (signalSession circumstances signal) progress

/-- Ends everything: the uplink, the sessions, and then all timers. -/
def shutDownAll (circumstances : Circumstances) (progress : Progress) : Progress :=
  let context := progress.gateway.uplinkContext circumstances
  let (progress, _) := progress.stepUplink context fun context => Uplink.onSignal context .shutDown
  (signalSessions circumstances .shutDown progress).updateTimers fun timers =>
    (timers.cancel fun _ => true).2

/-- A signal for everyone. What goes wrong with the uplink is let pass. -/
def broadcastSignal (circumstances : Circumstances) (signal : Signal) (gateway : Gateway) :
    Outcome :=
  let progress := Progress.start gateway
  if signal = .shutDown then ⟨shutDownAll circumstances progress, .ok .stop⟩
  else
    let (progress, _) := progress.stepUplink (gateway.uplinkContext circumstances)
      fun context => Uplink.onSignal context signal
    .proceed (signalSessions circumstances signal progress)

/-- Whether the program panics over an envelope. A session takes note of the time
before it looks at a message, and there has to be a deadline for it then. -/
def panicsOver (circumstances : Circumstances) (envelope : Envelope) (gateway : Gateway) : Bool :=
  match envelope.payload, envelope.address with
  | .sensor .., some address =>
      !gateway.isOwn address && !(gateway.sessionContext circumstances address).hasDeadline
  | .broker _, some address =>
      !gateway.isOwn address && (gateway.session? address).isSome &&
        !(gateway.sessionContext circumstances address).hasDeadline
  | _, _ => false

/-- Handles one envelope over which the program does not panic. A message without
an address is dropped. -/
def dispatch (circumstances : Circumstances) (envelope : Envelope) (gateway : Gateway) : Outcome :=
  match envelope.payload, envelope.address with
  | .sensor message link, some address =>
      gateway.dispatchSensor circumstances address message link
  | .broker message, some address => gateway.dispatchBroker circumstances address message
  | .signal signal, some address => gateway.dispatchSignal circumstances address signal
  | .signal signal, none => gateway.broadcastSignal circumstances signal
  | _, none => .proceed (Progress.start gateway)

/-- Handles the envelope at the front of the queue, if there is one. -/
def dispatchNext (circumstances : Circumstances) (gateway : Gateway) : Option Outcome :=
  gateway.queue.take?.map fun (envelope, queue) =>
    { gateway with queue }.dispatch circumstances envelope

/-- Whether the program panics over the envelope at the front of the queue. -/
def panicsNext (circumstances : Circumstances) (gateway : Gateway) : Bool :=
  gateway.queue.take?.any fun (envelope, _) => gateway.panicsOver circumstances envelope

end SensorGateway.Gateway
