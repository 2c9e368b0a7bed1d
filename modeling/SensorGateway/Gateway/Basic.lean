import SensorGateway.Session.Signal
import SensorGateway.Timers
import SensorGateway.Uplink

/-!
The whole gateway: its uplink, one session per device, the timers and the queue.
What sessions and the uplink do to the rest of the gateway is carried out here,
and what happens on the links is noted down.
-/

namespace SensorGateway

structure Gateway where
  config : Config
  uplink : Uplink
  /-- In the order in which the devices were first heard; no two are for the
  same device. -/
  sessions : List Session
  timers : Timers
  queue : Queue

/-- The circumstances of one piece of work. -/
structure Circumstances where
  /-- The time in nanoseconds. -/
  now : Nat
  network : Network

/-- A gateway at work, and what has happened on the links so far. -/
structure Progress where
  gateway : Gateway
  events : List Event

namespace Gateway

/-- A gateway that has not done anything yet. -/
def create (config : Config) : Except GatewayError Gateway :=
  match config.validate with
  | .error problem => .error (.config problem)
  | .ok () =>
      .ok { config, uplink := {}, sessions := [], timers := .none, queue := .empty }

def put (gateway : Gateway) (envelope : Envelope) : Gateway :=
  { gateway with queue := gateway.queue.put envelope }

/-- The session of a device. -/
def session? (gateway : Gateway) (address : Address) : Option Session :=
  gateway.sessions.find? (·.address.same address)

/-- Puts a session in the place of the one of the same device. -/
def setSession (gateway : Gateway) (session : Session) : Gateway :=
  { gateway with
    sessions := gateway.sessions.map fun other =>
      if other.address.same session.address then session else other }

def removeSession (gateway : Gateway) (address : Address) : Gateway :=
  { gateway with sessions := gateway.sessions.filter fun session => !session.address.same address }

/-- What a session has to know for a step. -/
def sessionContext (gateway : Gateway) (circumstances : Circumstances) (address : Address) :
    Session.Context where
  config := gateway.config
  now := circumstances.now
  line := circumstances.network.line address.identity

/-- What the uplink has to know for a step. -/
def uplinkContext (gateway : Gateway) (circumstances : Circumstances) : Uplink.Context where
  config := gateway.config
  network := circumstances.network

/-- The timer that waits for an answer of a device. -/
def answerTimer (config : Config) (address : Address) (signal : Signal) : Timer where
  address := address
  signal := signal
  period := config.waitingTime * 1000

/-- The timer whose beat keeps the uplink alive. -/
def keepAliveTimer (config : Config) : Timer where
  address := config.gatewayAddress
  signal := .sendKeepAlive
  period := config.keepAlivePeriod * 1000

end Gateway

namespace Progress

def start (gateway : Gateway) : Progress := ⟨gateway, []⟩

def note (progress : Progress) (event : Event) : Progress :=
  { progress with events := progress.events ++ [event] }

def update (progress : Progress) (f : Gateway → Gateway) : Progress :=
  { progress with gateway := f progress.gateway }

def updateTimers (progress : Progress) (f : Timers → Timers) : Progress :=
  progress.update fun gateway => { gateway with timers := f gateway.timers }

/-- Carries out what a session of this address does. -/
def perform (network : Network) (address : Address) (progress : Progress)
    (effect : Session.Effect) : Progress :=
  match effect with
  | .broker use => progress.note (.broker address use)
  | .device link target message =>
      progress.note (.device link target message (network.sendDevice link target message))
  | .arm signal =>
      let timer := Gateway.answerTimer progress.gateway.config address signal
      progress.updateTimers fun timers => (timers.register timer).2
  | .disarm signal => progress.updateTimers fun timers => (timers.unregister address signal).2
  | .disarmAll => progress.updateTimers fun timers => (timers.unregisterAll address).2
  | .forGateway message link =>
      progress.update fun gateway =>
        gateway.put ⟨some gateway.config.gatewayAddress, .sensor message link⟩

def performAll (network : Network) (address : Address) (progress : Progress)
    (effects : List Session.Effect) : Progress :=
  effects.foldl (perform network address) progress

/-- Carries out what the uplink does. -/
def performUplink (progress : Progress) (effect : Uplink.Effect) : Progress :=
  match effect with
  | .event event => progress.note event
  | .keepAlive =>
      let timer := Gateway.keepAliveTimer progress.gateway.config
      progress.updateTimers (·.schedule timer)
  | .disarmAll =>
      let address := progress.gateway.config.gatewayAddress
      progress.updateTimers fun timers => (timers.unregisterAll address).2
  | .checkInactivity => progress.update (·.put ⟨none, .signal .checkInactivity⟩)

/-- Brings a session up to date and carries out what it does. -/
def stepSession (network : Network) (transition : Session.Transition) (progress : Progress) :
    Progress :=
  (progress.update (·.setSession transition.session)).performAll network
    transition.session.address transition.effects

/-- Has the uplink take a step and carries out what it does. -/
def stepUplink (context : Uplink.Context) (step : Uplink.Context → Uplink → Uplink.Outcome)
    (progress : Progress) : Progress × Except GatewayError Unit :=
  let (transition, result) := step context progress.gateway.uplink
  ((transition.effects.foldl performUplink
      (progress.update fun gateway => { gateway with uplink := transition.uplink })),
    result)

end Progress

end SensorGateway
