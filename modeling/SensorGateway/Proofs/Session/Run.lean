import SensorGateway.Session.Signal

/-!
Sessions over many steps. A session is told one thing at a time, at some time
and while its broker link behaves in some way; a run is any list of such turns,
and nothing is asked of their order or of the links.
-/

namespace SensorGateway

/-- The device that examples are about. -/
def meter : Address := .plain ⟨.v4 10 0 0 7, 1234, 0⟩

namespace Session

/-- What a session may be told. A message of the device comes with the address
under which the device was seen. -/
inductive Input where
  | sensor (seen : Address) (message : Sensor.Message) (link : LinkName)
  | broker (message : Broker.Message)
  | signal (signal : Signal)

structure Turn where
  now : Nat
  line : Broker.Line
  input : Input

def Turn.context (config : Config) (turn : Turn) : Context where
  config := config
  now := turn.now
  line := turn.line

def take (config : Config) (turn : Turn) (session : Session) : Transition :=
  match turn.input with
  | .sensor seen message link =>
      onSensor (turn.context config) message link
        { session with address := session.address.refresh seen }
  | .broker message => onBroker (turn.context config) message session
  | .signal signal => onSignal (turn.context config) signal session

/-- Where a session is after some turns, and what it did in them. -/
def run (config : Config) : List Turn → Session → Transition
  | [], session => .start session
  | turn :: turns, session =>
      let first := session.take config turn
      let rest := run config turns first.session
      ⟨rest.session, first.effects ++ rest.effects⟩

/-- The session of a device that was first heard at this time. -/
def begin (config : Config) (address : Address) (now : Nat) : Session :=
  fresh { config, now, line := {} } address

end Session

end SensorGateway
