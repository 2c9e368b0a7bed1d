import SensorGateway.Session.Broker

/-!
What a session does with a signal: a timer that went off, the loss of its broker
link, a look at how long the device has been silent, the end of the gateway. A
signal never makes a device count as alive.
-/

namespace SensorGateway.Session

namespace Transition

/-- The device has not told the topic of its will. -/
def willTopicTimeout (context : Context) (transition : Transition) : Transition :=
  match transition.session.phase with
  | .awaitingWillTopic request tries =>
      if tries.toNat > context.config.maxRetries then
        (transition.enter .idle).emit (.disarm .willTopicTimeout)
      else
        (transition.toDevice .willTopicRequest).enter (.awaitingWillTopic request (tries + 1))
  | _ => transition

/-- The device has not told the message of its will. -/
def willMessageTimeout (context : Context) (transition : Transition) : Transition :=
  match transition.session.phase with
  | .awaitingWillMessage request will tries =>
      if tries.toNat > context.config.maxRetries then
        (transition.enter .idle).emit (.disarm .willMessageTimeout)
      else
        (transition.toDevice .willMessageRequest).enter
          (.awaitingWillMessage request will (tries + 1))
  | _ => transition

/-- The device has not answered the offer of a topic id. It is sent again under
a new message id, so that a late answer to the old one does not count. -/
def regackTimeout (context : Context) (transition : Transition) : Transition :=
  match transition.session.phase with
  | .connected exchanges =>
      match exchanges.registration with
      | none => transition
      | some registration =>
          if registration.tries.toNat > context.config.maxRetries then
            transition.endRegistration exchanges
          else
            let (msgId, transition) := transition.takeMsgId
            let registration := { registration with msgId, tries := registration.tries + 1 }
            (transition.toDevice (offer registration)).enter
              (.connected { exchanges with registration := some registration })
  | _ => transition

/-- Tells the broker, if anything is going on, and lets go of everything outside
the session. -/
def shutDown (context : Context) (transition : Transition) : Transition :=
  let busy := transition.session.phase.isConnected || transition.session.phase.isEstablishing
  let transition :=
    if busy && transition.session.brokerOpen then
      (transition.sendBroker context.line .disconnect).2
    else transition
  transition.closeBroker.emit .disarmAll

/-- Deals with a signal that leaves the session where it is. -/
def signal (context : Context) (signal : Signal) (transition : Transition) : Transition :=
  match signal with
  | .connectionLost => transition.connectionLost
  | .willTopicTimeout => transition.willTopicTimeout context
  | .willMessageTimeout => transition.willMessageTimeout context
  | .regackTimeout => transition.regackTimeout context
  | .shutDown => transition.shutDown context
  | .checkInactivity | .sendKeepAlive => transition

end Transition

/-- Whether the device has been silent for too long. -/
def isExpired (context : Context) (session : Session) : Bool :=
  session.deadline < context.now

/-- Whether a signal ends a session. -/
def endsAt (context : Context) (signal : Signal) (session : Session) : Bool :=
  signal == .checkInactivity && session.isExpired context

/-- Takes a signal. A session that it ends lets go of its broker link and its
timers without a word. -/
def onSignal (context : Context) (signal : Signal) (session : Session) : Transition :=
  let transition := Transition.start session
  if session.endsAt context signal then transition.closeBroker.emit .disarmAll
  else transition.signal context signal

end SensorGateway.Session
