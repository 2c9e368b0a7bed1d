import SensorGateway.Datagram
import SensorGateway.Queue
import SensorGateway.Sensor.Frame

/-!
What comes in over a device link. Every datagram that holds a readable frame of
an allowed length becomes an envelope for the queue; nothing else has any
effect, except that reading ends when the link is closed.
-/

namespace SensorGateway

/-- What waiting for a datagram leads to. -/
inductive Reception where
  | datagram (sender : Endpoint) (bytes : Bytes)
  /-- Nothing has come. -/
  | idle
  /-- Waiting failed, but the link is still open. -/
  | failed
  /-- The link is closed. -/
  | closed
deriving DecidableEq

namespace Intake

/-- The message in a datagram, if its frame is as long as allowed and can be
read. -/
def envelope? (minLength maxLength : Nat) (link : LinkName) (sender : Endpoint) (bytes : Bytes) :
    Option Envelope :=
  match Datagram.unwrap bytes sender with
  | .error _ => none
  | .ok (address, frame) =>
      if frame.length < minLength ∨ frame.length > maxLength then none
      else
        match Sensor.Message.decode frame with
        | .error _ => none
        | .ok message => some ⟨some address, .sensor message link⟩

/-- The envelopes that come in over a link until it is closed. -/
def envelopes (minLength maxLength : Nat) (link : LinkName) : List Reception → List Envelope
  | [] => []
  | .closed :: _ => []
  | .datagram sender bytes :: rest =>
      (envelope? minLength maxLength link sender bytes).toList ++
        envelopes minLength maxLength link rest
  | .idle :: rest | .failed :: rest => envelopes minLength maxLength link rest

end Intake

end SensorGateway
