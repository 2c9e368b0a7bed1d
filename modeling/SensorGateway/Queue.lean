import SensorGateway.Address
import SensorGateway.Broker.Message
import SensorGateway.Sensor.Message

/-!
The one queue through which all work reaches the gateway. Signals overtake
messages: a signal goes to the front of the queue and a message to its end, so
that a message is only handled when no signal waits, and messages are handled
in the order of their arrival. The queue is seen through `toList`: `toList_put`
says where an envelope goes, and `take?_map_toList` that the first one is taken.
-/

namespace SensorGateway

/-- What the parts of the gateway tell each other. -/
inductive Signal where
  | connectionLost
  | willTopicTimeout
  | willMessageTimeout
  | regackTimeout
  | checkInactivity
  | sendKeepAlive
  | shutDown
deriving DecidableEq

namespace Signal

def name : Signal → String
  | connectionLost => "CONNECTION_LOST"
  | willTopicTimeout => "WAITING_WILLTOPIC_TIMEOUT"
  | willMessageTimeout => "WAITING_WILLMSG_TIMEOUT"
  | regackTimeout => "WAITING_REGACK_TIMEOUT"
  | checkInactivity => "CHECK_INACTIVITY"
  | sendKeepAlive => "SEND_KEEP_ALIVE"
  | shutDown => "SHUT_DOWN"

end Signal

/-- A device link goes by its name. -/
abbrev LinkName := String

inductive Payload where
  /-- A message of a device, and the link over which it came. -/
  | sensor (message : Sensor.Message) (link : LinkName)
  | broker (message : Broker.Message)
  | signal (signal : Signal)
deriving DecidableEq

/-- One piece of work: a message together with the device or gateway that it is
from, or a signal together with the one that it is for. A signal without an
address is for everyone. -/
structure Envelope where
  address : Option Address
  payload : Payload
deriving DecidableEq

namespace Envelope

def isSignal (envelope : Envelope) : Bool :=
  match envelope.payload with
  | .signal _ => true
  | _ => false

end Envelope

/-- Kept in two parts, so that an envelope can be put at either end at once. -/
structure Queue where
  /-- What is handled first, in this order. -/
  front : List Envelope
  /-- The messages that are handled after that, the latest one first. -/
  back : List Envelope

namespace Queue

def empty : Queue := ⟨[], []⟩

/-- The envelopes in the order in which they are to be handled. -/
def toList (queue : Queue) : List Envelope :=
  queue.front ++ queue.back.reverse

def put (queue : Queue) (envelope : Envelope) : Queue :=
  if envelope.isSignal then { queue with front := envelope :: queue.front }
  else { queue with back := envelope :: queue.back }

/-- The envelope to be handled next, and the queue without it. -/
def take? (queue : Queue) : Option (Envelope × Queue) :=
  match queue.front with
  | envelope :: rest => some (envelope, { queue with front := rest })
  | [] =>
      match queue.back.reverse with
      | [] => none
      | envelope :: rest => some (envelope, ⟨rest, []⟩)

def size (queue : Queue) : Nat := queue.front.length + queue.back.length

def isEmpty (queue : Queue) : Bool := queue.front.isEmpty && queue.back.isEmpty

@[simp] theorem toList_empty : empty.toList = [] := rfl

theorem toList_put (queue : Queue) (envelope : Envelope) :
    (queue.put envelope).toList =
      if envelope.isSignal then envelope :: queue.toList else queue.toList ++ [envelope] := by
  unfold put toList
  split <;> simp

/-- What is taken is the first envelope, and the others stay in their order. -/
theorem take?_map_toList (queue : Queue) :
    queue.take?.map (fun taken => taken.1 :: taken.2.toList) =
      if queue.toList = [] then none else some queue.toList := by
  obtain ⟨front, back⟩ := queue
  cases front with
  | cons envelope rest => simp [take?, toList]
  | nil =>
      cases h : back.reverse with
      | nil => simp [take?, toList, h]
      | cons envelope rest => simp [take?, toList, h]

/-- What is taken is the first envelope, and the rest stays. -/
theorem toList_of_take? {queue rest : Queue} {envelope : Envelope}
    (h : queue.take? = some (envelope, rest)) : queue.toList = envelope :: rest.toList := by
  have htaken := queue.take?_map_toList
  rw [h, Option.map_some] at htaken
  split at htaken
  · cases htaken
  · exact (Option.some.inj htaken).symm

theorem toList_of_take?_eq_none {queue : Queue} (h : queue.take? = none) : queue.toList = [] := by
  have htaken := queue.take?_map_toList
  rw [h, Option.map_none] at htaken
  split at htaken
  · assumption
  · cases htaken

@[simp] theorem length_toList (queue : Queue) : queue.toList.length = queue.size := by
  simp [toList, size]

theorem isEmpty_eq (queue : Queue) : queue.isEmpty = queue.toList.isEmpty := by
  obtain ⟨front, back⟩ := queue
  cases front <;> simp [isEmpty, toList]

end Queue

end SensorGateway
