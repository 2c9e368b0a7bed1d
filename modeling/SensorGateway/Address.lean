import SensorGateway.Endpoint

/-!
Who a message is from or for. A device is known by its id alone: the endpoint
it was last seen at and the envelope its frames arrive in only say how to reach
it, so that a device that moves keeps its session. A device that talks to the
gateway directly has no id of its own and goes by the bytes of its endpoint.
-/

namespace SensorGateway

/-- The envelope in which frames of a device arrive. -/
inductive Encapsulation where
  /-- Added by a forwarder, with a control byte of the forwarder. -/
  | forwarder (control : UInt8)
  | legacy
deriving DecidableEq

structure DeviceAddress where
  id : Bytes
  endpoint : Option Endpoint
  encapsulation : Option Encapsulation
deriving DecidableEq

inductive Address where
  | gateway (id : UInt8)
  | device (device : DeviceAddress)
deriving DecidableEq

/-- What makes two addresses the same. -/
inductive Identity where
  | gateway (id : UInt8)
  | device (id : Bytes)
deriving DecidableEq

namespace Identity

def text : Identity → String
  | gateway id => "gw[" ++ Hex.ofBytes [id] ++ "]"
  | device id => "dev[" ++ Hex.ofBytes id ++ "]"

end Identity

namespace Address

def identity : Address → Identity
  | gateway id => .gateway id
  | device address => .device address.id

/-- Whether two addresses stand for the same device or gateway. -/
def same (a b : Address) : Bool := a.identity == b.identity

/-- A device that talks to the gateway directly. -/
def plain (endpoint : Endpoint) : Address :=
  .device ⟨endpoint.bytes, some endpoint, none⟩

/-- A device behind something that wraps its frames. -/
def enveloped (id : Bytes) (endpoint : Endpoint) (encapsulation : Encapsulation) : Address :=
  .device ⟨id, some endpoint, some encapsulation⟩

def id : Address → Bytes
  | gateway id => [id]
  | device address => address.id

def endpoint : Address → Option Endpoint
  | gateway _ => none
  | device address => address.endpoint

def encapsulation : Address → Option Encapsulation
  | gateway _ => none
  | device address => address.encapsulation

def isGateway : Address → Bool
  | gateway _ => true
  | device _ => false

/-- Takes over how `seen` is to be reached, if `seen` tells it. -/
def refresh : Address → Address → Address
  | device mine, device seen =>
      match seen.endpoint with
      | none => .device mine
      | some _ =>
          .device { mine with endpoint := seen.endpoint, encapsulation := seen.encapsulation }
  | mine, _ => mine

def text (address : Address) : String := address.identity.text

theorem same_iff {a b : Address} : a.same b = true ↔ a.identity = b.identity := by
  simp [same]

@[simp] theorem same_self (a : Address) : a.same a = true := same_iff.mpr rfl

theorem same_comm (a b : Address) : a.same b = b.same a := Bool.beq_comm

/-- What is the same as one of two that are the same is the same as the other. -/
theorem same_congr {a b : Address} (h : a.same b = true) (c : Address) :
    c.same a = c.same b := by
  simp only [same, same_iff.mp h]

theorem same_congr_left {a b : Address} (h : a.same b = true) (c : Address) :
    a.same c = b.same c := by
  simp only [same, same_iff.mp h]

@[simp] theorem identity_refresh (mine seen : Address) :
    (mine.refresh seen).identity = mine.identity := by
  unfold refresh
  split
  · split <;> rfl
  · rfl

/-- A device that is seen where it was seen before is reached as before. -/
@[simp] theorem refresh_self (address : Address) : address.refresh address = address := by
  cases address with
  | gateway id => rfl
  | device device =>
    obtain ⟨id, endpoint, encapsulation⟩ := device
    cases endpoint <;> rfl

end Address

end SensorGateway
