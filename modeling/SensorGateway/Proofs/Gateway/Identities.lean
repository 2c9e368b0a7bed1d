import SensorGateway.Proofs.Datagram
import SensorGateway.Proofs.Gateway.Isolation

/-!
Who is taken for whom. A device that talks to the gateway directly goes by the
bytes of its endpoint, and a node behind something that wraps its frames by the id
in the envelope. Both are bytes and nothing else tells them apart: two direct
devices differ if their endpoints do and two nodes if their ids do, but a node whose
id happens to be the bytes of an endpoint is the device at that endpoint. Whoever is
not taken for a device cannot change what the gateway has of it.
-/

namespace SensorGateway

/-! ### The bytes of an endpoint -/

theorem Word.bytes_inj {first second : UInt16} :
    Word.bytes first = Word.bytes second ↔ first = second := by
  refine ⟨fun h => ?_, congrArg Word.bytes⟩
  simp only [Word.bytes, List.cons.injEq, and_true] at h
  rw [← Word.join_bytes first, h.1, h.2, Word.join_bytes]

/-- Lists of as many words are the same if their bytes are. -/
theorem Word.flatMap_bytes_inj {first second : List UInt16}
    (hlength : first.length = second.length) :
    first.flatMap Word.bytes = second.flatMap Word.bytes ↔ first = second := by
  refine ⟨fun h => ?_, congrArg _⟩
  induction first generalizing second with
  | nil => exact (List.length_eq_zero_iff.mp hlength.symm).symm
  | cons word rest ih =>
    obtain ⟨word', rest', rfl⟩ := List.exists_cons_of_length_eq_add_one hlength.symm
    rw [List.flatMap_cons, List.flatMap_cons] at h
    obtain ⟨hword, hrest⟩ := List.append_inj h rfl
    rw [Word.bytes_inj.mp hword, ih (Nat.succ.inj hlength) hrest]

namespace IpAddress

/-- The version of an address is told by its length. -/
theorem length_bytes (ip : IpAddress) :
    ip.bytes.length = match ip with
      | v4 .. => 4
      | v6 _ => 16 := by
  cases ip with
  | v4 a b c d => rfl
  | v6 groups =>
    simp only [bytes, List.length_flatMap, Word.length_bytes, List.map_const',
      Vector.length_toList]
    rfl

/-- Bytes tell addresses apart, those of the two versions by their number. -/
theorem bytes_inj {first second : IpAddress} : first.bytes = second.bytes ↔ first = second := by
  refine ⟨fun h => ?_, congrArg bytes⟩
  have hlength := congrArg List.length h
  rw [length_bytes, length_bytes] at hlength
  cases first with
  | v4 a b c d =>
    cases second with
    | v4 a' b' c' d' =>
      simp only [bytes, List.cons.injEq, and_true] at h
      obtain ⟨rfl, rfl, rfl, rfl⟩ := h
      rfl
    | v6 groups => cases hlength
  | v6 groups =>
    cases second with
    | v4 a b c d => cases hlength
    | v6 groups' =>
      have hsame : groups.toList = groups'.toList :=
        (Word.flatMap_bytes_inj (by rw [Vector.length_toList, Vector.length_toList])).mp h
      rw [Vector.toList_inj.mp hsame]

end IpAddress

/-- The bytes of an endpoint tell its address and its port, and not its zone. -/
theorem Endpoint.bytes_inj {first second : Endpoint} :
    first.bytes = second.bytes ↔ first.ip = second.ip ∧ first.port = second.port := by
  unfold bytes
  constructor
  · intro h
    obtain ⟨hip, hport⟩ := List.append_inj' h rfl
    exact ⟨IpAddress.bytes_inj.mp hip, Word.bytes_inj.mp hport⟩
  · rintro ⟨hip, hport⟩
    rw [hip, hport]

/-! ### The sender of a datagram -/

namespace Datagram

/-- The id of the node that an envelope names. A datagram without an envelope names
none. -/
def nodeId? : Bytes → Option Bytes
  | first :: second :: rest =>
      if second = forwarderMark then some ((rest.drop 1).take (first.toNat - 3))
      else if first = 0 then some (rest.take second.toNat)
      else none
  | _ => none

variable {sender sender' : Endpoint} {datagram datagram' frame frame' : Bytes}
variable {address address' : Address}

def senderKey (sender : Endpoint) (datagram : Bytes) : Bytes :=
  (nodeId? datagram).getD sender.bytes

/-- Whatever its layout, a datagram goes by the key of its sender. -/
theorem Layout.identity_eq (h : Layout sender datagram address frame) :
    address.identity = .device (senderKey sender datagram) := by
  cases h with
  | plain hbare =>
    obtain ⟨hfirst, hsecond⟩ := hbare
    simp only [senderKey, nodeId?, if_neg hsecond, if_neg hfirst]
    rfl
  | @forwarder id frame control hid hframe =>
    have hid' : 3 + id.length - 3 = id.length := Nat.add_sub_cancel_left ..
    simp only [senderKey, nodeId?, if_true, toNat_lengthByte hid, hid', List.drop_one,
      List.tail_cons, List.take_left]
    rfl
  | @legacy id frame hid hunmarked hframe =>
    simp only [senderKey, nodeId?, if_neg hunmarked, if_true, toNat_lengthByte hid, List.take_left]
    rfl

/-- Two senders are the same if they go by the same bytes. -/
theorem same_iff_senderKey (h : unwrap datagram sender = .ok (address, frame))
    (h' : unwrap datagram' sender' = .ok (address', frame')) :
    address.same address' = true ↔ senderKey sender datagram = senderKey sender' datagram' := by
  rw [Address.same_iff, (layout_of_unwrap h).identity_eq, (layout_of_unwrap h').identity_eq]
  exact ⟨Identity.device.inj, congrArg _⟩

/-- Whether two datagrams are from one device: both are bare and from one address and
port, or both are wrapped and name one node, or only one is wrapped and names a node
whose id is the bytes of the endpoint of the other. -/
def FromOneDevice (sender sender' : Endpoint) (datagram datagram' : Bytes) : Prop :=
  match nodeId? datagram, nodeId? datagram' with
  | none, none => sender.ip = sender'.ip ∧ sender.port = sender'.port
  | some id, some id' => id = id'
  | none, some id => id = sender.bytes
  | some id, none => id = sender'.bytes

/-- Two datagrams have the same key just where they are from one device. -/
theorem senderKey_eq_iff :
    senderKey sender datagram = senderKey sender' datagram' ↔
      FromOneDevice sender sender' datagram datagram' := by
  unfold senderKey FromOneDevice
  cases nodeId? datagram with
  | none =>
    cases nodeId? datagram' with
    | none => exact Endpoint.bytes_inj
    | some id => exact eq_comm
  | some id =>
    cases nodeId? datagram' with
    | none => exact Iff.rfl
    | some id' => exact Iff.rfl

instance : Decidable (FromOneDevice sender sender' datagram datagram') :=
  decidable_of_iff _ senderKey_eq_iff

end Datagram

/-! ### What a device cannot do to another -/

namespace Gateway

open Datagram (unwrap nodeId? FromOneDevice)

variable {config : Config} {progress : Progress} {address other : Address}

/-- What a gateway has of a device depends on who the device is and not on where
it is. -/
theorem holding_congr (progress : Progress) (h : address.same other = true) :
    progress.holding address = progress.holding other := by
  unfold Progress.holding
  congr 1
  · exact session?_congr h
  · unfold Timers.timersAt
    rw [Timers.tasksAt_congr h]
  · unfold Progress.dealings
    congr 1
    funext event
    cases event with
    | broker owner use => simp only [Event.effectAt?, Address.same_congr h]
    | device link target message result => simp only [Event.effectAt?, Address.same_congr h]
    | _ => rfl

/-- An envelope for one device leaves what there is of any other as it was. -/
theorem Trace.holding_dispatch_other {handled : List Handling}
    (htrace : Trace config handled progress) (hother : address.same other = false)
    (hforeign : other.same config.gatewayAddress = false) (circumstances : Circumstances)
    (payload : Payload) :
    ((progress.gateway.dispatch circumstances ⟨some address, payload⟩).progress.after
      progress.events).holding other = progress.holding other := by
  have hturn : Handling.turnFor? other ⟨circumstances, ⟨some address, payload⟩⟩ = none := by
    cases payload <;> simp [Handling.turnFor?, hother]
  have hgoes : Handling.endsAll ⟨circumstances, ⟨some address, payload⟩⟩ = false := rfl
  have hhandled := holding_dispatch htrace.tidy hforeign hgoes
  rw [hturn] at hhandled
  rw [Progress.holding_after, hhandled]
  exact Progress.holding_start progress other

/-- Two datagrams are taken for datagrams of one device exactly if both are bare and
from one address and port, or both name one node, or one is bare and the other names
a node whose id is the bytes of the endpoint of the first. Those who are one device
have one session, one link to the broker and the same timers; and whatever is told
of a device leaves all of this as it was for anyone else, so that nobody can be
answered in the place of another. -/
theorem one_device_iff {sender sender' : Endpoint} {datagram datagram' frame frame' : Bytes}
    {address address' : Address} (h : unwrap datagram sender = .ok (address, frame))
    (h' : unwrap datagram' sender' = .ok (address', frame')) :
    (address.same address' = true ↔ FromOneDevice sender sender' datagram datagram') ∧
      ∀ config handled progress, Trace config handled progress →
        (FromOneDevice sender sender' datagram datagram' →
          progress.holding address = progress.holding address') ∧
        (¬ FromOneDevice sender sender' datagram datagram' →
          ∀ circumstances payload,
            ((progress.gateway.dispatch circumstances ⟨some address, payload⟩).progress.after
              progress.events).holding address' = progress.holding address') := by
  have hiff := (Datagram.same_iff_senderKey h h').trans Datagram.senderKey_eq_iff
  refine ⟨hiff, fun config handled progress htrace => ⟨fun hone => ?_, fun htwo => ?_⟩⟩
  · exact holding_congr progress (hiff.mpr hone)
  · have hother : address.same address' = false := Bool.not_eq_true _ ▸ mt hiff.mp htwo
    have hforeign : address'.same config.gatewayAddress = false := by
      rw [← Bool.not_eq_true, Address.same_iff, (Datagram.layout_of_unwrap h').identity_eq]
      exact nofun
    exact htrace.holding_dispatch_other hother hforeign

/-- A node behind a forwarder does not come between the gateway and a direct device
with another id. -/
theorem one_device_iff_twoDevices :
    let direct : Endpoint := ⟨.v4 127 0 0 1, 5000, 0⟩
    let forwarder : Endpoint := ⟨.v4 127 0 0 2, 6000, 0⟩
    let node : Address := .enveloped [7] forwarder (.forwarder 0)
    unwrap [4, 0xFE, 0, 7, 2, 0x16] forwarder = .ok (node, [2, 0x16]) ∧
      unwrap [2, 0x16] direct = .ok (.plain direct, [2, 0x16]) ∧
      ¬ FromOneDevice forwarder direct [4, 0xFE, 0, 7, 2, 0x16] [2, 0x16] ∧
      ∃ progress, Trace {} [⟨⟨0, {}⟩, askWithWill (.plain direct)⟩] progress ∧
        (progress.holding (.plain direct)).session.isSome = true ∧
        ((progress.gateway.dispatch ⟨1, {}⟩
            ⟨some node, .sensor (.pingRequest none) "udp:20000"⟩).progress.after
          progress.events).holding (.plain direct) = progress.holding (.plain direct) := by
  intro direct forwarder node
  have hnode : unwrap [4, 0xFE, 0, 7, 2, 0x16] forwarder = .ok (node, [2, 0x16]) := rfl
  have hdirect : unwrap [2, 0x16] direct = .ok (.plain direct, [2, 0x16]) := rfl
  have htwo : ¬ FromOneDevice forwarder direct [4, 0xFE, 0, 7, 2, 0x16] [2, 0x16] := by decide
  have hcreated : Trace {} [] _ := .create rfl
  have hasked := hcreated.handle ⟨⟨0, {}⟩, askWithWill (.plain direct)⟩ rfl
  obtain ⟨-, hapart⟩ := one_device_iff hnode hdirect
  exact ⟨hnode, hdirect, htwo, _, hasked, by decide, (hapart _ _ _ hasked).2 htwo _ _⟩

/-- Not only bare datagrams from one address and port, or wrapped ones that name one
node, are taken for datagrams of one device: a node whose id is the bytes of an
endpoint is the device at that endpoint. -/
theorem not_only_one_device :
    ¬ ∀ (sender sender' : Endpoint) (datagram datagram' frame frame' : Bytes)
      (address address' : Address),
      unwrap datagram sender = .ok (address, frame) →
      unwrap datagram' sender' = .ok (address', frame') →
      address.same address' = true →
      (nodeId? datagram = none ∧ nodeId? datagram' = none ∧ sender.ip = sender'.ip ∧
        sender.port = sender'.port) ∨
      ∃ id, nodeId? datagram = some id ∧ nodeId? datagram' = some id := by
  intro hall
  have hone := hall ⟨.v4 127 0 0 1, 5000, 0⟩ ⟨.v4 127 0 0 2, 6000, 0⟩ [2, 0x16]
    [9, 0xFE, 0, 127, 0, 0, 1, 0x13, 0x88, 2, 0x16] _ _ _ _ rfl rfl (by decide)
  obtain ⟨-, hwrapped, -, -⟩ | ⟨id, hbare, -⟩ := hone
  · cases hwrapped
  · cases hbare

end Gateway

end SensorGateway
