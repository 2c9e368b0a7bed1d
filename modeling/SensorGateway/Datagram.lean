import SensorGateway.Address
import SensorGateway.CodecError

/-!
A datagram holds one sensor frame, as it is or in an envelope that names the
node it is from. The first two bytes tell which. A frame for a device is
wrapped the way the frames of the device arrive.
-/

namespace SensorGateway.Datagram

/-- The second byte of an envelope that a forwarder adds. -/
def forwarderMark : UInt8 := 0xFE

/-- Splits a datagram into the address of its device and the frame. -/
def unwrap (datagram : Bytes) (sender : Endpoint) : Except CodecError (Address × Bytes) :=
  match datagram with
  | first :: second :: rest =>
      if second = forwarderMark then
        let header := first.toNat
        match rest with
        | control :: content =>
            if header < 3 || datagram.length ≤ header then
              .error (.badLength "forwarder envelope" datagram.length)
            else
              let (id, frame) := content.splitAt (header - 3)
              .ok (.enveloped id sender (.forwarder control), frame)
        | [] => .error (.badLength "forwarder envelope" datagram.length)
      else if first = 0 then
        if rest.length ≤ second.toNat then
          .error (.badLength "legacy envelope" datagram.length)
        else
          let (id, frame) := rest.splitAt second.toNat
          .ok (.enveloped id sender .legacy, frame)
      else .ok (.plain sender, datagram)
  | _ => .error (.tooShort "datagram" datagram.length)

/-- The datagram that carries a frame to a device. The length of an envelope is
told by one byte, so that it is only right for ids as long as arrive. -/
def wrap (target : Address) (frame : Bytes) : Bytes :=
  match target.encapsulation with
  | some (.forwarder control) =>
      UInt8.ofNat (3 + target.id.length) :: forwarderMark :: control :: (target.id ++ frame)
  | some .legacy => 0 :: UInt8.ofNat target.id.length :: (target.id ++ frame)
  | none => frame

end SensorGateway.Datagram
