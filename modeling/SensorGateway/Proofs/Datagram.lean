import SensorGateway.Datagram
import SensorGateway.Sensor.Frame

/-!
Splitting a datagram and wrapping a frame are inverse. `Layout` says what the
three kinds of datagram look like without going through the tests that tell them
apart: the reader takes a datagram apart in a certain way exactly if it is laid
out that way. An id that has arrived is short enough for the byte that tells its
length, so the same envelope can be written again, and a sensor frame begins with
two bytes that no envelope begins with.
-/

namespace SensorGateway

namespace Sensor.Message

/-- No type of message has the byte that marks the envelope of a forwarder. -/
theorem byte_ne_forwarderMark (type : MessageType) : type.byte ≠ Datagram.forwarderMark := by
  cases type <;> decide

/-- There is a frame for a message of a device as long as one byte can tell its length. -/
theorem encode_eq_ok {message : Message} {frame : Bytes} :
    message.encode = .ok frame ↔
      message.body.length + 2 ≤ maxFrameLength ∧
        frame = UInt8.ofNat (message.body.length + 2) :: message.type.byte :: message.body := by
  simp only [encode]
  split
  next hlong =>
    refine ⟨nofun, fun ⟨hfits, _⟩ => ?_⟩
    exact absurd hlong (Nat.not_lt.mpr hfits)
  next hfits => simp only [Except.ok.injEq, Nat.not_lt.mp hfits, true_and, eq_comm]

end Sensor.Message

namespace Datagram

/-! ### The three layouts -/

/-- The first two bytes do not announce an envelope. -/
inductive Bare : Bytes → Prop where
  | intro {first second : UInt8} {rest : Bytes} (hfirst : first ≠ 0)
      (hsecond : second ≠ forwarderMark) : Bare (first :: second :: rest)

theorem Bare.ne_nil {frame : Bytes} (h : Bare frame) : frame ≠ [] := by
  cases h
  exact nofun

/-- What the length byte of an envelope counts: the whole envelope of a
forwarder, only the id in the other one. -/
def lengthTold (id : Bytes) : Encapsulation → Nat
  | .forwarder _ => 3 + id.length
  | .legacy => id.length

/-- A datagram from `sender` that holds `frame` for a device. -/
inductive Layout (sender : Endpoint) : Bytes → Address → Bytes → Prop where
  | plain {frame : Bytes} (hbare : Bare frame) : Layout sender frame (.plain sender) frame
  | forwarder {id frame : Bytes} {control : UInt8} (hid : 3 + id.length ≤ 255)
      (hframe : frame ≠ []) :
      Layout sender (UInt8.ofNat (3 + id.length) :: forwarderMark :: control :: (id ++ frame))
        (.enveloped id sender (.forwarder control)) frame
  | legacy {id frame : Bytes} (hid : id.length ≤ 255)
      (hunmarked : UInt8.ofNat id.length ≠ forwarderMark) (hframe : frame ≠ []) :
      Layout sender (0 :: UInt8.ofNat id.length :: (id ++ frame)) (.enveloped id sender .legacy)
        frame

theorem toNat_lengthByte {length : Nat} (h : length ≤ 255) :
    (UInt8.ofNat length).toNat = length := by
  rw [UInt8.toNat_ofNat']
  omega

/-- What the reader takes for an envelope of a forwarder is laid out as one. -/
theorem layout_forwarder {sender : Endpoint} {first control : UInt8} {content : Bytes}
    (hleast : 3 ≤ first.toNat) (hframe : first.toNat < content.length + 3) :
    Layout sender (first :: forwarderMark :: control :: content)
      (.enveloped (content.take (first.toNat - 3)) sender (.forwarder control))
      (content.drop (first.toNat - 3)) := by
  have hmost := first.toNat_lt
  have hlength : 3 + (content.take (first.toNat - 3)).length = first.toNat := by
    rw [List.length_take]
    omega
  have hrest : content.drop (first.toNat - 3) ≠ [] := by
    rw [ne_eq, List.drop_eq_nil_iff]
    omega
  have hid : 3 + (content.take (first.toNat - 3)).length ≤ 255 := by omega
  have hlaid := @Layout.forwarder sender _ _ control hid hrest
  rwa [hlength, UInt8.ofNat_toNat, List.take_append_drop] at hlaid

/-- What the reader takes for the other envelope is laid out as one. -/
theorem layout_legacy {sender : Endpoint} {second : UInt8} {rest : Bytes}
    (hunmarked : second ≠ forwarderMark) (hframe : second.toNat < rest.length) :
    Layout sender (0 :: second :: rest) (.enveloped (rest.take second.toNat) sender .legacy)
      (rest.drop second.toNat) := by
  have hmost := second.toNat_lt
  have hlength : (rest.take second.toNat).length = second.toNat := by
    rw [List.length_take]
    omega
  have hmarked : UInt8.ofNat (rest.take second.toNat).length ≠ forwarderMark := by
    rwa [hlength, UInt8.ofNat_toNat]
  have hcontent : rest.drop second.toNat ≠ [] := by
    rw [ne_eq, List.drop_eq_nil_iff]
    omega
  have hid : (rest.take second.toNat).length ≤ 255 := by omega
  have hlaid := @Layout.legacy sender _ _ hid hmarked hcontent
  rwa [hlength, UInt8.ofNat_toNat, List.take_append_drop] at hlaid

/-- A datagram that is taken apart has one of the three layouts. -/
theorem layout_of_unwrap {sender : Endpoint} {datagram frame : Bytes} {address : Address}
    (h : unwrap datagram sender = .ok (address, frame)) :
    Layout sender datagram address frame := by
  unfold unwrap at h
  split at h
  next first second rest =>
    split at h
    next hmark =>
      subst hmark
      dsimp only at h
      split at h
      next control content =>
        split at h
        · contradiction
        next hlength =>
          simp only [Bool.or_eq_true, decide_eq_true_eq, not_or, Nat.not_lt, List.length_cons,
            Nat.not_le] at hlength
          simp only [List.splitAt_eq, Except.ok.injEq, Prod.mk.injEq] at h
          obtain ⟨rfl, rfl⟩ := h
          exact layout_forwarder hlength.1 hlength.2
      · contradiction
    next hunmarked =>
      split at h
      next hzero =>
        subst hzero
        split at h
        · contradiction
        next hlength =>
          simp only [List.splitAt_eq, Except.ok.injEq, Prod.mk.injEq] at h
          obtain ⟨rfl, rfl⟩ := h
          exact layout_legacy hunmarked (Nat.not_le.mp hlength)
      next hfirst =>
        simp only [Except.ok.injEq, Prod.mk.injEq] at h
        obtain ⟨rfl, rfl⟩ := h
        exact .plain (.intro hfirst hunmarked)
  · contradiction

/-- Whatever has a layout is taken apart into its address and its frame. -/
theorem unwrap_of_layout {sender : Endpoint} {datagram frame : Bytes} {address : Address}
    (h : Layout sender datagram address frame) : unwrap datagram sender = .ok (address, frame) := by
  cases h with
  | plain hbare =>
    obtain ⟨hfirst, hsecond⟩ := hbare
    simp only [unwrap, if_neg hsecond, if_neg hfirst]
  | @forwarder id frame control hid hframe =>
    have hpos := List.length_pos_iff.mpr hframe
    have hlength : ¬ (3 + id.length < 3 ∨
        (UInt8.ofNat (3 + id.length) :: forwarderMark :: control :: (id ++ frame)).length ≤
          3 + id.length) := by
      simp only [List.length_cons, List.length_append]
      omega
    have hid' : 3 + id.length - 3 = id.length := Nat.add_sub_cancel_left ..
    simp only [unwrap, if_true, toNat_lengthByte hid, Bool.or_eq_true, decide_eq_true_eq,
      if_neg hlength, hid', List.splitAt_eq, List.take_left, List.drop_left]
  | @legacy id frame hid hunmarked hframe =>
    have hpos := List.length_pos_iff.mpr hframe
    have hlength : ¬ (id ++ frame).length ≤ id.length := by
      rw [List.length_append]
      omega
    simp only [unwrap, if_neg hunmarked, if_true, toNat_lengthByte hid, if_neg hlength,
      List.splitAt_eq, List.take_left, List.drop_left]

/-- A datagram is taken apart the way it is laid out. -/
theorem unwrap_eq_ok {sender : Endpoint} {datagram frame : Bytes} {address : Address} :
    unwrap datagram sender = .ok (address, frame) ↔ Layout sender datagram address frame :=
  ⟨layout_of_unwrap, unwrap_of_layout⟩

/-! ### What an address keeps of its envelope -/

namespace Layout

variable {sender : Endpoint} {datagram frame : Bytes} {address : Address}

theorem wrap_eq (h : Layout sender datagram address frame) : wrap address frame = datagram := by
  cases h <;> rfl

theorem endpoint_eq (h : Layout sender datagram address frame) :
    address.endpoint = some sender := by
  cases h <;> rfl

/-- The length byte is the length. -/
theorem lengthTold_fits (h : Layout sender datagram address frame) {envelope : Encapsulation}
    (henvelope : address.encapsulation = some envelope) :
    lengthTold address.id envelope ≤ 255 := by
  cases h with
  | plain hbare => cases henvelope
  | forwarder hid hframe =>
    cases henvelope
    exact hid
  | legacy hid hunmarked hframe =>
    cases henvelope
    exact hid

/-- The envelope that one frame came in holds any other that announces no
envelope itself. -/
theorem rewrap (h : Layout sender datagram address frame) {other : Bytes} (hbare : Bare other) :
    Layout sender (wrap address other) address other := by
  have hother : other ≠ [] := hbare.ne_nil
  cases h with
  | plain _ => exact .plain hbare
  | forwarder hid _ => exact .forwarder hid hother
  | legacy hid hunmarked _ => exact .legacy hid hunmarked hother

end Layout

/-- The length byte of a frame is not 0, and its type byte is not the mark. -/
theorem bare_of_encode {message : Sensor.Message} {frame : Bytes}
    (h : message.encode = .ok frame) : Bare frame := by
  obtain ⟨hfits, rfl⟩ := Sensor.Message.encode_eq_ok.mp h
  refine .intro (fun hzero => ?_) (Sensor.Message.byte_ne_forwarderMark _)
  have htold := toNat_lengthByte hfits
  rw [hzero] at htold
  exact Nat.succ_ne_zero _ htold.symm

/-! ### Round trips -/

/-- A datagram that is accepted is written again byte by byte from what was read
of it, and the address that was read of it carries every frame there is: the
receiver of the new datagram reads the same address and the frame. No length byte
overflows on the way, and without an envelope a frame is always read as one that
has none. -/
theorem wrap_inverse {sender : Endpoint} {datagram frame : Bytes} {address : Address}
    (h : unwrap datagram sender = .ok (address, frame)) :
    wrap address frame = datagram ∧ address.endpoint = some sender ∧
      (∀ envelope, address.encapsulation = some envelope →
        (UInt8.ofNat (lengthTold address.id envelope)).toNat = lengthTold address.id envelope) ∧
      ∀ (message : Sensor.Message) written, message.encode = .ok written →
        unwrap (wrap address written) sender = .ok (address, written) ∧
          ∀ other, unwrap written other = .ok (.plain other, written) := by
  have hlaid := unwrap_eq_ok.mp h
  refine ⟨hlaid.wrap_eq, hlaid.endpoint_eq, ?_, ?_⟩
  · intro envelope henvelope
    exact toNat_lengthByte (hlaid.lengthTold_fits henvelope)
  · intro message written hwritten
    have hbare := bare_of_encode hwritten
    exact ⟨unwrap_eq_ok.mpr (hlaid.rewrap hbare), fun other => unwrap_eq_ok.mpr (.plain hbare)⟩

/-- A ping in the envelope of a forwarder, from a node with a one-byte id, and the
answer in the same envelope. -/
theorem wrap_inverse_forwarder :
    let sender : Endpoint := ⟨.v4 10 0 0 1, 5000, 0⟩
    let address : Address := .enveloped [7] sender (.forwarder 1)
    unwrap [4, 0xFE, 1, 7, 2, 0x16] sender = .ok (address, [2, 0x16]) ∧
      wrap address [2, 0x16] = [4, 0xFE, 1, 7, 2, 0x16] ∧
        unwrap [4, 0xFE, 1, 7, 2, 0x17] sender = .ok (address, [2, 0x17]) := by
  intro sender address
  have h : unwrap [4, 0xFE, 1, 7, 2, 0x16] sender = .ok (address, [2, 0x16]) := rfl
  obtain ⟨hwrap, -, -, hanswer⟩ := wrap_inverse h
  exact ⟨h, hwrap, (hanswer .pingResponse [2, 0x17] rfl).1⟩

end Datagram

end SensorGateway
