import Bitchat.Prelude.Bytes
import Bitchat.Prelude.Runtime

/-! The frame of the BLE wire protocol (`bluetooth/protocol.rs`): the message types and
their one-byte codes, the flag byte, and `ProtocolMessage` with its builders. -/

namespace Bitchat.Protocol

def protocolVersion : UInt8 := 1

def maxPayloadSize : Nat := 512

def maxTtl : UInt8 := 7

inductive MessageType
  | announce
  | message
  | deliveryAck
  | deliveryRequest
  | deliveryStatus
  | channelList
  | noiseInit
  | noiseResponse
  | noiseFinish
  | channelJoin
  | channelLeave
  | channelPassword
  | channelTransfer
  deriving DecidableEq, Repr

def MessageType.toByte : MessageType → UInt8
  | .announce => 0x01
  | .message => 0x04
  | .deliveryAck => 0x0A
  | .deliveryRequest => 0x0B
  | .deliveryStatus => 0x0C
  | .channelList => 0x08
  | .noiseInit => 0x10
  | .noiseResponse => 0x11
  | .noiseFinish => 0x12
  | .channelJoin => 0x14
  | .channelLeave => 0x15
  | .channelPassword => 0x16
  | .channelTransfer => 0x17

/-- `impl From<u8> for MessageType`: an unknown code falls back to `Message`. -/
def MessageType.ofByte (value : UInt8) : MessageType :=
  match value.toNat with
  | 0x01 => .announce
  | 0x04 => .message
  | 0x0A => .deliveryAck
  | 0x0B => .deliveryRequest
  | 0x0C => .deliveryStatus
  | 0x08 => .channelList
  | 0x10 => .noiseInit
  | 0x11 => .noiseResponse
  | 0x12 => .noiseFinish
  | 0x14 => .channelJoin
  | 0x15 => .channelLeave
  | 0x16 => .channelPassword
  | 0x17 => .channelTransfer
  | _ => .message

@[simp] theorem MessageType.ofByte_toByte (t : MessageType) : ofByte t.toByte = t := by
  cases t <;> rfl

@[ext] structure MessageFlags where
  hasRecipient : Bool
  hasSignature : Bool
  isCompressed : Bool
  isEncrypted : Bool
  reserved : UInt8
  deriving DecidableEq, Repr

namespace MessageFlags

def new : MessageFlags :=
  { hasRecipient := false, hasSignature := false, isCompressed := false, isEncrypted := false,
    reserved := 0 }

def toByte (f : MessageFlags) : UInt8 :=
  let flags : UInt8 := 0
  let flags := if f.hasRecipient then flags ||| 0x01 else flags
  let flags := if f.hasSignature then flags ||| 0x02 else flags
  let flags := if f.isCompressed then flags ||| 0x04 else flags
  let flags := if f.isEncrypted then flags ||| 0x08 else flags
  flags ||| ((f.reserved &&& 0x0F) <<< 4)

def fromByte (byte : UInt8) : MessageFlags where
  hasRecipient := (byte &&& 0x01) != 0
  hasSignature := (byte &&& 0x02) != 0
  isCompressed := (byte &&& 0x04) != 0
  isEncrypted := (byte &&& 0x08) != 0
  reserved := (byte >>> 4) &&& 0x0F

theorem toNat_toByte (f : MessageFlags) :
    f.toByte.toNat = f.hasRecipient.toNat + 2 * f.hasSignature.toNat +
      4 * f.isCompressed.toNat + 8 * f.isEncrypted.toNat + 16 * (f.reserved.toNat % 16) := by
  have high : ((f.reserved &&& 0x0F) <<< 4).toNat = 2 ^ 4 * (f.reserved.toNat % 16) := by
    rw [UInt8.toNat_shiftLeft_four, UInt8.and_toNat]
    have := Nat.and_pow_two_sub_one_eq_mod f.reserved.toNat 4
    simp only [Nat.reducePow, Nat.reduceSub] at this
    rw [show (0x0F : UInt8).toNat = 15 from rfl, this]
    omega
  obtain ⟨a, b, c, d, r⟩ := f
  simp only [toByte] at high ⊢
  rw [UInt8.toNat_or, high, Nat.or_comm, ← Nat.mul_add_lt_is_or]
  all_goals
    cases a <;> cases b <;> cases c <;> cases d <;>
      simp only [↓reduceIte, Bool.false_eq_true, UInt8.toNat_or, UInt8.toNat_zero,
        UInt8.reduceToNat, Nat.zero_or, Nat.reduceOr, Nat.reducePow, Nat.reduceLT, Bool.toNat_true,
        Bool.toNat_false] <;> omega

@[simp] theorem fromByte_hasRecipient (b : UInt8) :
    (fromByte b).hasRecipient = decide (b.toNat % 2 = 1) := by
  simpa using UInt8.and_ne_zero (b := b) (c := 0x01) (k := 0) rfl

@[simp] theorem fromByte_hasSignature (b : UInt8) :
    (fromByte b).hasSignature = decide (b.toNat / 2 % 2 = 1) := by
  simpa using UInt8.and_ne_zero (b := b) (c := 0x02) (k := 1) rfl

@[simp] theorem fromByte_isCompressed (b : UInt8) :
    (fromByte b).isCompressed = decide (b.toNat / 4 % 2 = 1) := by
  simpa using UInt8.and_ne_zero (b := b) (c := 0x04) (k := 2) rfl

@[simp] theorem fromByte_isEncrypted (b : UInt8) :
    (fromByte b).isEncrypted = decide (b.toNat / 8 % 2 = 1) := by
  simpa using UInt8.and_ne_zero (b := b) (c := 0x08) (k := 3) rfl

@[simp] theorem toNat_fromByte_reserved (b : UInt8) :
    (fromByte b).reserved.toNat = b.toNat / 16 := by
  have := b.toNat_lt_size
  have mask := Nat.and_pow_two_sub_one_eq_mod (b.toNat / 16) 4
  simp only [Nat.reducePow, Nat.reduceSub, UInt8.size] at mask this
  simp only [fromByte, UInt8.and_toNat, UInt8.toNat_shiftRight_four]
  rw [show (0x0F : UInt8).toNat = 15 from rfl, mask]
  omega

theorem fromByte_reserved_lt (b : UInt8) : (fromByte b).reserved < 16 := by
  have := b.toNat_lt_size
  simp only [UInt8.size] at this
  show (fromByte b).reserved.toNat < 16
  rw [toNat_fromByte_reserved]
  omega

theorem fromByte_toByte {f : MessageFlags} (h : f.reserved < 16) : fromByte f.toByte = f := by
  have hr : f.reserved.toNat < 16 := h
  have hv := toNat_toByte f
  obtain ⟨a, b, c, d, r⟩ := f
  dsimp only at hr hv
  have := a.toNat_le
  have := b.toNat_le
  have := c.toNat_le
  have := d.toNat_le
  apply MessageFlags.ext
  · rw [fromByte_hasRecipient]; cases a <;> simp at hv ⊢ <;> omega
  · rw [fromByte_hasSignature]; cases b <;> simp at hv ⊢ <;> omega
  · rw [fromByte_isCompressed]; cases c <;> simp at hv ⊢ <;> omega
  · rw [fromByte_isEncrypted]; cases d <;> simp at hv ⊢ <;> omega
  · apply UInt8.toNat.inj
    rw [toNat_fromByte_reserved]
    dsimp only
    omega

theorem toByte_fromByte (b : UInt8) : (fromByte b).toByte = b := by
  have := b.toNat_lt_size
  simp only [UInt8.size] at this
  apply UInt8.toNat.inj
  rw [toNat_toByte, fromByte_hasRecipient, fromByte_hasSignature, fromByte_isCompressed,
    fromByte_isEncrypted, toNat_fromByte_reserved, toNat_decide_mod_two, toNat_decide_mod_two,
    toNat_decide_mod_two, toNat_decide_mod_two]
  omega

end MessageFlags

structure ProtocolMessage where
  id : Uuid
  version : UInt8
  messageType : MessageType
  ttl : UInt8
  timestamp : UInt64
  flags : MessageFlags
  senderId : Mathlib.Vector UInt8 8
  recipientId : Option (Mathlib.Vector UInt8 8)
  payload : List UInt8
  signature : Option (Mathlib.Vector UInt8 64)
  deriving DecidableEq

namespace ProtocolMessage

/-- `ProtocolMessage::new`: `id` is the `Uuid::new_v4()` it mints and `now` the clock. -/
def new (id : Uuid) (now : Nat) (messageType : MessageType) (senderId : Mathlib.Vector UInt8 8)
    (payload : List UInt8) : ProtocolMessage :=
  { id, version := protocolVersion, messageType, ttl := maxTtl,
    timestamp := (asSecs now).toUInt64, flags := MessageFlags.new, senderId,
    recipientId := none, payload, signature := none }

def withRecipient (m : ProtocolMessage) (recipientId : Mathlib.Vector UInt8 8) : ProtocolMessage :=
  { m with recipientId := some recipientId, flags := { m.flags with hasRecipient := true } }

def withCompression (m : ProtocolMessage) (compressed : Bool) : ProtocolMessage :=
  { m with flags := { m.flags with isCompressed := compressed } }

def withEncryption (m : ProtocolMessage) (encrypted : Bool) : ProtocolMessage :=
  { m with flags := { m.flags with isEncrypted := encrypted } }

def withSignature (m : ProtocolMessage) (signature : Mathlib.Vector UInt8 64) : ProtocolMessage :=
  { m with signature := some signature, flags := { m.flags with hasSignature := true } }

def decreaseTtl (m : ProtocolMessage) : Option ProtocolMessage :=
  if m.ttl > 0 then some { m with ttl := m.ttl - 1 } else none

def calculateSize (m : ProtocolMessage) : Nat :=
  let size := 13
  let size := size + 8
  let size := if m.flags.hasRecipient then size + 8 else size
  let size := size + m.payload.length
  if m.flags.hasSignature then size + 64 else size

def fitsInBlePacket (m : ProtocolMessage) : Bool := m.calculateSize ≤ maxPayloadSize

/-- The shape every builder gives a message: the current version, a reserved nibble that fits
the flag byte, and flags that say which optional sections are present. -/
structure WellFormed (m : ProtocolMessage) : Prop where
  version_eq : m.version = protocolVersion
  reserved_lt : m.flags.reserved < 16
  hasRecipient_eq : m.flags.hasRecipient = m.recipientId.isSome
  hasSignature_eq : m.flags.hasSignature = m.signature.isSome

theorem wellFormed_new (id : Uuid) (now : Nat) (t : MessageType) (s : Mathlib.Vector UInt8 8)
    (p : List UInt8) : (new id now t s p).WellFormed :=
  ⟨rfl, show (0 : UInt8) < 16 by decide, rfl, rfl⟩

end ProtocolMessage

/-- `create_announce`; `payload` is the `serde_json` text `{"nickname", "timestamp"}`. -/
def createAnnounce (id : Uuid) (now : Nat) (senderId : Mathlib.Vector UInt8 8)
    (payload : List UInt8) : ProtocolMessage :=
  ProtocolMessage.new id now .announce senderId payload

/-- `create_message`; `payload` is the `serde_json` text `{"content", "channel", "timestamp"}`. -/
def createMessage (id : Uuid) (now : Nat) (senderId : Mathlib.Vector UInt8 8)
    (payload : List UInt8) (recipientId : Option (Mathlib.Vector UInt8 8)) : ProtocolMessage :=
  let message := ProtocolMessage.new id now .message senderId payload
  match recipientId with
  | some recipient => message.withRecipient recipient
  | none => message

/-- `create_delivery_ack`; `payload` is the `serde_json` text `{"message_id", "status",
"timestamp"}`. -/
def createDeliveryAck (id : Uuid) (now : Nat) (senderId : Mathlib.Vector UInt8 8)
    (payload : List UInt8) (recipientId : Mathlib.Vector UInt8 8) : ProtocolMessage :=
  (ProtocolMessage.new id now .deliveryAck senderId payload).withRecipient recipientId

end Bitchat.Protocol
