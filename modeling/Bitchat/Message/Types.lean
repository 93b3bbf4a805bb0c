import Bitchat.Prelude.Bytes
import Bitchat.Prelude.Runtime

/-! `message/message_types.rs`: the application-level message. A `DateTime<Utc>` is a count of
nanoseconds since the epoch, and `Uuid::new_v4()` and `Utc::now()` are inputs of the
constructors that call them. -/

namespace Bitchat.Message

inductive MessageStatus
  | draft
  | sending
  | sent
  | delivered
  | failed
  | expired
  deriving DecidableEq, Repr

inductive DeliveryStatus
  | pending
  | delivered
  | read
  | failed
  deriving DecidableEq, Repr

inductive MessageType
  | broadcast
  | privateMessage
  | channel
  | system
  | announcement
  | deliveryReceipt
  deriving DecidableEq, Repr

/-- `format!("{:?}", status)`. -/
def MessageStatus.debugName : MessageStatus → String
  | .draft => "Draft"
  | .sending => "Sending"
  | .sent => "Sent"
  | .delivered => "Delivered"
  | .failed => "Failed"
  | .expired => "Expired"

/-- `format!("{:?}", message_type)`. -/
def MessageType.debugName : MessageType → String
  | .broadcast => "Broadcast"
  | .privateMessage => "Private"
  | .channel => "Channel"
  | .system => "System"
  | .announcement => "Announcement"
  | .deliveryReceipt => "DeliveryReceipt"

/-- `haystack.contains(needle)` with a `&str` needle. A byte substring of UTF-8 text starts and
ends at character boundaries, so the test is the same on the characters. -/
def strContains (haystack needle : String) : Bool := decide (needle.toList <:+: haystack.toList)

/-- `&s[..k]` on the characters of a string: those whose UTF-8 bytes end by byte `k`, or `none`,
the panic, when byte `k` falls inside a character or past the end. -/
def sliceTo : List Char → Nat → Option (List Char)
  | _, 0 => some []
  | [], _ + 1 => none
  | c :: cs, k + 1 =>
    if c.utf8Size ≤ k + 1 then (sliceTo cs (k + 1 - c.utf8Size)).map (c :: ·) else none

@[simp] theorem utf8ByteSize_go_nil : String.utf8ByteSize.go [] = 0 := rfl

@[simp] theorem utf8ByteSize_go_cons (c : Char) (cs : List Char) :
    String.utf8ByteSize.go (c :: cs) = String.utf8ByteSize.go cs + c.utf8Size := rfl

theorem sliceTo_eq_some_iff (cs : List Char) (k : Nat) (pre : List Char) :
    sliceTo cs k = some pre ↔ ∃ suf, cs = pre ++ suf ∧ String.utf8ByteSize.go pre = k := by
  induction cs, k using sliceTo.induct generalizing pre with
  | case1 cs =>
    cases pre with
    | nil => simp [sliceTo]
    | cons d pre =>
      simp only [sliceTo, Option.some.injEq, reduceCtorEq, utf8ByteSize_go_cons, false_iff]
      have := d.utf8Size_pos
      omega
  | case2 k => cases pre <;> simp [sliceTo]
  | case3 c cs k hc ih =>
    cases pre with
    | nil => simp [sliceTo]
    | cons d pre =>
      simp only [sliceTo, if_pos hc, Option.map_eq_some', ih, List.cons.injEq, List.cons_append,
        utf8ByteSize_go_cons]
      constructor
      · rintro ⟨pre', ⟨suf, rfl, hs⟩, rfl, rfl⟩
        exact ⟨suf, ⟨rfl, rfl⟩, by omega⟩
      · rintro ⟨suf, ⟨rfl, rfl⟩, hs⟩
        exact ⟨pre, ⟨suf, rfl, by omega⟩, rfl, rfl⟩
  | case4 c cs k hc =>
    cases pre with
    | nil => simp [sliceTo]
    | cons d pre =>
      simp only [sliceTo, if_neg hc, List.cons_append, List.cons.injEq, utf8ByteSize_go_cons,
        reduceCtorEq, false_iff]
      rintro ⟨suf, ⟨rfl, -⟩, hs⟩
      omega

/-- The fields of `BitchatMessage` that the modelled code reads. -/
structure BitchatMessage where
  id : Uuid
  senderId : PeerId
  senderNickname : String
  content : String
  timestamp : Int
  messageType : MessageType
  channel : Option String
  recipientId : Option PeerId
  isEncrypted : Bool
  ttl : UInt8
  hopCount : UInt8
  status : MessageStatus
  deliveryStatus : Option DeliveryStatus
  mentions : List String
  deriving DecidableEq

namespace BitchatMessage

def newBroadcast (id : Uuid) (now : Int) (senderId : PeerId) (senderNickname content : String) :
    BitchatMessage :=
  { id := id, senderId := senderId, senderNickname := senderNickname, content := content,
    timestamp := now, messageType := .broadcast, channel := none, recipientId := none,
    isEncrypted := false, ttl := 7, hopCount := 0, status := .draft, deliveryStatus := none,
    mentions := [] }

def newPrivate (id : Uuid) (now : Int) (senderId : PeerId) (senderNickname : String)
    (recipientId : PeerId) (content : String) : BitchatMessage :=
  { id := id, senderId := senderId, senderNickname := senderNickname, content := content,
    timestamp := now, messageType := .privateMessage, channel := none,
    recipientId := some recipientId, isEncrypted := true, ttl := 7, hopCount := 0,
    status := .draft, deliveryStatus := some .pending, mentions := [] }

def newChannel (id : Uuid) (now : Int) (senderId : PeerId)
    (senderNickname channel content : String) : BitchatMessage :=
  { id := id, senderId := senderId, senderNickname := senderNickname, content := content,
    timestamp := now, messageType := .channel, channel := some channel, recipientId := none,
    isEncrypted := true, ttl := 7, hopCount := 0, status := .draft, deliveryStatus := none,
    mentions := [] }

def newSystem (id : Uuid) (now : Int) (content : String) : BitchatMessage :=
  { id := id, senderId := Mathlib.Vector.replicate 8 0, senderNickname := "System",
    content := content, timestamp := now, messageType := .system, channel := none,
    recipientId := none, isEncrypted := false, ttl := 1, hopCount := 0, status := .sent,
    deliveryStatus := none, mentions := [] }

def setStatus (m : BitchatMessage) (status : MessageStatus) : BitchatMessage :=
  { m with status := status }

def setDeliveryStatus (m : BitchatMessage) (deliveryStatus : DeliveryStatus) : BitchatMessage :=
  { m with deliveryStatus := some deliveryStatus }

def shouldRelay (m : BitchatMessage) : Bool :=
  m.ttl > 0 && !(m.messageType = .system || m.messageType = .deliveryReceipt) &&
    !(m.status = .failed || m.status = .expired)

def addMention (m : BitchatMessage) (nickname : String) : BitchatMessage :=
  if m.mentions.contains nickname then m else { m with mentions := m.mentions ++ [nickname] }

/-- `decrease_ttl`. `hop_count += 1` on a `u8` wraps past 255 in a release build. -/
def decreaseTtl (m : BitchatMessage) : BitchatMessage × Bool :=
  if m.ttl > 0 then ({ m with ttl := m.ttl - 1, hopCount := m.hopCount + 1 }, true) else (m, false)

def isExpired (m : BitchatMessage) : Bool := m.ttl == 0 || m.status == .expired

def getSenderDisplayName (m : BitchatMessage) : String :=
  if m.senderNickname.isEmpty then "Anonymous" else m.senderNickname

def mentionsUser (m : BitchatMessage) (nickname : String) : Bool :=
  m.mentions.any (· == nickname) || strContains m.content ("@" ++ nickname)

def getChannelDisplayName (m : BitchatMessage) : String :=
  match m.channel with
  | some channel => channel
  | none =>
    match m.messageType with
    | .privateMessage => "Private"
    | .system => "System"
    | _ => "Public"

/-- `get_summary`; `none` is the panic of `&content[..max_length.saturating_sub(3)]`. -/
def getSummary (m : BitchatMessage) (maxLength : Nat) : Option String :=
  if m.content.utf8ByteSize ≤ maxLength then some m.content
  else (sliceTo m.content.data (maxLength - 3)).map fun pre => ⟨pre⟩ ++ "..."

/-- `get_summary` returns the content when it fits in `max_length` bytes. Otherwise it panics
exactly when byte `max_length - 3` of the content falls inside a character, and else returns the
content's first `max_length - 3` bytes and `"..."`: `max(max_length, 3)` bytes, which is more
than `max_length` when that is below 3. -/
theorem getSummary_spec (m : BitchatMessage) (maxLength : Nat) :
    (m.content.utf8ByteSize ≤ maxLength → m.getSummary maxLength = some m.content) ∧
    (maxLength < m.content.utf8ByteSize →
      (m.getSummary maxLength = none ↔
        ¬∃ pre suf, m.content.data = pre ++ suf ∧ (⟨pre⟩ : String).utf8ByteSize = maxLength - 3) ∧
      ∀ s, m.getSummary maxLength = some s →
        (∃ pre suf, m.content.data = pre ++ suf ∧ s = ⟨pre⟩ ++ "...") ∧
          s.utf8ByteSize = max maxLength 3) := by
  refine ⟨fun h => if_pos h, fun h => ?_⟩
  unfold getSummary
  rw [if_neg (by omega)]
  refine ⟨?_, fun s hs => ?_⟩
  · rw [Option.map_eq_none']
    simp only [Option.eq_none_iff_forall_not_mem, Option.mem_def, sliceTo_eq_some_iff, not_exists]
    rfl
  · obtain ⟨pre, hpre, rfl⟩ := Option.map_eq_some'.mp hs
    obtain ⟨suf, hd, hk⟩ := (sliceTo_eq_some_iff _ _ _).mp hpre
    refine ⟨⟨pre, suf, hd, rfl⟩, ?_⟩
    show String.utf8ByteSize.go (pre ++ "...".data) = _
    rw [utf8ByteSize_go_append, hk]
    show maxLength - 3 + 3 = _
    omega

/- `"é"` is bytes 1 and 2 of `"héllo"`: a summary cut at byte 2 panics, one cut at byte 1 does
not. -/
example :
    (newBroadcast ⟨0⟩ 0 (Mathlib.Vector.replicate 8 1) "a" "héllo").getSummary 5 = none := by
  decide

example :
    (newBroadcast ⟨0⟩ 0 (Mathlib.Vector.replicate 8 1) "a" "héllo").getSummary 4 = some "h..." :=
  by decide

end BitchatMessage

end Bitchat.Message
