import Bitchat.Message.Storage
import Bitchat.Prelude.Json

/-! `message/router.rs`: the router that stores and caches every message it sends or
processes. Its cache is keyed by message id, and `process_incoming_message` dispatches a
message to its type handler exactly when its id is not cached. `cleanup_cache` reads the clock
and removes entries by the timestamp carried in the message, which for a received message its
sender chose. The routing table is not modelled: nothing here reads it. -/

namespace Bitchat.Message

structure ChannelInfo where
  name : String
  joinedAt : Int
  hasPassword : Bool
  memberCount : Nat
  lastActivity : Int
  deriving DecidableEq

structure MessageRouter where
  storage : MessageStorage
  activeChannels : DashMap String ChannelInfo
  messageCache : DashMap Uuid BitchatMessage

namespace MessageRouter

def new : MessageRouter := ⟨MessageStorage.new, ∅, ∅⟩

/-- The sender id and nickname the router puts on what it sends. -/
def localSenderId : PeerId := Mathlib.Vector.replicate 8 0

def localNickname : String := "User"

/-- Storing a message and caching it under its id, as every send does. -/
def remember (r : MessageRouter) (message : BitchatMessage) : MessageRouter :=
  { r with storage := r.storage.storeMessage message,
           messageCache := r.messageCache.insert message.id message }

/-- `send_message`, which returns the id of the message it minted as `id`. -/
def sendMessage (r : MessageRouter) (content : String) (channel : Option String) (id : Uuid)
    (now : Int) : MessageRouter × Uuid :=
  let message := match channel with
    | some channelName =>
      BitchatMessage.newChannel id now localSenderId localNickname channelName content
    | none => BitchatMessage.newBroadcast id now localSenderId localNickname content
  (r.remember message, message.id)

/-- `send_private_message`; the recipient id is the placeholder `[0u8; 8]`. -/
def sendPrivateMessage (r : MessageRouter) (_recipient : String) (content : String) (id : Uuid)
    (now : Int) : MessageRouter × Uuid :=
  let message := BitchatMessage.newPrivate id now localSenderId localNickname
    (Mathlib.Vector.replicate 8 0) content
  (r.remember message, message.id)

def joinChannel (r : MessageRouter) (channelName : String) (password : Option String) (id : Uuid)
    (now : Int) : MessageRouter × String :=
  let channelInfo := { name := channelName, joinedAt := now, hasPassword := password.isSome,
                       memberCount := 1, lastActivity := now : ChannelInfo }
  let r := { r with activeChannels := r.activeChannels.insert channelName channelInfo }
  let systemMessage := BitchatMessage.newSystem id now ("Joined channel: " ++ channelName)
  ({ r with storage := r.storage.storeMessage systemMessage }, "Joined channel: " ++ channelName)

def leaveChannel (r : MessageRouter) (channelName : String) (id : Uuid) (now : Int) :
    MessageRouter × String :=
  let r := { r with activeChannels := r.activeChannels.erase channelName }
  let systemMessage := BitchatMessage.newSystem id now ("Left channel: " ++ channelName)
  ({ r with storage := r.storage.storeMessage systemMessage }, "Left channel: " ++ channelName)

def handleChannelMessage (r : MessageRouter) (message : BitchatMessage) (now : Int) :
    MessageRouter :=
  match message.channel with
  | some channelName =>
    { r with activeChannels := r.activeChannels.modify channelName fun c =>
        { c with lastActivity := now } }
  | none => r

/-- `process_incoming_message`, with whether it dispatched the message to its type handler
(and to `consider_relay` when `should_relay` holds). The other handlers only log. -/
def processIncomingMessage (r : MessageRouter) (message : BitchatMessage) (now : Int) :
    MessageRouter × Bool :=
  if message.id ∈ r.messageCache then (r, false)
  else
    let r := r.remember message
    match message.messageType with
    | .channel => (r.handleChannelMessage message now, true)
    | _ => (r, true)

def cleanupCache (r : MessageRouter) (maxAgeHours : Nat) (now : Int) : MessageRouter × Nat :=
  let cutoff := MessageStorage.hoursBefore now maxAgeHours
  let toRemove := r.messageCache.keysWhere fun _ message => message.timestamp < cutoff
  ({ r with messageCache := r.messageCache.eraseAll toRemove }, toRemove.length)

section

/- `uuidText` and `timestampText` are the strings serde writes for a `Uuid` and a
`DateTime<Utc>`; a unit enum variant is written as its name. -/
variable (uuidText : Uuid → String) (timestampText : Int → String)

def getMessageHistory (r : MessageRouter) (channel : Option String) (limit : Option UInt32) :
    Json.Value :=
  let messages := r.storage.getMessages channel (limit.getD 50)
  .object
    [("messages", .array (messages.map fun msg => .object
        [("id", .string (uuidText msg.id)),
         ("sender", .string msg.getSenderDisplayName),
         ("content", .string msg.content),
         ("timestamp", .string (timestampText msg.timestamp)),
         ("channel", .string msg.getChannelDisplayName),
         ("type", .string msg.messageType.debugName),
         ("status", .string msg.status.debugName),
         ("mentions", .array (msg.mentions.map .string)),
         ("is_encrypted", .bool msg.isEncrypted)])),
     ("total", .ofU64 messages.length.toUInt64),
     ("channel", .ofOption .string channel)]

def getChannelInfo (r : MessageRouter) (channelName : String) : Option Json.Value :=
  (r.activeChannels.lookup channelName).map fun channelInfo => .object
    [("name", .string channelInfo.name),
     ("joined_at", .string (timestampText channelInfo.joinedAt)),
     ("has_password", .bool channelInfo.hasPassword),
     ("member_count", .ofU64 channelInfo.memberCount.toUInt64),
     ("last_activity", .string (timestampText channelInfo.lastActivity))]

end

inductive Op
  | sendMessage (content : String) (channel : Option String) (id : Uuid) (now : Int)
  | sendPrivateMessage (recipient content : String) (id : Uuid) (now : Int)
  | joinChannel (channelName : String) (password : Option String) (id : Uuid) (now : Int)
  | leaveChannel (channelName : String) (id : Uuid) (now : Int)
  | processIncomingMessage (message : BitchatMessage) (now : Int)
  | cleanupCache (maxAgeHours : Nat) (now : Int)

/-- One call, with the message it dispatched, if any. -/
def step (r : MessageRouter) : Op → MessageRouter × Option BitchatMessage
  | .sendMessage content channel id now => ((r.sendMessage content channel id now).1, none)
  | .sendPrivateMessage recipient content id now =>
    ((r.sendPrivateMessage recipient content id now).1, none)
  | .joinChannel channelName password id now =>
    ((r.joinChannel channelName password id now).1, none)
  | .leaveChannel channelName id now => ((r.leaveChannel channelName id now).1, none)
  | .processIncomingMessage message now =>
    let (r', dispatched) := r.processIncomingMessage message now
    (r', if dispatched then some message else none)
  | .cleanupCache maxAgeHours now => ((r.cleanupCache maxAgeHours now).1, none)

/-- A run of calls, with the messages dispatched along it in order. -/
def run (r : MessageRouter) : List Op → MessageRouter × List BitchatMessage
  | [] => (r, [])
  | op :: ops =>
    let (r', dispatched) := r.step op
    let (r'', rest) := r'.run ops
    (r'', dispatched.toList ++ rest)

/-- `get_active_channels`, in the map's order. -/
def getActiveChannels (r : MessageRouter) : List String := r.activeChannels.keys

/-- What a call does to membership of channel `c`: a join makes it a member, a leave does not,
and every other call leaves membership as it was. -/
def Op.joinOrLeave (c : String) : Op → Option Bool
  | .joinChannel channelName _ _ _ => if channelName = c then some true else none
  | .leaveChannel channelName _ _ => if channelName = c then some false else none
  | _ => none

theorem mem_activeChannels_step (r : MessageRouter) (op : Op) (c : String) :
    c ∈ (r.step op).1.activeChannels ↔
      ((op.joinOrLeave c).getD (decide (c ∈ r.activeChannels))) = true := by
  cases op with
  | joinChannel channelName password id now =>
    by_cases hc : channelName = c
    · subst hc
      simp [step, joinChannel, Op.joinOrLeave, AList.mem_insert]
    · simp [step, joinChannel, Op.joinOrLeave, AList.mem_insert, hc, Ne.symm hc]
  | leaveChannel channelName id now =>
    by_cases hc : channelName = c
    · subst hc
      simp [step, leaveChannel, Op.joinOrLeave]
    · simp [step, leaveChannel, Op.joinOrLeave, AList.mem_erase, hc, Ne.symm hc]
  | processIncomingMessage message now =>
    simp only [step, processIncomingMessage, Op.joinOrLeave, Option.getD_none, decide_eq_true_eq]
    split_ifs
    · rfl
    · split
      · unfold handleChannelMessage
        split <;> simp [remember]
      · rfl
  | _ => simp [step, sendMessage, sendPrivateMessage, cleanupCache, remember, Op.joinOrLeave]

/-- From any router, a channel is active after a run exactly when its last `join_channel` or
`leave_channel` was a join, or, with neither in the run, when it was active before: no other
call, a received channel message included, adds or removes an active channel. -/
theorem mem_activeChannels_run (r : MessageRouter) (ops : List Op) (c : String) :
    c ∈ (r.run ops).1.activeChannels ↔
      ops.foldl (fun joined op => (op.joinOrLeave c).getD joined)
        (decide (c ∈ r.activeChannels)) = true := by
  induction ops generalizing r with
  | nil => simp [run]
  | cons op ops ih =>
    have hstep : decide (c ∈ (r.step op).1.activeChannels) =
        (op.joinOrLeave c).getD (decide (c ∈ r.activeChannels)) := by
      rw [Bool.eq_iff_iff, decide_eq_true_iff]
      exact mem_activeChannels_step r op c
    show c ∈ ((r.step op).1.run ops).1.activeChannels ↔ _
    rw [ih, List.foldl_cons, hstep]

theorem lookup_remember (r : MessageRouter) (message : BitchatMessage) (u : Uuid) :
    (r.remember message).messageCache.lookup u =
      if u = message.id then some message else r.messageCache.lookup u := by
  split_ifs with e
  · subst e; exact AList.lookup_insert _
  · exact AList.lookup_insert_ne e

@[simp] theorem messageCache_handleChannelMessage (r : MessageRouter) (message : BitchatMessage)
    (now : Int) : (r.handleChannelMessage message now).messageCache = r.messageCache := by
  unfold handleChannelMessage
  split <;> rfl

@[simp] theorem storage_handleChannelMessage (r : MessageRouter) (message : BitchatMessage)
    (now : Int) : (r.handleChannelMessage message now).storage = r.storage := by
  unfold handleChannelMessage
  split <;> rfl

theorem lookup_cleanupCache (r : MessageRouter) (maxAgeHours : Nat) (now : Int) (u : Uuid) :
    (r.cleanupCache maxAgeHours now).1.messageCache.lookup u = (r.messageCache.lookup u).filter
      fun m => !decide (m.timestamp < MessageStorage.hoursBefore now maxAgeHours) :=
  DashMap.lookup_eraseAll_keysWhere _ _ _

theorem processIncomingMessage_eq (r : MessageRouter) (message : BitchatMessage) (now : Int) :
    (r.processIncomingMessage message now).2 = !decide (message.id ∈ r.messageCache) ∧
      (r.processIncomingMessage message now).1.messageCache =
        if message.id ∈ r.messageCache then r.messageCache
        else (r.remember message).messageCache := by
  unfold processIncomingMessage
  split_ifs with hm
  · simp [hm]
  · split <;> simp [hm]

/-! The message cache over time. -/

/-- Whether a call keeps an entry cached under `u` with a timestamp at or after `T`: a cleanup
whose cutoff is at most `T`, a send under `u` stamped at or after `T`, and every other call. -/
def Op.keepsCached (u : Uuid) (T : Int) : Op → Bool
  | .sendMessage _ _ id now | .sendPrivateMessage _ _ id now => id != u || decide (T ≤ now)
  | .cleanupCache maxAgeHours now => decide (MessageStorage.hoursBefore now maxAgeHours ≤ T)
  | _ => true

/-- The entry under `u` is cached with a timestamp at or after `T`. -/
def CachedSince (u : Uuid) (T : Int) (r : MessageRouter) : Prop :=
  ∃ m, r.messageCache.lookup u = some m ∧ T ≤ m.timestamp

theorem CachedSince.mem {u : Uuid} {T : Int} {r : MessageRouter} (h : CachedSince u T r) :
    u ∈ r.messageCache :=
  let ⟨_, hm, _⟩ := h
  AList.lookup_isSome.mp (by rw [hm]; rfl)

theorem CachedSince.remember {u : Uuid} {T : Int} {r : MessageRouter} (h : CachedSince u T r)
    {message : BitchatMessage} (hm : message.id = u → T ≤ message.timestamp) :
    CachedSince u T (r.remember message) := by
  unfold CachedSince
  rw [lookup_remember]
  split_ifs with e
  · exact ⟨message, rfl, hm e.symm⟩
  · exact h

theorem CachedSince.step {u : Uuid} {T : Int} {r : MessageRouter} (h : CachedSince u T r)
    {op : Op} (hop : op.keepsCached u T = true) :
    CachedSince u T (r.step op).1 ∧ ∀ m ∈ (r.step op).2, m.id ≠ u := by
  cases op with
  | sendMessage content channel id now =>
    simp only [Op.keepsCached, Bool.or_eq_true, bne_iff_ne, decide_eq_true_eq] at hop
    refine ⟨?_, by rintro _ ⟨⟩⟩
    cases channel <;> exact h.remember fun e => hop.resolve_left (not_not.mpr e)
  | sendPrivateMessage recipient content id now =>
    simp only [Op.keepsCached, Bool.or_eq_true, bne_iff_ne, decide_eq_true_eq] at hop
    exact ⟨h.remember fun e => hop.resolve_left (not_not.mpr e), by rintro _ ⟨⟩⟩
  | joinChannel channelName password id now => exact ⟨h, by rintro _ ⟨⟩⟩
  | leaveChannel channelName id now => exact ⟨h, by rintro _ ⟨⟩⟩
  | processIncomingMessage message now =>
    obtain ⟨hd, hcache⟩ := processIncomingMessage_eq r message now
    show CachedSince u T (r.processIncomingMessage message now).1 ∧
      ∀ m ∈ (if (r.processIncomingMessage message now).2 then some message else none), m.id ≠ u
    unfold CachedSince
    rw [hcache, hd]
    by_cases hc : message.id ∈ r.messageCache
    · simp only [hc, if_true, decide_True, Bool.not_true]
      exact ⟨h, by rintro _ ⟨⟩⟩
    · have hne : message.id ≠ u := fun e => hc (e ▸ h.mem)
      simp only [hc, if_false, decide_False, Bool.not_false, if_true]
      exact ⟨h.remember fun e => absurd e hne, by rintro _ ⟨⟩; exact hne⟩
  | cleanupCache maxAgeHours now =>
    obtain ⟨m, hm, hT⟩ := h
    simp only [Op.keepsCached, decide_eq_true_eq] at hop
    refine ⟨⟨m, ?_, hT⟩, by rintro _ ⟨⟩⟩
    rw [MessageRouter.step, lookup_cleanupCache, hm]
    simp [Option.filter, not_lt.mpr (hop.trans hT)]

theorem CachedSince.run {u : Uuid} {T : Int} {r : MessageRouter} (h : CachedSince u T r)
    {ops : List Op} (hops : ∀ op ∈ ops, op.keepsCached u T = true) :
    CachedSince u T (r.run ops).1 ∧ ∀ m ∈ (r.run ops).2, m.id ≠ u := by
  induction ops generalizing r with
  | nil => exact ⟨h, by simp [MessageRouter.run]⟩
  | cons op ops ih =>
    obtain ⟨hs, hd⟩ := h.step (hops op (List.mem_cons_self _ _))
    obtain ⟨hr, hdr⟩ := ih hs fun o ho => hops o (List.mem_cons_of_mem _ ho)
    refine ⟨hr, fun m hm => ?_⟩
    simp only [MessageRouter.run, List.mem_append, Option.mem_toList] at hm
    rcases hm with hm | hm
    exacts [hd m hm, hdr m hm]

theorem storage_step (r : MessageRouter) (op : Op) :
    (r.step op).1.storage = r.storage ∨ ∃ m, (r.step op).1.storage = r.storage.storeMessage m := by
  cases op with
  | processIncomingMessage message now =>
    simp only [step, processIncomingMessage]
    split_ifs
    · exact .inl rfl
    · exact .inr ⟨message, by split <;> simp [remember]⟩
  | cleanupCache maxAgeHours now => exact .inl rfl
  | _ => exact .inr ⟨_, rfl⟩

theorem exists_storage_run (r : MessageRouter) (ops : List Op) :
    ∃ sops, (r.run ops).1.storage = r.storage.run sops := by
  induction ops generalizing r with
  | nil => exact ⟨[], rfl⟩
  | cons op ops ih =>
    obtain ⟨sops, h⟩ := ih (r.step op).1
    show ∃ sops, ((r.step op).1.run ops).1.storage = _
    rcases storage_step r op with hs | ⟨m, hs⟩
    · exact ⟨sops, by rw [h, hs]⟩
    · exact ⟨.storeMessage m :: sops, by rw [h, hs]; rfl⟩

/-- The router changes its store only through the store's own calls: after any run of sends,
joins, leaves, received messages and cache cleanups, its store is one that a run of
`MessageStorage` calls reaches from `MessageStorage::new()`. So the store's invariants hold of it:
its ids are distinct, a message received again after `cleanup_cache` included, and it holds at
most 10000 messages. -/
theorem storage_refines (ops : List Op) :
    (∃ sops, (new.run ops).1.storage = MessageStorage.new.run sops) ∧
    (new.run ops).1.storage.ids.Nodup ∧ (new.run ops).1.storage.messages.length ≤ 10000 := by
  obtain ⟨sops, h⟩ := exists_storage_run new ops
  have hinv := MessageStorage.inv_run sops
  rw [h]
  exact ⟨⟨sops, rfl⟩, hinv.nodup, hinv.maxMessages_eq ▸ hinv.length_le⟩

end MessageRouter

end Bitchat.Message
