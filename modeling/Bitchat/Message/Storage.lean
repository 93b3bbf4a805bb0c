import Bitchat.Message.Types
import Bitchat.Prelude.Json
import Mathlib.Algebra.BigOperators.Group.List
import Mathlib.Algebra.Order.Ring.Nat

/-! `message/storage.rs`: the in-memory store, a `VecDeque` kept oldest first and capped at
`max_messages` by popping from the front. Its invariant is that ids are distinct and the cap
holds; every operation keeps it, and on distinct ids the store is a sliding window over what
was stored. A history query returns the newest messages its filter keeps, newest first, and
the filter of a public channel keeps every message without a channel; an export read back by
`import_messages` is stored in that newest-first order. -/

namespace Bitchat.Message

/-- `while v.len() > max { v.pop_front(); }` -/
def popFrontWhileOver {α : Type} (maxLen : Nat) : List α → List α
  | [] => []
  | a :: l => if l.length + 1 > maxLen then popFrontWhileOver maxLen l else a :: l

theorem popFrontWhileOver_eq_drop {α : Type} (maxLen : Nat) (l : List α) :
    popFrontWhileOver maxLen l = l.drop (l.length - maxLen) := by
  induction l with
  | nil => simp [popFrontWhileOver]
  | cons a l ih =>
    simp only [popFrontWhileOver, List.length_cons]
    split_ifs with h
    · rw [ih, show l.length + 1 - maxLen = l.length - maxLen + 1 by omega, List.drop_succ_cons]
    · rw [show l.length + 1 - maxLen = 0 by omega, List.drop_zero]

structure MessageStorage where
  messages : List BitchatMessage
  maxMessages : Nat

namespace MessageStorage

def new : MessageStorage := ⟨[], 10000⟩

def ids (s : MessageStorage) : List Uuid := s.messages.map (·.id)

def storeMessage (s : MessageStorage) (message : BitchatMessage) : MessageStorage :=
  if s.messages.any (fun m => m.id == message.id) then s
  else { s with messages := popFrontWhileOver s.maxMessages (s.messages ++ [message]) }

/-- The filter of `get_messages`: a channel name selects the messages of that channel and, when
it is `"public"` or `"broadcast"`, every message without a channel as well. -/
def matchesChannel (channel : Option String) (msg : BitchatMessage) : Bool :=
  match channel with
  | some ch =>
    match msg.channel with
    | some msgChannel => msgChannel == ch
    | none => ch == "public" || ch == "broadcast"
  | none => true

/-- `get_messages`: the newest `limit` messages the filter keeps, newest first. -/
def getMessages (s : MessageStorage) (channel : Option String) (limit : UInt32) :
    List BitchatMessage :=
  ((s.messages.filter (matchesChannel channel)).reverse.take limit.toNat)

/-- `get_message`: the first stored message with the id. -/
def getMessage (s : MessageStorage) (messageId : Uuid) : Option BitchatMessage :=
  s.messages.find? fun msg => msg.id == messageId

/-- The shape of the history queries: the newest `limit` messages that `keep` selects, newest
first. -/
def newestWhere (s : MessageStorage) (keep : BitchatMessage → Bool) (limit : UInt32) :
    List BitchatMessage :=
  (s.messages.filter keep).reverse.take limit.toNat

def getMessagesFromSender (s : MessageStorage) (senderId : PeerId) (limit : UInt32) :
    List BitchatMessage :=
  s.newestWhere (fun msg => msg.senderId == senderId) limit

def getPrivateMessages (s : MessageStorage) (peer1 peer2 : PeerId) (limit : UInt32) :
    List BitchatMessage :=
  s.newestWhere (fun msg => msg.messageType == .privateMessage &&
    (msg.senderId == peer1 && msg.recipientId == some peer2 ||
      msg.senderId == peer2 && msg.recipientId == some peer1)) limit

/-- `search_messages`, where `toLowercase` is `str::to_lowercase`. -/
def searchMessages (toLowercase : String → String) (s : MessageStorage) (query : String)
    (limit : UInt32) : List BitchatMessage :=
  let queryLower := toLowercase query
  s.newestWhere (fun msg => strContains (toLowercase msg.content) queryLower ||
    strContains (toLowercase msg.senderNickname) queryLower) limit

def getMentions (s : MessageStorage) (nickname : String) (limit : UInt32) :
    List BitchatMessage :=
  s.newestWhere (·.mentionsUser nickname) limit

def getUnreadMessages (s : MessageStorage) : List BitchatMessage :=
  s.messages.filter fun msg => msg.deliveryStatus == some .delivered

/-- The common body of `update_message_status` and `update_delivery_status`. -/
def updateMessage (s : MessageStorage) (messageId : Uuid) (f : BitchatMessage → BitchatMessage) :
    MessageStorage :=
  { s with messages := updateFirst (fun m => m.id == messageId) f s.messages }

def updateMessageStatus (s : MessageStorage) (messageId : Uuid) (status : MessageStatus) :
    MessageStorage :=
  s.updateMessage messageId (·.setStatus status)

def updateDeliveryStatus (s : MessageStorage) (messageId : Uuid)
    (deliveryStatus : DeliveryStatus) : MessageStorage :=
  s.updateMessage messageId (·.setDeliveryStatus deliveryStatus)

def deleteMessage (s : MessageStorage) (messageId : Uuid) : MessageStorage × Bool :=
  match s.messages.findIdx? (fun m => m.id == messageId) with
  | some pos => ({ s with messages := s.messages.eraseIdx pos }, true)
  | none => (s, false)

/-- `Utc::now() - Duration::hours(hours)` in nanoseconds; chrono's panics for ages beyond its
range (hundreds of millions of years) are not modelled. -/
def hoursBefore (now : Int) (hours : Nat) : Int := now - hours * 3600 * 1000000000

def deleteOldMessages (s : MessageStorage) (maxAgeHours : Nat) (now : Int) :
    MessageStorage × Nat :=
  let cutoff := hoursBefore now maxAgeHours
  let originalLen := s.messages.length
  let messages := s.messages.filter (fun m => m.timestamp ≥ cutoff)
  ({ s with messages := messages }, originalLen - messages.length)

def clearAllMessages (s : MessageStorage) : MessageStorage × Nat :=
  ({ s with messages := [] }, s.messages.length)

/-- The `messages` array of `export_messages`, `get_messages(channel, u32::MAX)`; the other
fields of the export (its time stamp, the filter and the count) are not read back by
`import_messages`. -/
def exportMessages (s : MessageStorage) (channel : Option String) : List BitchatMessage :=
  s.getMessages channel 4294967295

/-- `import_messages` once the JSON is read: an entry of the `messages` array is `none` when
it does not parse as a `BitchatMessage`, and is then skipped. -/
def importMessages (s : MessageStorage) (messagesArray : List (Option BitchatMessage)) :
    MessageStorage × Nat :=
  messagesArray.foldl (fun (s, importedCount) entry =>
    match entry with
    | some message => (s.storeMessage message, importedCount + 1)
    | none => (s, importedCount)) (s, 0)

inductive Op
  | storeMessage (message : BitchatMessage)
  | importMessages (messagesArray : List (Option BitchatMessage))
  | updateMessageStatus (messageId : Uuid) (status : MessageStatus)
  | updateDeliveryStatus (messageId : Uuid) (deliveryStatus : DeliveryStatus)
  | deleteMessage (messageId : Uuid)
  | deleteOldMessages (maxAgeHours : Nat) (now : Int)
  | clearAllMessages

def step (s : MessageStorage) : Op → MessageStorage
  | .storeMessage message => s.storeMessage message
  | .importMessages messagesArray => (s.importMessages messagesArray).1
  | .updateMessageStatus messageId status => s.updateMessageStatus messageId status
  | .updateDeliveryStatus messageId d => s.updateDeliveryStatus messageId d
  | .deleteMessage messageId => (s.deleteMessage messageId).1
  | .deleteOldMessages maxAgeHours now => (s.deleteOldMessages maxAgeHours now).1
  | .clearAllMessages => s.clearAllMessages.1

def run (s : MessageStorage) (ops : List Op) : MessageStorage := ops.foldl step s

@[simp] theorem run_append_singleton (s : MessageStorage) (ops : List Op) (op : Op) :
    s.run (ops ++ [op]) = (s.run ops).step op := by
  simp [run]

theorem any_id_eq (s : MessageStorage) (id : Uuid) :
    s.messages.any (fun m => m.id == id) = decide (id ∈ s.ids) := by
  rw [Bool.eq_iff_iff, List.any_eq_true, decide_eq_true_iff]
  simp only [ids, List.mem_map, beq_iff_eq]

theorem storeMessage_of_mem {s : MessageStorage} {message : BitchatMessage}
    (h : message.id ∈ s.ids) : s.storeMessage message = s := by
  simp [storeMessage, any_id_eq, h]

theorem storeMessage_of_not_mem {s : MessageStorage} {message : BitchatMessage}
    (h : message.id ∉ s.ids) : s.storeMessage message =
      { s with
        messages := (s.messages ++ [message]).drop (s.messages.length + 1 - s.maxMessages) } := by
  simp [storeMessage, any_id_eq, h, popFrontWhileOver_eq_drop]

theorem updateMessage_of_not_mem {s : MessageStorage} {messageId : Uuid} (f)
    (h : messageId ∉ s.ids) : s.updateMessage messageId f = s := by
  simp only [ids, List.mem_map, not_exists, not_and] at h
  simp only [updateMessage]
  rw [updateFirst_of_forall f fun m hm => by simpa using h m hm]

theorem deleteMessage_of_not_mem {s : MessageStorage} {messageId : Uuid}
    (h : messageId ∉ s.ids) : s.deleteMessage messageId = (s, false) := by
  simp only [ids, List.mem_map, not_exists, not_and] at h
  have : s.messages.findIdx? (fun m => m.id == messageId) = none := by
    rw [List.findIdx?_eq_none_iff]
    intro m hm
    simpa using h m hm
  simp [deleteMessage, this]

/-- What holds of every store that `new` reaches: distinct ids, the cap, and the cap itself. -/
structure Inv (s : MessageStorage) : Prop where
  nodup : s.ids.Nodup
  length_le : s.messages.length ≤ s.maxMessages
  maxMessages_eq : s.maxMessages = 10000

theorem inv_new : Inv new := ⟨List.nodup_nil, Nat.zero_le _, rfl⟩

theorem Inv.of_sublist {s s' : MessageStorage} (h : Inv s) (hs : s'.messages.Sublist s.messages)
    (hm : s'.maxMessages = s.maxMessages) : Inv s' :=
  ⟨h.nodup.sublist (hs.map _), hm ▸ hs.length_le.trans h.length_le, hm.trans h.maxMessages_eq⟩

theorem Inv.storeMessage {s : MessageStorage} (h : Inv s) (message : BitchatMessage) :
    Inv (s.storeMessage message) := by
  by_cases hm : message.id ∈ s.ids
  · rwa [storeMessage_of_mem hm]
  · rw [storeMessage_of_not_mem hm]
    refine ⟨?_, ?_, h.maxMessages_eq⟩
    · have : (s.ids ++ [message.id]).Nodup := List.nodup_append.mpr
        ⟨h.nodup, List.nodup_singleton _, by simpa using hm⟩
      simpa [ids, List.map_drop] using this.sublist (List.drop_sublist _ _)
    · simp only [List.length_drop, List.length_append, List.length_singleton]
      omega

theorem Inv.importMessages {s : MessageStorage} (h : Inv s)
    (messagesArray : List (Option BitchatMessage)) : Inv (s.importMessages messagesArray).1 := by
  unfold MessageStorage.importMessages
  generalize 0 = n
  induction messagesArray generalizing s n with
  | nil => exact h
  | cons entry entries ih =>
    cases entry with
    | none => exact ih h n
    | some message => exact ih (h.storeMessage message) (n + 1)

theorem Inv.updateMessage {s : MessageStorage} (h : Inv s) (messageId : Uuid)
    {f : BitchatMessage → BitchatMessage} (hf : ∀ m, (f m).id = m.id) :
    Inv (s.updateMessage messageId f) := by
  have hids : (s.updateMessage messageId f).ids = s.ids := map_updateFirst _ _ (fun a _ => hf a) _
  have hlen : (s.updateMessage messageId f).messages.length = s.messages.length := by
    simpa [ids] using congrArg List.length hids
  exact ⟨hids ▸ h.nodup, hlen ▸ h.length_le, h.maxMessages_eq⟩

theorem Inv.step {s : MessageStorage} (h : Inv s) : ∀ op, Inv (s.step op)
  | .storeMessage message => h.storeMessage message
  | .importMessages messagesArray => h.importMessages messagesArray
  | .updateMessageStatus _ _ => h.updateMessage _ fun _ => rfl
  | .updateDeliveryStatus _ _ => h.updateMessage _ fun _ => rfl
  | .deleteMessage messageId => by
    show Inv (s.deleteMessage messageId).1
    unfold MessageStorage.deleteMessage
    split
    · exact h.of_sublist (List.eraseIdx_sublist _ _) rfl
    · exact h
  | .deleteOldMessages _ _ => h.of_sublist (List.filter_sublist _) rfl
  | .clearAllMessages => h.of_sublist (List.nil_sublist _) rfl

theorem inv_run (ops : List Op) : Inv (new.run ops) := by
  induction ops using List.reverseRecOn with
  | nil => exact inv_new
  | append_singleton ops op ih => rw [run_append_singleton]; exact ih.step op

theorem Inv.storeMessage_messages {s : MessageStorage} (h : Inv s) {message : BitchatMessage}
    (hm : message.id ∉ s.ids) : (s.storeMessage message).messages =
      if s.messages.length < s.maxMessages then s.messages ++ [message]
      else s.messages.tail ++ [message] := by
  rw [storeMessage_of_not_mem hm]
  have := h.length_le
  split_ifs with hlt
  · rw [show s.messages.length + 1 - s.maxMessages = 0 by omega, List.drop_zero]
  · have hne : s.messages ≠ [] := by
      intro he; rw [he] at hlt; rw [h.maxMessages_eq] at hlt; simp at hlt
    rw [show s.messages.length + 1 - s.maxMessages = 1 by omega, List.drop_one,
      List.tail_append_of_ne_nil hne]

theorem run_storeMessage_messages {ms : List BitchatMessage} (h : (ms.map (·.id)).Nodup) :
    (new.run (ms.map .storeMessage)).messages = ms.drop (ms.length - 10000) := by
  induction ms using List.reverseRecOn with
  | nil => rfl
  | append_singleton ms m ih =>
    rw [List.map_append, List.nodup_append] at h
    obtain ⟨hms, -, hdis⟩ := h
    have hmax := (inv_run (ms.map .storeMessage)).maxMessages_eq
    have hm : m.id ∉ (new.run (ms.map .storeMessage)).ids := by
      intro hmem
      simp only [ids, ih hms, List.mem_map] at hmem
      obtain ⟨x, hx, hxid⟩ := hmem
      exact hdis (List.mem_map.mpr ⟨x, List.mem_of_mem_drop hx, hxid⟩) (by simp)
    rw [List.map_append, List.map_singleton, run_append_singleton, step,
      storeMessage_of_not_mem hm, ih hms, hmax, List.drop_append_of_le_length (by omega),
      List.drop_drop]
    simp only [List.length_drop, List.length_append, List.length_singleton]
    rw [List.drop_append_of_le_length (by omega),
      show ms.length - 10000 + (ms.length - (ms.length - 10000) + 1 - 10000) =
        ms.length + 1 - 10000 by omega]

/-- The store's invariants over every run from `MessageStorage::new()`, what `store_message`
does to the sequence, the operations that leave it unchanged, and the sliding window that
storing distinct ids produces. -/
theorem storage_invariants :
    (∀ ops, (new.run ops).ids.Nodup ∧
      (new.run ops).messages.length ≤ (new.run ops).maxMessages) ∧
    (∀ ops message, message.id ∉ (new.run ops).ids →
      ((new.run ops).storeMessage message).messages =
        if (new.run ops).messages.length < (new.run ops).maxMessages then
          (new.run ops).messages ++ [message]
        else (new.run ops).messages.tail ++ [message]) ∧
    (∀ (s : MessageStorage) message, message.id ∈ s.ids → s.storeMessage message = s) ∧
    (∀ (s : MessageStorage) messageId, messageId ∉ s.ids →
      (∀ status, s.updateMessageStatus messageId status = s) ∧
      (∀ d, s.updateDeliveryStatus messageId d = s) ∧
      s.deleteMessage messageId = (s, false)) ∧
    (∀ ms : List BitchatMessage, (ms.map (·.id)).Nodup →
      (new.run (ms.map .storeMessage)).messages = ms.drop (ms.length - 10000)) :=
  ⟨fun ops => ⟨(inv_run ops).nodup, (inv_run ops).length_le⟩,
    fun ops _ hm => (inv_run ops).storeMessage_messages hm,
    fun _ _ hm => storeMessage_of_mem hm,
    fun _ _ hm => ⟨fun _ => updateMessage_of_not_mem _ hm, fun _ => updateMessage_of_not_mem _ hm,
      deleteMessage_of_not_mem hm⟩,
    fun _ h => run_storeMessage_messages h⟩

/-! ### Looking a message up -/

theorem getMessage_eq_none_iff {s : MessageStorage} {messageId : Uuid} :
    s.getMessage messageId = none ↔ messageId ∉ s.ids := by
  simp [getMessage, ids]

theorem Inv.getMessage_eq_some_iff {s : MessageStorage} (h : Inv s) {messageId : Uuid}
    {m : BitchatMessage} : s.getMessage messageId = some m ↔ m ∈ s.messages ∧ m.id = messageId := by
  constructor
  · intro hm
    exact ⟨List.mem_of_find?_eq_some hm, by simpa using List.find?_some hm⟩
  · rintro ⟨hm, rfl⟩
    cases hf : s.getMessage m.id with
    | none => exact absurd (List.mem_map_of_mem _ hm) (getMessage_eq_none_iff.mp hf)
    | some m' =>
      have hid : m'.id = m.id := by simpa using List.find?_some hf
      rw [List.inj_on_of_nodup_map h.nodup (List.mem_of_find?_eq_some hf) hm hid]

theorem Inv.getMessage_storeMessage {s : MessageStorage} (h : Inv s) (m : BitchatMessage) :
    (s.storeMessage m).getMessage m.id =
      if m.id ∈ s.ids then s.getMessage m.id else some m := by
  split_ifs with hm
  · rw [storeMessage_of_mem hm]
  · refine (h.storeMessage m).getMessage_eq_some_iff.mpr ⟨?_, rfl⟩
    rw [h.storeMessage_messages hm]
    split_ifs <;> simp

theorem Inv.getMessage_deleteMessage {s : MessageStorage} (h : Inv s) (messageId : Uuid) :
    (s.deleteMessage messageId).1.getMessage messageId = none := by
  rw [getMessage_eq_none_iff]
  unfold deleteMessage
  split
  · rename_i pos hpos
    obtain ⟨hlt, hp, -⟩ := List.findIdx?_eq_some_iff_getElem.mp hpos
    have hsplit :
        s.messages = s.messages.take pos ++ s.messages[pos] :: s.messages.drop (pos + 1) := by
      rw [← List.drop_eq_getElem_cons hlt, List.take_append_drop]
    have hnd := h.nodup
    rw [ids, hsplit, List.map_append, List.map_cons, List.nodup_middle, List.nodup_cons,
      ← List.map_append, beq_iff_eq.mp hp] at hnd
    simpa only [ids, List.eraseIdx_eq_take_drop_succ] using hnd.1
  · rename_i hnone
    simpa [ids, List.findIdx?_eq_none_iff] using hnone

theorem getMessage_updateMessage (s : MessageStorage) (messageId : Uuid)
    {f : BitchatMessage → BitchatMessage} (hf : ∀ m, (f m).id = m.id) (messageId' : Uuid) :
    (s.updateMessage messageId f).getMessage messageId' =
      if messageId' = messageId then (s.getMessage messageId).map f
      else s.getMessage messageId' := by
  unfold getMessage updateMessage
  split_ifs with he
  · subst he
    exact find?_updateFirst (fun m hm => by simpa [hf] using hm) _
  · exact find?_updateFirst_of_disjoint (fun m hm => by
      simp only [beq_iff_eq] at hm
      simp [hf, hm, Ne.symm he]) _

/-- In every store the calls reach from `MessageStorage::new()`, `get_message` finds exactly the
stored message with the id. After `store_message(m)` it finds `m`, or the message stored earlier
under `m`'s id, which the store keeps; after `delete_message(id)` it finds nothing, since ids
are distinct. In every store, `update_message_status` and `update_delivery_status` change what
`get_message` returns for their id only, and as the update says. -/
theorem getMessage_writes (ops : List Op) (messageId : Uuid) :
    (∀ m, (new.run ops).getMessage messageId = some m ↔
      m ∈ (new.run ops).messages ∧ m.id = messageId) ∧
    (∀ m, ((new.run ops).storeMessage m).getMessage m.id =
      if m.id ∈ (new.run ops).ids then (new.run ops).getMessage m.id else some m) ∧
    ((new.run ops).deleteMessage messageId).1.getMessage messageId = none ∧
    (∀ (s : MessageStorage) status messageId', (s.updateMessageStatus messageId status).getMessage
      messageId' = if messageId' = messageId then (s.getMessage messageId).map (·.setStatus status)
        else s.getMessage messageId') ∧
    (∀ (s : MessageStorage) d messageId', (s.updateDeliveryStatus messageId d).getMessage
      messageId' = if messageId' = messageId then
        (s.getMessage messageId).map (·.setDeliveryStatus d) else s.getMessage messageId') :=
  ⟨fun _ => (inv_run ops).getMessage_eq_some_iff, (inv_run ops).getMessage_storeMessage,
    (inv_run ops).getMessage_deleteMessage messageId,
    fun s _ => getMessage_updateMessage s messageId fun _ => rfl,
    fun s _ => getMessage_updateMessage s messageId fun _ => rfl⟩

/-! ### History queries and export -/

theorem Inv.getMessages_storeMessage_head {s : MessageStorage} (h : Inv s)
    {message : BitchatMessage} (hm : message.id ∉ s.ids) {channel : Option String}
    (hc : matchesChannel channel message = true) {limit : UInt32} (hlimit : 0 < limit.toNat) :
    ((s.storeMessage message).getMessages channel limit).head? = some message := by
  obtain ⟨older, hl⟩ : ∃ older, (s.storeMessage message).messages = older ++ [message] := by
    rw [h.storeMessage_messages hm]
    split_ifs
    exacts [⟨_, rfl⟩, ⟨_, rfl⟩]
  rw [getMessages, hl, List.filter_append, List.filter_cons_of_pos hc, List.filter_nil,
    List.reverse_append, List.head?_take, if_neg (Nat.pos_iff_ne_zero.mp hlimit)]
  rfl

/-- In every store the calls reach from `MessageStorage::new()`, a private message stored under
a new id is the newest message that `get_messages` returns for `"public"` and for
`"broadcast"`: a message without a channel passes both filters, whatever its type. -/
theorem newPrivate_newest_in_public (ops : List Op) (id : Uuid) (now : Int) (senderId : PeerId)
    (senderNickname : String) (recipientId : PeerId) (content : String)
    (hid : id ∉ (new.run ops).ids) {ch : String} (hch : ch = "public" ∨ ch = "broadcast")
    {limit : UInt32} (hlimit : 0 < limit.toNat) :
    (((new.run ops).storeMessage (BitchatMessage.newPrivate id now senderId senderNickname
        recipientId content)).getMessages (some ch) limit).head? =
      some (BitchatMessage.newPrivate id now senderId senderNickname recipientId content) := by
  refine (inv_run ops).getMessages_storeMessage_head hid ?_ hlimit
  rcases hch with rfl | rfl <;> rfl

theorem private_message_in_public_history :
    Uuid.mk 0 ∉ (new.run []).ids ∧ ("public" = "public" ∨ "public" = "broadcast") ∧
      0 < (1 : UInt32).toNat ∧
      (((new.run []).storeMessage (BitchatMessage.newPrivate ⟨0⟩ 0 (Mathlib.Vector.replicate 8 1)
          "alice" (Mathlib.Vector.replicate 8 2) "hi")).getMessages (some "public") 1).head? =
        some (BitchatMessage.newPrivate ⟨0⟩ 0 (Mathlib.Vector.replicate 8 1) "alice"
          (Mathlib.Vector.replicate 8 2) "hi") :=
  ⟨List.not_mem_nil _, .inl rfl, by decide,
    newPrivate_newest_in_public [] ⟨0⟩ 0 _ _ _ _ (List.not_mem_nil _) (.inl rfl) (by decide)⟩

theorem run_map_storeMessage (s : MessageStorage) (ms : List BitchatMessage) :
    s.run (ms.map .storeMessage) = ms.foldl storeMessage s :=
  List.foldl_map _ _ _ _

theorem importMessages_map_some (s : MessageStorage) (ms : List BitchatMessage) :
    s.importMessages (ms.map some) = (ms.foldl storeMessage s, ms.length) := by
  unfold MessageStorage.importMessages
  rw [← Nat.zero_add ms.length]
  generalize 0 = n
  induction ms generalizing s n with
  | nil => rfl
  | cons m ms ih =>
    rw [List.map_cons, List.foldl_cons, List.foldl_cons, List.length_cons]
    exact (ih (s.storeMessage m) (n + 1)).trans (by rw [Nat.add_right_comm, Nat.add_assoc])

theorem run_storeMessage_of_length_le {ms : List BitchatMessage} (h : (ms.map (·.id)).Nodup)
    (hlen : ms.length ≤ 10000) : new.run (ms.map .storeMessage) = ⟨ms, 10000⟩ := by
  have hmsgs := run_storeMessage_messages h
  rw [Nat.sub_eq_zero_of_le hlen, List.drop_zero] at hmsgs
  calc new.run (ms.map .storeMessage)
      = ⟨(new.run (ms.map .storeMessage)).messages,
          (new.run (ms.map .storeMessage)).maxMessages⟩ := rfl
    _ = ⟨ms, 10000⟩ := by rw [hmsgs, (inv_run _).maxMessages_eq]

/-- In every store the calls reach from `MessageStorage::new()`, importing the export of a
filter into a new store gives the messages the filter selects, newest first, and counts them:
the export lists them newest first and the import stores them in that order. -/
theorem importMessages_exportMessages (ops : List Op) (channel : Option String) :
    new.importMessages (((new.run ops).exportMessages channel).map some) =
      (⟨((new.run ops).messages.filter (matchesChannel channel)).reverse, 10000⟩,
        ((new.run ops).messages.filter (matchesChannel channel)).length) := by
  have hinv := inv_run ops
  have hsel : ((new.run ops).messages.filter (matchesChannel channel)).Sublist
      (new.run ops).messages := List.filter_sublist _
  have hlen := hsel.length_le.trans (hinv.maxMessages_eq ▸ hinv.length_le)
  have hexp : (new.run ops).exportMessages channel =
      ((new.run ops).messages.filter (matchesChannel channel)).reverse :=
    List.take_of_length_le (by rw [List.length_reverse]; exact hlen.trans (by decide))
  have hnodup : ((((new.run ops).messages.filter (matchesChannel channel)).reverse).map
      (·.id)).Nodup := by
    rw [List.map_reverse, List.nodup_reverse]
    exact hinv.nodup.sublist (hsel.map _)
  rw [hexp, importMessages_map_some, List.length_reverse, ← run_map_storeMessage,
    run_storeMessage_of_length_le hnodup (by rwa [List.length_reverse])]

def twoBroadcasts : List Op :=
  [.storeMessage (BitchatMessage.newBroadcast ⟨0⟩ 0 (Mathlib.Vector.replicate 8 1) "alice" "x"),
    .storeMessage (BitchatMessage.newBroadcast ⟨1⟩ 1 (Mathlib.Vector.replicate 8 1) "alice" "y")]

theorem export_import_reverses_history :
    (new.run twoBroadcasts).messages.map (·.content) = ["x", "y"] ∧
      (new.importMessages (((new.run twoBroadcasts).exportMessages none).map some)).1.messages.map
        (·.content) = ["y", "x"] ∧
      (new.importMessages (((new.run twoBroadcasts).exportMessages none).map some)).2 = 2 :=
  ⟨rfl, by rw [importMessages_exportMessages]; rfl, by rw [importMessages_exportMessages]; rfl⟩

/-! History queries. -/

theorem getMessages_eq_newestWhere (s : MessageStorage) (channel : Option String)
    (limit : UInt32) : s.getMessages channel limit = s.newestWhere (matchesChannel channel) limit :=
  rfl

theorem mem_take_singleton {α : Type} {m a : α} {k : Nat} : m ∈ [a].take k ↔ m = a ∧ 0 < k := by
  cases k <;> simp

theorem mem_take_reverse_filter {α : Type} (keep : α → Bool) (n : Nat) (m : α) (xs : List α) :
    m ∈ (xs.filter keep).reverse.take n ↔
      ∃ older newer, xs = older ++ m :: newer ∧ keep m ∧ (newer.filter keep).length < n := by
  induction xs with
  | nil => simp
  | cons a xs ih =>
    simp only [List.cons_eq_append_iff]
    by_cases ha : keep a
    · rw [List.filter_cons_of_pos ha, List.reverse_cons, List.take_append_eq_append_take,
        List.mem_append, ih, mem_take_singleton, List.length_reverse]
      constructor
      · rintro (⟨older, newer, rfl, hm, hlt⟩ | ⟨rfl, hlt⟩)
        · exact ⟨a :: older, newer, .inr ⟨older, rfl, rfl⟩, hm, hlt⟩
        · exact ⟨[], xs, .inl ⟨rfl, rfl⟩, ha, by omega⟩
      · rintro ⟨older, newer, (⟨rfl, he⟩ | ⟨older', rfl, rfl⟩), hm, hlt⟩
        · cases he; exact .inr ⟨rfl, by omega⟩
        · exact .inl ⟨older', newer, rfl, hm, hlt⟩
    · rw [List.filter_cons_of_neg ha, ih]
      constructor
      · rintro ⟨older, newer, rfl, hm, hlt⟩
        exact ⟨a :: older, newer, .inr ⟨older, rfl, rfl⟩, hm, hlt⟩
      · rintro ⟨older, newer, (⟨rfl, he⟩ | ⟨older', rfl, rfl⟩), hm, hlt⟩
        · cases he; exact absurd hm ha
        · exact ⟨older', newer, rfl, hm, hlt⟩

/-- What each history query (`get_messages`, `get_messages_from_sender`, `get_private_messages`,
`search_messages`, `get_mentions`) returns: as many of the messages its filter keeps as the limit
allows, newest first, namely those with fewer than `limit` kept messages stored after them. -/
theorem newestWhere_spec (s : MessageStorage) (keep : BitchatMessage → Bool) (limit : UInt32) :
    (s.newestWhere keep limit).length = min limit.toNat (s.messages.countP keep) ∧
    (s.newestWhere keep limit).reverse.Sublist s.messages ∧
    ∀ m, m ∈ s.newestWhere keep limit ↔ ∃ older newer, s.messages = older ++ m :: newer ∧
      keep m ∧ (newer.filter keep).length < limit.toNat := by
  refine ⟨by simp [newestWhere, List.countP_eq_length_filter], ?_,
    fun m => mem_take_reverse_filter keep _ m _⟩
  rw [newestWhere, List.reverse_take, List.reverse_reverse]
  exact (List.drop_sublist _ _).trans (List.filter_sublist _)

/-! Statistics. -/

/-- `*counts.entry(key).or_insert(0) += 1`. The counters are `i32`; `statistics_counts` shows
that in every reachable store they stay below the store's cap. -/
def countInto (counts : DashMap String Nat) (key : String) : DashMap String Nat :=
  counts.insert key ((counts.lookup key).getD 0 + 1)

/-- One pass of `get_statistics` over the messages, counting them by `key`. -/
def countBy (key : BitchatMessage → String) (messages : List BitchatMessage) :
    DashMap String Nat :=
  messages.foldl (fun counts message => countInto counts (key message)) ∅

/-- The estimate `get_statistics` gives of the store's size in bytes: `len()` of a `String`
is its UTF-8 length. -/
def estimatedSizeBytes (s : MessageStorage) : Nat :=
  (s.messages.map fun msg => msg.content.utf8ByteSize + msg.senderNickname.utf8ByteSize +
    (msg.channel.map String.utf8ByteSize).getD 0 + 200).sum

/-- `get_statistics`. A `usize` is written as a `u64`, a non-negative `i32` counter as the
same integer, and `estimated_size_mb`, a finite `f64`, as a float. -/
def getStatistics (s : MessageStorage) : Json.Value :=
  .object
    [("total_messages", .ofU64 s.messages.length.toUInt64),
     ("max_messages", .ofU64 s.maxMessages.toUInt64),
     ("estimated_size_bytes", .ofU64 s.estimatedSizeBytes.toUInt64),
     ("estimated_size_mb", .number .float),
     ("by_channel", .ofMap (fun n => .ofU64 n.toUInt64)
        (countBy BitchatMessage.getChannelDisplayName s.messages)),
     ("by_type", .ofMap (fun n => .ofU64 n.toUInt64)
        (countBy (·.messageType.debugName) s.messages)),
     ("by_status", .ofMap (fun n => .ofU64 n.toUInt64)
        (countBy (·.status.debugName) s.messages))]

theorem sum_insert {K : Type} [DecidableEq K] (m : DashMap K Nat) (k : K) (v : Nat) :
    ((m.insert k v).entries.map (·.2)).sum + (m.lookup k).getD 0 =
      (m.entries.map (·.2)).sum + v := by
  rw [AList.insert_entries]
  by_cases hk : k ∈ m
  · obtain ⟨b, l₁, l₂, -, he, hke⟩ := List.exists_of_kerase (AList.mem_keys.mp hk)
    have hl : m.lookup k = some b := AList.mem_lookup_iff.mpr (by rw [he]; simp)
    rw [hke, hl, he]
    simp only [List.map_cons, List.map_append, List.sum_cons, List.sum_append, Option.getD_some]
    omega
  · rw [List.kerase_of_not_mem_keys (mt AList.mem_keys.mpr hk), AList.lookup_eq_none.mpr hk]
    simp only [List.map_cons, List.sum_cons, Option.getD_none]
    omega

theorem lookup_countInto (counts : DashMap String Nat) (key k : String) :
    ((countInto counts key).lookup k).getD 0 =
      (counts.lookup k).getD 0 + if key = k then 1 else 0 := by
  by_cases h : key = k
  · subst h; simp [countInto]
  · simp [countInto, AList.lookup_insert_ne (Ne.symm h), h]

section

variable (key : BitchatMessage → String)

theorem lookup_foldl_countInto (messages : List BitchatMessage) (counts : DashMap String Nat)
    (k : String) :
    ((messages.foldl (fun counts message => countInto counts (key message)) counts).lookup
        k).getD 0 = (counts.lookup k).getD 0 + messages.countP (key · = k) := by
  induction messages generalizing counts with
  | nil => rfl
  | cons m messages ih =>
    rw [List.foldl_cons, ih, lookup_countInto, List.countP_cons]
    simp only [decide_eq_true_eq]
    omega

theorem mem_foldl_countInto (messages : List BitchatMessage) (counts : DashMap String Nat)
    (k : String) :
    k ∈ messages.foldl (fun counts message => countInto counts (key message)) counts ↔
      k ∈ counts ∨ ∃ m ∈ messages, key m = k := by
  induction messages generalizing counts with
  | nil => simp
  | cons m messages ih =>
    rw [List.foldl_cons, ih, countInto, AList.mem_insert]
    simp only [List.mem_cons, exists_eq_or_imp]
    tauto

theorem sum_foldl_countInto (messages : List BitchatMessage) (counts : DashMap String Nat) :
    ((messages.foldl (fun counts message => countInto counts (key message)) counts).entries.map
        (·.2)).sum = (counts.entries.map (·.2)).sum + messages.length := by
  induction messages generalizing counts with
  | nil => rfl
  | cons m messages ih =>
    have := sum_insert counts (key m) ((counts.lookup (key m)).getD 0 + 1)
    rw [List.foldl_cons, ih, countInto, List.length_cons]
    omega

/-- In every store the calls reach from `MessageStorage::new()`, each count map of
`get_statistics` gives every key the number of stored messages with that key and has no other
key, so that its counts sum to `total_messages`; and no count exceeds the cap of 10000 messages,
so the `i32` counters never overflow. -/
theorem statistics_counts (ops : List Op) :
    (∀ k, ((countBy key (new.run ops).messages).lookup k).getD 0 =
      (new.run ops).messages.countP (key · = k)) ∧
    (∀ k, k ∈ countBy key (new.run ops).messages ↔ ∃ m ∈ (new.run ops).messages, key m = k) ∧
    ((countBy key (new.run ops).messages).entries.map (·.2)).sum =
      (new.run ops).messages.length ∧
    ∀ k n, (countBy key (new.run ops).messages).lookup k = some n → n ≤ 10000 := by
  have hcount : ∀ k, ((countBy key (new.run ops).messages).lookup k).getD 0 =
      (new.run ops).messages.countP (key · = k) := fun k =>
    (lookup_foldl_countInto key _ ∅ k).trans (Nat.zero_add _)
  refine ⟨hcount,
    fun k => (mem_foldl_countInto key _ ∅ k).trans (or_iff_right (AList.not_mem_empty k)),
    (sum_foldl_countInto key _ ∅).trans (Nat.zero_add _), fun k n hn => ?_⟩
  have hn : n = (new.run ops).messages.countP (key · = k) := by rw [← hcount, hn, Option.getD_some]
  have hlen := (inv_run ops).maxMessages_eq ▸ (inv_run ops).length_le
  exact hn ▸ (List.countP_le_length _).trans hlen

end

end MessageStorage

end Bitchat.Message
