import Bitchat.UiState.Preferences

/-! `ui_state/chat_state.rs`: the state of the chat view. Its typing indicators keep one
entry per channel with someone typing, listing each user once. Its font size is clamped to
`[10, 24]` by `set_font_size`, but `update_from_json` stores a JSON `font_size` truncated to
32 bits and unclamped, unlike `UserPreferences::update_from_json`. `update_from_json` reads back
from `to_json` the state that wrote it. The quiet-hours check takes the local time of day and
`chrono`'s parse of `HH:MM` as inputs; `get_current_view_info` is not modelled. Counters are
`u32` and wrap, as a release build computes them. -/

namespace Bitchat.UiState

open Json

structure NotificationSettings where
  enableSounds : Bool
  enableDesktopNotifications : Bool
  mentionNotifications : Bool
  privateMessageNotifications : Bool
  channelNotifications : DashMap String Bool
  /-- `HH:MM`, read only by the quiet-hours check. -/
  quietHoursStart : Option String
  quietHoursEnd : Option String

namespace NotificationSettings

def default : NotificationSettings :=
  { enableSounds := true, enableDesktopNotifications := true, mentionNotifications := true,
    privateMessageNotifications := true, channelNotifications := ∅, quietHoursStart := none,
    quietHoursEnd := none }

def shouldNotifyForChannel (n : NotificationSettings) (channel : String) : Bool :=
  (n.channelNotifications.lookup channel).getD true

def setChannelNotification (n : NotificationSettings) (channel : String) (enabled : Bool) :
    NotificationSettings :=
  { n with channelNotifications := n.channelNotifications.insert channel enabled }

/-- The nanoseconds of a day, the range of a `NaiveTime` read from `"%H:%M"`. -/
def nanosPerDay : Nat := 86400 * nanosPerSec

section

/- `parseTime` is `NaiveTime::parse_from_str(_, "%H:%M")`, in nanoseconds since midnight. -/
variable (parseTime : String → Option Nat)

/-- `is_quiet_hours` at the local time of day `now`. -/
def isQuietHours (n : NotificationSettings) (now : Nat) : Bool :=
  match n.quietHoursStart, n.quietHoursEnd with
  | some start, some end_ =>
    match parseTime start, parseTime end_ with
    | some startTime, some endTime =>
      if startTime ≤ endTime then startTime ≤ now && now ≤ endTime
      else startTime ≤ now || now ≤ endTime
    | _, _ => false
  | _, _ => false

/-- The two branches of `is_quiet_hours` make one test: the quiet hours are the stretch of the
clock from start to end, both included, running past midnight when the end comes first, so that
equal start and end make a single instant quiet and not the whole day. -/
theorem isQuietHours_eq_cyclic {n : NotificationSettings} {start end_ : String}
    {startTime endTime : Nat} (hs : n.quietHoursStart = some start)
    (he : n.quietHoursEnd = some end_) (hps : parseTime start = some startTime)
    (hpe : parseTime end_ = some endTime) (hst : startTime < nanosPerDay)
    (het : endTime < nanosPerDay) {now : Nat} (hnow : now < nanosPerDay) :
    n.isQuietHours parseTime now = decide ((now + nanosPerDay - startTime) % nanosPerDay ≤
      (endTime + nanosPerDay - startTime) % nanosPerDay) := by
  simp only [isQuietHours, hs, he, hps, hpe]
  simp only [nanosPerDay, nanosPerSec] at hst het hnow ⊢
  rw [Bool.eq_iff_iff, decide_eq_true_iff]
  split_ifs <;> simp only [Bool.and_eq_true, Bool.or_eq_true, decide_eq_true_iff] <;> omega

end

/-- `chrono`'s `"%H:%M"` parse on the two times of `nightQuiet`. -/
def readNightTimes : String → Option Nat
  | "22:00" => some (22 * 3600 * nanosPerSec)
  | "08:00" => some (8 * 3600 * nanosPerSec)
  | _ => none

def nightQuiet : NotificationSettings :=
  { default with quietHoursStart := some "22:00", quietHoursEnd := some "08:00" }

/-- At eleven at night the window that crosses midnight is on, by the cyclic test. -/
theorem nightQuiet_at_eleven :
    nightQuiet.isQuietHours readNightTimes (23 * 3600 * nanosPerSec) = true := by
  rw [@isQuietHours_eq_cyclic readNightTimes nightQuiet "22:00" "08:00" (22 * 3600 * nanosPerSec)
    (8 * 3600 * nanosPerSec) rfl rfl rfl rfl (by decide) (by decide) _ (by decide)]
  decide

def toJson (n : NotificationSettings) : Value :=
  .object [("enable_sounds", .bool n.enableSounds),
    ("enable_desktop_notifications", .bool n.enableDesktopNotifications),
    ("mention_notifications", .bool n.mentionNotifications),
    ("private_message_notifications", .bool n.privateMessageNotifications),
    ("channel_notifications", .ofMap Value.bool n.channelNotifications),
    ("quiet_hours_start", .ofOption Value.string n.quietHoursStart),
    ("quiet_hours_end", .ofOption Value.string n.quietHoursEnd)]

end NotificationSettings

structure ChatState where
  currentChannel : Option String
  activePrivateChats : List String
  unreadCounts : DashMap String UInt32
  typingIndicators : DashMap String (List String)
  lastSeenMessages : DashMap String String
  sidebarOpen : Bool
  channelListOpen : Bool
  peerListOpen : Bool
  searchQuery : String
  searchResults : List String
  notificationSettings : NotificationSettings
  uiTheme : String
  fontSize : UInt32
  autoScroll : Bool
  showTimestamps : Bool
  showAvatars : Bool
  compactMode : Bool

namespace ChatState

def new : ChatState :=
  { currentChannel := none, activePrivateChats := [], unreadCounts := ∅, typingIndicators := ∅,
    lastSeenMessages := ∅, sidebarOpen := false, channelListOpen := false,
    peerListOpen := false, searchQuery := "", searchResults := [],
    notificationSettings := NotificationSettings.default, uiTheme := "dark", fontSize := 14,
    autoScroll := true, showTimestamps := true, showAvatars := true, compactMode := false }

/-- `switch_to_channel`, which marks the channel read. -/
def switchToChannel (cs : ChatState) (channel : String) : ChatState :=
  { cs with currentChannel := some channel, unreadCounts := cs.unreadCounts.insert channel 0 }

def switchToPublic (cs : ChatState) : ChatState :=
  { cs with currentChannel := none, unreadCounts := cs.unreadCounts.insert "public" 0 }

def addUnread (cs : ChatState) (channel : String) : ChatState :=
  let count := (cs.unreadCounts.lookup channel).getD 0
  { cs with unreadCounts := cs.unreadCounts.insert channel (count + 1) }

def clearUnread (cs : ChatState) (channel : String) : ChatState :=
  { cs with unreadCounts := cs.unreadCounts.insert channel 0 }

def getTotalUnread (cs : ChatState) : UInt32 :=
  cs.unreadCounts.entries.foldl (fun total e => total + e.2) 0

/-- `add_typing_user`: the channel's list is created if missing, and the user added once. -/
def addTypingUser (cs : ChatState) (channel user : String) : ChatState :=
  let users := (cs.typingIndicators.lookup channel).getD []
  let users := if user ∈ users then users else users ++ [user]
  { cs with typingIndicators := cs.typingIndicators.insert channel users }

/-- `remove_typing_user`: the user is dropped, and the channel's entry with its last user. -/
def removeTypingUser (cs : ChatState) (channel user : String) : ChatState :=
  match cs.typingIndicators.lookup channel with
  | some users =>
    let users := users.filter (· != user)
    if users.isEmpty then { cs with typingIndicators := cs.typingIndicators.erase channel }
    else { cs with typingIndicators := cs.typingIndicators.insert channel users }
  | none => cs

def getTypingUsers (cs : ChatState) (channel : String) : List String :=
  (cs.typingIndicators.lookup channel).getD []

def toggleSidebar (cs : ChatState) : ChatState := { cs with sidebarOpen := !cs.sidebarOpen }

def toggleChannelList (cs : ChatState) : ChatState :=
  { cs with channelListOpen := !cs.channelListOpen }

def togglePeerList (cs : ChatState) : ChatState := { cs with peerListOpen := !cs.peerListOpen }

def setSearchQuery (cs : ChatState) (query : String) : ChatState := { cs with searchQuery := query }

def setSearchResults (cs : ChatState) (results : List String) : ChatState :=
  { cs with searchResults := results }

def clearSearch (cs : ChatState) : ChatState := { cs with searchQuery := "", searchResults := [] }

def updateLastSeen (cs : ChatState) (channel messageId : String) : ChatState :=
  { cs with lastSeenMessages := cs.lastSeenMessages.insert channel messageId }

def getLastSeen (cs : ChatState) (channel : String) : Option String :=
  cs.lastSeenMessages.lookup channel

def setTheme (cs : ChatState) (theme : String) : ChatState := { cs with uiTheme := theme }

def setFontSize (cs : ChatState) (size : UInt32) : ChatState :=
  { cs with fontSize := clamp size 10 24 }

def toggleAutoScroll (cs : ChatState) : ChatState := { cs with autoScroll := !cs.autoScroll }

def toggleTimestamps (cs : ChatState) : ChatState :=
  { cs with showTimestamps := !cs.showTimestamps }

def toggleAvatars (cs : ChatState) : ChatState := { cs with showAvatars := !cs.showAvatars }

def toggleCompactMode (cs : ChatState) : ChatState := { cs with compactMode := !cs.compactMode }

/-- `update_from_json`, which never fails; its `font_size` is cast with `as u32` and not
clamped. -/
def updateFromJson (cs : ChatState) (json : Value) : ChatState :=
  { cs with
    currentChannel := ((json.getStr "current_channel").map some).getD cs.currentChannel
    sidebarOpen := (json.getBool "sidebar_open").getD cs.sidebarOpen
    channelListOpen := (json.getBool "channel_list_open").getD cs.channelListOpen
    peerListOpen := (json.getBool "peer_list_open").getD cs.peerListOpen
    searchQuery := (json.getStr "search_query").getD cs.searchQuery
    uiTheme := (json.getStr "ui_theme").getD cs.uiTheme
    fontSize := ((json.getU64 "font_size").map UInt64.toUInt32).getD cs.fontSize
    autoScroll := (json.getBool "auto_scroll").getD cs.autoScroll
    showTimestamps := (json.getBool "show_timestamps").getD cs.showTimestamps
    showAvatars := (json.getBool "show_avatars").getD cs.showAvatars
    compactMode := (json.getBool "compact_mode").getD cs.compactMode }

/-- `to_json`: `serde_json::to_value` of the derived `Serialize`, the fields in the order of
their declaration. -/
def toJson (cs : ChatState) : Value :=
  .object [("current_channel", .ofOption Value.string cs.currentChannel),
    ("active_private_chats", .array (cs.activePrivateChats.map Value.string)),
    ("unread_counts", .ofMap (fun count => .ofU64 count.toUInt64) cs.unreadCounts),
    ("typing_indicators",
      .ofMap (fun users => .array (users.map Value.string)) cs.typingIndicators),
    ("last_seen_messages", .ofMap Value.string cs.lastSeenMessages),
    ("sidebar_open", .bool cs.sidebarOpen), ("channel_list_open", .bool cs.channelListOpen),
    ("peer_list_open", .bool cs.peerListOpen), ("search_query", .string cs.searchQuery),
    ("search_results", .array (cs.searchResults.map Value.string)),
    ("notification_settings", cs.notificationSettings.toJson), ("ui_theme", .string cs.uiTheme),
    ("font_size", .ofU64 cs.fontSize.toUInt64), ("auto_scroll", .bool cs.autoScroll),
    ("show_timestamps", .bool cs.showTimestamps), ("show_avatars", .bool cs.showAvatars),
    ("compact_mode", .bool cs.compactMode)]

/-- The calls that change the chat state, with their arguments; `reset` is `new()`. -/
inductive Op
  | switchToChannel (channel : String)
  | switchToPublic
  | addUnread (channel : String)
  | clearUnread (channel : String)
  | addTypingUser (channel user : String)
  | removeTypingUser (channel user : String)
  | toggleSidebar
  | toggleChannelList
  | togglePeerList
  | setSearchQuery (query : String)
  | setSearchResults (results : List String)
  | clearSearch
  | updateLastSeen (channel messageId : String)
  | setTheme (theme : String)
  | setFontSize (size : UInt32)
  | toggleAutoScroll
  | toggleTimestamps
  | toggleAvatars
  | toggleCompactMode
  | updateFromJson (json : Value)
  | reset

def step (cs : ChatState) : Op → ChatState
  | .switchToChannel channel => cs.switchToChannel channel
  | .switchToPublic => cs.switchToPublic
  | .addUnread channel => cs.addUnread channel
  | .clearUnread channel => cs.clearUnread channel
  | .addTypingUser channel user => cs.addTypingUser channel user
  | .removeTypingUser channel user => cs.removeTypingUser channel user
  | .toggleSidebar => cs.toggleSidebar
  | .toggleChannelList => cs.toggleChannelList
  | .togglePeerList => cs.togglePeerList
  | .setSearchQuery query => cs.setSearchQuery query
  | .setSearchResults results => cs.setSearchResults results
  | .clearSearch => cs.clearSearch
  | .updateLastSeen channel messageId => cs.updateLastSeen channel messageId
  | .setTheme theme => cs.setTheme theme
  | .setFontSize size => cs.setFontSize size
  | .toggleAutoScroll => cs.toggleAutoScroll
  | .toggleTimestamps => cs.toggleTimestamps
  | .toggleAvatars => cs.toggleAvatars
  | .toggleCompactMode => cs.toggleCompactMode
  | .updateFromJson json => cs.updateFromJson json
  | .reset => new

def run (cs : ChatState) (ops : List Op) : ChatState := ops.foldl step cs

/-- Whether a call writes a JSON `font_size`, the one write that skips the clamp. -/
def Op.writesRawFontSize : Op → Bool
  | .updateFromJson json => (json.getU64 "font_size").isSome
  | _ => false

/-- Every channel with an entry has someone typing, and nobody listed twice. -/
def TypingSound (typing : DashMap String (List String)) : Prop :=
  ∀ channel users, typing.lookup channel = some users → users ≠ [] ∧ users.Nodup

theorem typingSound_addTypingUser {cs : ChatState} (h : TypingSound cs.typingIndicators)
    (channel user : String) : TypingSound (cs.addTypingUser channel user).typingIndicators := by
  intro c us hc
  by_cases e : c = channel
  · subst e
    simp only [addTypingUser, AList.lookup_insert, Option.some.injEq] at hc
    subst hc
    have hold : ((cs.typingIndicators.lookup c).getD []).Nodup := by
      cases hl : cs.typingIndicators.lookup c with
      | none => exact List.nodup_nil
      | some users => exact (h c users hl).2
    split_ifs with hm
    · exact ⟨List.ne_nil_of_mem hm, hold⟩
    · exact ⟨by simp, List.nodup_append.mpr
        ⟨hold, List.nodup_singleton _, List.disjoint_singleton.mpr hm⟩⟩
  · exact h c us (by rwa [addTypingUser, AList.lookup_insert_ne e] at hc)

theorem typingSound_removeTypingUser {cs : ChatState} (h : TypingSound cs.typingIndicators)
    (channel user : String) : TypingSound (cs.removeTypingUser channel user).typingIndicators := by
  unfold removeTypingUser
  cases hl : cs.typingIndicators.lookup channel with
  | none => exact h
  | some users =>
    dsimp only
    intro c us hc
    by_cases e : c = channel
    · subst e
      split_ifs at hc with hemp
      · simp at hc
      · simp only [AList.lookup_insert, Option.some.injEq] at hc
        subst hc
        exact ⟨fun hnil => by simp [hnil] at hemp, (h c users hl).2.filter _⟩
    · split_ifs at hc
      · exact h c us (by rwa [AList.lookup_erase_ne e] at hc)
      · exact h c us (by rwa [AList.lookup_insert_ne e] at hc)

theorem typingSound_step {cs : ChatState} (h : TypingSound cs.typingIndicators) :
    ∀ op, TypingSound (cs.step op).typingIndicators
  | .addTypingUser channel user => typingSound_addTypingUser h channel user
  | .removeTypingUser channel user => typingSound_removeTypingUser h channel user
  | .reset => fun _ _ hc => by simp [step, new] at hc
  | .switchToChannel _ | .switchToPublic | .addUnread _ | .clearUnread _ | .toggleSidebar
  | .toggleChannelList | .togglePeerList | .setSearchQuery _ | .setSearchResults _ | .clearSearch
  | .updateLastSeen _ _ | .setTheme _ | .setFontSize _ | .toggleAutoScroll | .toggleTimestamps
  | .toggleAvatars | .toggleCompactMode | .updateFromJson _ => h

/-- From `ChatState::new()`, along every run of its calls (`update_from_json` and `reset`
included), each channel in `typing_indicators` lists at least one user and no user twice. -/
theorem typingSound_run (ops : List Op) : TypingSound (new.run ops).typingIndicators := by
  suffices ∀ cs : ChatState, TypingSound cs.typingIndicators →
      TypingSound (cs.run ops).typingIndicators from this new fun _ _ hc => by simp [new] at hc
  induction ops with
  | nil => exact fun _ h => h
  | cons op ops ih => exact fun cs h => ih _ (typingSound_step h op)

@[simp] theorem fontSize_removeTypingUser (cs : ChatState) (channel user : String) :
    (cs.removeTypingUser channel user).fontSize = cs.fontSize := by
  unfold removeTypingUser
  split
  · dsimp only
    split_ifs <;> rfl
  · rfl

theorem fontSize_step_cases (cs : ChatState) (op : Op) :
    (cs.step op).fontSize = cs.fontSize ∨
      (10 ≤ (cs.step op).fontSize.toNat ∧ (cs.step op).fontSize.toNat ≤ 24) ∨
      ∃ json v, op = .updateFromJson json ∧ json.getU64 "font_size" = some v ∧
        (cs.step op).fontSize = v.toUInt32 := by
  cases op with
  | setFontSize size => exact .inr (.inl (toNat_clamp size))
  | reset => exact .inr (.inl (show 10 ≤ (14 : UInt32).toNat ∧ (14 : UInt32).toNat ≤ 24 by decide))
  | updateFromJson json =>
    cases hv : json.getU64 "font_size" with
    | none => exact .inl (by simp [step, updateFromJson, hv])
    | some v => exact .inr (.inr ⟨json, v, rfl, hv, by simp [step, updateFromJson, hv]⟩)
  | removeTypingUser channel user => exact .inl (fontSize_removeTypingUser cs channel user)
  | _ => exact .inl rfl

theorem fontSize_step {cs : ChatState} (h : 10 ≤ cs.fontSize.toNat ∧ cs.fontSize.toNat ≤ 24)
    {op : Op} (hop : op.writesRawFontSize = false) :
    10 ≤ (cs.step op).fontSize.toNat ∧ (cs.step op).fontSize.toNat ≤ 24 := by
  rcases fontSize_step_cases cs op with he | hc | ⟨json, v, rfl, hv, -⟩
  · rwa [he]
  · exact hc
  · simp [Op.writesRawFontSize, hv] at hop

/-- From `ChatState::new()`, the font size stays within `set_font_size`'s clamp `[10, 24]`
along every run in which no `update_from_json` carries a `font_size`; such a call stores the
value cast to `u32` as it is. -/
theorem fontSize_run_of_no_raw {ops : List Op} (hops : ∀ op ∈ ops, op.writesRawFontSize = false) :
    10 ≤ (new.run ops).fontSize.toNat ∧ (new.run ops).fontSize.toNat ≤ 24 := by
  suffices ∀ cs : ChatState, 10 ≤ cs.fontSize.toNat ∧ cs.fontSize.toNat ≤ 24 →
      10 ≤ (cs.run ops).fontSize.toNat ∧ (cs.run ops).fontSize.toNat ≤ 24 from
    this new (by decide)
  induction ops with
  | nil => exact fun _ h => h
  | cons op ops ih =>
    exact fun cs h => ih (fun o ho => hops o (List.mem_cons_of_mem _ ho)) _
      (fontSize_step h (hops op (List.mem_cons_self _ _)))

/-- After every run from `ChatState::new()`, the font size is within the clamp `[10, 24]`, or it
is a `font_size` that an `update_from_json` of the run carried, reduced modulo `2^32` by `as u32`
and not clamped. -/
theorem fontSize_run (ops : List Op) :
    (10 ≤ (new.run ops).fontSize.toNat ∧ (new.run ops).fontSize.toNat ≤ 24) ∨
      ∃ json v, Op.updateFromJson json ∈ ops ∧ json.getU64 "font_size" = some v ∧
        (new.run ops).fontSize.toNat = v.toNat % 4294967296 := by
  induction ops using List.reverseRecOn with
  | nil => exact .inl (by decide)
  | append_singleton ops op ih =>
    have hrun : new.run (ops ++ [op]) = (new.run ops).step op := List.foldl_append ..
    rw [hrun]
    rcases fontSize_step_cases (new.run ops) op with he | hc | ⟨json, v, rfl, hv, he⟩
    · rw [he]
      exact ih.imp id fun ⟨json, v, hm, hv, hs⟩ => ⟨json, v, List.mem_append_left _ hm, hv, hs⟩
    · exact .inl hc
    · exact .inr ⟨json, v, List.mem_append_right _ (List.mem_singleton_self _), hv, by rw [he]; rfl⟩

theorem fontSize_run_of_set :
    (∀ op ∈ [Op.setFontSize 100, .updateFromJson (.object [("ui_theme", .string "light")])],
        op.writesRawFontSize = false) ∧
      10 ≤ (new.run [.setFontSize 100,
        .updateFromJson (.object [("ui_theme", .string "light")])]).fontSize.toNat ∧
      (new.run [.setFontSize 100,
        .updateFromJson (.object [("ui_theme", .string "light")])]).fontSize.toNat ≤ 24 :=
  have hops : ∀ op ∈ [Op.setFontSize 100, .updateFromJson (.object [("ui_theme", .string "light")])],
      op.writesRawFontSize = false := by decide
  ⟨hops, fontSize_run_of_no_raw hops⟩

/-- Every chat state is read back by `update_from_json` from its own `to_json`; the font size
comes back through `u64` and `as u32` unchanged. -/
theorem updateFromJson_toJson (cs : ChatState) : cs.updateFromJson cs.toJson = cs := by
  have hc : cs.toJson.getStr "current_channel" = cs.currentChannel := by
    unfold toJson
    cases cs.currentChannel <;> rfl
  have hmap : (cs.currentChannel.map some).getD cs.currentChannel = cs.currentChannel := by
    cases cs.currentChannel <;> rfl
  simp only [updateFromJson, hc, hmap]
  simp [toJson, Value.getBool, Value.getStr, Value.getU64, Value.get, Value.asBool, Value.asStr,
    Value.asU64, Value.ofU64, List.lookup_cons]

end ChatState

end Bitchat.UiState
