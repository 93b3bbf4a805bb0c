import Mathlib.Data.List.Infix
import Bitchat.Prelude.Json
import Bitchat.Prelude.Runtime

/-! `ui_state/preferences.rs`: the user's preferences, which the UI's `update_preferences`
command writes through `update_from_json`. The nickname is checked by `set_nickname` wherever
it is written, the font size is clamped wherever it is written, and the peer lists never hold
a duplicate; so every reachable state keeps the checks its setters make. `to_json` is serde's
derived serialization, and `update_from_json` reads back from it the state that wrote it. -/

namespace Bitchat.UiState

open Json

/-- `char::is_whitespace`: the characters with Unicode's `White_Space` property. -/
def charIsWhitespace (c : Char) : Bool :=
  let n := c.toNat
  (0x09 ≤ n && n ≤ 0x0D) || n == 0x20 || n == 0x85 || n == 0xA0 || n == 0x1680 ||
    (0x2000 ≤ n && n ≤ 0x200A) || n == 0x2028 || n == 0x2029 || n == 0x202F || n == 0x205F ||
    n == 0x3000

def strTrim (s : String) : String :=
  ⟨((s.data.dropWhile charIsWhitespace).reverse.dropWhile charIsWhitespace).reverse⟩

def clamp (v lo hi : UInt32) : UInt32 := if v < lo then lo else if v > hi then hi else v

theorem strTrim_isInfix (s : String) : (strTrim s).data <:+: s.data := by
  have h1 := List.dropWhile_suffix charIsWhitespace (l := s.data)
  have h2 := List.dropWhile_suffix charIsWhitespace
    (l := (s.data.dropWhile charIsWhitespace).reverse)
  have h3 : (strTrim s).data <+: s.data.dropWhile charIsWhitespace := by
    have := List.reverse_prefix.mpr h2
    rwa [List.reverse_reverse] at this
  exact h3.isInfix.trans h1.isInfix

theorem strTrim_data_eq_nil_iff (s : String) :
    (strTrim s).data = [] ↔ ∀ c ∈ s.data, charIsWhitespace c = true := by
  simp only [strTrim, List.reverse_eq_nil_iff, List.dropWhile_eq_nil_iff, List.mem_reverse]
  constructor
  · intro h
    by_contra hn
    have hne : s.data.dropWhile charIsWhitespace ≠ [] := fun he =>
      hn (List.dropWhile_eq_nil_iff.mp he)
    have := List.head_dropWhile_not charIsWhitespace s.data hne
    rw [h _ (List.head_mem hne)] at this
    cases this
  · intro h c hc
    rw [List.dropWhile_eq_nil_iff.mpr h] at hc
    cases hc

theorem strTrim_strTrim_ne_nil {s : String} (h : (strTrim s).data ≠ []) :
    (strTrim (strTrim s)).data ≠ [] := by
  have hne : (s.data.dropWhile charIsWhitespace).reverse.dropWhile charIsWhitespace ≠ [] := by
    simpa [strTrim] using h
  have hlast := List.head_dropWhile_not _ _ hne
  rw [ne_eq, strTrim_data_eq_nil_iff]
  intro hall
  rw [hall _ (by simp [strTrim])] at hlast
  cases hlast

theorem utf8ByteSize_strTrim_le (s : String) : (strTrim s).utf8ByteSize ≤ s.utf8ByteSize := by
  obtain ⟨a, b, hab⟩ := strTrim_isInfix s
  have hs : s.utf8ByteSize = String.utf8ByteSize.go s.data := rfl
  have ht : (strTrim s).utf8ByteSize = String.utf8ByteSize.go (strTrim s).data := rfl
  rw [hs, ht, ← hab, utf8ByteSize_go_append, utf8ByteSize_go_append]
  omega

theorem utf8ByteSize_append (s t : String) :
    (s ++ t).utf8ByteSize = s.utf8ByteSize + t.utf8ByteSize :=
  (congrArg String.utf8ByteSize.go (String.data_append s t)).trans (utf8ByteSize_go_append _ _)

theorem toNat_clamp (v : UInt32) : 10 ≤ (clamp v 10 24).toNat ∧ (clamp v 10 24).toNat ≤ 24 := by
  unfold clamp
  split_ifs with h1 h2
  · decide
  · decide
  · have h1' : ¬v.toNat < 10 := h1
    have h2' : ¬24 < v.toNat := h2
    omega

theorem clamp_of_le {v lo hi : UInt32} (hlo : lo.toNat ≤ v.toNat) (hhi : v.toNat ≤ hi.toNat) :
    clamp v lo hi = v := by
  have h1 : ¬ v < lo := Nat.not_lt.mpr hlo
  have h2 : ¬ v > hi := Nat.not_lt.mpr hhi
  simp [clamp, h1, h2]

@[simp] theorem toUInt32_toUInt64 (v : UInt32) : v.toUInt64.toUInt32 = v :=
  UInt32.toNat.inj ((BitVec.toNat_ofNat ..).trans (Nat.mod_eq_of_lt v.toNat_lt_size))

theorem dropWhile_of_head? {α : Type} {p : α → Bool} {l : List α}
    (h : ∀ a ∈ l.head?, p a = false) : l.dropWhile p = l := by
  cases l with
  | nil => rfl
  | cons a l => exact List.dropWhile_cons_of_neg (by simpa using h a rfl)

theorem strTrim_eq_self {s : String} (hh : ∀ c ∈ s.data.head?, charIsWhitespace c = false)
    (hl : ∀ c ∈ s.data.getLast?, charIsWhitespace c = false) : strTrim s = s := by
  have hl' : ∀ c ∈ s.data.reverse.head?, charIsWhitespace c = false := by simpa using hl
  simp only [strTrim, dropWhile_of_head? hh, dropWhile_of_head? hl', List.reverse_reverse]

theorem strTrim_strTrim (s : String) : strTrim (strTrim s) = strTrim s := by
  let front := s.data.dropWhile charIsWhitespace
  let back := front.reverse.dropWhile charIsWhitespace
  have hfront := List.head?_dropWhile_not charIsWhitespace s.data
  have hback := List.head?_dropWhile_not charIsWhitespace front.reverse
  apply strTrim_eq_self
  · -- the first character of the trim is the last of `back`, so the first of `front`
    intro c hc
    obtain ⟨pre, hpre⟩ := List.dropWhile_suffix charIsWhitespace (l := front.reverse)
    have hlast : front.reverse.getLast? = some c := by
      have hc' : back.getLast? = some c := by simpa [strTrim] using hc
      rw [← hpre, List.getLast?_append, hc']
      rfl
    rw [List.getLast?_reverse] at hlast
    simpa [front, hlast] using hfront
  · intro c hc
    have hc' : back.head? = some c := by simpa [strTrim] using hc
    simpa [back, hc'] using hback

structure BatterySettings where
  enablePowerSaving : Bool
  scanIntervalSeconds : UInt64
  connectionLimit : UInt32
  adaptiveScanning : Bool
  lowPowerThreshold : UInt8

def BatterySettings.default : BatterySettings :=
  { enablePowerSaving := true, scanIntervalSeconds := 5, connectionLimit := 8,
    adaptiveScanning := true, lowPowerThreshold := 20 }

structure PrivacySettings where
  hideRealName : Bool
  anonymousMode : Bool
  rotatePeerId : Bool
  rotationIntervalHours : UInt64
  blockUnknownPeers : Bool
  requireEncryption : Bool
  verifyFingerprints : Bool
  emergencyWipeEnabled : Bool
  dataRetentionDays : UInt32

def PrivacySettings.default : PrivacySettings :=
  { hideRealName := true, anonymousMode := false, rotatePeerId := true,
    rotationIntervalHours := 24, blockUnknownPeers := false, requireEncryption := true,
    verifyFingerprints := false, emergencyWipeEnabled := true, dataRetentionDays := 30 }

structure ColorScheme where
  primaryColor : String
  secondaryColor : String
  backgroundColor : String
  textColor : String
  accentColor : String
  errorColor : String
  successColor : String
  warningColor : String

def ColorScheme.default : ColorScheme :=
  { primaryColor := "#00ff41", secondaryColor := "#008f11", backgroundColor := "#0d1117",
    textColor := "#c9d1d9", accentColor := "#58a6ff", errorColor := "#ff6b6b",
    successColor := "#51cf66", warningColor := "#ffd43b" }

structure AppearanceSettings where
  theme : String
  fontFamily : String
  fontSize : UInt32
  /-- The IEEE 754 bits of the `f32`. -/
  lineHeight : UInt32
  messageSpacing : UInt32
  showAvatars : Bool
  showTimestamps : Bool
  timestampFormat : String
  compactMode : Bool
  autoScroll : Bool
  highlightMentions : Bool
  colorScheme : ColorScheme

/-- `AppearanceSettings::default()`; `0x3FB33333` is `1.4f32`. -/
def AppearanceSettings.default : AppearanceSettings :=
  { theme := "dark", fontFamily := "monospace", fontSize := 14, lineHeight := 0x3FB33333,
    messageSpacing := 8, showAvatars := true, showTimestamps := true,
    timestampFormat := "HH:mm:ss", compactMode := false, autoScroll := true,
    highlightMentions := true, colorScheme := ColorScheme.default }

structure ChannelPreference where
  name : String
  autoJoin : Bool
  notificationsEnabled : Bool
  password : Option String
  customColor : Option String
  priority : UInt8

structure BackupSettings where
  autoBackup : Bool
  backupIntervalHours : UInt64
  backupLocation : String
  includeMessages : Bool
  includePreferences : Bool
  includePeerList : Bool
  encryptBackups : Bool
  maxBackupFiles : UInt32

def BackupSettings.default : BackupSettings :=
  { autoBackup := false, backupIntervalHours := 24,
    backupLocation := "~/Documents/BitChat/Backups", includeMessages := true, includePreferences := true, includePeerList := true,
    encryptBackups := true, maxBackupFiles := 10 }

structure UserPreferences where
  nickname : String
  autoConnect : Bool
  rememberChannels : Bool
  saveMessageHistory : Bool
  encryptionEnabled : Bool
  enhancedCryptoEnabled : Bool
  discoveryEnabled : Bool
  relayMessages : Bool
  batteryOptimization : BatterySettings
  privacySettings : PrivacySettings
  appearance : AppearanceSettings
  keyboardShortcuts : DashMap String String
  blockedPeers : List String
  favoritePeers : List String
  customChannels : List ChannelPreference
  backupSettings : BackupSettings

/-! `to_json`: `serde_json::to_value` of the derived `Serialize`, the fields in the order of their
declaration. It cannot fail, since every map key is a `String`. -/

def BatterySettings.toJson (b : BatterySettings) : Value :=
  .object [("enable_power_saving", .bool b.enablePowerSaving),
    ("scan_interval_seconds", .ofU64 b.scanIntervalSeconds),
    ("connection_limit", .ofU64 b.connectionLimit.toUInt64),
    ("adaptive_scanning", .bool b.adaptiveScanning),
    ("low_power_threshold", .ofU64 b.lowPowerThreshold.toUInt64)]

def PrivacySettings.toJson (s : PrivacySettings) : Value :=
  .object [("hide_real_name", .bool s.hideRealName), ("anonymous_mode", .bool s.anonymousMode),
    ("rotate_peer_id", .bool s.rotatePeerId),
    ("rotation_interval_hours", .ofU64 s.rotationIntervalHours),
    ("block_unknown_peers", .bool s.blockUnknownPeers),
    ("require_encryption", .bool s.requireEncryption),
    ("verify_fingerprints", .bool s.verifyFingerprints),
    ("emergency_wipe_enabled", .bool s.emergencyWipeEnabled),
    ("data_retention_days", .ofU64 s.dataRetentionDays.toUInt64)]

def ColorScheme.toJson (c : ColorScheme) : Value :=
  .object [("primary_color", .string c.primaryColor), ("secondary_color", .string c.secondaryColor),
    ("background_color", .string c.backgroundColor), ("text_color", .string c.textColor),
    ("accent_color", .string c.accentColor), ("error_color", .string c.errorColor),
    ("success_color", .string c.successColor), ("warning_color", .string c.warningColor)]

def AppearanceSettings.toJson (a : AppearanceSettings) : Value :=
  .object [("theme", .string a.theme), ("font_family", .string a.fontFamily),
    ("font_size", .ofU64 a.fontSize.toUInt64), ("line_height", .ofF32 a.lineHeight),
    ("message_spacing", .ofU64 a.messageSpacing.toUInt64), ("show_avatars", .bool a.showAvatars),
    ("show_timestamps", .bool a.showTimestamps), ("timestamp_format", .string a.timestampFormat),
    ("compact_mode", .bool a.compactMode), ("auto_scroll", .bool a.autoScroll),
    ("highlight_mentions", .bool a.highlightMentions), ("color_scheme", a.colorScheme.toJson)]

def ChannelPreference.toJson (c : ChannelPreference) : Value :=
  .object [("name", .string c.name), ("auto_join", .bool c.autoJoin),
    ("notifications_enabled", .bool c.notificationsEnabled),
    ("password", .ofOption Value.string c.password),
    ("custom_color", .ofOption Value.string c.customColor),
    ("priority", .ofU64 c.priority.toUInt64)]

def BackupSettings.toJson (b : BackupSettings) : Value :=
  .object [("auto_backup", .bool b.autoBackup),
    ("backup_interval_hours", .ofU64 b.backupIntervalHours),
    ("backup_location", .string b.backupLocation), ("include_messages", .bool b.includeMessages),
    ("include_preferences", .bool b.includePreferences),
    ("include_peer_list", .bool b.includePeerList), ("encrypt_backups", .bool b.encryptBackups),
    ("max_backup_files", .ofU64 b.maxBackupFiles.toUInt64)]

def UserPreferences.toJson (p : UserPreferences) : Value :=
  .object [("nickname", .string p.nickname), ("auto_connect", .bool p.autoConnect),
    ("remember_channels", .bool p.rememberChannels),
    ("save_message_history", .bool p.saveMessageHistory),
    ("encryption_enabled", .bool p.encryptionEnabled),
    ("enhanced_crypto_enabled", .bool p.enhancedCryptoEnabled),
    ("discovery_enabled", .bool p.discoveryEnabled), ("relay_messages", .bool p.relayMessages),
    ("battery_optimization", p.batteryOptimization.toJson),
    ("privacy_settings", p.privacySettings.toJson), ("appearance", p.appearance.toJson),
    ("keyboard_shortcuts", .ofMap Value.string p.keyboardShortcuts),
    ("blocked_peers", .array (p.blockedPeers.map Value.string)),
    ("favorite_peers", .array (p.favoritePeers.map Value.string)),
    ("custom_channels", .array (p.customChannels.map ChannelPreference.toJson)),
    ("backup_settings", p.backupSettings.toJson)]

namespace UserPreferences

def adjectives : List String :=
  ["Quick", "Silent", "Bright", "Swift", "Clever", "Bold", "Wise", "Cool"]

def nouns : List String := ["Fox", "Wolf", "Eagle", "Shark", "Tiger", "Dragon", "Phoenix", "Falcon"]

def digitChar (d : Nat) : Char := Char.ofNat (48 + d)

/-- `format!("{:03}", n)` for `n < 1000`. -/
def formatPadded3 (n : Nat) : String :=
  ⟨[digitChar (n / 100 % 10), digitChar (n / 10 % 10), digitChar (n % 10)]⟩

/-- `generate_default_nickname`, whose three `rand::random` draws are the inputs. -/
def generateDefaultNickname (adj noun : Nat) (num : UInt16) : String :=
  adjectives.get ⟨adj % 8, Nat.mod_lt _ (by decide)⟩ ++
    nouns.get ⟨noun % 8, Nat.mod_lt _ (by decide)⟩ ++ formatPadded3 (num.toNat % 1000)

def defaultKeyboardShortcuts : DashMap String String :=
  [("send_message", "Enter"), ("new_line", "Shift+Enter"), ("toggle_sidebar", "Ctrl+B"),
    ("search", "Ctrl+F"), ("join_channel", "Ctrl+J"), ("private_message", "Ctrl+M"),
    ("clear_chat", "Ctrl+L"), ("emergency_wipe", "Ctrl+Alt+W")].foldl
    (fun shortcuts (action, shortcut) => shortcuts.insert action shortcut) ∅

def new (adj noun : Nat) (num : UInt16) : UserPreferences :=
  { nickname := generateDefaultNickname adj noun num, autoConnect := true,
    rememberChannels := true, saveMessageHistory := true, encryptionEnabled := true,
    enhancedCryptoEnabled := false, discoveryEnabled := true, relayMessages := true,
    batteryOptimization := BatterySettings.default, privacySettings := PrivacySettings.default,
    appearance := AppearanceSettings.default, keyboardShortcuts := defaultKeyboardShortcuts,
    blockedPeers := [], favoritePeers := [], customChannels := [],
    backupSettings := BackupSettings.default }

/-- The three checks of `set_nickname`, in order, with the error each returns. -/
def nicknameError (nickname : String) : Option String :=
  if (strTrim nickname).data = [] then some "Nickname cannot be empty"
  else if nickname.utf8ByteSize > 50 then some "Nickname too long (max 50 characters)"
  else if '@' ∈ nickname.data ∨ '#' ∈ nickname.data ∨ '/' ∈ nickname.data then
    some "Nickname contains invalid characters"
  else none

/-- `set_nickname`, with the preferences after the call: unchanged when it fails. -/
def setNickname (p : UserPreferences) (nickname : String) : UserPreferences × Except String Unit :=
  match nicknameError nickname with
  | some e => (p, .error e)
  | none => ({ p with nickname := strTrim nickname }, .ok ())

def addFavoritePeer (p : UserPreferences) (peerId : String) : UserPreferences :=
  if peerId ∈ p.favoritePeers then p else { p with favoritePeers := p.favoritePeers ++ [peerId] }

def removeFavoritePeer (p : UserPreferences) (peerId : String) : UserPreferences :=
  { p with favoritePeers := p.favoritePeers.filter (· != peerId) }

/-- `block_peer`, which also drops the peer from the favorites. -/
def blockPeer (p : UserPreferences) (peerId : String) : UserPreferences :=
  let p := if peerId ∈ p.blockedPeers then p
    else { p with blockedPeers := p.blockedPeers ++ [peerId] }
  p.removeFavoritePeer peerId

def unblockPeer (p : UserPreferences) (peerId : String) : UserPreferences :=
  { p with blockedPeers := p.blockedPeers.filter (· != peerId) }

def isPeerBlocked (p : UserPreferences) (peerId : String) : Bool := decide (peerId ∈ p.blockedPeers)

def isPeerFavorite (p : UserPreferences) (peerId : String) : Bool :=
  decide (peerId ∈ p.favoritePeers)

/-- `set_channel_preference`: the entry of that name is replaced, or the new one appended. -/
def setChannelPreference (p : UserPreferences) (channel : ChannelPreference) : UserPreferences :=
  if p.customChannels.any (·.name == channel.name) then
    { p with customChannels :=
        updateFirst (·.name == channel.name) (fun _ => channel) p.customChannels }
  else { p with customChannels := p.customChannels ++ [channel] }

def getChannelPreference (p : UserPreferences) (channelName : String) :
    Option ChannelPreference :=
  p.customChannels.find? (·.name == channelName)

def removeChannelPreference (p : UserPreferences) (channelName : String) : UserPreferences :=
  { p with customChannels := p.customChannels.filter (·.name != channelName) }

def setKeyboardShortcut (p : UserPreferences) (action shortcut : String) : UserPreferences :=
  { p with keyboardShortcuts := p.keyboardShortcuts.insert action shortcut }

def getKeyboardShortcut (p : UserPreferences) (action : String) : Option String :=
  p.keyboardShortcuts.lookup action

def setTheme (p : UserPreferences) (theme : String) : UserPreferences :=
  { p with appearance := { p.appearance with theme := theme } }

def setFont (p : UserPreferences) (family : String) (size : UInt32) : UserPreferences :=
  { p with appearance := { p.appearance with fontFamily := family, fontSize := clamp size 10 24 } }

def setEnhancedCrypto (p : UserPreferences) (enabled : Bool) : UserPreferences :=
  { p with enhancedCryptoEnabled := enabled }

def updatePrivacySettings (p : UserPreferences) (settings : PrivacySettings) : UserPreferences :=
  { p with privacySettings := settings }

def updateBatterySettings (p : UserPreferences) (settings : BatterySettings) : UserPreferences :=
  { p with batteryOptimization := settings }

/-- The part of `update_from_json` after the nickname, which cannot fail. -/
def updateFields (p : UserPreferences) (json : Value) : UserPreferences :=
  { p with
    autoConnect := (json.getBool "auto_connect").getD p.autoConnect
    rememberChannels := (json.getBool "remember_channels").getD p.rememberChannels
    saveMessageHistory := (json.getBool "save_message_history").getD p.saveMessageHistory
    encryptionEnabled := (json.getBool "encryption_enabled").getD p.encryptionEnabled
    enhancedCryptoEnabled := (json.getBool "enhanced_crypto_enabled").getD p.enhancedCryptoEnabled
    discoveryEnabled := (json.getBool "discovery_enabled").getD p.discoveryEnabled
    relayMessages := (json.getBool "relay_messages").getD p.relayMessages
    appearance :=
      match json.get "appearance" with
      | some appearance =>
        { p.appearance with
          theme := (appearance.getStr "theme").getD p.appearance.theme
          fontFamily := (appearance.getStr "font_family").getD p.appearance.fontFamily
          fontSize := ((appearance.getU64 "font_size").map fun v => clamp v.toUInt32 10 24).getD
            p.appearance.fontSize }
      | none => p.appearance }

/-- `update_from_json`, with the preferences after the call. A nickname is set first, so a
nickname that fails its check returns before anything is written. -/
def updateFromJson (p : UserPreferences) (json : Value) : UserPreferences × Except String Unit :=
  match json.getStr "nickname" with
  | some nickname =>
    match p.setNickname nickname with
    | (p, .error e) => (p, .error e)
    | (p, .ok ()) => (p.updateFields json, .ok ())
  | none => (p.updateFields json, .ok ())

/-- `reset_to_defaults`, which keeps the nickname; the draws are those `new()` makes. -/
def resetToDefaults (p : UserPreferences) (adj noun : Nat) (num : UInt16) : UserPreferences :=
  { new adj noun num with nickname := p.nickname }

def validate (p : UserPreferences) : Except String Unit :=
  if (strTrim p.nickname).data = [] then .error "Nickname cannot be empty"
  else if p.batteryOptimization.scanIntervalSeconds = 0 then
    .error "Scan interval must be greater than 0"
  else if p.privacySettings.dataRetentionDays = 0 then .error "Data retention must be at least 1 day"
  else .ok ()

def securityScore (p : UserPreferences) : Nat :=
  (if p.encryptionEnabled then 20 else 0) + (if p.enhancedCryptoEnabled then 20 else 0) +
    (if p.privacySettings.requireEncryption then 15 else 0) +
    (if p.privacySettings.verifyFingerprints then 15 else 0) +
    (if p.privacySettings.rotatePeerId then 10 else 0) +
    (if p.privacySettings.blockUnknownPeers then 10 else 0) +
    (if p.privacySettings.emergencyWipeEnabled then 10 else 0)

def getSecurityLevel (p : UserPreferences) : String :=
  let score := p.securityScore
  if 90 ≤ score ∧ score ≤ 100 then "Maximum"
  else if 70 ≤ score ∧ score ≤ 89 then "High"
  else if 50 ≤ score ∧ score ≤ 69 then "Medium"
  else if 30 ≤ score ∧ score ≤ 49 then "Low"
  else "Minimal"

theorem nicknameError_eq_none_iff {nickname : String} :
    nicknameError nickname = none ↔ (strTrim nickname).data ≠ [] ∧
      nickname.utf8ByteSize ≤ 50 ∧ '@' ∉ nickname.data ∧ '#' ∉ nickname.data ∧
      '/' ∉ nickname.data := by
  unfold nicknameError
  split_ifs with h1 h2 h3 <;> simp only [reduceCtorEq, false_iff, true_iff, not_and, not_not]
  · exact fun h => absurd h1 h
  · exact fun _ h => absurd h2 (by omega)
  · exact fun _ _ h4 h5 => by tauto
  · exact ⟨h1, by omega, by tauto⟩

theorem nicknameError_strTrim {nickname : String} (h : nicknameError nickname = none) :
    nicknameError (strTrim nickname) = none := by
  obtain ⟨hne, hsize, h1, h2, h3⟩ := nicknameError_eq_none_iff.mp h
  have hsub := (strTrim_isInfix nickname).subset
  exact nicknameError_eq_none_iff.mpr ⟨strTrim_strTrim_ne_nil hne,
    (utf8ByteSize_strTrim_le nickname).trans hsize,
    fun hm => h1 (hsub hm), fun hm => h2 (hsub hm), fun hm => h3 (hsub hm)⟩

theorem nicknameError_generateDefaultNickname (adj noun : Nat) (num : UInt16) :
    nicknameError (generateDefaultNickname adj noun num) = none := by
  have hA : ∀ i : Fin 8, (∃ c ∈ (adjectives.get i).data, charIsWhitespace c = false) ∧
      (adjectives.get i).utf8ByteSize ≤ 6 ∧ '@' ∉ (adjectives.get i).data ∧
      '#' ∉ (adjectives.get i).data ∧ '/' ∉ (adjectives.get i).data := by decide
  have hN : ∀ i : Fin 8, (nouns.get i).utf8ByteSize ≤ 7 ∧ '@' ∉ (nouns.get i).data ∧
      '#' ∉ (nouns.get i).data ∧ '/' ∉ (nouns.get i).data := by decide
  have hD : ∀ d : Fin 10, (digitChar d).utf8Size = 1 ∧ digitChar d ≠ '@' ∧
      digitChar d ≠ '#' ∧ digitChar d ≠ '/' := by decide
  have hd : ∀ k, (digitChar (k % 10)).utf8Size = 1 ∧ digitChar (k % 10) ≠ '@' ∧
      digitChar (k % 10) ≠ '#' ∧ digitChar (k % 10) ≠ '/' :=
    fun k => hD ⟨k % 10, Nat.mod_lt _ (by decide)⟩
  obtain ⟨⟨c, hc, hw⟩, ha, ha1, ha2, ha3⟩ := hA ⟨adj % 8, Nat.mod_lt _ (by decide)⟩
  obtain ⟨hn, hn1, hn2, hn3⟩ := hN ⟨noun % 8, Nat.mod_lt _ (by decide)⟩
  obtain ⟨d1, d1a, d1b, d1c⟩ := hd (num.toNat % 1000 / 100)
  obtain ⟨d2, d2a, d2b, d2c⟩ := hd (num.toNat % 1000 / 10)
  obtain ⟨d3, d3a, d3b, d3c⟩ := hd (num.toNat % 1000)
  have hsize : (formatPadded3 (num.toNat % 1000)).utf8ByteSize = 3 := by
    show String.utf8ByteSize.go _ = 3
    simp only [String.utf8ByteSize.go, d1, d2, d3]
  refine nicknameError_eq_none_iff.mpr ⟨?_, ?_, ?_, ?_, ?_⟩
  · rw [ne_eq, strTrim_data_eq_nil_iff]
    intro hall
    have hmem : c ∈ (generateDefaultNickname adj noun num).data := by
      rw [generateDefaultNickname, String.data_append, String.data_append]
      exact List.mem_append_left _ (List.mem_append_left _ hc)
    rw [hall c hmem] at hw
    cases hw
  · rw [generateDefaultNickname, utf8ByteSize_append, utf8ByteSize_append, hsize]
    omega
  all_goals
    rw [generateDefaultNickname, String.data_append, String.data_append]
    simp only [List.mem_append, formatPadded3, List.mem_cons, List.not_mem_nil, or_false, not_or]
    exact ⟨⟨by assumption, by assumption⟩, Ne.symm (by assumption), Ne.symm (by assumption),
      Ne.symm (by assumption)⟩

theorem strTrim_generateDefaultNickname (adj noun : Nat) (num : UInt16) :
    strTrim (generateDefaultNickname adj noun num) = generateDefaultNickname adj noun num := by
  have hA : ∀ i : Fin 8, ∃ c ∈ (adjectives.get i).data.head?, charIsWhitespace c = false := by
    decide
  have hD : ∀ d : Fin 10, charIsWhitespace (digitChar d) = false := by decide
  obtain ⟨c₀, hc₀, hw⟩ := hA ⟨adj % 8, Nat.mod_lt _ (by decide)⟩
  apply strTrim_eq_self
  · intro c hc
    simp only [generateDefaultNickname, String.data_append, List.head?_append,
      Option.mem_def.mp hc₀, Option.or_some, Option.mem_def, Option.some.injEq] at hc
    exact hc ▸ hw
  · intro c hc
    simp only [generateDefaultNickname, formatPadded3, String.data_append, List.getLast?_append,
      List.getLast?_cons_cons, List.getLast?_singleton, Option.or_some, Option.mem_def,
      Option.some.injEq] at hc
    exact hc ▸ hD ⟨num.toNat % 1000 % 10, Nat.mod_lt _ (by decide)⟩

/-- `new()` passes `validate()`, whatever its nickname draws. -/
theorem validate_new (adj noun : Nat) (num : UInt16) : (new adj noun num).validate = .ok () := by
  have h := (nicknameError_eq_none_iff.mp (nicknameError_generateDefaultNickname adj noun num)).1
  simp [validate, new, h, BatterySettings.default, PrivacySettings.default]

theorem setNickname_of_error {p : UserPreferences} {nickname e : String}
    (h : nicknameError nickname = some e) : p.setNickname nickname = (p, .error e) := by
  simp [setNickname, h]

theorem setNickname_of_none {p : UserPreferences} {nickname : String}
    (h : nicknameError nickname = none) :
    p.setNickname nickname = ({ p with nickname := strTrim nickname }, .ok ()) := by
  simp [setNickname, h]

/-- A call of `update_from_json` that fails was refused by a check of `set_nickname` on the
`"nickname"` field, which is tried first, and left the preferences as they were. -/
theorem updateFromJson_of_error {p : UserPreferences} {json : Value} {e : String}
    (h : (p.updateFromJson json).2 = .error e) :
    (p.updateFromJson json).1 = p ∧
      ∃ nickname, json.getStr "nickname" = some nickname ∧ nicknameError nickname = some e := by
  unfold updateFromJson at h ⊢
  split at h
  · rename_i nickname hn
    cases he : nicknameError nickname with
    | none => simp [setNickname_of_none he] at h
    | some e' =>
      simp only [setNickname_of_error he, Except.error.injEq] at h ⊢
      exact ⟨trivial, nickname, hn, h ▸ he⟩
  · simp at h

inductive Op
  | setNickname (nickname : String)
  | addFavoritePeer (peerId : String)
  | removeFavoritePeer (peerId : String)
  | blockPeer (peerId : String)
  | unblockPeer (peerId : String)
  | setChannelPreference (channel : ChannelPreference)
  | removeChannelPreference (channelName : String)
  | setKeyboardShortcut (action shortcut : String)
  | setTheme (theme : String)
  | setFont (family : String) (size : UInt32)
  | setEnhancedCrypto (enabled : Bool)
  | updatePrivacySettings (settings : PrivacySettings)
  | updateBatterySettings (settings : BatterySettings)
  | updateFromJson (json : Value)
  | resetToDefaults (adj noun : Nat) (num : UInt16)

def step (p : UserPreferences) : Op → UserPreferences
  | .setNickname nickname => (p.setNickname nickname).1
  | .addFavoritePeer peerId => p.addFavoritePeer peerId
  | .removeFavoritePeer peerId => p.removeFavoritePeer peerId
  | .blockPeer peerId => p.blockPeer peerId
  | .unblockPeer peerId => p.unblockPeer peerId
  | .setChannelPreference channel => p.setChannelPreference channel
  | .removeChannelPreference channelName => p.removeChannelPreference channelName
  | .setKeyboardShortcut action shortcut => p.setKeyboardShortcut action shortcut
  | .setTheme theme => p.setTheme theme
  | .setFont family size => p.setFont family size
  | .setEnhancedCrypto enabled => p.setEnhancedCrypto enabled
  | .updatePrivacySettings settings => p.updatePrivacySettings settings
  | .updateBatterySettings settings => p.updateBatterySettings settings
  | .updateFromJson json => (p.updateFromJson json).1
  | .resetToDefaults adj noun num => p.resetToDefaults adj noun num

def run (p : UserPreferences) (ops : List Op) : UserPreferences := ops.foldl step p

/-- What the setters check, holding of the whole record: the nickname passes `set_nickname`,
the font size is in the clamp's range, and no list holds a peer or a channel name twice. -/
structure Valid (p : UserPreferences) : Prop where
  nickname : nicknameError p.nickname = none
  fontSize : 10 ≤ p.appearance.fontSize.toNat ∧ p.appearance.fontSize.toNat ≤ 24
  favorites_nodup : p.favoritePeers.Nodup
  blocked_nodup : p.blockedPeers.Nodup
  channels_nodup : (p.customChannels.map (·.name)).Nodup

theorem valid_new (adj noun : Nat) (num : UInt16) : Valid (new adj noun num) where
  nickname := nicknameError_generateDefaultNickname adj noun num
  fontSize := show 10 ≤ AppearanceSettings.default.fontSize.toNat ∧
    AppearanceSettings.default.fontSize.toNat ≤ 24 by decide
  favorites_nodup := List.nodup_nil
  blocked_nodup := List.nodup_nil
  channels_nodup := List.nodup_nil

theorem nodup_append_of_not_mem {l : List String} {a : String} (h : l.Nodup) (ha : a ∉ l) :
    (l ++ [a]).Nodup :=
  List.nodup_append.mpr ⟨h, List.nodup_singleton a, List.disjoint_singleton.mpr ha⟩

theorem Valid.setNickname {p : UserPreferences} (h : Valid p) (nickname : String) :
    Valid (p.setNickname nickname).1 := by
  cases he : nicknameError nickname with
  | some e => rwa [setNickname_of_error he]
  | none =>
    rw [setNickname_of_none he]
    exact ⟨nicknameError_strTrim he, h.fontSize, h.favorites_nodup, h.blocked_nodup,
      h.channels_nodup⟩

theorem Valid.updateFields {p : UserPreferences} (h : Valid p) (json : Value) :
    Valid (p.updateFields json) := by
  refine ⟨h.nickname, ?_, h.favorites_nodup, h.blocked_nodup, h.channels_nodup⟩
  unfold UserPreferences.updateFields
  split
  · cases (Value.getU64 _ "font_size") with
    | none => exact h.fontSize
    | some v => exact toNat_clamp _
  · exact h.fontSize

theorem Valid.updateFromJson {p : UserPreferences} (h : Valid p) (json : Value) :
    Valid (p.updateFromJson json).1 := by
  unfold UserPreferences.updateFromJson
  split
  · rename_i nickname _
    cases he : nicknameError nickname with
    | some e => rwa [setNickname_of_error he]
    | none =>
      rw [setNickname_of_none he]
      exact Valid.updateFields (⟨nicknameError_strTrim he, h.fontSize, h.favorites_nodup,
        h.blocked_nodup, h.channels_nodup⟩ : Valid { p with nickname := strTrim nickname }) json
  · exact h.updateFields json

theorem Valid.addFavoritePeer {p : UserPreferences} (h : Valid p) (peerId : String) :
    Valid (p.addFavoritePeer peerId) := by
  unfold UserPreferences.addFavoritePeer
  split_ifs with hm
  · exact h
  · exact ⟨h.nickname, h.fontSize, nodup_append_of_not_mem h.favorites_nodup hm,
      h.blocked_nodup, h.channels_nodup⟩

theorem Valid.removeFavoritePeer {p : UserPreferences} (h : Valid p) (peerId : String) :
    Valid (p.removeFavoritePeer peerId) :=
  ⟨h.nickname, h.fontSize, h.favorites_nodup.filter _, h.blocked_nodup, h.channels_nodup⟩

theorem Valid.blockPeer {p : UserPreferences} (h : Valid p) (peerId : String) :
    Valid (p.blockPeer peerId) := by
  unfold UserPreferences.blockPeer
  split_ifs with hm
  · exact h.removeFavoritePeer peerId
  · exact Valid.removeFavoritePeer (⟨h.nickname, h.fontSize, h.favorites_nodup,
      nodup_append_of_not_mem h.blocked_nodup hm, h.channels_nodup⟩ :
        Valid { p with blockedPeers := p.blockedPeers ++ [peerId] }) peerId

theorem Valid.setChannelPreference {p : UserPreferences} (h : Valid p)
    (channel : ChannelPreference) : Valid (p.setChannelPreference channel) := by
  unfold UserPreferences.setChannelPreference
  split_ifs with hm
  · refine ⟨h.nickname, h.fontSize, h.favorites_nodup, h.blocked_nodup, ?_⟩
    show (List.map (·.name) (updateFirst _ _ p.customChannels)).Nodup
    rw [map_updateFirst (fun c : ChannelPreference => c.name == channel.name)
      (fun c : ChannelPreference => c.name) (fun _ ha => (beq_iff_eq.mp ha).symm)]
    exact h.channels_nodup
  · refine ⟨h.nickname, h.fontSize, h.favorites_nodup, h.blocked_nodup, ?_⟩
    show (List.map (·.name) (p.customChannels ++ [channel])).Nodup
    rw [List.map_append, List.map_singleton]
    exact nodup_append_of_not_mem h.channels_nodup (by simpa using hm)

theorem Valid.step {p : UserPreferences} (h : Valid p) : ∀ op, Valid (p.step op)
  | .setNickname nickname => h.setNickname nickname
  | .addFavoritePeer peerId => h.addFavoritePeer peerId
  | .removeFavoritePeer peerId => h.removeFavoritePeer peerId
  | .blockPeer peerId => h.blockPeer peerId
  | .unblockPeer _ =>
    ⟨h.nickname, h.fontSize, h.favorites_nodup, h.blocked_nodup.filter _, h.channels_nodup⟩
  | .setChannelPreference channel => h.setChannelPreference channel
  | .removeChannelPreference _ =>
    ⟨h.nickname, h.fontSize, h.favorites_nodup, h.blocked_nodup,
      ((List.filter_sublist _).map _).nodup h.channels_nodup⟩
  | .setKeyboardShortcut _ _ | .setTheme _ | .setEnhancedCrypto _ | .updatePrivacySettings _
  | .updateBatterySettings _ =>
    ⟨h.nickname, h.fontSize, h.favorites_nodup, h.blocked_nodup, h.channels_nodup⟩
  | .setFont _ size =>
    ⟨h.nickname, toNat_clamp size, h.favorites_nodup, h.blocked_nodup, h.channels_nodup⟩
  | .updateFromJson json => h.updateFromJson json
  | .resetToDefaults adj noun num =>
    have h' := valid_new adj noun num
    ⟨h.nickname, h'.fontSize, h'.favorites_nodup, h'.blocked_nodup, h'.channels_nodup⟩

theorem Valid.run {p : UserPreferences} (h : Valid p) (ops : List Op) : Valid (p.run ops) := by
  induction ops generalizing p with
  | nil => exact h
  | cons op ops ih => exact ih (h.step op)

/-- From `UserPreferences::new()`, whatever its draws, every run of the setters, of
`update_from_json` (the UI's `update_preferences` command) and of `reset_to_defaults` keeps a
nickname that passes `set_nickname`'s checks, a font size within `[10, 24]`, and lists of
favorite peers, blocked peers and channel preferences without repeats. -/
theorem valid_run (adj noun : Nat) (num : UInt16) (ops : List Op) :
    Valid ((new adj noun num).run ops) :=
  (valid_new adj noun num).run ops

/-! Reading back the export: `update_from_json` applied to `to_json`. -/

theorem nickname_setNickname (p : UserPreferences) (nickname : String) :
    (p.setNickname nickname).1.nickname = p.nickname ∨
      ∃ n, nicknameError n = none ∧ (p.setNickname nickname).1.nickname = strTrim n := by
  cases he : nicknameError nickname with
  | some e => exact .inl (by rw [setNickname_of_error he])
  | none => exact .inr ⟨nickname, he, by rw [setNickname_of_none he]⟩

theorem nickname_step (p : UserPreferences) (op : Op) :
    (p.step op).nickname = p.nickname ∨
      ∃ n, nicknameError n = none ∧ (p.step op).nickname = strTrim n := by
  cases op with
  | setNickname nickname => exact nickname_setNickname p nickname
  | updateFromJson json =>
    show (p.updateFromJson json).1.nickname = _ ∨ ∃ n, _ ∧ (p.updateFromJson json).1.nickname = _
    unfold UserPreferences.updateFromJson
    split
    · rename_i nickname _
      rcases hs : p.setNickname nickname with ⟨p', _ | _⟩ <;>
        simpa only [hs] using nickname_setNickname p nickname
    · exact .inl rfl
  | addFavoritePeer _ | blockPeer _ | setChannelPreference _ =>
    refine .inl ?_
    simp only [step, UserPreferences.addFavoritePeer, UserPreferences.blockPeer,
      UserPreferences.setChannelPreference]
    split_ifs <;> rfl
  | removeFavoritePeer _ | unblockPeer _ | removeChannelPreference _ | setKeyboardShortcut _ _
  | setTheme _ | setFont _ _ | setEnhancedCrypto _ | updatePrivacySettings _
  | updateBatterySettings _ | resetToDefaults _ _ _ => exact .inl rfl

/-- The states `update_from_json` reads back from their own `to_json`: those that keep the
checks of `Valid` and whose nickname is its own trim, as `set_nickname` stores it. -/
structure Canonical (p : UserPreferences) : Prop where
  valid : Valid p
  trimmed : strTrim p.nickname = p.nickname

theorem canonical_new (adj noun : Nat) (num : UInt16) : Canonical (new adj noun num) :=
  ⟨valid_new adj noun num, strTrim_generateDefaultNickname adj noun num⟩

theorem Canonical.step {p : UserPreferences} (h : Canonical p) (op : Op) :
    Canonical (p.step op) := by
  refine ⟨h.valid.step op, ?_⟩
  rcases nickname_step p op with hn | ⟨n, -, hn⟩
  · rw [hn, h.trimmed]
  · rw [hn, strTrim_strTrim]

theorem Canonical.run {p : UserPreferences} (h : Canonical p) (ops : List Op) :
    Canonical (p.run ops) := by
  induction ops generalizing p with
  | nil => exact h
  | cons op ops ih => exact ih (h.step op)

theorem updateFields_toJson {p : UserPreferences} (h : Valid p) :
    p.updateFields p.toJson = p := by
  have hf : clamp p.appearance.fontSize 10 24 = p.appearance.fontSize :=
    clamp_of_le h.fontSize.1 h.fontSize.2
  simp [updateFields, toJson, AppearanceSettings.toJson, Value.getBool, Value.getStr,
    Value.getU64, Value.get, Value.asBool, Value.asStr, Value.asU64, Value.ofU64, List.lookup_cons, hf]

theorem updateFromJson_toJson {p : UserPreferences} (h : Canonical p) :
    p.updateFromJson p.toJson = (p, .ok ()) := by
  have hn : p.toJson.getStr "nickname" = some p.nickname := rfl
  simp only [updateFromJson, hn, setNickname_of_none h.valid.nickname, h.trimmed]
  exact congrArg (·, _) (updateFields_toJson h.valid)

/-- From `UserPreferences::new()`, whatever its draws, after every run of the setters, of
`update_from_json` and of `reset_to_defaults`, `update_from_json` applied to the state's own
`to_json` succeeds and changes nothing. -/
theorem updateFromJson_toJson_run (adj noun : Nat) (num : UInt16) (ops : List Op) :
    ((new adj noun num).run ops).updateFromJson ((new adj noun num).run ops).toJson =
      ((new adj noun num).run ops, .ok ()) :=
  updateFromJson_toJson ((canonical_new adj noun num).run ops)

end UserPreferences

end Bitchat.UiState
