import Bitchat.UiState.ChatState

/-! `ui_state/mod.rs`: the UI state the Tauri commands share, a chat view and the user's
preferences. `get_current_state` (the `get_app_state` command) returns both as JSON, and
`update_preferences` (the command of that name) applies a JSON object to the preferences;
`update_chat_state` does the same for the chat view, though no command calls it. Whatever
was updated before, sending either section of the current state back succeeds and changes
nothing. -/

namespace Bitchat.UiState

open Json

structure BitchatState where
  chatState : ChatState
  preferences : UserPreferences

namespace BitchatState

/-- `BitchatState::new()`; `adj`, `noun` and `num` are the draws of the default nickname. -/
def new (adj noun : Nat) (num : UInt16) : BitchatState :=
  ⟨ChatState.new, UserPreferences.new adj noun num⟩

/-- `get_current_state`; `timestamp` is `chrono::Utc::now()` as serde writes it. -/
def getCurrentState (s : BitchatState) (timestamp : String) : Value :=
  .object [("chat", s.chatState.toJson), ("preferences", s.preferences.toJson),
    ("timestamp", .string timestamp)]

/-- `update_preferences`, with the state after the call; a refused nickname is the error. -/
def updatePreferences (s : BitchatState) (newPreferences : Value) :
    BitchatState × Except String String :=
  let (preferences, result) := s.preferences.updateFromJson newPreferences
  ({ s with preferences := preferences }, result.map fun _ => "Preferences updated successfully")

def updateChatState (s : BitchatState) (newState : Value) : BitchatState × Except String String :=
  ({ s with chatState := s.chatState.updateFromJson newState },
    .ok "Chat state updated successfully")

inductive Op
  | updatePreferences (newPreferences : Value)
  | updateChatState (newState : Value)

def step (s : BitchatState) : Op → BitchatState
  | .updatePreferences newPreferences => (s.updatePreferences newPreferences).1
  | .updateChatState newState => (s.updateChatState newState).1

def run (s : BitchatState) (ops : List Op) : BitchatState := ops.foldl step s

theorem canonical_step {s : BitchatState} (h : UserPreferences.Canonical s.preferences) :
    ∀ op, UserPreferences.Canonical (s.step op).preferences
  | .updatePreferences json => h.step (.updateFromJson json)
  | .updateChatState _ => h

theorem canonical_run (adj noun : Nat) (num : UInt16) (ops : List Op) :
    UserPreferences.Canonical ((new adj noun num).run ops).preferences := by
  suffices ∀ s : BitchatState, UserPreferences.Canonical s.preferences →
      UserPreferences.Canonical (s.run ops).preferences from
    this _ (UserPreferences.canonical_new adj noun num)
  induction ops with
  | nil => exact fun _ h => h
  | cons op ops ih => exact fun s h => ih _ (canonical_step h op)

theorem updatePreferences_toJson {s : BitchatState}
    (h : UserPreferences.Canonical s.preferences) :
    s.updatePreferences s.preferences.toJson = (s, .ok "Preferences updated successfully") := by
  simp only [updatePreferences, UserPreferences.updateFromJson_toJson h]
  rfl

theorem updateChatState_toJson (s : BitchatState) :
    s.updateChatState s.chatState.toJson = (s, .ok "Chat state updated successfully") := by
  simp only [updateChatState, ChatState.updateFromJson_toJson]

/-- From `BitchatState::new()`, after every run of `update_preferences` and `update_chat_state`
on any JSON, the `"preferences"` section of `get_current_state` sent back to
`update_preferences`, and its `"chat"` section sent back to `update_chat_state`, succeed and
leave the state as it was. -/
theorem currentState_sections_reapply (adj noun : Nat) (num : UInt16) (ops : List Op)
    (timestamp : String) :
    (((new adj noun num).run ops).getCurrentState timestamp |>.get "preferences").map
        ((new adj noun num).run ops).updatePreferences =
      some ((new adj noun num).run ops, .ok "Preferences updated successfully") ∧
    (((new adj noun num).run ops).getCurrentState timestamp |>.get "chat").map
        ((new adj noun num).run ops).updateChatState =
      some ((new adj noun num).run ops, .ok "Chat state updated successfully") :=
  ⟨congrArg some (updatePreferences_toJson (canonical_run adj noun num ops)),
    congrArg some (updateChatState_toJson _)⟩

end BitchatState

end Bitchat.UiState
