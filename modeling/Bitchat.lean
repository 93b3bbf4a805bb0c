import Bitchat.Prelude.Bytes
import Bitchat.Prelude.Runtime
import Bitchat.Protocol.Message
import Bitchat.Protocol.Codec
import Bitchat.Crypto.Noise
import Bitchat.Crypto.Handshake
import Bitchat.Crypto.Channel
import Bitchat.Crypto.Enhanced
import Bitchat.Message.Types
import Bitchat.Message.Storage
import Bitchat.Bluetooth.PeerManager
import Bitchat.Bluetooth.MeshService
import Bitchat.Message.Router
import Bitchat.UiState.Preferences
import Bitchat.UiState.ChatState
import Bitchat.UiState.State
