import Bitchat.Protocol.Codec
import Bitchat.Bluetooth.PeerManager

/-! `bluetooth/mesh_service.rs`: what the service does with scan events and with a
notification from a connected device. The radio is not modelled: what it answers is an input,
and `message_tx` is the list of messages sent on it. Decoding mints a fresh id for every frame,
and nothing on the path remembers a frame already seen. `attempt_connection` connects to every
new device it discovers, so the connection map grows past `MAX_PEER_CONNECTIONS`, which nothing
reads. -/

namespace Bitchat.Bluetooth

open Protocol

structure PeripheralId where
  address : String
  deriving DecidableEq

/-- The field of `PeripheralConnection` that the modelled code writes. -/
structure PeripheralConnection where
  lastActivity : Nat
  deriving DecidableEq

structure BluetoothMeshService where
  peerManager : PeerManager
  connections : DashMap PeripheralId PeripheralConnection
  /-- What has been sent on `message_tx`, oldest first. -/
  forwarded : List ProtocolMessage
  isRunning : Bool := false

namespace BluetoothMeshService

section

/- `readStr payload key` is `serde_json::from_str(&String::from_utf8_lossy(payload))` followed
by `value[key].as_str()`: `none` when the payload is no JSON or the field no string. -/
variable (readStr : List UInt8 → String → Option String)

def handleAnnounceMessage (pm : PeerManager) (message : ProtocolMessage) (now : Nat) :
    PeerManager :=
  match readStr message.payload "nickname" with
  | some nickname =>
    (pm.addOrUpdatePeer message.senderId nickname now).updatePeerConnectionState
      message.senderId .connected now
  | none => pm

def handleUserMessage (pm : PeerManager) (message : ProtocolMessage) : PeerManager :=
  match readStr message.payload "content" with
  | some _ => pm.incrementMessageCount message.senderId
  | none => pm

/-- The handler the message type selects; `handle_noise_message` only logs. -/
def dispatch (pm : PeerManager) (message : ProtocolMessage) (now : Nat) : PeerManager :=
  match message.messageType with
  | .announce => handleAnnounceMessage readStr pm message now
  | .message => handleUserMessage readStr pm message
  | _ => pm

/-- `handle_notification` for the bytes `data` from `deviceId`, with `id` the `Uuid` that
`decode` mints. The connection's activity is recorded before decoding, so it stays recorded
when decoding fails; a decode error is returned with anyhow's context
"Failed to decode protocol message", or is a panic when `DecodeError.isPanic` holds. -/
def handleNotification (s : BluetoothMeshService) (deviceId : PeripheralId) (data : List UInt8)
    (id : Uuid) (now : Nat) : BluetoothMeshService × Except DecodeError Unit :=
  let s := { s with
    connections := s.connections.modify deviceId fun c => { c with lastActivity := now } }
  match decode id data with
  | .ok message =>
    ({ s with peerManager := dispatch readStr s.peerManager message now,
              forwarded := s.forwarded ++ [message] }, .ok ())
  | .error e => (s, .error e)

def notifyAll (s : BluetoothMeshService) (data : List UInt8) :
    List (PeripheralId × Uuid × Nat) → BluetoothMeshService
  | [] => s
  | (deviceId, id, now) :: arrivals =>
    (s.handleNotification readStr deviceId data id now).1.notifyAll data arrivals

theorem peerManager_handleAnnounceMessage (pm : PeerManager) (message : ProtocolMessage)
    (now : Nat) {nickname : String} (h : readStr message.payload "nickname" = some nickname) :
    handleAnnounceMessage readStr pm message now =
      (pm.addOrUpdatePeer message.senderId nickname now).updatePeerConnectionState
        message.senderId .connected now := by
  simp [handleAnnounceMessage, h]

theorem handleNotification_of_decode (s : BluetoothMeshService) (deviceId : PeripheralId)
    (now : Nat) {data : List UInt8} {id : Uuid} {message : ProtocolMessage}
    (h : decode id data = .ok message) :
    (s.handleNotification readStr deviceId data id now).1.forwarded = s.forwarded ++ [message] ∧
      (s.handleNotification readStr deviceId data id now).1.peerManager =
        dispatch readStr s.peerManager message now := by
  simp [handleNotification, h]

theorem decode_of_decode {id : Uuid} (id' : Uuid) {data : List UInt8} {m : ProtocolMessage}
    (h : decode id data = .ok m) : decode id' data = .ok { m with id := id' } := by
  obtain ⟨hw, -, hp, t, rest, ht, rfl⟩ := decode_eq_ok_frame h
  rw [decode_frame_append id' hw hp t rest, ht]

theorem lookup_incrementMessageCount (pm : PeerManager) (peerId : PeerId) :
    (pm.incrementMessageCount peerId).peers.lookup peerId =
      (pm.peers.lookup peerId).map fun p => { p with messageCount := p.messageCount + 1 } := by
  simp [PeerManager.incrementMessageCount, PeerManager.modifyPeer]

/-- Every copy of a frame is handled and forwarded: `k` arrivals of the same bytes put `k`
messages on `message_tx`, equal but for their minted ids, and `k` copies of a user message
raise its sender's `message_count` by `k`. -/
theorem handleNotification_no_dedup (s : BluetoothMeshService) {data : List UInt8}
    {m : ProtocolMessage} (hm : decode m.id data = .ok m)
    (arrivals : List (PeripheralId × Uuid × Nat)) :
    (s.notifyAll readStr data arrivals).forwarded =
        s.forwarded ++ arrivals.map (fun a => { m with id := a.2.1 }) ∧
      (m.messageType = .message → (readStr m.payload "content").isSome →
        ((s.notifyAll readStr data arrivals).peerManager.peers.lookup m.senderId).map
            (·.messageCount) =
          (s.peerManager.peers.lookup m.senderId).map (·.messageCount + arrivals.length)) := by
  induction arrivals generalizing s with
  | nil => simp [notifyAll]
  | cons a arrivals ih =>
    obtain ⟨deviceId, id, now⟩ := a
    obtain ⟨hf, hpm⟩ := handleNotification_of_decode readStr s deviceId now
      (decode_of_decode id hm)
    obtain ⟨ihf, ihc⟩ := ih (s.handleNotification readStr deviceId data id now).1
    refine ⟨by simp [notifyAll, ihf, hf], fun ht hc => ?_⟩
    obtain ⟨c, hc⟩ := Option.isSome_iff_exists.mp hc
    rw [notifyAll, ihc ht (by simp [hc]), hpm]
    simp only [dispatch, ht, handleUserMessage, hc, lookup_incrementMessageCount, Option.map_map,
      List.length_cons]
    congr 1
    funext p
    simp only [Function.comp]
    omega

theorem handleNotification_no_dedup_twice :
    (({ peerManager := PeerManager.new.addOrUpdatePeer (Mathlib.Vector.replicate 8 1) "peer" 0,
        connections := ∅, forwarded := [] } : BluetoothMeshService).notifyAll
        (fun _ _ => some "hi")
        (frameBytes (createMessage ⟨0⟩ 0 (Mathlib.Vector.replicate 8 1) [123, 125] none))
        [(⟨"dev"⟩, ⟨1⟩, 1), (⟨"dev"⟩, ⟨2⟩, 2)]).forwarded =
      [] ++ [(⟨"dev"⟩, ⟨1⟩, 1), (⟨"dev"⟩, ⟨2⟩, 2)].map (fun a : PeripheralId × Uuid × Nat =>
        { (createMessage ⟨0⟩ 0 (Mathlib.Vector.replicate 8 1) [123, 125] none) with
          id := a.2.1 }) ∧
    ((createMessage ⟨0⟩ 0 (Mathlib.Vector.replicate 8 1) [123, 125] none).messageType =
        .message →
      ((fun _ _ => some "hi" : List UInt8 → String → Option String)
        (createMessage ⟨0⟩ 0 (Mathlib.Vector.replicate 8 1) [123, 125] none).payload
        "content").isSome →
      ((({ peerManager :=
              PeerManager.new.addOrUpdatePeer (Mathlib.Vector.replicate 8 1) "peer" 0,
            connections := ∅, forwarded := [] } : BluetoothMeshService).notifyAll
        (fun _ _ => some "hi")
        (frameBytes (createMessage ⟨0⟩ 0 (Mathlib.Vector.replicate 8 1) [123, 125] none))
        [(⟨"dev"⟩, ⟨1⟩, 1), (⟨"dev"⟩, ⟨2⟩, 2)]).peerManager.peers.lookup
          (Mathlib.Vector.replicate 8 1)).map (·.messageCount) =
        ((PeerManager.new.addOrUpdatePeer (Mathlib.Vector.replicate 8 1) "peer" 0).peers.lookup
          (Mathlib.Vector.replicate 8 1)).map (·.messageCount + 2)) :=
  handleNotification_no_dedup (fun _ _ => some "hi") _ (by rfl) _

/-! Sending to a connected device. -/

/-- The bytes `send_message_to_peer` writes to `deviceId`: nothing without a stored connection,
and `encode`'s error for a frame too large. A stored connection always has its characteristic,
which `setup_peripheral_connection` found before storing it; the write is the radio's. -/
def sendMessageToPeer (s : BluetoothMeshService) (deviceId : PeripheralId)
    (message : ProtocolMessage) : Except EncodeError (Option (List UInt8)) :=
  if deviceId ∈ s.connections then (encode message).map some else .ok none

/-- `send_announce_to_peer`: `create_announce` with the own peer id, where `payload` is the JSON
text of the own nickname and the time that `create_announce` writes. -/
def sendAnnounceToPeer (s : BluetoothMeshService) (deviceId : PeripheralId) (id : Uuid)
    (now : Nat) (payload : List UInt8) : Except EncodeError (Option (List UInt8)) :=
  s.sendMessageToPeer deviceId (createAnnounce id now s.peerManager.ownPeerId payload)

/-! An announce the service receives. -/

/-- A notification whose bytes decode to an announce is accepted and forwarded, whichever device
sent it. When its payload names a nickname, the sender is listed as connected under it, seen at
the receipt, unless it has the service's own id or is blocked, and then a sender not yet listed
stays unlisted; an announce without a nickname leaves the directory as it was. -/
theorem handleNotification_announce (s : BluetoothMeshService) (deviceId : PeripheralId)
    {data : List UInt8} {id : Uuid} {m : ProtocolMessage} (hd : decode id data = .ok m)
    (ht : m.messageType = .announce) (now : Nat) :
    (s.handleNotification readStr deviceId data id now).2 = .ok () ∧
    (s.handleNotification readStr deviceId data id now).1.forwarded = s.forwarded ++ [m] ∧
    (∀ nickname, readStr m.payload "nickname" = some nickname →
      m.senderId ≠ s.peerManager.ownPeerId → m.senderId ∉ s.peerManager.blockedPeers →
      ((s.handleNotification readStr deviceId data id now).1.peerManager.peers.lookup
          m.senderId).map (fun p => (p.nickname, p.connectionState, p.lastSeen)) =
        some (nickname, .connected, now)) ∧
    (readStr m.payload "nickname" = none →
      (s.handleNotification readStr deviceId data id now).1.peerManager = s.peerManager) ∧
    (m.senderId = s.peerManager.ownPeerId ∨ m.senderId ∈ s.peerManager.blockedPeers →
      m.senderId ∉ s.peerManager.peers →
      m.senderId ∉ (s.handleNotification readStr deviceId data id now).1.peerManager.peers) := by
  obtain ⟨hf, hpm⟩ := handleNotification_of_decode readStr s deviceId now hd
  have hann : dispatch readStr s.peerManager m now =
      handleAnnounceMessage readStr s.peerManager m now := by
    rw [dispatch, ht]
  refine ⟨by simp [handleNotification, hd], hf, fun nickname hn hown hb => ?_, fun hn => ?_,
    fun hig hnot => ?_⟩
  · rw [hpm, hann, peerManager_handleAnnounceMessage readStr _ _ _ hn]
    obtain ⟨p, hp, hnick, hseen⟩ := PeerManager.lookup_addOrUpdatePeer hown hb nickname now
    simp [PeerManager.updatePeerConnectionState, PeerManager.modifyPeer, hp, hnick,
      PeerInfo.updateLastSeen]
  · rw [hpm, hann, handleAnnounceMessage, hn]
  · rw [hpm, hann, handleAnnounceMessage]
    split
    · simpa [PeerManager.addOrUpdatePeer_of_ignored hig, PeerManager.updatePeerConnectionState,
        PeerManager.modifyPeer] using hnot
    · exact hnot

def listener : BluetoothMeshService :=
  { peerManager := { PeerManager.new with ownPeerId := Mathlib.Vector.replicate 8 2 },
    connections := ∅, forwarded := [] }

def readAlice : List UInt8 → String → Option String := fun _ _ => some "alice"

theorem announce_from_device_listed :
    decode ⟨1⟩ (frameBytes (createAnnounce ⟨0⟩ 0 (Mathlib.Vector.replicate 8 1) [])) =
        .ok { createAnnounce ⟨0⟩ 0 (Mathlib.Vector.replicate 8 1) [] with id := ⟨1⟩ } ∧
      ({ createAnnounce ⟨0⟩ 0 (Mathlib.Vector.replicate 8 1) [] with id := ⟨1⟩ } :
        ProtocolMessage).messageType = .announce ∧
      (listener.handleNotification readAlice ⟨"a"⟩
        (frameBytes (createAnnounce ⟨0⟩ 0 (Mathlib.Vector.replicate 8 1) [])) ⟨1⟩ 5).2 = .ok () ∧
      (listener.handleNotification readAlice ⟨"a"⟩
        (frameBytes (createAnnounce ⟨0⟩ 0 (Mathlib.Vector.replicate 8 1) [])) ⟨1⟩ 5).1.forwarded =
        listener.forwarded ++ [{ createAnnounce ⟨0⟩ 0 (Mathlib.Vector.replicate 8 1) [] with
          id := ⟨1⟩ }] ∧
      (∀ nickname, readAlice [] "nickname" = some nickname →
        Mathlib.Vector.replicate 8 1 ≠ listener.peerManager.ownPeerId →
        Mathlib.Vector.replicate 8 1 ∉ listener.peerManager.blockedPeers →
        ((listener.handleNotification readAlice ⟨"a"⟩
          (frameBytes (createAnnounce ⟨0⟩ 0 (Mathlib.Vector.replicate 8 1) [])) ⟨1⟩ 5
            ).1.peerManager.peers.lookup (Mathlib.Vector.replicate 8 1)).map
          (fun p => (p.nickname, p.connectionState, p.lastSeen)) =
          some (nickname, .connected, 5)) ∧
      (readAlice [] "nickname" = none →
        (listener.handleNotification readAlice ⟨"a"⟩
          (frameBytes (createAnnounce ⟨0⟩ 0 (Mathlib.Vector.replicate 8 1) [])) ⟨1⟩ 5
            ).1.peerManager = listener.peerManager) ∧
      (Mathlib.Vector.replicate 8 1 = listener.peerManager.ownPeerId ∨
          Mathlib.Vector.replicate 8 1 ∈ listener.peerManager.blockedPeers →
        Mathlib.Vector.replicate 8 1 ∉ listener.peerManager.peers →
        Mathlib.Vector.replicate 8 1 ∉ (listener.handleNotification readAlice ⟨"a"⟩
          (frameBytes (createAnnounce ⟨0⟩ 0 (Mathlib.Vector.replicate 8 1) [])) ⟨1⟩ 5
            ).1.peerManager.peers) :=
  have hd : decode ⟨1⟩ (frameBytes (createAnnounce ⟨0⟩ 0 (Mathlib.Vector.replicate 8 1) [])) =
      .ok { createAnnounce ⟨0⟩ 0 (Mathlib.Vector.replicate 8 1) [] with id := ⟨1⟩ } := rfl
  ⟨hd, rfl, handleNotification_announce readAlice listener ⟨"a"⟩ hd rfl 5⟩

end

/-! Scan events. -/

def new : BluetoothMeshService :=
  { peerManager := PeerManager.new, connections := ∅, forwarded := [] }

def upperHex (b : UInt8) : String :=
  ⟨[b.toNat / 16, b.toNat % 16].map fun n => Char.ofNat (if n < 10 then 48 + n else 55 + n)⟩

/-- The nickname `start` gives the own peer: `format!("User{:02X}{:02X}", peer_id[0], peer_id[1])`.
-/
def startNickname (peerId : PeerId) : String :=
  "User" ++ upperHex (peerId.get 0) ++ upperHex (peerId.get 1)

/-- `start`. `adapter` is how creating the Bluetooth manager and taking its first adapter ended,
`peerId` the id `rand::random` draws, and `tasks` how starting the scan and the background tasks
ended, after `is_running` is set. -/
def start (s : BluetoothMeshService) (adapter : Except String Unit) (peerId : PeerId)
    (tasks : Except String Unit) : BluetoothMeshService × Except String Unit :=
  if s.isRunning then (s, .ok ())
  else
    match adapter with
    | .error e => (s, .error e)
    | .ok () =>
      ({ s with peerManager := s.peerManager.initializeIdentity peerId (startNickname peerId),
                isRunning := true }, tasks)

/-- `stop`; `disconnect_all_peers` clears the connections. -/
def stop (s : BluetoothMeshService) : BluetoothMeshService × Except String Unit :=
  if s.isRunning then ({ s with isRunning := false, connections := ∅ }, .ok ()) else (s, .ok ())

theorem peerManager_start (s : BluetoothMeshService) (adapter : Except String Unit)
    (peerId : PeerId) (tasks : Except String Unit) :
    (s.start adapter peerId tasks).1.peerManager = s.peerManager ∨
      (s.start adapter peerId tasks).1.peerManager =
        s.peerManager.initializeIdentity peerId (startNickname peerId) := by
  unfold start
  split_ifs
  · exact .inl rfl
  · split
    · exact .inl rfl
    · exact .inr rfl

/-- Where `setup_peripheral_connection` stops before it stores the connection, with anyhow's
context for the error. -/
inductive SetupFailure
  | discoverServices
  | serviceNotFound
  | characteristicNotFound
  | subscribe
  deriving DecidableEq

def SetupFailure.message : SetupFailure → String
  | .discoverServices => "Failed to discover services"
  | .serviceNotFound => "BitChat service not found"
  | .characteristicNotFound => "BitChat characteristic not found"
  | .subscribe => "Failed to subscribe to characteristic"

/-- How `peripheral.connect()` under `CONNECTION_TIMEOUT`, and the setup after it, end. -/
inductive ConnectOutcome
  /-- `connect()` returned this error in time; it is only logged. -/
  | connectFailed (error : String)
  /-- `connect()` did not return within `CONNECTION_TIMEOUT`; only logged. -/
  | timedOut
  | setupFailed (failure : SetupFailure)
  /-- Connected, subscribed and stored; `announce` is how sending the announce ended. -/
  | connected (announce : Except String Unit)

/-- The `btleplug` events `handle_scan_event` reads. `found` is what `adapter.peripheral(&id)`
returned, `outcome` how connecting ended, and `now` the `Instant` of the setup. -/
inductive CentralEvent
  | deviceDiscovered (id : PeripheralId) (found : Except String Unit) (outcome : ConnectOutcome)
      (now : Nat)
  | deviceUpdated (id : PeripheralId)
  | deviceDisconnected (id : PeripheralId)
  | other

/-- `attempt_connection`, once `start` has set the adapter. It checks only that the device is
not connected already. -/
def attemptConnection (s : BluetoothMeshService) (deviceId : PeripheralId)
    (found : Except String Unit) (outcome : ConnectOutcome) (now : Nat) :
    BluetoothMeshService × Except String Unit :=
  match found with
  | .error e => (s, .error e)
  | .ok () =>
    if deviceId ∈ s.connections then (s, .ok ())
    else
      match outcome with
      | .connectFailed _ | .timedOut => (s, .ok ())
      | .setupFailed failure => (s, .error failure.message)
      | .connected announce =>
        ({ s with connections := s.connections.insert deviceId ⟨now⟩ }, announce)

def handleDisconnection (s : BluetoothMeshService) (deviceId : PeripheralId) :
    BluetoothMeshService × Except String Unit :=
  ({ s with connections := s.connections.erase deviceId }, .ok ())

def handleScanEvent (s : BluetoothMeshService) : CentralEvent →
    BluetoothMeshService × Except String Unit
  | .deviceDiscovered id found outcome now => s.attemptConnection id found outcome now
  | .deviceUpdated _ | .other => (s, .ok ())
  | .deviceDisconnected id => s.handleDisconnection id

/-- The scan loop, which logs an error and goes on to the next event. -/
def runScanEvents (s : BluetoothMeshService) (events : List CentralEvent) :
    BluetoothMeshService :=
  events.foldl (fun s event => (s.handleScanEvent event).1) s

theorem connections_discover_connected (s : BluetoothMeshService) {deviceId : PeripheralId}
    (h : deviceId ∉ s.connections) (announce : Except String Unit) (now : Nat) :
    (s.handleScanEvent (.deviceDiscovered deviceId (.ok ()) (.connected announce) now)
      ).1.connections = s.connections.insert deviceId ⟨now⟩ := by
  simp [handleScanEvent, attemptConnection, h]

/-- Discovering distinct new devices that all connect adds one connection per device:
`attempt_connection` compares the map's size with no bound. -/
theorem length_connections_discover_all (s : BluetoothMeshService) {ids : List PeripheralId}
    (hnodup : ids.Nodup) (hnew : ∀ id ∈ ids, id ∉ s.connections) (now : Nat) :
    (s.runScanEvents (ids.map fun id =>
        .deviceDiscovered id (.ok ()) (.connected (.ok ())) now)).connections.entries.length =
      s.connections.entries.length + ids.length := by
  induction ids generalizing s with
  | nil => rfl
  | cons id ids ih =>
    rw [List.nodup_cons] at hnodup
    have hid := hnew id (List.mem_cons_self _ _)
    have hrest : ∀ id' ∈ ids, id' ∉ (s.handleScanEvent
        (.deviceDiscovered id (.ok ()) (.connected (.ok ())) now)).1.connections := by
      intro id' hid' hmem
      rw [connections_discover_connected s hid, AList.mem_insert] at hmem
      rcases hmem with rfl | hmem
      · exact hnodup.1 hid'
      · exact hnew id' (List.mem_cons_of_mem _ hid') hmem
    rw [List.map_cons, runScanEvents, List.foldl_cons, ← runScanEvents, ih _ hnodup.2 hrest,
      connections_discover_connected s hid, AList.insert_entries_of_neg hid]
    simp only [List.length_cons]
    omega

def ninePeripherals : List PeripheralId :=
  [⟨"d1"⟩, ⟨"d2"⟩, ⟨"d3"⟩, ⟨"d4"⟩, ⟨"d5"⟩, ⟨"d6"⟩, ⟨"d7"⟩, ⟨"d8"⟩, ⟨"d9"⟩]

theorem nine_connections_exceed_limit :
    ninePeripherals.Nodup ∧ (∀ id ∈ ninePeripherals, id ∉ new.connections) ∧
      (new.runScanEvents (ninePeripherals.map fun id =>
          .deviceDiscovered id (.ok ()) (.connected (.ok ())) 0)).connections.entries.length =
        new.connections.entries.length + ninePeripherals.length ∧
      maxPeerConnections < new.connections.entries.length + ninePeripherals.length :=
  have hnodup : ninePeripherals.Nodup := by decide
  have hnew : ∀ id ∈ ninePeripherals, id ∉ new.connections := fun _ _ h => by
    simp [new] at h
  ⟨hnodup, hnew, length_connections_discover_all new hnodup hnew 0, by decide⟩

/-! A running service: the scan loop, the notification handlers of the connected devices and the
peer cleanup task, interleaved with the commands that start and stop it. -/

/-- What reaches the service, in the order it is handled. -/
inductive Event
  | start (adapter : Except String Unit) (peerId : PeerId) (tasks : Except String Unit)
  | stop
  | scan (event : CentralEvent)
  | notification (deviceId : PeripheralId) (data : List UInt8) (id : Uuid) (now : Nat)
  /-- A tick of the interval that `start_peer_cleanup` spawns. -/
  | peerCleanup (now : Nat)

@[simp] theorem peerManager_handleScanEvent (s : BluetoothMeshService) (event : CentralEvent) :
    (s.handleScanEvent event).1.peerManager = s.peerManager := by
  cases event with
  | deviceDiscovered id found outcome now =>
    show (s.attemptConnection id found outcome now).1.peerManager = _
    unfold attemptConnection
    split
    · rfl
    · split_ifs
      · rfl
      · split <;> rfl
  | _ => rfl

section

variable (readStr : List UInt8 → String → Option String)

def step (s : BluetoothMeshService) : Event → BluetoothMeshService
  | .start adapter peerId tasks => (s.start adapter peerId tasks).1
  | .stop => s.stop.1
  | .scan event => (s.handleScanEvent event).1
  | .notification deviceId data id now => (s.handleNotification readStr deviceId data id now).1
  | .peerCleanup now => { s with peerManager := s.peerManager.cleanupOfflinePeers now }

def run (s : BluetoothMeshService) (events : List Event) : BluetoothMeshService :=
  events.foldl (step readStr) s

theorem exists_run_dispatch (pm : PeerManager) (message : ProtocolMessage) (now : Nat) :
    ∃ ops, dispatch readStr pm message now = pm.run ops := by
  unfold dispatch handleAnnounceMessage handleUserMessage
  split
  · split
    · exact ⟨[.addOrUpdatePeer _ _ now, .updatePeerConnectionState _ .connected now], rfl⟩
    · exact ⟨[], rfl⟩
  · split
    · exact ⟨[.incrementMessageCount _], rfl⟩
    · exact ⟨[], rfl⟩
  · exact ⟨[], rfl⟩

theorem exists_run_step (s : BluetoothMeshService) (event : Event) :
    ∃ ops, (s.step readStr event).peerManager = s.peerManager.run ops := by
  cases event with
  | start adapter peerId tasks =>
    rcases peerManager_start s adapter peerId tasks with h | h
    · exact ⟨[], h⟩
    · exact ⟨[.initializeIdentity peerId (startNickname peerId)], h⟩
  | stop => exact ⟨[], by unfold step stop; split_ifs <;> rfl⟩
  | scan event => exact ⟨[], peerManager_handleScanEvent s event⟩
  | notification deviceId data id now =>
    cases hd : decode id data with
    | ok message =>
      rw [step, (handleNotification_of_decode readStr s deviceId now hd).2]
      exact exists_run_dispatch readStr _ _ _
    | error e => exact ⟨[], by simp [step, handleNotification, hd, PeerManager.run]⟩
  | peerCleanup now => exact ⟨[.cleanupOfflinePeers now], rfl⟩

theorem exists_run_events (s : BluetoothMeshService) (events : List Event) :
    ∃ ops, (s.run readStr events).peerManager = s.peerManager.run ops := by
  induction events generalizing s with
  | nil => exact ⟨[], rfl⟩
  | cons event events ih =>
    obtain ⟨ops, h⟩ := exists_run_step readStr s event
    obtain ⟨ops', h'⟩ := ih (s.step readStr event)
    refine ⟨ops ++ ops', ?_⟩
    rw [run, List.foldl_cons, ← run, h', h, PeerManager.run, PeerManager.run, PeerManager.run,
      List.foldl_append]

/-- The service changes its peer manager only through the manager's own calls: whatever starts
and stops, scan events, notifications and cleanup ticks arrive, in any interleaving, its peer
manager is one that a run of `PeerManager` calls, `initialize` with each start's random id
included, reaches from `PeerManager::new()`. So the directory's invariants hold
of a running service: each entry sits under its own peer's id, and the entry of a blocked peer is
flagged blocked. -/
theorem peerManager_refines (events : List Event) :
    (∃ ops, (new.run readStr events).peerManager = PeerManager.new.run ops) ∧
    (∀ q p, (new.run readStr events).peerManager.peers.lookup q = some p → p.peerId = q) ∧
    (∀ q p, q ∈ (new.run readStr events).peerManager.blockedPeers →
      (new.run readStr events).peerManager.peers.lookup q = some p → p.isBlocked = true) := by
  obtain ⟨ops, h⟩ := exists_run_events readStr new events
  rw [h]
  exact ⟨⟨ops, rfl⟩, (PeerManager.directoryInv_run ops).keyed,
    (PeerManager.directoryInv_run ops).blocked_flagged⟩

end

end BluetoothMeshService

end Bitchat.Bluetooth
