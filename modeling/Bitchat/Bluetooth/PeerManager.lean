import Bitchat.Prelude.Bytes
import Bitchat.Prelude.Json
import Bitchat.Prelude.Runtime

/-! `bluetooth/peer_manager.rs`: the directory of discovered peers with the favorite and
blocked sets kept beside it. `SystemTime::now()` is the `now` argument of the calls that read
the clock. The flags `is_favorite` and `is_blocked` of a directory entry are written by the
calls that change the sets, but an entry created later starts with both flags clear, whatever
the sets hold. -/

namespace Bitchat.Bluetooth

def maxPeerConnections : Nat := 8

def peerTimeout : Nat := 90

inductive ConnectionState
  | discovering
  | connecting
  | connected
  | authenticated
  | disconnected
  | failed
  deriving DecidableEq, Repr

/-- The fields of `PeerInfo` that the modelled code reads. -/
structure PeerInfo where
  peerId : PeerId
  nickname : String
  connectionState : ConnectionState
  lastSeen : Nat
  firstSeen : Nat
  /-- The `i16`, as its two's-complement bits. -/
  rssi : Option (BitVec 16)
  messageCount : Nat
  isFavorite : Bool
  isBlocked : Bool
  deriving DecidableEq

namespace PeerInfo

def new (peerId : PeerId) (nickname : String) (now : Nat) : PeerInfo :=
  { peerId := peerId, nickname := nickname, connectionState := .discovering, lastSeen := now,
    firstSeen := now, rssi := none, messageCount := 0, isFavorite := false, isBlocked := false }

def updateLastSeen (p : PeerInfo) (now : Nat) : PeerInfo := { p with lastSeen := now }

def isOnline (p : PeerInfo) (now : Nat) : Bool :=
  match p.connectionState with
  | .connected | .authenticated => true
  | _ =>
    match elapsed p.lastSeen now with
    | some d => asSecs d < peerTimeout
    | none => false

/-- Whether `matches!(state, Connected | Authenticated)`. -/
def isConnected (p : PeerInfo) : Bool :=
  p.connectionState = .connected || p.connectionState = .authenticated

/-- `get_connection_quality` times 70. The `f32` values compare as these integers do:
`(rssi + 100) / 70` is clamped to `[0, 1]`, and `0.8`, `0.6`, `0.3` are `56`, `42`, `21`
seventieths. `rssi + 100` is the `i16` sum, which wraps from `rssi = 32668` on, as a release
build computes it; a debug build panics there. -/
def getConnectionQuality (p : PeerInfo) : Int :=
  match p.connectionState with
  | .authenticated =>
    match p.rssi with
    | some rssi => max 0 (min (rssi + 100).toInt 70)
    | none => 56
  | .connected => 42
  | .connecting => 21
  | _ => 0

end PeerInfo

/-- The peer manager; `last_announce` belongs to `should_announce`, which nothing here calls. -/
structure PeerManager where
  peers : DashMap PeerId PeerInfo
  ownPeerId : PeerId
  ownNickname : String
  favorites : DashMap PeerId Bool
  blockedPeers : DashMap PeerId Bool

namespace PeerManager

def new : PeerManager :=
  { peers := ∅, ownPeerId := Mathlib.Vector.replicate 8 0, ownNickname := "Anonymous",
    favorites := ∅, blockedPeers := ∅ }

/-- `initialize`, which sets the own identity. -/
def initializeIdentity (pm : PeerManager) (peerId : PeerId) (nickname : String) : PeerManager :=
  { pm with ownPeerId := peerId, ownNickname := nickname }

def setNickname (pm : PeerManager) (nickname : String) : PeerManager :=
  { pm with ownNickname := nickname }

/-- `if let Some(mut peer_info) = self.peers.get_mut(&peer_id) { f(peer_info) }` -/
def modifyPeer (pm : PeerManager) (peerId : PeerId) (f : PeerInfo → PeerInfo) : PeerManager :=
  { pm with peers := pm.peers.modify peerId f }

def addOrUpdatePeer (pm : PeerManager) (peerId : PeerId) (nickname : String) (now : Nat) :
    PeerManager :=
  if peerId = pm.ownPeerId then pm
  else if peerId ∈ pm.blockedPeers then pm
  else
    match pm.peers.lookup peerId with
    | some peerInfo =>
      { pm with
        peers := pm.peers.insert peerId
          ({ peerInfo with nickname := nickname }.updateLastSeen now) }
    | none => { pm with peers := pm.peers.insert peerId (PeerInfo.new peerId nickname now) }

def updatePeerConnectionState (pm : PeerManager) (peerId : PeerId) (state : ConnectionState)
    (now : Nat) : PeerManager :=
  pm.modifyPeer peerId fun p => { p with connectionState := state }.updateLastSeen now

def updatePeerRssi (pm : PeerManager) (peerId : PeerId) (rssi : BitVec 16) (now : Nat) :
    PeerManager :=
  pm.modifyPeer peerId fun p => { p with rssi := some rssi }.updateLastSeen now

def addFavorite (pm : PeerManager) (peerId : PeerId) : PeerManager :=
  { pm with favorites := pm.favorites.insert peerId true }.modifyPeer peerId
    fun p => { p with isFavorite := true }

def removeFavorite (pm : PeerManager) (peerId : PeerId) : PeerManager :=
  { pm with favorites := pm.favorites.erase peerId }.modifyPeer peerId
    fun p => { p with isFavorite := false }

def blockPeer (pm : PeerManager) (peerId : PeerId) : PeerManager :=
  { pm with blockedPeers := pm.blockedPeers.insert peerId true }.modifyPeer peerId
    fun p => { p with isBlocked := true, connectionState := .disconnected }

def unblockPeer (pm : PeerManager) (peerId : PeerId) : PeerManager :=
  { pm with blockedPeers := pm.blockedPeers.erase peerId }.modifyPeer peerId
    fun p => { p with isBlocked := false }

def incrementMessageCount (pm : PeerManager) (peerId : PeerId) : PeerManager :=
  pm.modifyPeer peerId fun p => { p with messageCount := p.messageCount + 1 }

/-- The entries `cleanup_offline_peers` collects: not favorites, last seen more than
`PEER_TIMEOUT` ago, and not online. -/
def isStale (now : Nat) (p : PeerInfo) : Bool :=
  !p.isFavorite &&
    match elapsed p.lastSeen now with
    | some d => d > peerTimeout * nanosPerSec && !p.isOnline now
    | none => false

def cleanupOfflinePeers (pm : PeerManager) (now : Nat) : PeerManager :=
  { pm with peers := pm.peers.eraseAll (pm.peers.keysWhere fun _ p => isStale now p) }

def getConnectedPeers (pm : PeerManager) : List PeerInfo :=
  (pm.peers.entries.map (·.2)).filter (·.isConnected)

/-- `get_routing_peers`: the connected peers sorted best first by a stable sort, then the
first `max_count`. -/
def getRoutingPeers (pm : PeerManager) (maxCount : Nat) : List PeerInfo :=
  (pm.getConnectedPeers.mergeSort fun a b => b.getConnectionQuality ≤ a.getConnectionQuality).take
    maxCount

def getAllPeers (pm : PeerManager) : List PeerInfo := pm.peers.entries.map (·.2)

def getOnlinePeers (pm : PeerManager) (now : Nat) : List PeerInfo :=
  (pm.peers.entries.map (·.2)).filter (·.isOnline now)

def getPeer (pm : PeerManager) (peerId : PeerId) : Option PeerInfo := pm.peers.lookup peerId

/-- `get_peer_by_nickname`: the first entry with the nickname, in the map's order. -/
def getPeerByNickname (pm : PeerManager) (nickname : String) : Option PeerInfo :=
  (pm.peers.entries.map (·.2)).find? (·.nickname == nickname)

/-- `get_statistics`. A `usize` is written as a `u64`, and `format!("{:?}", peer_id)` lists the
bytes in decimal between brackets. -/
def getStatistics (pm : PeerManager) (now : Nat) : Json.Value :=
  .object
    [("total_peers", .ofU64 pm.peers.entries.length.toUInt64),
     ("online_peers", .ofU64 (pm.getOnlinePeers now).length.toUInt64),
     ("connected_peers", .ofU64 pm.getConnectedPeers.length.toUInt64),
     ("favorites", .ofU64 pm.favorites.entries.length.toUInt64),
     ("blocked", .ofU64 pm.blockedPeers.entries.length.toUInt64),
     ("own_peer_id", .string (toString (pm.ownPeerId.toList.map UInt8.toNat))),
     ("own_nickname", .string pm.ownNickname)]

inductive Op
  | initializeIdentity (peerId : PeerId) (nickname : String)
  | addOrUpdatePeer (peerId : PeerId) (nickname : String) (now : Nat)
  | updatePeerConnectionState (peerId : PeerId) (state : ConnectionState) (now : Nat)
  | updatePeerRssi (peerId : PeerId) (rssi : BitVec 16) (now : Nat)
  | blockPeer (peerId : PeerId)
  | unblockPeer (peerId : PeerId)
  | addFavorite (peerId : PeerId)
  | removeFavorite (peerId : PeerId)
  | incrementMessageCount (peerId : PeerId)
  | cleanupOfflinePeers (now : Nat)

def step (pm : PeerManager) : Op → PeerManager
  | .initializeIdentity peerId nickname => pm.initializeIdentity peerId nickname
  | .addOrUpdatePeer peerId nickname now => pm.addOrUpdatePeer peerId nickname now
  | .updatePeerConnectionState peerId state now => pm.updatePeerConnectionState peerId state now
  | .updatePeerRssi peerId rssi now => pm.updatePeerRssi peerId rssi now
  | .blockPeer peerId => pm.blockPeer peerId
  | .unblockPeer peerId => pm.unblockPeer peerId
  | .addFavorite peerId => pm.addFavorite peerId
  | .removeFavorite peerId => pm.removeFavorite peerId
  | .incrementMessageCount peerId => pm.incrementMessageCount peerId
  | .cleanupOfflinePeers now => pm.cleanupOfflinePeers now

def run (pm : PeerManager) (ops : List Op) : PeerManager := ops.foldl step pm

@[simp] theorem run_append_singleton (pm : PeerManager) (ops : List Op) (op : Op) :
    pm.run (ops ++ [op]) = (pm.run ops).step op := by
  simp [run]

theorem addOrUpdatePeer_of_ignored {pm : PeerManager} {peerId : PeerId}
    (h : peerId = pm.ownPeerId ∨ peerId ∈ pm.blockedPeers) (nickname : String) (now : Nat) :
    pm.addOrUpdatePeer peerId nickname now = pm := by
  unfold addOrUpdatePeer
  split_ifs with hown hb
  · rfl
  · rfl
  · exact (h.elim hown hb).elim

theorem lookup_addOrUpdatePeer {pm : PeerManager} {peerId : PeerId}
    (hown : peerId ≠ pm.ownPeerId) (hb : peerId ∉ pm.blockedPeers) (nickname : String)
    (now : Nat) : ∃ p, (pm.addOrUpdatePeer peerId nickname now).peers.lookup peerId = some p ∧
      p.nickname = nickname ∧ p.lastSeen = now := by
  unfold addOrUpdatePeer
  rw [if_neg hown, if_neg hb]
  split <;> exact ⟨_, AList.lookup_insert _, rfl, rfl⟩

/-! The favorite flag. -/

/-- Every directory entry flagged favorite has its id in `favorites`. -/
def FavoriteFlagSound (pm : PeerManager) : Prop :=
  ∀ peerId p, pm.peers.lookup peerId = some p → p.isFavorite → peerId ∈ pm.favorites

theorem favoriteFlagSound_new : FavoriteFlagSound new := by
  intro peerId p h
  simp [new] at h

theorem FavoriteFlagSound.modifyPeer {pm : PeerManager} (h : FavoriteFlagSound pm)
    (peerId : PeerId) {f : PeerInfo → PeerInfo} (hf : ∀ p, (f p).isFavorite = p.isFavorite) :
    FavoriteFlagSound (pm.modifyPeer peerId f) := by
  intro q p hq hp
  simp only [PeerManager.modifyPeer, DashMap.lookup_modify] at hq
  split_ifs at hq with e
  · subst e
    obtain ⟨p', hp', rfl⟩ := Option.map_eq_some'.mp hq
    exact h q p' hp' (by rwa [hf] at hp)
  · exact h q p hq hp

theorem FavoriteFlagSound.insert {pm : PeerManager} (h : FavoriteFlagSound pm)
    {peerId : PeerId} {p : PeerInfo} (hp : p.isFavorite → peerId ∈ pm.favorites) :
    FavoriteFlagSound { pm with peers := pm.peers.insert peerId p } := by
  intro q p' hq hf
  by_cases e : q = peerId
  · subst e
    rw [AList.lookup_insert] at hq
    cases hq
    exact hp hf
  · rw [AList.lookup_insert_ne e] at hq
    exact h q p' hq hf

theorem FavoriteFlagSound.addOrUpdatePeer {pm : PeerManager} (h : FavoriteFlagSound pm)
    (peerId : PeerId) (nickname : String) (now : Nat) :
    FavoriteFlagSound (pm.addOrUpdatePeer peerId nickname now) := by
  unfold PeerManager.addOrUpdatePeer
  split_ifs
  · exact h
  · exact h
  · split
    · rename_i old hold
      exact h.insert (h peerId old hold)
    · exact h.insert fun hf => by simp [PeerInfo.new] at hf

theorem FavoriteFlagSound.cleanupOfflinePeers {pm : PeerManager} (h : FavoriteFlagSound pm)
    (now : Nat) : FavoriteFlagSound (pm.cleanupOfflinePeers now) := by
  intro q p hq hp
  simp only [PeerManager.cleanupOfflinePeers, DashMap.lookup_eraseAll_keysWhere] at hq
  cases hl : pm.peers.lookup q with
  | none => simp [hl] at hq
  | some p' =>
    simp only [hl, Option.filter] at hq
    split_ifs at hq
    cases hq
    exact h q p hl hp

theorem FavoriteFlagSound.step {pm : PeerManager} (h : FavoriteFlagSound pm) :
    ∀ op, FavoriteFlagSound (pm.step op)
  | .initializeIdentity _ _ => h
  | .addOrUpdatePeer peerId nickname now => h.addOrUpdatePeer peerId nickname now
  | .updatePeerConnectionState peerId _ _ => h.modifyPeer peerId fun _ => rfl
  | .updatePeerRssi peerId _ _ => h.modifyPeer peerId fun _ => rfl
  | .blockPeer peerId =>
    FavoriteFlagSound.modifyPeer
      (show FavoriteFlagSound { pm with blockedPeers := pm.blockedPeers.insert peerId true } from h)
      peerId fun _ => rfl
  | .unblockPeer peerId =>
    FavoriteFlagSound.modifyPeer
      (show FavoriteFlagSound { pm with blockedPeers := pm.blockedPeers.erase peerId } from h)
      peerId fun _ => rfl
  | .addFavorite peerId => by
    intro q p hq hp
    simp only [PeerManager.step, PeerManager.addFavorite, PeerManager.modifyPeer,
      DashMap.lookup_modify] at hq
    simp only [PeerManager.step, PeerManager.addFavorite, PeerManager.modifyPeer,
      AList.mem_insert]
    split_ifs at hq with e
    · exact .inl e
    · exact .inr (h q p hq hp)
  | .removeFavorite peerId => by
    intro q p hq hp
    simp only [PeerManager.step, PeerManager.removeFavorite, PeerManager.modifyPeer,
      DashMap.lookup_modify] at hq
    simp only [PeerManager.step, PeerManager.removeFavorite, PeerManager.modifyPeer,
      AList.mem_erase]
    split_ifs at hq with e
    · obtain ⟨p', -, rfl⟩ := Option.map_eq_some'.mp hq
      simp at hp
    · exact ⟨e, h q p hq hp⟩
  | .incrementMessageCount peerId => h.modifyPeer peerId fun _ => rfl
  | .cleanupOfflinePeers now => h.cleanupOfflinePeers now

theorem favoriteFlagSound_run (ops : List Op) : FavoriteFlagSound (new.run ops) := by
  induction ops using List.reverseRecOn with
  | nil => exact favoriteFlagSound_new
  | append_singleton ops op ih => rw [run_append_singleton]; exact ih.step op

theorem lookup_cleanupOfflinePeers_of_isFavorite {pm : PeerManager} {peerId : PeerId}
    {p : PeerInfo} (now : Nat) (hl : pm.peers.lookup peerId = some p) (hf : p.isFavorite) :
    (pm.cleanupOfflinePeers now).peers.lookup peerId = some p := by
  simp [PeerManager.cleanupOfflinePeers, DashMap.lookup_eraseAll_keysWhere, hl, Option.filter,
    isStale, hf]

/-- In every state the calls reach from `PeerManager::new()`, an entry flagged favorite is in
`favorites`, and `cleanup_offline_peers` keeps it. -/
theorem favorite_flag_kept {ops : List Op} {peerId : PeerId} {p : PeerInfo} (now : Nat)
    (hl : (new.run ops).peers.lookup peerId = some p) (hf : p.isFavorite) :
    peerId ∈ (new.run ops).favorites ∧
      ((new.run ops).cleanupOfflinePeers now).peers.lookup peerId = some p :=
  ⟨favoriteFlagSound_run ops peerId p hl hf, lookup_cleanupOfflinePeers_of_isFavorite now hl hf⟩

theorem favorite_flag_kept_after_favoriting :
    Mathlib.Vector.replicate 8 1 ∈
      (new.run [.addOrUpdatePeer (Mathlib.Vector.replicate 8 1) "peer" 0,
        .addFavorite (Mathlib.Vector.replicate 8 1)]).favorites ∧
      ((new.run [.addOrUpdatePeer (Mathlib.Vector.replicate 8 1) "peer" 0,
        .addFavorite (Mathlib.Vector.replicate 8 1)]).cleanupOfflinePeers 0).peers.lookup
          (Mathlib.Vector.replicate 8 1) =
        some { PeerInfo.new (Mathlib.Vector.replicate 8 1) "peer" 0 with isFavorite := true } :=
  favorite_flag_kept 0 (by decide) rfl

/-- A peer favorited before it is first seen gets an entry whose flag is clear, and
`cleanup_offline_peers` then removes that entry while the id stays in `favorites`. -/
theorem favorite_before_seen_removed :
    Mathlib.Vector.replicate 8 1 ∈ (new.run [.addFavorite (Mathlib.Vector.replicate 8 1),
        .addOrUpdatePeer (Mathlib.Vector.replicate 8 1) "peer" 0]).favorites ∧
      ((new.run [.addFavorite (Mathlib.Vector.replicate 8 1),
        .addOrUpdatePeer (Mathlib.Vector.replicate 8 1) "peer" 0]).peers.lookup
          (Mathlib.Vector.replicate 8 1)).map (·.isFavorite) = some false ∧
      ((new.run [.addFavorite (Mathlib.Vector.replicate 8 1),
        .addOrUpdatePeer (Mathlib.Vector.replicate 8 1) "peer" 0]).cleanupOfflinePeers
          (91 * nanosPerSec)).peers.lookup (Mathlib.Vector.replicate 8 1) = none := by
  decide

/-! The directory and the block list. -/

/-- What holds of the directory in every state the calls reach: every entry sits under its own
peer's id, and the entry of a peer on the block list is flagged blocked. -/
structure DirectoryInv (pm : PeerManager) : Prop where
  keyed : ∀ q p, pm.peers.lookup q = some p → p.peerId = q
  blocked_flagged : ∀ q p, q ∈ pm.blockedPeers → pm.peers.lookup q = some p → p.isBlocked = true

theorem directoryInv_new : DirectoryInv new :=
  ⟨fun _ _ h => by simp [new] at h, fun _ _ _ h => by simp [new] at h⟩

theorem lookup_modifyPeer_eq_some {pm : PeerManager} {peerId q : PeerId}
    {f : PeerInfo → PeerInfo} {p : PeerInfo}
    (h : (pm.modifyPeer peerId f).peers.lookup q = some p) :
    (q = peerId ∧ ∃ p', pm.peers.lookup q = some p' ∧ p = f p') ∨
      (q ≠ peerId ∧ pm.peers.lookup q = some p) := by
  simp only [PeerManager.modifyPeer, DashMap.lookup_modify] at h
  split_ifs at h with e
  · obtain ⟨p', hp', rfl⟩ := Option.map_eq_some'.mp h
    exact .inl ⟨e, p', e ▸ hp', rfl⟩
  · exact .inr ⟨e, h⟩

theorem DirectoryInv.modifyPeer {pm : PeerManager} (h : DirectoryInv pm) (peerId : PeerId)
    {f : PeerInfo → PeerInfo} (hid : ∀ p, (f p).peerId = p.peerId)
    (hb : peerId ∈ pm.blockedPeers → ∀ p, p.isBlocked = true → (f p).isBlocked = true) :
    DirectoryInv (pm.modifyPeer peerId f) where
  keyed q p hq := by
    rcases lookup_modifyPeer_eq_some hq with ⟨-, p', hp', rfl⟩ | ⟨-, hq⟩
    · rw [hid, h.keyed q p' hp']
    · exact h.keyed q p hq
  blocked_flagged q p hbq hq := by
    rcases lookup_modifyPeer_eq_some hq with ⟨rfl, p', hp', rfl⟩ | ⟨-, hq⟩
    · exact hb hbq p' (h.blocked_flagged q p' hbq hp')
    · exact h.blocked_flagged q p hbq hq

theorem DirectoryInv.addOrUpdatePeer {pm : PeerManager} (h : DirectoryInv pm) (peerId : PeerId)
    (nickname : String) (now : Nat) : DirectoryInv (pm.addOrUpdatePeer peerId nickname now) := by
  unfold PeerManager.addOrUpdatePeer
  split_ifs with hown hb
  · exact h
  · exact h
  · have hins : ∀ info : PeerInfo, info.peerId = peerId →
        DirectoryInv { pm with peers := pm.peers.insert peerId info } := fun info hi => by
      refine ⟨fun q p hq => ?_, fun q p hbq hq => ?_⟩
      all_goals by_cases e : q = peerId
      · subst e; rw [AList.lookup_insert] at hq; cases hq; exact hi
      · rw [AList.lookup_insert_ne e] at hq; exact h.keyed q p hq
      · subst e; exact absurd hbq hb
      · rw [AList.lookup_insert_ne e] at hq; exact h.blocked_flagged q p hbq hq
    split
    · rename_i old hold
      exact hins _ (h.keyed _ old hold)
    · exact hins _ rfl

theorem DirectoryInv.blockPeer {pm : PeerManager} (h : DirectoryInv pm) (peerId : PeerId) :
    DirectoryInv (pm.blockPeer peerId) where
  keyed q p hq := by
    rcases lookup_modifyPeer_eq_some hq with ⟨-, p', hp', rfl⟩ | ⟨-, hq⟩
    · exact h.keyed q p' hp'
    · exact h.keyed q p hq
  blocked_flagged q p hbq hq := by
    rcases lookup_modifyPeer_eq_some hq with ⟨-, p', -, rfl⟩ | ⟨e, hq⟩
    · rfl
    · exact h.blocked_flagged q p ((AList.mem_insert _).mp hbq |>.resolve_left e) hq

theorem DirectoryInv.unblockPeer {pm : PeerManager} (h : DirectoryInv pm) (peerId : PeerId) :
    DirectoryInv (pm.unblockPeer peerId) :=
  have h' : DirectoryInv { pm with blockedPeers := pm.blockedPeers.erase peerId } :=
    ⟨h.keyed, fun q p hbq => h.blocked_flagged q p ((AList.mem_erase.mp hbq).2)⟩
  h'.modifyPeer peerId (fun _ => rfl) fun hb => ((AList.mem_erase.mp hb).1 rfl).elim

theorem DirectoryInv.cleanupOfflinePeers {pm : PeerManager} (h : DirectoryInv pm) (now : Nat) :
    DirectoryInv (pm.cleanupOfflinePeers now) := by
  have hsub : ∀ q p, (pm.cleanupOfflinePeers now).peers.lookup q = some p →
      pm.peers.lookup q = some p := fun q p hq => by
    simp only [PeerManager.cleanupOfflinePeers, DashMap.lookup_eraseAll_keysWhere,
      Option.filter_eq_some] at hq
    exact hq.1
  exact ⟨fun q p hq => h.keyed q p (hsub q p hq),
    fun q p hbq hq => h.blocked_flagged q p hbq (hsub q p hq)⟩

theorem DirectoryInv.step {pm : PeerManager} (h : DirectoryInv pm) : ∀ op, DirectoryInv (pm.step op)
  | .initializeIdentity _ _ => ⟨h.keyed, h.blocked_flagged⟩
  | .addOrUpdatePeer peerId nickname now => h.addOrUpdatePeer peerId nickname now
  | .updatePeerConnectionState peerId _ _ => h.modifyPeer peerId (fun _ => rfl) fun _ _ hp => hp
  | .updatePeerRssi peerId _ _ => h.modifyPeer peerId (fun _ => rfl) fun _ _ hp => hp
  | .blockPeer peerId => h.blockPeer peerId
  | .unblockPeer peerId => h.unblockPeer peerId
  | .addFavorite peerId =>
    (show DirectoryInv { pm with favorites := pm.favorites.insert peerId true } from
      ⟨h.keyed, h.blocked_flagged⟩).modifyPeer peerId (fun _ => rfl) fun _ _ hp => hp
  | .removeFavorite peerId =>
    (show DirectoryInv { pm with favorites := pm.favorites.erase peerId } from
      ⟨h.keyed, h.blocked_flagged⟩).modifyPeer peerId (fun _ => rfl) fun _ _ hp => hp
  | .incrementMessageCount peerId => h.modifyPeer peerId (fun _ => rfl) fun _ _ hp => hp
  | .cleanupOfflinePeers now => h.cleanupOfflinePeers now

theorem directoryInv_run (ops : List Op) : DirectoryInv (new.run ops) := by
  induction ops using List.reverseRecOn with
  | nil => exact directoryInv_new
  | append_singleton ops op ih => rw [run_append_singleton]; exact ih.step op

/-- In every state the calls reach from `PeerManager::new()`, each directory entry sits under its
own peer's id, and the entry of a peer on the block list is flagged blocked: unlike the favorite
flag, `add_or_update_peer` never creates an entry for a blocked peer. -/
theorem directory_invariants (ops : List Op) :
    (∀ q p, (new.run ops).peers.lookup q = some p → p.peerId = q) ∧
    (∀ q p, q ∈ (new.run ops).blockedPeers → (new.run ops).peers.lookup q = some p →
      p.isBlocked = true) :=
  ⟨(directoryInv_run ops).keyed, (directoryInv_run ops).blocked_flagged⟩

theorem step_blocked_not_mem {pm : PeerManager} {p : PeerId} (hb : p ∈ pm.blockedPeers)
    (hp : p ∉ pm.peers) {op : Op} (hop : op ≠ .unblockPeer p) :
    p ∈ (pm.step op).blockedPeers ∧ p ∉ (pm.step op).peers := by
  cases op with
  | addOrUpdatePeer q nickname now =>
    simp only [PeerManager.step, PeerManager.addOrUpdatePeer]
    split_ifs with hown hq
    · exact ⟨hb, hp⟩
    · exact ⟨hb, hp⟩
    · have hpq : p ≠ q := fun e => hq (e ▸ hb)
      split <;> exact ⟨hb, by simp only [AList.mem_insert, hpq, hp, or_self, not_false_eq_true]⟩
  | blockPeer q =>
    exact ⟨by simp [PeerManager.step, PeerManager.blockPeer, PeerManager.modifyPeer,
      AList.mem_insert, hb],
      by simpa [PeerManager.step, PeerManager.blockPeer, PeerManager.modifyPeer] using hp⟩
  | unblockPeer q =>
    have hpq : p ≠ q := fun e => hop (e ▸ rfl)
    exact ⟨by simpa [PeerManager.step, PeerManager.unblockPeer, PeerManager.modifyPeer,
      AList.mem_erase, hpq] using hb,
      by simpa [PeerManager.step, PeerManager.unblockPeer, PeerManager.modifyPeer] using hp⟩
  | cleanupOfflinePeers now =>
    refine ⟨hb, fun hm => hp ?_⟩
    rw [← AList.lookup_isSome] at hm ⊢
    simp only [PeerManager.step, PeerManager.cleanupOfflinePeers, DashMap.lookup_eraseAll] at hm
    split_ifs at hm
    · cases hm
    · exact hm
  | _ =>
    exact ⟨hb, by simpa [PeerManager.step, PeerManager.initializeIdentity,
      PeerManager.updatePeerConnectionState,
      PeerManager.updatePeerRssi, PeerManager.addFavorite, PeerManager.removeFavorite,
      PeerManager.incrementMessageCount, PeerManager.modifyPeer] using hp⟩

/-- A peer blocked before it has a directory entry never gets one, whatever announces, state
updates, favorites and cleanups follow, until it is unblocked. -/
theorem blocked_peer_never_added {pm : PeerManager} {p : PeerId} (hb : p ∈ pm.blockedPeers)
    (hp : p ∉ pm.peers) {ops : List Op} (hops : ∀ op ∈ ops, op ≠ .unblockPeer p) :
    p ∈ (pm.run ops).blockedPeers ∧ p ∉ (pm.run ops).peers := by
  induction ops generalizing pm with
  | nil => exact ⟨hb, hp⟩
  | cons op ops ih =>
    obtain ⟨hb', hp'⟩ := step_blocked_not_mem hb hp (hops op (List.mem_cons_self _ _))
    exact ih hb' hp' fun o ho => hops o (List.mem_cons_of_mem _ ho)

theorem blocked_first_stays_out :
    (Mathlib.Vector.replicate 8 1 ∈ (new.blockPeer (Mathlib.Vector.replicate 8 1)).blockedPeers ∧
      Mathlib.Vector.replicate 8 1 ∉ (new.blockPeer (Mathlib.Vector.replicate 8 1)).peers ∧
      Op.addOrUpdatePeer (Mathlib.Vector.replicate 8 1) "peer" 1 ≠
        .unblockPeer (Mathlib.Vector.replicate 8 1) ∧
      Op.updatePeerConnectionState (Mathlib.Vector.replicate 8 1) .connected 1 ≠
        .unblockPeer (Mathlib.Vector.replicate 8 1)) ∧
    Mathlib.Vector.replicate 8 1 ∉ ((new.blockPeer (Mathlib.Vector.replicate 8 1)).run
      [.addOrUpdatePeer (Mathlib.Vector.replicate 8 1) "peer" 1,
        .updatePeerConnectionState (Mathlib.Vector.replicate 8 1) .connected 1]).peers :=
  have hb : Mathlib.Vector.replicate 8 1 ∈
      (new.blockPeer (Mathlib.Vector.replicate 8 1)).blockedPeers := by decide
  have hp : Mathlib.Vector.replicate 8 1 ∉ (new.blockPeer (Mathlib.Vector.replicate 8 1)).peers :=
    by decide
  ⟨⟨hb, hp, Op.noConfusion, Op.noConfusion⟩, (blocked_peer_never_added hb hp (by simp)).2⟩

/-! Blocked peers. -/

theorem getRoutingPeers_perm {pm : PeerManager} {maxCount : Nat}
    (h : pm.getConnectedPeers.length ≤ maxCount) :
    (pm.getRoutingPeers maxCount).Perm pm.getConnectedPeers := by
  unfold getRoutingPeers
  rw [List.take_of_length_le (by rw [List.length_mergeSort]; exact h)]
  exact List.mergeSort_perm _ _

/-- `get_routing_peers` picks the best connected peers: as many as `max_count` allows, best first,
and no connected peer it leaves out has a better quality than one it picks. -/
theorem getRoutingPeers_best (pm : PeerManager) (maxCount : Nat) :
    (pm.getRoutingPeers maxCount).length = min maxCount pm.getConnectedPeers.length ∧
    (pm.getRoutingPeers maxCount).Pairwise
      (fun a b => b.getConnectionQuality ≤ a.getConnectionQuality) ∧
    ∃ rest, (pm.getRoutingPeers maxCount ++ rest).Perm pm.getConnectedPeers ∧
      ∀ p ∈ pm.getRoutingPeers maxCount, ∀ q ∈ rest,
        q.getConnectionQuality ≤ p.getConnectionQuality := by
  have hsorted := @List.sorted_mergeSort _
    (fun a b : PeerInfo => decide (b.getConnectionQuality ≤ a.getConnectionQuality))
    (fun a b c hab hbc => by simp only [decide_eq_true_eq] at *; omega)
    (fun a b => by simp only [Bool.or_eq_true, decide_eq_true_eq]; omega) pm.getConnectedPeers
  rw [← List.take_append_drop maxCount (List.mergeSort _ _), List.pairwise_append] at hsorted
  refine ⟨by simp [getRoutingPeers, Nat.min_comm], hsorted.1.imp of_decide_eq_true, _, ?_,
    fun p hp q hq => of_decide_eq_true (hsorted.2.2 p hp q hq)⟩
  rw [getRoutingPeers, List.take_append_drop]
  exact List.mergeSort_perm _ _

/-- A peer seen, then blocked, then announcing itself (`handle_announce_message` calls
`add_or_update_peer`, which ignores it, and `update_peer_connection_state(Connected)`, which
does not check the block list) is blocked and connected, and is offered for routing. -/
theorem blocked_peer_connected_after_announce :
    Mathlib.Vector.replicate 8 1 ∈
      (new.run [.addOrUpdatePeer (Mathlib.Vector.replicate 8 1) "peer" 0,
        .blockPeer (Mathlib.Vector.replicate 8 1),
        .addOrUpdatePeer (Mathlib.Vector.replicate 8 1) "peer" 1,
        .updatePeerConnectionState (Mathlib.Vector.replicate 8 1) .connected 1]).blockedPeers ∧
      ((new.run [.addOrUpdatePeer (Mathlib.Vector.replicate 8 1) "peer" 0,
        .blockPeer (Mathlib.Vector.replicate 8 1),
        .addOrUpdatePeer (Mathlib.Vector.replicate 8 1) "peer" 1,
        .updatePeerConnectionState (Mathlib.Vector.replicate 8 1) .connected 1]).getRoutingPeers
          maxPeerConnections).map (·.peerId) = [Mathlib.Vector.replicate 8 1] := by
  have hc : ((new.run [.addOrUpdatePeer (Mathlib.Vector.replicate 8 1) "peer" 0,
      .blockPeer (Mathlib.Vector.replicate 8 1),
      .addOrUpdatePeer (Mathlib.Vector.replicate 8 1) "peer" 1,
      .updatePeerConnectionState (Mathlib.Vector.replicate 8 1) .connected 1]).getConnectedPeers
        ).map (·.peerId) = [Mathlib.Vector.replicate 8 1] := by decide
  refine ⟨by decide, List.perm_singleton.mp (hc ▸ (getRoutingPeers_perm ?_).map _)⟩
  have := congrArg List.length hc
  rw [List.length_map, List.length_singleton] at this
  rw [this]
  decide

/-! Reading the directory. -/

theorem isStale_eq_false_iff (now : Nat) (p : PeerInfo) :
    isStale now p = false ↔ p.isFavorite = true ∨ p.isOnline now = true ∨ now < p.lastSeen ∨
      now - p.lastSeen ≤ peerTimeout * nanosPerSec := by
  unfold isStale elapsed
  split_ifs with h
  · cases p.isFavorite <;> cases p.isOnline now <;> simp [Nat.not_lt.mpr h]
  · simp only [Bool.and_false, true_iff]; omega

theorem le_of_isOnline_eq_false {p : PeerInfo} {now : Nat} (h : p.isOnline now = false)
    (hs : p.lastSeen ≤ now) : peerTimeout * nanosPerSec ≤ now - p.lastSeen := by
  unfold PeerInfo.isOnline elapsed asSecs at h
  split at h
  · cases h
  · cases h
  · simp only [if_pos hs, decide_eq_false_iff_not, peerTimeout, nanosPerSec] at h ⊢
    omega

/-- After `cleanup_offline_peers` at `now`, a peer is still in the directory exactly when it was
before and is a favorite, is online, or was seen no more than `PEER_TIMEOUT` ago or after `now`.
The cleanup's strict `elapsed > timeout` and `is_online`'s `as_secs() < PEER_TIMEOUT` meet at one
instant: an offline stranger the cleanup keeps was seen exactly `PEER_TIMEOUT` ago, or ahead of
the clock. -/
theorem cleanupOfflinePeers_spec (pm : PeerManager) (now : Nat) :
    (∀ p, p ∈ (pm.cleanupOfflinePeers now).getAllPeers ↔ p ∈ pm.getAllPeers ∧
      (p.isFavorite = true ∨ p.isOnline now = true ∨ now < p.lastSeen ∨
        now - p.lastSeen ≤ peerTimeout * nanosPerSec)) ∧
    ∀ p ∈ (pm.cleanupOfflinePeers now).getAllPeers, p.isOnline now = false →
      p.isFavorite = false → now < p.lastSeen ∨ now - p.lastSeen = peerTimeout * nanosPerSec := by
  have hmem : ∀ p, p ∈ (pm.cleanupOfflinePeers now).getAllPeers ↔
      p ∈ pm.getAllPeers ∧ isStale now p = false := fun p => by
    simp only [getAllPeers, cleanupOfflinePeers, DashMap.mem_entries_map_snd,
      DashMap.lookup_eraseAll_keysWhere, Option.filter_eq_some, Option.mem_def,
      Bool.not_eq_true']
    exact ⟨fun ⟨k, hk, hs⟩ => ⟨⟨k, hk⟩, hs⟩, fun ⟨⟨k, hk⟩, hs⟩ => ⟨k, hk, hs⟩⟩
  refine ⟨fun p => (hmem p).trans (and_congr_right fun _ => isStale_eq_false_iff now p),
    fun p hp hoff hfav => ?_⟩
  rcases ((isStale_eq_false_iff now p).mp ((hmem p).mp hp).2) with h | h | h | h
  · simp [hfav] at h
  · simp [hoff] at h
  · exact .inl h
  · by_cases hs : p.lastSeen ≤ now
    · exact .inr (le_antisymm h (le_of_isOnline_eq_false hoff hs))
    · exact .inl (by omega)

end PeerManager

end Bitchat.Bluetooth
