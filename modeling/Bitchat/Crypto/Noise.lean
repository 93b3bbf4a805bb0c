import Bitchat.Prelude.Bytes
import Bitchat.Prelude.Runtime

/-! `crypto/noise_protocol.rs`: the simplified Noise XX engine. The source keeps no key
material (its encryption returns the plaintext), so a session is its handshake state and two
timestamps; what `process_handshake_message` does depends on the message type and on whether
a session exists, never on the state that session is in. Every session sits under its own
peer's id, so a peer's fingerprint is the hash of that id, and `verify_peer_fingerprint`
accepts it in any handshake state; `cleanup_expired_sessions` reads only `created_at`, and
removes complete sessions too. -/

namespace Bitchat.Crypto

def handshakeTimeoutSecs : Nat := 30

def noiseInit : List UInt8 := "NOISE_INIT".toUTF8.data.toList

def noiseResponse : List UInt8 := "NOISE_RESPONSE".toUTF8.data.toList

def noiseFinish : List UInt8 := "NOISE_FINISH".toUTF8.data.toList

inductive NoiseHandshakeState
  | uninitialized
  | initiatorSendingInit
  | initiatorWaitingResponse
  | initiatorSendingFinish
  | responderWaitingInit
  | responderSendingResponse
  | responderWaitingFinish
  | complete
  | failed
  deriving DecidableEq, Repr

structure NoiseSession where
  peerId : PeerId
  state : NoiseHandshakeState
  createdAt : Nat
  lastActivity : Nat
  deriving DecidableEq

namespace NoiseSession

def newInitiator (peerId : PeerId) (now : Nat) : NoiseSession :=
  { peerId := peerId, state := .uninitialized, createdAt := now, lastActivity := now }

def newResponder (peerId : PeerId) (now : Nat) : NoiseSession :=
  { peerId := peerId, state := .responderWaitingInit, createdAt := now, lastActivity := now }

/-- `initialize_handshake`, which never returns `Err`. -/
def initializeHandshake (s : NoiseSession) (now : Nat) : NoiseSession × List UInt8 :=
  ({ s with state := .initiatorSendingInit, lastActivity := now }, noiseInit)

/-- The common body of `encrypt_message` and `decrypt_message`: a complete session hands the
bytes back unchanged and records the activity. -/
def passThrough (s : NoiseSession) (bytes : List UInt8) (now : Nat) :
    Except String (NoiseSession × List UInt8) :=
  if s.state ≠ .complete then .error "Handshake not complete"
  else .ok ({ s with lastActivity := now }, bytes)

def encryptMessage (s : NoiseSession) (plaintext : List UInt8) (now : Nat) :
    Except String (NoiseSession × List UInt8) :=
  s.passThrough plaintext now

def decryptMessage (s : NoiseSession) (ciphertext : List UInt8) (now : Nat) :
    Except String (NoiseSession × List UInt8) :=
  s.passThrough ciphertext now

/-- `is_expired` read at `now`: a clock behind `created_at` counts as expired. -/
def isExpired (s : NoiseSession) (now : Nat) : Bool :=
  match elapsed s.createdAt now with
  | some d => asSecs d > handshakeTimeoutSecs
  | none => true

/-- `get_remote_fingerprint`, which never returns `Err`: the hex SHA-256 of the peer id alone,
with `sha256` standing for the hash. -/
def getRemoteFingerprint (sha256 : List UInt8 → Mathlib.Vector UInt8 32) (s : NoiseSession) :
    String :=
  hexEncode (sha256 s.peerId.toList).toList

theorem passThrough_eq_ok {s s' : NoiseSession} {bytes out : List UInt8} {now : Nat} :
    s.passThrough bytes now = .ok (s', out) ↔
      s.state = .complete ∧ s' = { s with lastActivity := now } ∧ out = bytes := by
  unfold passThrough
  split
  · rename_i h
    simp only [h, false_and, iff_false]
    intro h'
    cases h'
  · rename_i h
    simp only [not_not] at h
    simp only [Except.ok.injEq, Prod.mk.injEq, h, true_and]
    constructor
    · rintro ⟨rfl, rfl⟩; exact ⟨rfl, rfl⟩
    · rintro ⟨rfl, rfl⟩; exact ⟨rfl, rfl⟩

end NoiseSession

/-- The engine's session map; `own_fingerprint` is a constant nothing here reads. -/
structure NoiseEngine where
  sessions : DashMap PeerId NoiseSession

namespace NoiseEngine

def new : NoiseEngine := ⟨∅⟩

/-- The peer's entry after `get_mut` has changed it in place. -/
def setSession (e : NoiseEngine) (peerId : PeerId) (session : NoiseSession) : NoiseEngine :=
  ⟨e.sessions.insert peerId session⟩

def startHandshake (e : NoiseEngine) (peerId : PeerId) (now : Nat) : NoiseEngine × List UInt8 :=
  let (session, initMessage) := (NoiseSession.newInitiator peerId now).initializeHandshake now
  (e.setSession peerId session, initMessage)

def processHandshakeMessage (e : NoiseEngine) (peerId : PeerId) (_message : List UInt8)
    (messageType : UInt8) (now : Nat) : Except String (NoiseEngine × Option (List UInt8)) :=
  match e.sessions.lookup peerId with
  | some session =>
    match messageType.toNat with
    | 0x10 => .ok (e.setSession peerId { session with state := .responderSendingResponse },
        some noiseResponse)
    | 0x11 => .ok (e.setSession peerId { session with state := .initiatorSendingFinish },
        some noiseFinish)
    | 0x12 => .ok (e.setSession peerId { session with state := .complete }, none)
    | _ => .error ("Unknown handshake message type: " ++ toString messageType)
  | none =>
    if messageType = 0x10 then
      let session := { NoiseSession.newResponder peerId now with
        state := .responderSendingResponse }
      .ok (e.setSession peerId session, some noiseResponse)
    else .error ("Invalid handshake state for message type " ++ toString messageType)

/-- `Debug` of a `[u8; 8]`. -/
def peerIdDebug (peerId : PeerId) : String := toString (peerId.toList.map UInt8.toNat)

/-- The common body of the engine's `encrypt_message` and `decrypt_message`. -/
def withSession (e : NoiseEngine) (peerId : PeerId)
    (f : NoiseSession → Except String (NoiseSession × List UInt8)) :
    Except String (NoiseEngine × List UInt8) :=
  match e.sessions.lookup peerId with
  | some session => do
    let (session, out) ← f session
    pure (e.setSession peerId session, out)
  | none => .error ("No session found for peer: " ++ peerIdDebug peerId)

def encryptMessage (e : NoiseEngine) (peerId : PeerId) (plaintext : List UInt8) (now : Nat) :
    Except String (NoiseEngine × List UInt8) :=
  e.withSession peerId fun session => session.encryptMessage plaintext now

def decryptMessage (e : NoiseEngine) (peerId : PeerId) (ciphertext : List UInt8) (now : Nat) :
    Except String (NoiseEngine × List UInt8) :=
  e.withSession peerId fun session => session.decryptMessage ciphertext now

def cleanupExpiredSessions (e : NoiseEngine) (now : Nat) : NoiseEngine :=
  ⟨e.sessions.eraseAll (e.sessions.keysWhere fun _ session => session.isExpired now)⟩

def getSessionStatus (e : NoiseEngine) (peerId : PeerId) : Option NoiseHandshakeState :=
  (e.sessions.lookup peerId).map (·.state)

/-- `verify_peer_fingerprint`: `peer_id` is read as hex, and a session in any handshake state
answers with its fingerprint. The `try_into` that follows the length check cannot fail. -/
def verifyPeerFingerprint (sha256 : List UInt8 → Mathlib.Vector UInt8 32) (e : NoiseEngine)
    (peerId expectedFingerprint : String) : Except String Bool :=
  match hexDecode peerId.toUTF8.data.toList with
  | none => .error "Invalid peer ID format"
  | some peerIdBytes =>
    if h : peerIdBytes.length = 8 then
      match e.sessions.lookup ⟨peerIdBytes, h⟩ with
      | some session => .ok (session.getRemoteFingerprint sha256 == expectedFingerprint)
      | none => .ok false
    else .error "Peer ID must be 8 bytes"

inductive Op
  | startHandshake (peerId : PeerId) (now : Nat)
  | processHandshakeMessage (peerId : PeerId) (message : List UInt8) (messageType : UInt8)
      (now : Nat)
  | encryptMessage (peerId : PeerId) (plaintext : List UInt8) (now : Nat)
  | decryptMessage (peerId : PeerId) (ciphertext : List UInt8) (now : Nat)
  | cleanupExpiredSessions (now : Nat)

/-- The engine after a call that may fail; a call that returns `Err` changes nothing. -/
def orKeep {α : Type} (e : NoiseEngine) : Except String (NoiseEngine × α) → NoiseEngine
  | .ok (e', _) => e'
  | .error _ => e

def step (e : NoiseEngine) : Op → NoiseEngine
  | .startHandshake peerId now => (e.startHandshake peerId now).1
  | .processHandshakeMessage peerId message messageType now =>
    e.orKeep (e.processHandshakeMessage peerId message messageType now)
  | .encryptMessage peerId plaintext now => e.orKeep (e.encryptMessage peerId plaintext now)
  | .decryptMessage peerId ciphertext now => e.orKeep (e.decryptMessage peerId ciphertext now)
  | .cleanupExpiredSessions now => e.cleanupExpiredSessions now

def run (e : NoiseEngine) (ops : List Op) : NoiseEngine := ops.foldl step e

@[simp] theorem run_append_singleton (e : NoiseEngine) (ops : List Op) (op : Op) :
    e.run (ops ++ [op]) = (e.run ops).step op := by
  simp [run]

@[simp] theorem lookup_setSession (e : NoiseEngine) (q p : PeerId) (s : NoiseSession) :
    (e.setSession q s).sessions.lookup p = if p = q then some s else e.sessions.lookup p := by
  unfold setSession
  split_ifs with h
  · subst h; exact AList.lookup_insert _
  · exact AList.lookup_insert_ne h

theorem getSessionStatus_setSession (e : NoiseEngine) (q p : PeerId) (s : NoiseSession) :
    (e.setSession q s).getSessionStatus p =
      if p = q then some s.state else e.getSessionStatus p := by
  unfold getSessionStatus
  rw [lookup_setSession]
  split_ifs <;> rfl

theorem getSessionStatus_startHandshake (e : NoiseEngine) (q p : PeerId) (now : Nat) :
    (e.startHandshake q now).1.getSessionStatus p =
      if p = q then some .initiatorSendingInit else e.getSessionStatus p :=
  getSessionStatus_setSession ..

theorem processHandshakeMessage_eq_ok {e e' : NoiseEngine} {q : PeerId} {message : List UInt8}
    {t : UInt8} {now : Nat} {reply : Option (List UInt8)}
    (h : e.processHandshakeMessage q message t now = .ok (e', reply)) :
    (∀ p, p ≠ q → e'.sessions.lookup p = e.sessions.lookup p) ∧
      (t = 0x10 ∧ e'.getSessionStatus q = some .responderSendingResponse ∧
          reply = some noiseResponse ∨
        (e.sessions.lookup q).isSome ∧ t = 0x11 ∧
          e'.getSessionStatus q = some .initiatorSendingFinish ∧ reply = some noiseFinish ∨
        (e.sessions.lookup q).isSome ∧ t = 0x12 ∧ e'.getSessionStatus q = some .complete ∧
          reply = none) := by
  unfold processHandshakeMessage at h
  split at h
  · rename_i s hs
    split at h
    · rename_i ht
      simp only [Except.ok.injEq, Prod.mk.injEq] at h
      obtain ⟨rfl, rfl⟩ := h
      exact ⟨fun p hp => by simp [hp],
        .inl ⟨UInt8.toNat.inj ht, by simp [getSessionStatus], rfl⟩⟩
    · rename_i ht
      simp only [Except.ok.injEq, Prod.mk.injEq] at h
      obtain ⟨rfl, rfl⟩ := h
      exact ⟨fun p hp => by simp [hp], .inr (.inl ⟨by simp [hs], UInt8.toNat.inj ht,
        by simp [getSessionStatus], rfl⟩)⟩
    · rename_i ht
      simp only [Except.ok.injEq, Prod.mk.injEq] at h
      obtain ⟨rfl, rfl⟩ := h
      exact ⟨fun p hp => by simp [hp], .inr (.inr ⟨by simp [hs], UInt8.toNat.inj ht,
        by simp [getSessionStatus], rfl⟩)⟩
    · cases h
  · split at h
    · rename_i ht
      simp only [Except.ok.injEq, Prod.mk.injEq] at h
      obtain ⟨rfl, rfl⟩ := h
      exact ⟨fun p hp => by simp [hp], .inl ⟨ht, by simp [getSessionStatus], rfl⟩⟩
    · cases h

theorem withSession_passThrough_eq_ok_setSession {e e' : NoiseEngine} {q : PeerId}
    {bytes out : List UInt8} {now : Nat}
    (h : e.withSession q (fun s => s.passThrough bytes now) = .ok (e', out)) :
    ∃ s, e.sessions.lookup q = some s ∧ s.state = .complete ∧ out = bytes ∧
      e' = e.setSession q { s with lastActivity := now } := by
  unfold withSession at h
  split at h
  · rename_i s hs
    dsimp only at h
    cases hp : s.passThrough bytes now with
    | error err => rw [hp] at h; cases h
    | ok r =>
      obtain ⟨s', o⟩ := r
      rw [hp] at h
      cases h
      obtain ⟨hc, rfl, rfl⟩ := NoiseSession.passThrough_eq_ok.mp hp
      exact ⟨s, hs, hc, rfl, rfl⟩
  · cases h

/-- Right after `start_handshake(p)`, a NoiseFinish from `p` completes the session, and
`encrypt_message` for `p` then succeeds: the session never saw a NoiseResponse. -/
theorem complete_of_finish_after_start (p : PeerId) (message plaintext : List UInt8) (now : Nat) :
    ((NoiseEngine.new.startHandshake p now).1.step
        (.processHandshakeMessage p message 0x12 now)).getSessionStatus p = some .complete ∧
      ∃ e', ((NoiseEngine.new.startHandshake p now).1.step
        (.processHandshakeMessage p message 0x12 now)).encryptMessage p plaintext now =
          .ok (e', plaintext) := by
  constructor
  · simp [step, processHandshakeMessage, startHandshake, getSessionStatus, orKeep]
  · simp [step, processHandshakeMessage, startHandshake, orKeep, encryptMessage, withSession,
      NoiseSession.encryptMessage, NoiseSession.passThrough]

theorem finish_after_start_completes :
    ((NoiseEngine.new.startHandshake (Mathlib.Vector.replicate 8 1) 0).1.step
        (.processHandshakeMessage (Mathlib.Vector.replicate 8 1) [] 0x12 0)).getSessionStatus
        (Mathlib.Vector.replicate 8 1) = some .complete ∧
      ∃ e', ((NoiseEngine.new.startHandshake (Mathlib.Vector.replicate 8 1) 0).1.step
        (.processHandshakeMessage (Mathlib.Vector.replicate 8 1) [] 0x12 0)).encryptMessage
          (Mathlib.Vector.replicate 8 1) [7] 0 = .ok (e', [7]) :=
  complete_of_finish_after_start _ _ _ _

/-! ### Independence of peers -/

/-- The peer a call names; `cleanup_expired_sessions` names none and reads every session. -/
def Op.peer? : Op → Option PeerId
  | .startHandshake q _ | .processHandshakeMessage q _ _ _ | .encryptMessage q _ _
  | .decryptMessage q _ _ => some q
  | .cleanupExpiredSessions _ => none

/-- Whether a call can touch `p`'s session: it names `p`, or it is a cleanup. -/
def Op.concerns (p : PeerId) (op : Op) : Bool :=
  match op.peer? with
  | some q => q = p
  | none => true

theorem Op.exists_peer?_of_not_concerns {op : Op} {p : PeerId} (h : ¬op.concerns p) :
    ∃ q, op.peer? = some q ∧ p ≠ q := by
  unfold Op.concerns at h
  split at h
  · rename_i q hq
    exact ⟨q, hq, fun e => h (by simp [e])⟩
  · exact absurd rfl h

theorem lookup_step_of_ne {e : NoiseEngine} {op : Op} {p q : PeerId} (hq : op.peer? = some q)
    (hpq : p ≠ q) : (e.step op).sessions.lookup p = e.sessions.lookup p := by
  cases op with
  | startHandshake q' now =>
    cases hq
    simp only [step, startHandshake, lookup_setSession, hpq, if_false]
  | processHandshakeMessage q' m t now =>
    cases hq
    cases hr : e.processHandshakeMessage q m t now with
    | error => simp only [step, hr, orKeep]
    | ok r => simp only [step, hr, orKeep, (processHandshakeMessage_eq_ok hr).1 p hpq]
  | encryptMessage q' x now | decryptMessage q' x now =>
    cases hq
    show (e.orKeep (e.withSession q fun s => s.passThrough x now)).sessions.lookup p = _
    cases hw : e.withSession q (fun s => s.passThrough x now) with
    | error => rfl
    | ok r =>
      obtain ⟨s, -, -, -, he⟩ := withSession_passThrough_eq_ok_setSession hw
      simp only [orKeep, he, lookup_setSession, hpq, if_false]
  | cleanupExpiredSessions now => cases hq

theorem lookup_step_congr {e e' : NoiseEngine} {p : PeerId}
    (h : e.sessions.lookup p = e'.sessions.lookup p) (op : Op) :
    (e.step op).sessions.lookup p = (e'.step op).sessions.lookup p := by
  cases hq : op.peer? with
  | some q =>
    by_cases hpq : p = q
    · subst hpq
      cases op with
      | startHandshake q now =>
        cases hq
        simp only [step, startHandshake, lookup_setSession, if_true]
      | processHandshakeMessage q m t now =>
        cases hq
        simp only [step, processHandshakeMessage, h]
        split <;> split <;> simp only [orKeep, lookup_setSession, if_true, h]
      | encryptMessage q x now | decryptMessage q x now =>
        cases hq
        simp only [step, encryptMessage, decryptMessage, NoiseSession.encryptMessage,
          NoiseSession.decryptMessage, withSession, h]
        split
        · rename_i s _
          cases s.passThrough x now with
          | error => simp only [bind, Except.bind, orKeep, h]
          | ok r => simp only [bind, Except.bind, pure, Except.pure, orKeep, lookup_setSession,
              if_true]
        · exact h
      | cleanupExpiredSessions now => cases hq
    · rw [lookup_step_of_ne hq hpq, lookup_step_of_ne hq hpq, h]
  | none =>
    cases op with
    | cleanupExpiredSessions now =>
      simp only [step, cleanupExpiredSessions, DashMap.lookup_eraseAll_keysWhere, h]
    | _ => cases hq

/-- Sessions of different peers never interfere: whatever calls for other peers are interleaved
with them, and from whatever state, a peer's session ends as it would if only the calls naming
that peer, and the cleanups, had run. -/
theorem lookup_run_filter_concerns (e : NoiseEngine) (ops : List Op) (p : PeerId) :
    (e.run ops).sessions.lookup p = (e.run (ops.filter (·.concerns p))).sessions.lookup p := by
  suffices ∀ e e' : NoiseEngine, e.sessions.lookup p = e'.sessions.lookup p →
      (e.run ops).sessions.lookup p = (e'.run (ops.filter (·.concerns p))).sessions.lookup p from
    this e e rfl
  induction ops with
  | nil => exact fun _ _ h => h
  | cons op ops ih =>
    intro e e' h
    by_cases hc : op.concerns p
    · rw [List.filter_cons_of_pos hc]
      exact ih _ _ (lookup_step_congr h op)
    · rw [List.filter_cons_of_neg hc]
      obtain ⟨q, hq, hpq⟩ := Op.exists_peer?_of_not_concerns hc
      exact ih _ _ ((lookup_step_of_ne hq hpq).trans h)

/-! ### Expiry -/

theorem isExpired_of_le {s : NoiseSession} {now : Nat}
    (h : s.createdAt + (handshakeTimeoutSecs + 1) * nanosPerSec ≤ now) : s.isExpired now = true := by
  have hle : s.createdAt ≤ now := by omega
  simp only [NoiseSession.isExpired, elapsed, hle, if_true, asSecs, decide_eq_true_eq]
  unfold handshakeTimeoutSecs nanosPerSec at *
  omega

/-- `cleanup_expired_sessions` removes a complete session as soon as its handshake began more
than `HANDSHAKE_TIMEOUT_SECS` seconds ago: `is_expired` reads `created_at` only. -/
theorem cleanupExpiredSessions_removes_complete {e : NoiseEngine} {p : PeerId} {s : NoiseSession}
    (hs : e.sessions.lookup p = some s) (_hc : s.state = .complete) {now : Nat}
    (hold : s.createdAt + (handshakeTimeoutSecs + 1) * nanosPerSec ≤ now) :
    (e.cleanupExpiredSessions now).sessions.lookup p = none := by
  simp only [cleanupExpiredSessions, DashMap.lookup_eraseAll_keysWhere, hs, Option.filter,
    isExpired_of_le hold, Bool.not_true]
  rfl

theorem complete_session_removed_after_timeout :
    (new.run [.processHandshakeMessage (Mathlib.Vector.replicate 8 1) [] 0x10 0,
        .processHandshakeMessage (Mathlib.Vector.replicate 8 1) [] 0x12 0]).sessions.lookup
        (Mathlib.Vector.replicate 8 1) =
      some ⟨Mathlib.Vector.replicate 8 1, .complete, 0, 0⟩ ∧
    NoiseHandshakeState.complete = .complete ∧
    0 + (handshakeTimeoutSecs + 1) * nanosPerSec ≤ 31000000000 ∧
    ((new.run [.processHandshakeMessage (Mathlib.Vector.replicate 8 1) [] 0x10 0,
        .processHandshakeMessage (Mathlib.Vector.replicate 8 1) [] 0x12 0]).cleanupExpiredSessions
        31000000000).sessions.lookup (Mathlib.Vector.replicate 8 1) = none :=
  ⟨rfl, rfl, by decide, @cleanupExpiredSessions_removes_complete
    (new.run [.processHandshakeMessage (Mathlib.Vector.replicate 8 1) [] 0x10 0,
      .processHandshakeMessage (Mathlib.Vector.replicate 8 1) [] 0x12 0])
    (Mathlib.Vector.replicate 8 1) ⟨Mathlib.Vector.replicate 8 1, .complete, 0, 0⟩ rfl rfl _
    (by decide)⟩

/-! ### Fingerprints -/

def KeyedByPeer (e : NoiseEngine) : Prop :=
  ∀ p s, e.sessions.lookup p = some s → s.peerId = p

theorem keyedByPeer_new : KeyedByPeer new := fun _ _ h => by simp [new] at h

theorem keyedByPeer_setSession {e : NoiseEngine} (h : KeyedByPeer e) {q : PeerId}
    {s : NoiseSession} (hs : s.peerId = q) : KeyedByPeer (e.setSession q s) := by
  intro p s' hp
  rw [lookup_setSession] at hp
  split_ifs at hp with hpq
  · cases hp; exact hpq ▸ hs
  · exact h p s' hp

theorem KeyedByPeer.step {e : NoiseEngine} (h : KeyedByPeer e) : ∀ op, KeyedByPeer (e.step op)
  | .startHandshake _ _ => keyedByPeer_setSession h rfl
  | .processHandshakeMessage q m t now => by
    simp only [NoiseEngine.step, processHandshakeMessage]
    split
    · rename_i s hs
      split <;> first | exact keyedByPeer_setSession h (h q s hs) | exact h
    · split
      · exact keyedByPeer_setSession h rfl
      · exact h
  | .encryptMessage q x now | .decryptMessage q x now => by
    show KeyedByPeer (e.orKeep (e.withSession q fun s => s.passThrough x now))
    cases hw : e.withSession q (fun s => s.passThrough x now) with
    | error => exact h
    | ok r =>
      obtain ⟨s, hs, -, -, he⟩ := withSession_passThrough_eq_ok_setSession hw
      show KeyedByPeer r.1
      exact he ▸ keyedByPeer_setSession h (h q s hs)
  | .cleanupExpiredSessions now => fun p s hp => by
    simp only [NoiseEngine.step, cleanupExpiredSessions, DashMap.lookup_eraseAll_keysWhere,
      Option.filter_eq_some] at hp
    exact h p s hp.1

theorem keyedByPeer_run (ops : List Op) : KeyedByPeer (new.run ops) := by
  suffices ∀ e : NoiseEngine, KeyedByPeer e → KeyedByPeer (e.run ops) from
    this _ keyedByPeer_new
  induction ops with
  | nil => exact fun _ h => h
  | cons op ops ih => exact fun e h => ih _ (h.step op)

section
variable (sha256 : List UInt8 → Mathlib.Vector UInt8 32)

theorem verifyPeerFingerprint_of_keyedByPeer {e : NoiseEngine} (h : KeyedByPeer e) (p : PeerId)
    (f : String) :
    e.verifyPeerFingerprint sha256 (hexEncode p.toList) f =
      .ok ((e.getSessionStatus p).isSome && hexEncode (sha256 p.toList).toList == f) := by
  obtain ⟨l, hl⟩ := p
  simp only [verifyPeerFingerprint, Mathlib.Vector.toList_mk, hexDecode_hexEncode, hl,
    dite_true, getSessionStatus]
  cases hs : e.sessions.lookup ⟨l, hl⟩ with
  | none => rfl
  | some s =>
    have hpeer := h _ s hs
    simp only [NoiseSession.getRemoteFingerprint, hpeer, Mathlib.Vector.toList_mk, Option.map_some',
      Option.isSome_some, Bool.true_and]

/-- In every state the engine's calls reach from `NoiseEngine::new()`, verifying a peer id given
in hex accepts exactly the hex SHA-256 of that id once the peer has a session, in whatever
handshake state: right after `start_handshake`, before any reply, it already returns `true`. -/
theorem verifyPeerFingerprint_run (ops : List Op) (p : PeerId) (f : String) (now : Nat) :
    (new.run ops).verifyPeerFingerprint sha256 (hexEncode p.toList) f =
        .ok (((new.run ops).getSessionStatus p).isSome &&
          hexEncode (sha256 p.toList).toList == f) ∧
      (new.run (ops ++ [.startHandshake p now])).getSessionStatus p =
        some .initiatorSendingInit ∧
      (new.run (ops ++ [.startHandshake p now])).verifyPeerFingerprint sha256
        (hexEncode p.toList) (hexEncode (sha256 p.toList).toList) = .ok true := by
  have hstart : (new.run (ops ++ [.startHandshake p now])).getSessionStatus p =
      some .initiatorSendingInit := by
    rw [run_append_singleton, step, getSessionStatus_startHandshake, if_pos rfl]
  refine ⟨verifyPeerFingerprint_of_keyedByPeer sha256 (keyedByPeer_run ops) p f, hstart, ?_⟩
  rw [verifyPeerFingerprint_of_keyedByPeer sha256 (keyedByPeer_run _), hstart]
  simp only [Option.isSome_some, beq_self_eq_true, Bool.and_self]

end

end NoiseEngine

end Bitchat.Crypto
