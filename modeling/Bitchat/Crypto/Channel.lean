import Bitchat.Prelude.Bytes
import Bitchat.Prelude.Runtime

/-! `crypto/channel_crypto.rs`: the keys of password-protected channels. SHA-256 is a
parameter `sha256`; every result below holds whatever function it is. Two maps are kept, the
channel's key and the channel's password, and every operation that writes one writes the
other. The "encryption" is a XOR with the 32 key bytes, repeated, so it is its own inverse;
a key's export carries the password and the hex salt it is derived again from.
`try_decrypt_with_password` caches whatever password it is given. -/

namespace Bitchat.Crypto

def saltSize : Nat := 32

/-- The fields of `ChannelKey`; the times are `SystemTime`s in nanoseconds. -/
structure ChannelKey where
  channelName : String
  key : Mathlib.Vector UInt8 32
  salt : Mathlib.Vector UInt8 saltSize
  createdAt : Nat
  lastUsed : Nat
  deriving DecidableEq

namespace ChannelKey

section

variable (sha256 : List UInt8 → Mathlib.Vector UInt8 32)

/-- `derive_key`: the hash of the password's bytes followed by the salt. It never fails. -/
def deriveKey (password : String) (salt : Mathlib.Vector UInt8 saltSize) :
    Mathlib.Vector UInt8 32 :=
  sha256 (password.toUTF8.data.toList ++ salt.toList)

def fromPasswordAndSalt (channelName password : String) (salt : Mathlib.Vector UInt8 saltSize)
    (now : Nat) : ChannelKey :=
  { channelName := channelName, key := deriveKey sha256 password salt, salt := salt,
    createdAt := now, lastUsed := now }

/-- `from_password`, whose salt is all zeros. -/
def fromPassword (channelName password : String) (now : Nat) : ChannelKey :=
  fromPasswordAndSalt sha256 channelName password (Mathlib.Vector.replicate saltSize 0) now

end

def markUsed (k : ChannelKey) (now : Nat) : ChannelKey := { k with lastUsed := now }

end ChannelKey

/-- The loop of `encrypt_channel_message`, `decrypt_channel_message` and
`try_decrypt_with_password`: byte `i` is XORed with key byte `i % 32`. -/
def xorWithKey (key : Mathlib.Vector UInt8 32) (bytes : List UInt8) : List UInt8 :=
  bytes.enum.map fun (i, b) => b ^^^ key.get ⟨i % 32, Nat.mod_lt _ (by decide)⟩

@[simp] theorem length_xorWithKey (key : Mathlib.Vector UInt8 32) (bytes : List UInt8) :
    (xorWithKey key bytes).length = bytes.length := by
  simp [xorWithKey]

@[simp] theorem xorWithKey_xorWithKey (key : Mathlib.Vector UInt8 32) (bytes : List UInt8) :
    xorWithKey key (xorWithKey key bytes) = bytes :=
  map_enum_map_enum (fun _ _ => byte_xor_xor_cancel _ _) bytes

/-- The fields of `ChannelKeyExport`; `salt` is hex and `created_at` is in seconds. -/
structure ChannelKeyExport where
  channelName : String
  password : String
  salt : String
  createdAt : Nat
  deriving DecidableEq

structure ChannelCrypto where
  channelKeys : DashMap String ChannelKey
  passwordCache : DashMap String String

namespace ChannelCrypto

def new : ChannelCrypto := ⟨∅, ∅⟩

/-- `SystemTime::now() - Duration::from_secs(max_age_hours * 3600)` as an instant in
nanoseconds, possibly before the epoch. The product wraps at 64 bits, as a release build
computes it; `none` is the panic of the subtraction when the seconds leave the `i64` range. -/
def cleanupCutoff (maxAgeHours : UInt64) (now : Nat) : Option Int :=
  let secs := (maxAgeHours * 3600).toNat
  if (now / nanosPerSec : Int) - secs < -2 ^ 63 then none
  else some (now - secs * nanosPerSec)

section

variable (sha256 : List UInt8 → Mathlib.Vector UInt8 32)

def setChannelPassword (cc : ChannelCrypto) (channel password : String) (now : Nat) :
    ChannelCrypto × String :=
  let channelKey := ChannelKey.fromPassword sha256 channel password now
  (⟨cc.channelKeys.insert channel channelKey, cc.passwordCache.insert channel password⟩,
    "Password set for channel: " ++ channel)

def removeChannelPassword (cc : ChannelCrypto) (channel : String) : ChannelCrypto × String :=
  (⟨cc.channelKeys.erase channel, cc.passwordCache.erase channel⟩,
    "Password removed from channel: " ++ channel)

def isChannelProtected (cc : ChannelCrypto) (channel : String) : Bool :=
  decide (channel ∈ cc.channelKeys)

/-- The body `encrypt_channel_message` and `decrypt_channel_message` share: the key's use is
recorded through `get_mut`, then the bytes are XORed with it. -/
def xorChannelMessage (cc : ChannelCrypto) (channel : String) (bytes : List UInt8) (now : Nat) :
    Except String (ChannelCrypto × List UInt8) :=
  match cc.channelKeys.lookup channel with
  | some channelKey =>
    let channelKey := channelKey.markUsed now
    .ok (⟨cc.channelKeys.modify channel (·.markUsed now), cc.passwordCache⟩,
      xorWithKey channelKey.key bytes)
  | none => .error "Channel key not found"

def encryptChannelMessage (cc : ChannelCrypto) (channel : String) (plaintext : List UInt8)
    (now : Nat) : Except String (ChannelCrypto × List UInt8) :=
  cc.xorChannelMessage channel plaintext now

def decryptChannelMessage (cc : ChannelCrypto) (channel : String) (ciphertext : List UInt8)
    (now : Nat) : Except String (ChannelCrypto × List UInt8) :=
  cc.xorChannelMessage channel ciphertext now

/-- `try_decrypt_with_password`, which caches the key it derives and the password it was
given whatever the ciphertext. -/
def tryDecryptWithPassword (cc : ChannelCrypto) (channel password : String)
    (ciphertext : List UInt8) (salt : Mathlib.Vector UInt8 saltSize) (now : Nat) :
    ChannelCrypto × List UInt8 :=
  let tempKey := ChannelKey.fromPasswordAndSalt sha256 channel password salt now
  let result := xorWithKey tempKey.key ciphertext
  (⟨cc.channelKeys.insert channel tempKey, cc.passwordCache.insert channel password⟩, result)

def getChannelSalt (cc : ChannelCrypto) (channel : String) :
    Except String (Mathlib.Vector UInt8 saltSize) :=
  match cc.channelKeys.lookup channel with
  | some channelKey => .ok channelKey.salt
  | none => .error "Channel key not found"

def verifyChannelPassword (cc : ChannelCrypto) (channel password : String) : Bool :=
  match cc.passwordCache.lookup channel with
  | some storedPassword => storedPassword == password
  | none => false

def getProtectedChannels (cc : ChannelCrypto) : List String := cc.channelKeys.keys

/-- `cleanup_unused_keys`, with the number of channels it removed, or `none` for its panic. -/
def cleanupUnusedKeys (cc : ChannelCrypto) (maxAgeHours : UInt64) (now : Nat) :
    Option (ChannelCrypto × Nat) := do
  let cutoff ← cleanupCutoff maxAgeHours now
  let toRemove := cc.channelKeys.keysWhere fun _ channelKey => (channelKey.lastUsed : Int) < cutoff
  pure (⟨cc.channelKeys.eraseAll toRemove, cc.passwordCache.eraseAll toRemove⟩, toRemove.length)

def exportChannelKey (cc : ChannelCrypto) (channel : String) : Except String ChannelKeyExport :=
  match cc.channelKeys.lookup channel, cc.passwordCache.lookup channel with
  | some channelKey, some password =>
    .ok { channelName := channel, password := password, salt := hexEncode channelKey.salt.toList,
          createdAt := asSecs channelKey.createdAt }
  | some _, none => .error "Channel password not found"
  | none, _ => .error "Channel key not found"

/-- `import_channel_key`; its parameter `export` is `keyExport`, `export` being a keyword. -/
def importChannelKey (cc : ChannelCrypto) (keyExport : ChannelKeyExport) (now : Nat) :
    Except String (ChannelCrypto × String) :=
  match hexDecode keyExport.salt.toUTF8.data.toList with
  | none => .error "Invalid salt format"
  | some salt =>
    if h : salt.length = saltSize then
      let channelKey := ChannelKey.fromPasswordAndSalt sha256 keyExport.channelName
        keyExport.password ⟨salt, h⟩ now
      .ok (⟨cc.channelKeys.insert keyExport.channelName channelKey,
          cc.passwordCache.insert keyExport.channelName keyExport.password⟩,
        "Imported channel key: " ++ keyExport.channelName)
    else .error ("Invalid salt size: expected 32, got " ++ toString salt.length)

inductive Op
  | setChannelPassword (channel password : String) (now : Nat)
  | removeChannelPassword (channel : String)
  | tryDecryptWithPassword (channel password : String) (ciphertext : List UInt8)
      (salt : Mathlib.Vector UInt8 saltSize) (now : Nat)
  | importChannelKey (keyExport : ChannelKeyExport) (now : Nat)
  | cleanupUnusedKeys (maxAgeHours : UInt64) (now : Nat)
  | encryptChannelMessage (channel : String) (plaintext : List UInt8) (now : Nat)
  | decryptChannelMessage (channel : String) (ciphertext : List UInt8) (now : Nat)

/-- The state after a call that may fail; a call that returns `Err` changes nothing. -/
def orKeep {α : Type} (cc : ChannelCrypto) : Except String (ChannelCrypto × α) → ChannelCrypto
  | .ok (cc', _) => cc'
  | .error _ => cc

/-- One call; a panic of `cleanup_unused_keys` happens before it changes anything. -/
def step (cc : ChannelCrypto) : Op → ChannelCrypto
  | .setChannelPassword channel password now =>
    (cc.setChannelPassword sha256 channel password now).1
  | .removeChannelPassword channel => (cc.removeChannelPassword channel).1
  | .tryDecryptWithPassword channel password ciphertext salt now =>
    (cc.tryDecryptWithPassword sha256 channel password ciphertext salt now).1
  | .importChannelKey keyExport now => cc.orKeep (cc.importChannelKey sha256 keyExport now)
  | .cleanupUnusedKeys maxAgeHours now =>
    match cc.cleanupUnusedKeys maxAgeHours now with
    | some (cc', _) => cc'
    | none => cc
  | .encryptChannelMessage channel plaintext now =>
    cc.orKeep (cc.encryptChannelMessage channel plaintext now)
  | .decryptChannelMessage channel ciphertext now =>
    cc.orKeep (cc.decryptChannelMessage channel ciphertext now)

def run (cc : ChannelCrypto) (ops : List Op) : ChannelCrypto := ops.foldl (step sha256) cc

/-- The two maps agree: they hold the same channels, and each key is named after its channel
and derived from that channel's cached password with the key's own salt. -/
structure Consistent (cc : ChannelCrypto) : Prop where
  mem_iff : ∀ channel, channel ∈ cc.channelKeys ↔ channel ∈ cc.passwordCache
  derived : ∀ channel k password, cc.channelKeys.lookup channel = some k →
    cc.passwordCache.lookup channel = some password →
    k.channelName = channel ∧ k.key = ChannelKey.deriveKey sha256 password k.salt

theorem consistent_new : Consistent sha256 new :=
  ⟨fun _ => by simp [new], fun _ _ _ h => by simp [new] at h⟩

variable {sha256}

theorem xorChannelMessage_of_lookup {cc : ChannelCrypto} {channel : String} {k : ChannelKey}
    (h : cc.channelKeys.lookup channel = some k) (bytes : List UInt8) (now : Nat) :
    cc.xorChannelMessage channel bytes now =
      .ok (⟨cc.channelKeys.modify channel (·.markUsed now), cc.passwordCache⟩,
        xorWithKey k.key bytes) := by
  simp [xorChannelMessage, h, ChannelKey.markUsed]

theorem xorChannelMessage_of_lookup_none {cc : ChannelCrypto} {channel : String}
    (h : cc.channelKeys.lookup channel = none) (bytes : List UInt8) (now : Nat) :
    cc.xorChannelMessage channel bytes now = .error "Channel key not found" := by
  simp [xorChannelMessage, h]

theorem importChannelKey_eq_ok {cc : ChannelCrypto} {keyExport : ChannelKeyExport} {now : Nat}
    {r : ChannelCrypto × String} (h : cc.importChannelKey sha256 keyExport now = .ok r) :
    ∃ salt, r.1 = ⟨cc.channelKeys.insert keyExport.channelName
        (ChannelKey.fromPasswordAndSalt sha256 keyExport.channelName keyExport.password salt now),
      cc.passwordCache.insert keyExport.channelName keyExport.password⟩ := by
  unfold importChannelKey at h
  split at h
  · cases h
  · split at h
    · cases h; exact ⟨_, rfl⟩
    · cases h

theorem cleanupUnusedKeys_eq_some {cc : ChannelCrypto} {maxAgeHours : UInt64} {now : Nat}
    {r : ChannelCrypto × Nat} (h : cc.cleanupUnusedKeys maxAgeHours now = some r) :
    ∃ toRemove,
      r.1 = ⟨cc.channelKeys.eraseAll toRemove, cc.passwordCache.eraseAll toRemove⟩ := by
  unfold cleanupUnusedKeys at h
  cases hc : cleanupCutoff maxAgeHours now <;> simp [hc] at h
  exact ⟨_, by rw [← h]⟩

theorem verifyChannelPassword_eq_true {cc : ChannelCrypto} {channel password : String} :
    cc.verifyChannelPassword channel password = true ↔
      cc.passwordCache.lookup channel = some password := by
  unfold verifyChannelPassword
  split <;> simp_all

theorem Consistent.insert {cc : ChannelCrypto} (h : Consistent sha256 cc)
    (channel password : String) (salt : Mathlib.Vector UInt8 saltSize) (now : Nat) :
    Consistent sha256 ⟨cc.channelKeys.insert channel
      (ChannelKey.fromPasswordAndSalt sha256 channel password salt now),
      cc.passwordCache.insert channel password⟩ where
  mem_iff c := by simp only [AList.mem_insert, h.mem_iff c]
  derived c k p hk hp := by
    by_cases e : c = channel
    · subst e
      simp only [AList.lookup_insert, Option.some.injEq] at hk hp
      subst hk hp
      exact ⟨rfl, rfl⟩
    · rw [AList.lookup_insert_ne e] at hk hp
      exact h.derived c k p hk hp

theorem Consistent.eraseAll {cc : ChannelCrypto} (h : Consistent sha256 cc) (keys : List String) :
    Consistent sha256 ⟨cc.channelKeys.eraseAll keys, cc.passwordCache.eraseAll keys⟩ where
  mem_iff c := by
    simp only [← AList.lookup_isSome, DashMap.lookup_eraseAll]
    split_ifs
    · rfl
    · simpa only [AList.lookup_isSome] using h.mem_iff c
  derived c k p hk hp := by
    rw [DashMap.lookup_eraseAll] at hk hp
    split_ifs at hk hp
    exact h.derived c k p hk hp

theorem Consistent.markUsed {cc : ChannelCrypto} (h : Consistent sha256 cc) (channel : String)
    (now : Nat) :
    Consistent sha256 ⟨cc.channelKeys.modify channel (·.markUsed now), cc.passwordCache⟩ where
  mem_iff c := by simp only [DashMap.mem_modify, h.mem_iff c]
  derived c k p hk hp := by
    rw [DashMap.lookup_modify] at hk
    split_ifs at hk with e
    · obtain ⟨k₀, hk₀, rfl⟩ := Option.map_eq_some'.mp hk
      exact h.derived c k₀ p (e ▸ hk₀) hp
    · exact h.derived c k p hk hp

theorem Consistent.xorChannelMessage {cc : ChannelCrypto} (h : Consistent sha256 cc)
    (channel : String) (bytes : List UInt8) (now : Nat) :
    Consistent sha256 (cc.orKeep (cc.xorChannelMessage channel bytes now)) := by
  cases hk : cc.channelKeys.lookup channel with
  | none => rwa [xorChannelMessage_of_lookup_none hk]
  | some k => rw [xorChannelMessage_of_lookup hk]; exact h.markUsed channel now

theorem Consistent.step {cc : ChannelCrypto} (h : Consistent sha256 cc) :
    ∀ op, Consistent sha256 (cc.step sha256 op)
  | .setChannelPassword channel password now => h.insert channel password _ now
  | .removeChannelPassword channel => h.eraseAll [channel]
  | .tryDecryptWithPassword channel password _ salt now => h.insert channel password salt now
  | .importChannelKey keyExport now => by
    cases hr : cc.importChannelKey sha256 keyExport now with
    | error => simpa only [ChannelCrypto.step, hr, orKeep] using h
    | ok r =>
      obtain ⟨salt, hs⟩ := importChannelKey_eq_ok hr
      simpa only [ChannelCrypto.step, hr, orKeep, hs] using h.insert _ _ salt now
  | .cleanupUnusedKeys maxAgeHours now => by
    cases hr : cc.cleanupUnusedKeys maxAgeHours now with
    | none => simpa only [ChannelCrypto.step, hr] using h
    | some r =>
      obtain ⟨toRemove, hs⟩ := cleanupUnusedKeys_eq_some hr
      simpa only [ChannelCrypto.step, hr, hs] using h.eraseAll toRemove
  | .encryptChannelMessage channel plaintext now => h.xorChannelMessage channel plaintext now
  | .decryptChannelMessage channel ciphertext now => h.xorChannelMessage channel ciphertext now

theorem Consistent.run {cc : ChannelCrypto} (h : Consistent sha256 cc) (ops : List Op) :
    Consistent sha256 (cc.run sha256 ops) := by
  induction ops generalizing cc with
  | nil => exact h
  | cons op ops ih => exact ih (h.step op)

theorem Consistent.encrypt_of_verify {cc : ChannelCrypto} (h : Consistent sha256 cc)
    {channel password : String} (hv : cc.verifyChannelPassword channel password = true) :
    ∃ salt, cc.getChannelSalt channel = .ok salt ∧ ∀ plaintext now, ∃ cc',
      cc.encryptChannelMessage channel plaintext now =
        .ok (cc', xorWithKey (ChannelKey.deriveKey sha256 password salt) plaintext) := by
  have hp := verifyChannelPassword_eq_true.mp hv
  obtain ⟨k, hk⟩ := Option.isSome_iff_exists.mp
    (AList.lookup_isSome.mpr ((h.mem_iff channel).mpr (AList.lookup_isSome.mp (by simp [hp]))))
  refine ⟨k.salt, by simp [getChannelSalt, hk], fun plaintext now => ?_⟩
  rw [encryptChannelMessage, xorChannelMessage_of_lookup hk, (h.derived channel k password hk hp).2]
  exact ⟨_, rfl⟩

/-- From `ChannelCrypto::new()`, along every run of the seven calls that write the maps,
`channel_keys` and `password_cache` hold the same channels, every stored key carries its
channel's name and is the key derived from the cached password and its salt, and so a
password that `verify_channel_password` accepts is the one `encrypt_channel_message` uses. -/
theorem channel_keys_match_passwords (sha256 : List UInt8 → Mathlib.Vector UInt8 32)
    (ops : List Op) :
    (∀ channel, channel ∈ (new.run sha256 ops).channelKeys ↔
        channel ∈ (new.run sha256 ops).passwordCache) ∧
      (∀ channel k password, (new.run sha256 ops).channelKeys.lookup channel = some k →
        (new.run sha256 ops).passwordCache.lookup channel = some password →
        k.channelName = channel ∧ k.key = ChannelKey.deriveKey sha256 password k.salt) ∧
      (∀ channel password,
        (new.run sha256 ops).verifyChannelPassword channel password = true →
        ∃ salt, (new.run sha256 ops).getChannelSalt channel = .ok salt ∧
          ∀ plaintext now, ∃ cc',
          (new.run sha256 ops).encryptChannelMessage channel plaintext now =
            .ok (cc', xorWithKey (ChannelKey.deriveKey sha256 password salt) plaintext)) :=
  have h := (consistent_new sha256).run ops
  ⟨h.mem_iff, h.derived, fun _ _ hv => h.encrypt_of_verify hv⟩

/-! Round trips. -/

theorem lookup_xorChannelMessage {cc : ChannelCrypto} {channel : String} {k : ChannelKey}
    (h : cc.channelKeys.lookup channel = some k) (bytes : List UInt8) (now : Nat) :
    ∃ cc', cc.xorChannelMessage channel bytes now = .ok (cc', xorWithKey k.key bytes) ∧
      cc'.channelKeys.lookup channel = some (k.markUsed now) ∧
      cc'.passwordCache = cc.passwordCache := by
  rw [xorChannelMessage_of_lookup h]
  exact ⟨_, rfl, by rw [DashMap.lookup_modify_self, h]; rfl, rfl⟩

theorem length_of_xorChannelMessage_eq_ok {cc : ChannelCrypto} {channel : String}
    {bytes : List UInt8} {now : Nat} {r : ChannelCrypto × List UInt8}
    (h : cc.xorChannelMessage channel bytes now = .ok r) : r.2.length = bytes.length := by
  cases hk : cc.channelKeys.lookup channel with
  | none => rw [xorChannelMessage_of_lookup_none hk] at h; cases h
  | some k => rw [xorChannelMessage_of_lookup hk] at h; cases h; exact length_xorWithKey _ _

theorem Consistent.password_of_lookup {cc : ChannelCrypto} (h : Consistent sha256 cc)
    {channel : String} {k : ChannelKey} (hk : cc.channelKeys.lookup channel = some k) :
    ∃ password, cc.passwordCache.lookup channel = some password ∧
      k.key = ChannelKey.deriveKey sha256 password k.salt := by
  obtain ⟨password, hp⟩ := Option.isSome_iff_exists.mp
    (AList.lookup_isSome.mpr ((h.mem_iff channel).mp (AList.lookup_isSome.mp (by simp [hk]))))
  exact ⟨password, hp, (h.derived channel k password hk hp).2⟩

/-- For a channel with a key, encryption and decryption keep the length, and decrypting in the
state that encryption leaves gives the message back; from `ChannelCrypto::new()`, so does
`try_decrypt_with_password` with the channel's cached password and the salt of its key. -/
theorem channel_message_roundtrip (sha256 : List UInt8 → Mathlib.Vector UInt8 32) :
    (∀ (cc : ChannelCrypto) channel (k : ChannelKey), cc.channelKeys.lookup channel = some k →
      ∀ m now now', ∃ cc' ciphertext,
        cc.encryptChannelMessage channel m now = .ok (cc', ciphertext) ∧
        ciphertext.length = m.length ∧
        ∃ cc'', cc'.decryptChannelMessage channel ciphertext now' = .ok (cc'', m)) ∧
    (∀ (cc : ChannelCrypto) channel bytes now r,
      cc.decryptChannelMessage channel bytes now = .ok r → r.2.length = bytes.length) ∧
    (∀ ops channel (k : ChannelKey), (new.run sha256 ops).channelKeys.lookup channel = some k →
      ∃ password, (new.run sha256 ops).passwordCache.lookup channel = some password ∧
        ∀ m now cc' ciphertext now',
          (new.run sha256 ops).encryptChannelMessage channel m now = .ok (cc', ciphertext) →
          (cc'.tryDecryptWithPassword sha256 channel password ciphertext k.salt now').2 = m) := by
  refine ⟨fun cc channel k hk m now now' => ?_, fun _ _ _ _ _ => length_of_xorChannelMessage_eq_ok,
    fun ops channel k hk => ?_⟩
  · obtain ⟨cc', he, hk', -⟩ := lookup_xorChannelMessage hk m now
    refine ⟨cc', _, he, length_xorWithKey _ _, ?_⟩
    obtain ⟨cc'', hd, -⟩ := lookup_xorChannelMessage hk' (xorWithKey k.key m) now'
    exact ⟨cc'', hd.trans (by rw [ChannelKey.markUsed, xorWithKey_xorWithKey])⟩
  · obtain ⟨password, hp, hkey⟩ := ((consistent_new sha256).run ops).password_of_lookup hk
    refine ⟨password, hp, fun m now cc' ciphertext now' he => ?_⟩
    obtain ⟨_, he', -⟩ := lookup_xorChannelMessage hk m now
    rw [encryptChannelMessage, he'] at he
    cases he
    simp only [tryDecryptWithPassword, ChannelKey.fromPasswordAndSalt, ← hkey,
      xorWithKey_xorWithKey]

/-- From `ChannelCrypto::new()`, a channel with a key exports without error, and importing the
export into any instance gives the channel a key with the same bytes and salt, so both instances
encrypt every message alike: the salt comes back from its hex and the key is derived again from
the exported password. -/
theorem importChannelKey_exportChannelKey (sha256 : List UInt8 → Mathlib.Vector UInt8 32)
    (ops : List Op) {channel : String} {k : ChannelKey}
    (hk : (new.run sha256 ops).channelKeys.lookup channel = some k) (cc : ChannelCrypto)
    (now : Nat) :
    ∃ keyExport, (new.run sha256 ops).exportChannelKey channel = .ok keyExport ∧
      ∃ cc', cc.importChannelKey sha256 keyExport now =
          .ok (cc', "Imported channel key: " ++ channel) ∧
        ∃ k', cc'.channelKeys.lookup channel = some k' ∧ k'.key = k.key ∧ k'.salt = k.salt ∧
          ∀ m now', ∃ cc₁ cc₂ ciphertext,
            (new.run sha256 ops).encryptChannelMessage channel m now' = .ok (cc₁, ciphertext) ∧
            cc'.encryptChannelMessage channel m now' = .ok (cc₂, ciphertext) := by
  obtain ⟨password, hp, hkey⟩ := ((consistent_new sha256).run ops).password_of_lookup hk
  have hsalt : hexDecode (hexEncode k.salt.toList).toUTF8.data.toList = some k.salt.toList :=
    hexDecode_hexEncode _
  set imported : ChannelCrypto := ⟨cc.channelKeys.insert channel
    (ChannelKey.fromPasswordAndSalt sha256 channel password k.salt now),
    cc.passwordCache.insert channel password⟩
  have hk' : imported.channelKeys.lookup channel =
      some (ChannelKey.fromPasswordAndSalt sha256 channel password k.salt now) :=
    AList.lookup_insert _
  refine ⟨⟨channel, password, hexEncode k.salt.toList, asSecs k.createdAt⟩,
    by simp only [exportChannelKey, hk, hp], imported,
    by simp only [importChannelKey, hsalt, Mathlib.Vector.toList_length, dite_true]; rfl,
    _, hk', hkey.symm, rfl, fun m now' => ?_⟩
  obtain ⟨cc₁, h₁, -⟩ := lookup_xorChannelMessage hk m now'
  obtain ⟨cc₂, h₂, -⟩ := lookup_xorChannelMessage hk' m now'
  exact ⟨cc₁, cc₂, _, h₁, h₂.trans (by rw [hkey]; rfl)⟩

/-- A stand-in for SHA-256 in the fixtures: every input hashes to zeros. -/
def zeroHash (_ : List UInt8) : Mathlib.Vector UInt8 32 := Mathlib.Vector.replicate 32 0

theorem general_key_survives_export :
    (new.run zeroHash [.setChannelPassword "general" "pw" 0]).channelKeys.lookup "general" =
        some (ChannelKey.fromPassword zeroHash "general" "pw" 0) ∧
      ∃ keyExport, (new.run zeroHash [.setChannelPassword "general" "pw" 0]).exportChannelKey
          "general" = .ok keyExport ∧
        ∃ cc', new.importChannelKey zeroHash keyExport 1 =
            .ok (cc', "Imported channel key: " ++ "general") ∧
          ∃ k', cc'.channelKeys.lookup "general" = some k' ∧
            k'.key = (ChannelKey.fromPassword zeroHash "general" "pw" 0).key ∧
            k'.salt = (ChannelKey.fromPassword zeroHash "general" "pw" 0).salt ∧
            ∀ m now', ∃ cc₁ cc₂ ciphertext,
              (new.run zeroHash [.setChannelPassword "general" "pw" 0]).encryptChannelMessage
                "general" m now' = .ok (cc₁, ciphertext) ∧
              cc'.encryptChannelMessage "general" m now' = .ok (cc₂, ciphertext) :=
  have hk : (new.run zeroHash [.setChannelPassword "general" "pw" 0]).channelKeys.lookup
      "general" = some (ChannelKey.fromPassword zeroHash "general" "pw" 0) := rfl
  ⟨hk, importChannelKey_exportChannelKey zeroHash _ hk new 1⟩

/-! A try with a password. -/

/-- `try_decrypt_with_password` never fails and caches the key it derives and the password it
was given, whatever the ciphertext: after a try with any other password than the stored one,
the stored password no longer verifies. -/
theorem tryDecryptWithPassword_replaces {cc : ChannelCrypto} {channel stored password : String}
    (hs : cc.passwordCache.lookup channel = some stored) (hp : password ≠ stored)
    (ciphertext : List UInt8) (salt : Mathlib.Vector UInt8 saltSize) (now : Nat) :
    (cc.tryDecryptWithPassword sha256 channel password ciphertext salt now).1.channelKeys.lookup
        channel = some (ChannelKey.fromPasswordAndSalt sha256 channel password salt now) ∧
      (cc.tryDecryptWithPassword sha256 channel password ciphertext salt now).1.passwordCache.lookup
        channel = some password ∧
      cc.verifyChannelPassword channel stored = true ∧
      (cc.tryDecryptWithPassword sha256 channel password ciphertext salt now).1.verifyChannelPassword
        channel stored = false := by
  refine ⟨AList.lookup_insert _, AList.lookup_insert _, verifyChannelPassword_eq_true.mpr hs, ?_⟩
  rw [Bool.eq_false_iff, ne_eq, verifyChannelPassword_eq_true]
  simp only [tryDecryptWithPassword, AList.lookup_insert, Option.some.injEq]
  exact hp

theorem wrong_password_replaces_stored :
    ((new.setChannelPassword (fun _ => Mathlib.Vector.replicate 32 0) "general" "right" 0
        ).1.passwordCache.lookup "general" = some "right" ∧ "wrong" ≠ "right") ∧
      ((new.setChannelPassword (fun _ => Mathlib.Vector.replicate 32 0) "general" "right" 0
        ).1.verifyChannelPassword "general" "right" = true ∧
      ((new.setChannelPassword (fun _ => Mathlib.Vector.replicate 32 0) "general" "right" 0
        ).1.tryDecryptWithPassword (fun _ => Mathlib.Vector.replicate 32 0) "general" "wrong"
          [1, 2, 3] (Mathlib.Vector.replicate saltSize 0) 1).1.verifyChannelPassword
          "general" "right" = false) :=
  have hs : (new.setChannelPassword (fun _ => Mathlib.Vector.replicate 32 0) "general" "right" 0
      ).1.passwordCache.lookup "general" = some "right" := rfl
  have hp : "wrong" ≠ "right" := by decide
  have h := tryDecryptWithPassword_replaces hs hp [1, 2, 3] (Mathlib.Vector.replicate saltSize 0) 1
  ⟨⟨hs, hp⟩, h.2.2⟩

end

end ChannelCrypto

end Bitchat.Crypto
