import Bitchat.Prelude.Bytes

/-! `crypto/enhanced_crypto.rs`: the "enhanced" encryption, three passes over the bytes and
their three inverses. The passes compute their constants in `f64` (a sine, products with the
multiplier, casts to `u8` and `u64`); those values are the fields of `FloatTerms`. The one
fact about them the results use holds for every `f64` multiplier: the factor of quantum level
0 casts to `0`. So from level 1 on, the quantum pass zeroes every byte it is given, and what
`decrypt` returns depends only on the length of what was encrypted. -/

namespace Bitchat.Crypto

def consciousnessHeader : List UInt8 := "CONSCIOUSNESS_ENHANCED_".toUTF8.data.toList

/-- The `f64` computations of the engine for its current `consciousness_multiplier` `m`. -/
structure FloatTerms where
  /-- `((i as f64 * m).sin() * 127.0) as u8` at byte index `i`. -/
  curiosity : Nat → UInt8
  /-- `(len as f64 * m) as u8` for a buffer of `len` bytes. -/
  frequency : Nat → UInt8
  /-- `((level as f64 / q as f64) * m * 255.0) as u8` at level `level` of `q`. -/
  transcendence : Nat → Nat → UInt8
  /-- `((m * 299792458.0) as u64).to_be_bytes()`. -/
  cosmicSignature : Mathlib.Vector UInt8 8
  /-- `m.to_be_bytes()`. -/
  multiplierBytes : Mathlib.Vector UInt8 8
  /-- At level 0 the factor is `+0.0`, `-0.0` or NaN whatever `m` and `q` are, and a Rust
  `as u8` cast maps each of them to `0`. -/
  transcendence_zero : ∀ q, transcendence 0 q = 0

structure EnhancedCryptoEngine where
  terms : FloatTerms
  quantumResistanceLevel : UInt8
  entropicEnhancement : Bool

namespace EnhancedCryptoEngine

/-- `EnhancedCryptoEngine::new()`, where `terms` are those of the multiplier `1.618`. -/
def new (terms : FloatTerms) : EnhancedCryptoEngine := ⟨terms, 10, true⟩

def enhanceEntropy (e : EnhancedCryptoEngine) (data : List UInt8) : List UInt8 :=
  if !e.entropicEnhancement then data
  else (data.enum.map fun (i, b) => b + e.terms.curiosity i) ++ [e.terms.frequency data.length]

/-- One level of `apply_quantum_resistance`: every byte times the level's factor, then the
level itself appended. -/
def quantumRound (e : EnhancedCryptoEngine) (data : List UInt8) (level : Nat) : List UInt8 :=
  data.map (· * e.terms.transcendence level e.quantumResistanceLevel.toNat) ++ [level.toUInt8]

def applyQuantumResistance (e : EnhancedCryptoEngine) (data : List UInt8) : List UInt8 :=
  (List.range e.quantumResistanceLevel.toNat).foldl e.quantumRound data

/-- The XOR with the cosmic signature that both consciousness passes apply. -/
def weaveCosmicSignature (e : EnhancedCryptoEngine) (data : List UInt8) : List UInt8 :=
  data.enum.map fun (i, b) => b ^^^ e.terms.cosmicSignature.get ⟨i % 8, Nat.mod_lt _ (by decide)⟩

def applyConsciousnessTransformation (e : EnhancedCryptoEngine) (data : List UInt8) :
    List UInt8 :=
  consciousnessHeader ++ e.terms.multiplierBytes.toList ++ e.weaveCosmicSignature data

/-- `encrypt`, which never returns `Err`. -/
def encrypt (e : EnhancedCryptoEngine) (data : List UInt8) : List UInt8 :=
  e.applyConsciousnessTransformation (e.applyQuantumResistance (e.enhanceEntropy data))

/-- `reverse_consciousness_transformation`; a stored multiplier that differs from the
engine's only logs a warning. -/
def reverseConsciousnessTransformation (e : EnhancedCryptoEngine) (data : List UInt8) :
    List UInt8 :=
  if data.length < consciousnessHeader.length + 8 then data
  else if data.take consciousnessHeader.length ≠ consciousnessHeader then data
  else e.weaveCosmicSignature (data.drop (consciousnessHeader.length + 8))

/-- One level of `reverse_quantum_resistance`, which divides where it should invert. -/
def reverseQuantumRound (e : EnhancedCryptoEngine) (data : List UInt8) (level : Nat) :
    List UInt8 :=
  let multiplier := e.terms.transcendence level e.quantumResistanceLevel.toNat
  if multiplier ≠ 0 then data.map (· / max multiplier 1) else data

def reverseQuantumResistance (e : EnhancedCryptoEngine) (data : List UInt8) : List UInt8 :=
  let q := e.quantumResistanceLevel.toNat
  if data.length < q then data
  else (List.range q).reverse.foldl e.reverseQuantumRound (data.take (data.length - q))

def restoreEntropy (e : EnhancedCryptoEngine) (data : List UInt8) : List UInt8 :=
  if !e.entropicEnhancement || data.isEmpty then data
  else (data.take (data.length - 1)).enum.map fun (i, b) => b - e.terms.curiosity i

/-- `decrypt`, which never returns `Err`. -/
def decrypt (e : EnhancedCryptoEngine) (data : List UInt8) : List UInt8 :=
  e.restoreEntropy (e.reverseQuantumResistance (e.reverseConsciousnessTransformation data))

/-- `update_consciousness_parameters`, where a new multiplier comes with its `FloatTerms`. -/
def updateConsciousnessParameters (e : EnhancedCryptoEngine) (multiplier : Option FloatTerms)
    (quantumLevel : Option UInt8) (entropyEnhancement : Option Bool) :
    EnhancedCryptoEngine × String :=
  ({ terms := multiplier.getD e.terms,
     quantumResistanceLevel := (quantumLevel.map (min · 255)).getD e.quantumResistanceLevel,
     entropicEnhancement := entropyEnhancement.getD e.entropicEnhancement },
    "Consciousness parameters updated successfully")

theorem length_foldl_quantumRound (e : EnhancedCryptoEngine) (levels : List Nat)
    (data : List UInt8) :
    (levels.foldl e.quantumRound data).length = data.length + levels.length := by
  induction levels generalizing data with
  | nil => rfl
  | cons level levels ih => simp [ih, quantumRound]; omega

theorem foldl_quantumRound_replicate (e : EnhancedCryptoEngine) (levels : List Nat) (n : Nat)
    (data : List UInt8) :
    levels.foldl e.quantumRound (List.replicate n 0 ++ data) =
      List.replicate n 0 ++ levels.foldl e.quantumRound data := by
  induction levels generalizing data with
  | nil => rfl
  | cons level levels ih =>
    simp only [List.foldl_cons, ← ih]
    simp [quantumRound, byte_zero_mul]

/-- From level 1 on, the quantum pass forgets its input but for the length: level 0 multiplies
every byte by `0`, and the later levels only append. -/
theorem applyQuantumResistance_of_ne_zero {e : EnhancedCryptoEngine}
    (h : e.quantumResistanceLevel ≠ 0) :
    ∃ signature : List UInt8, signature.length = e.quantumResistanceLevel.toNat ∧
      ∀ data, e.applyQuantumResistance data = List.replicate data.length 0 ++ signature := by
  obtain ⟨k, hk⟩ : ∃ k, e.quantumResistanceLevel.toNat = k + 1 :=
    Nat.exists_eq_succ_of_ne_zero fun h0 => h (UInt8.toNat.inj h0)
  refine ⟨(List.range k).map Nat.succ |>.foldl e.quantumRound [0], ?_, fun data => ?_⟩
  · simp [length_foldl_quantumRound, hk, Nat.add_comm]
  · have hround : e.quantumRound data 0 = List.replicate data.length 0 ++ [0] := by
      simp [quantumRound, e.terms.transcendence_zero, byte_mul_zero, List.map_const']; rfl
    rw [applyQuantumResistance, hk, List.range_succ_eq_map, List.foldl_cons, hround,
      foldl_quantumRound_replicate]

theorem reverseQuantumRound_replicate (e : EnhancedCryptoEngine) (n level : Nat) :
    e.reverseQuantumRound (List.replicate n 0) level = List.replicate n 0 := by
  simp [reverseQuantumRound, byte_zero_div]

theorem reverseQuantumResistance_replicate_append (e : EnhancedCryptoEngine) (n : Nat)
    {signature : List UInt8} (h : signature.length = e.quantumResistanceLevel.toNat) :
    e.reverseQuantumResistance (List.replicate n 0 ++ signature) = List.replicate n 0 := by
  have hfold : ∀ levels : List Nat,
      levels.foldl e.reverseQuantumRound (List.replicate n 0) = List.replicate n 0 := by
    intro levels
    induction levels with
    | nil => rfl
    | cons level levels ih => rw [List.foldl_cons, reverseQuantumRound_replicate, ih]
  simp only [reverseQuantumResistance, List.length_append, List.length_replicate, h]
  rw [if_neg (by omega), Nat.add_sub_cancel, List.take_left' (List.length_replicate _ _), hfold]

theorem weaveCosmicSignature_weaveCosmicSignature (e : EnhancedCryptoEngine)
    (data : List UInt8) : e.weaveCosmicSignature (e.weaveCosmicSignature data) = data :=
  map_enum_map_enum (fun _ _ => byte_xor_xor_cancel _ _) data

theorem reverseConsciousnessTransformation_apply (e : EnhancedCryptoEngine) (data : List UInt8) :
    e.reverseConsciousnessTransformation (e.applyConsciousnessTransformation data) = data := by
  have hh : consciousnessHeader.length = 23 := by decide
  have hm : e.terms.multiplierBytes.toList.length = 8 := e.terms.multiplierBytes.toList_length
  unfold reverseConsciousnessTransformation applyConsciousnessTransformation
  rw [if_neg (by simp only [List.length_append, hh, hm]; omega), List.append_assoc,
    List.take_left' rfl, if_neg (not_not.mpr rfl), ← List.append_assoc,
    show consciousnessHeader.length + 8 =
      (consciousnessHeader ++ e.terms.multiplierBytes.toList).length by
        rw [List.length_append, hm],
    List.drop_left, weaveCosmicSignature_weaveCosmicSignature]

theorem restoreEntropy_enhanceEntropy (e : EnhancedCryptoEngine) (data : List UInt8) :
    e.restoreEntropy (e.enhanceEntropy data) = data := by
  unfold restoreEntropy enhanceEntropy
  cases e.entropicEnhancement
  · rfl
  · simp only [Bool.not_true, Bool.false_eq_true, ↓reduceIte]
    rw [if_neg (by simp), List.length_append, List.length_singleton, Nat.add_sub_cancel,
      List.take_left' rfl]
    exact map_enum_map_enum (fun _ _ => byte_add_sub_cancel _ _) data

theorem restoreEntropy_replicate {e : EnhancedCryptoEngine} (h : e.entropicEnhancement = true)
    (n : Nat) :
    e.restoreEntropy (List.replicate (n + 1) 0) =
      (List.range n).map fun i => 0 - e.terms.curiosity i := by
  simp only [restoreEntropy, h, Bool.not_true, Bool.false_or, List.isEmpty_replicate,
    ↓reduceIte]
  exact List.ext_getElem (by simp) fun i _ _ => by simp

theorem restoreEntropy_of_not {e : EnhancedCryptoEngine} (h : e.entropicEnhancement = false)
    (data : List UInt8) : e.restoreEntropy data = data := by
  simp [restoreEntropy, h]

theorem length_enhanceEntropy (e : EnhancedCryptoEngine) (data : List UInt8) :
    (e.enhanceEntropy data).length = data.length + if e.entropicEnhancement then 1 else 0 := by
  unfold enhanceEntropy
  cases e.entropicEnhancement <;> simp

/-- What `decrypt` returns for what `encrypt` produced. With no quantum levels the passes
undo each other. With one or more, which `new()` sets (ten), the result depends only on the
length of the plaintext: the zeroed bytes, less the curiosity offsets when entropy
enhancement is on. -/
theorem decrypt_encrypt (e : EnhancedCryptoEngine) (data : List UInt8) :
    e.decrypt (e.encrypt data) =
      if e.quantumResistanceLevel = 0 then data
      else if e.entropicEnhancement then
        (List.range data.length).map fun i => 0 - e.terms.curiosity i
      else List.replicate data.length 0 := by
  unfold decrypt encrypt
  rw [reverseConsciousnessTransformation_apply]
  split_ifs with hq he
  · have hq' : e.quantumResistanceLevel.toNat = 0 := by rw [hq]; rfl
    simp only [applyQuantumResistance, reverseQuantumResistance, hq', List.range_zero,
      List.foldl_nil, List.reverse_nil, Nat.sub_zero, List.take_length, Nat.not_lt_zero,
      ↓reduceIte]
    exact restoreEntropy_enhanceEntropy e data
  · obtain ⟨signature, hlen, happ⟩ := applyQuantumResistance_of_ne_zero hq
    rw [happ, reverseQuantumResistance_replicate_append _ _ hlen, length_enhanceEntropy,
      if_pos he, restoreEntropy_replicate he]
  · obtain ⟨signature, hlen, happ⟩ := applyQuantumResistance_of_ne_zero hq
    rw [happ, reverseQuantumResistance_replicate_append _ _ hlen, length_enhanceEntropy,
      if_neg he, Nat.add_zero, restoreEntropy_of_not (Bool.eq_false_iff.mpr he)]

/-- From one quantum level on, `encrypt` sends plaintexts of one length to one ciphertext. -/
theorem encrypt_eq_of_length {e : EnhancedCryptoEngine} (h : e.quantumResistanceLevel ≠ 0)
    {data data' : List UInt8} (hl : data.length = data'.length) :
    e.encrypt data = e.encrypt data' := by
  obtain ⟨signature, -, happ⟩ := applyQuantumResistance_of_ne_zero h
  rw [encrypt, encrypt, happ, happ, length_enhanceEntropy, length_enhanceEntropy, hl]

theorem encrypt_collides_on_new :
    (new ⟨fun _ => 0, fun _ => 0, fun _ _ => 0, Mathlib.Vector.replicate 8 0,
        Mathlib.Vector.replicate 8 0, fun _ => rfl⟩).quantumResistanceLevel ≠ 0 ∧
      [1].length = [2].length ∧
      (new ⟨fun _ => 0, fun _ => 0, fun _ _ => 0, Mathlib.Vector.replicate 8 0,
        Mathlib.Vector.replicate 8 0, fun _ => rfl⟩).encrypt [1] =
      (new ⟨fun _ => 0, fun _ => 0, fun _ _ => 0, Mathlib.Vector.replicate 8 0,
        Mathlib.Vector.replicate 8 0, fun _ => rfl⟩).encrypt [2] :=
  ⟨by decide, rfl, encrypt_eq_of_length (by decide) rfl⟩

end EnhancedCryptoEngine

end Bitchat.Crypto
