import Mathlib.Data.Vector.Basic

/-! Bytes as the Rust sources handle them: `u8` is `UInt8`, a `Vec<u8>` or `&[u8]` is a
`List UInt8`, and the standard library's big-endian conversions `to_be_bytes` and
`from_be_bytes` are `toBeBytes` and `fromBeBytes` at the width of the integer type. -/

namespace Bitchat

/-- `[u8; 8]`, the id of a peer. -/
abbrev PeerId := Mathlib.Vector UInt8 8

/-- `uN::to_be_bytes` for an integer of `n` bytes: the most significant byte first. -/
def toBeBytes : Nat → Nat → List UInt8
  | 0, _ => []
  | n + 1, v => toBeBytes n (v / 256) ++ [v.toUInt8]

def fromBeBytes (bytes : List UInt8) : Nat :=
  bytes.foldl (fun acc b => acc * 256 + b.toNat) 0

theorem toNat_toUInt8 (n : Nat) : n.toUInt8.toNat = n % 256 := BitVec.toNat_ofNat ..

theorem toNat_toUInt16 (n : Nat) : n.toUInt16.toNat = n % 65536 := BitVec.toNat_ofNat ..

theorem toNat_toUInt64 (n : Nat) : n.toUInt64.toNat = n % 2 ^ 64 := BitVec.toNat_ofNat ..

@[simp] theorem length_toBeBytes (n v : Nat) : (toBeBytes n v).length = n := by
  induction n generalizing v <;> simp [toBeBytes, *]

@[simp] theorem fromBeBytes_append_singleton (bytes : List UInt8) (b : UInt8) :
    fromBeBytes (bytes ++ [b]) = fromBeBytes bytes * 256 + b.toNat := by
  simp [fromBeBytes]

theorem fromBeBytes_toBeBytes (n v : Nat) : fromBeBytes (toBeBytes n v) = v % 256 ^ n := by
  induction n generalizing v with
  | zero => simp [toBeBytes, fromBeBytes, Nat.mod_one]
  | succ n ih =>
    rw [toBeBytes, fromBeBytes_append_singleton, ih, toNat_toUInt8, Nat.pow_succ', Nat.mod_mul]
    omega

theorem fromBeBytes_lt (bytes : List UInt8) : fromBeBytes bytes < 256 ^ bytes.length := by
  induction bytes using List.reverseRecOn with
  | nil => simp [fromBeBytes]
  | append_singleton bytes b ih =>
    have := b.toNat_lt_size
    rw [fromBeBytes_append_singleton, List.length_append, List.length_singleton, Nat.pow_succ]
    simp only [UInt8.size] at this
    omega

theorem toBeBytes_fromBeBytes (bytes : List UInt8) :
    toBeBytes bytes.length (fromBeBytes bytes) = bytes := by
  induction bytes using List.reverseRecOn with
  | nil => rfl
  | append_singleton bytes b ih =>
    have := b.toNat_lt_size
    simp only [UInt8.size] at this
    rw [fromBeBytes_append_singleton, List.length_append, List.length_singleton, toBeBytes,
      show (fromBeBytes bytes * 256 + b.toNat) / 256 = fromBeBytes bytes by omega, ih]
    congr
    apply UInt8.toNat.inj
    rw [toNat_toUInt8]
    omega

theorem fromBeBytes_toBeBytes_of_lt {n v : Nat} (h : v < 256 ^ n) :
    fromBeBytes (toBeBytes n v) = v := by
  rw [fromBeBytes_toBeBytes, Nat.mod_eq_of_lt h]

@[simp] theorem fromBeBytes_toBeBytes_toUInt64 (x : UInt64) :
    (fromBeBytes (toBeBytes 8 x.toNat)).toUInt64 = x := by
  rw [fromBeBytes_toBeBytes_of_lt x.toNat_lt_size]
  exact UInt64.toNat.inj (by rw [toNat_toUInt64]; exact Nat.mod_eq_of_lt x.toNat_lt_size)

@[simp] theorem fromBeBytes_toBeBytes_toUInt16 (x : UInt16) :
    (fromBeBytes (toBeBytes 2 x.toNat)).toUInt16 = x := by
  rw [fromBeBytes_toBeBytes_of_lt x.toNat_lt_size]
  exact UInt16.toNat.inj (by rw [toNat_toUInt16]; exact Nat.mod_eq_of_lt x.toNat_lt_size)

theorem toBeBytes_toNat_fromBeBytes_toUInt64 {bytes : List UInt8} (h : bytes.length = 8) :
    toBeBytes 8 (fromBeBytes bytes).toUInt64.toNat = bytes := by
  have := fromBeBytes_lt bytes
  rw [h] at this
  rw [toNat_toUInt64, Nat.mod_eq_of_lt (by omega), ← h, toBeBytes_fromBeBytes]

theorem toBeBytes_toNat_fromBeBytes_toUInt16 {bytes : List UInt8} (h : bytes.length = 2) :
    toBeBytes 2 (fromBeBytes bytes).toUInt16.toNat = bytes := by
  have := fromBeBytes_lt bytes
  rw [h] at this
  rw [toNat_toUInt16, Nat.mod_eq_of_lt (by omega), ← h, toBeBytes_fromBeBytes]

theorem UInt8.eq_zero_iff_toNat (b : UInt8) : b = 0 ↔ b.toNat = 0 :=
  ⟨fun h => h ▸ rfl, fun h => UInt8.toNat.inj h⟩

theorem UInt8.toNat_or (a b : UInt8) : (a ||| b).toNat = a.toNat ||| b.toNat := BitVec.toNat_or ..

theorem UInt8.toNat_shiftLeft_four (a : UInt8) : (a <<< 4).toNat = a.toNat * 16 % 256 := by
  show (a.toBitVec <<< (4 : BitVec 8)).toNat = _
  simp [BitVec.toNat_shiftLeft, Nat.shiftLeft_eq]
  rfl

theorem UInt8.toNat_shiftRight_four (a : UInt8) : (a >>> 4).toNat = a.toNat / 16 := by
  show (a.toBitVec >>> (4 : BitVec 8)).toNat = _
  simp [BitVec.toNat_ushiftRight, Nat.shiftRight_eq_div_pow]
  rfl

theorem land_two_pow_ne_zero (x k : Nat) : x &&& 2 ^ k ≠ 0 ↔ x.testBit k := by
  constructor
  · intro h
    by_contra hb
    exact h (Nat.eq_of_testBit_eq fun i => by
      by_cases hi : k = i <;> simp_all [Nat.testBit_two_pow])
  · intro hb h
    simpa [hb, Nat.testBit_two_pow] using congrArg (Nat.testBit · k) h

theorem UInt8.and_ne_zero {b c : UInt8} {k : Nat} (hc : c.toNat = 2 ^ k) :
    (b &&& c != 0) = decide (b.toNat / 2 ^ k % 2 = 1) := by
  rw [← Nat.testBit_to_div_mod, Bool.eq_iff_iff, bne_iff_ne, ne_eq, UInt8.eq_zero_iff_toNat,
    UInt8.and_toNat, hc, ← ne_eq, land_two_pow_ne_zero]

theorem toNat_decide_mod_two (n : Nat) : (decide (n % 2 = 1)).toNat = n % 2 := by
  rcases Nat.mod_two_eq_zero_or_one n with h | h <;> simp [h]

/-- The ASCII code of the lowercase hex digit for `n < 16`. -/
def hexDigit (n : Nat) : UInt8 := if n < 10 then (48 + n).toUInt8 else (87 + n).toUInt8

/-- `hex::encode`: two lowercase digits per byte, the high nibble first. -/
def hexEncode (bytes : List UInt8) : String :=
  ⟨(bytes.flatMap fun b => [hexDigit (b.toNat / 16), hexDigit (b.toNat % 16)]).map
    fun d => Char.ofNat d.toNat⟩

/-- The value of one ASCII hex digit of either case, as `hex` reads it. -/
def hexVal (c : UInt8) : Option Nat :=
  if 48 ≤ c.toNat ∧ c.toNat ≤ 57 then some (c.toNat - 48)
  else if 97 ≤ c.toNat ∧ c.toNat ≤ 102 then some (c.toNat - 87)
  else if 65 ≤ c.toNat ∧ c.toNat ≤ 70 then some (c.toNat - 55)
  else none

/-- `hex::decode` of the bytes of a string: `none` for an odd length or for a byte that is no
hex digit, the two errors `hex` distinguishes. -/
def hexDecode : List UInt8 → Option (List UInt8)
  | [] => some []
  | [_] => none
  | hi :: lo :: rest => do
    let h ← hexVal hi
    let l ← hexVal lo
    let tail ← hexDecode rest
    pure ((h * 16 + l).toUInt8 :: tail)

theorem utf8EncodeChar_hexDigit {n : Nat} (h : n < 16) :
    String.utf8EncodeChar (Char.ofNat (hexDigit n).toNat) = [hexDigit n] := by
  have key : ∀ i : Fin 16,
      String.utf8EncodeChar (Char.ofNat (hexDigit i).toNat) = [hexDigit i] := by decide
  exact key ⟨n, h⟩

theorem hexVal_hexDigit {n : Nat} (h : n < 16) : hexVal (hexDigit n) = some n := by
  have key : ∀ i : Fin 16, hexVal (hexDigit i) = some i.val := by decide
  exact key ⟨n, h⟩

theorem toUTF8_hexEncode (bytes : List UInt8) :
    (hexEncode bytes).toUTF8.data.toList =
      bytes.flatMap fun b => [hexDigit (b.toNat / 16), hexDigit (b.toNat % 16)] := by
  induction bytes with
  | nil => rfl
  | cons b bs ih =>
    have hb : b.toNat < 256 := b.toNat_lt_size
    have h1 : b.toNat / 16 < 16 := by omega
    have h2 : b.toNat % 16 < 16 := Nat.mod_lt _ (by decide)
    simp only [hexEncode, String.toUTF8, List.flatMap_cons, List.map_append, List.map_cons,
      List.map_nil, List.cons_append, List.nil_append] at ih ⊢
    rw [utf8EncodeChar_hexDigit h1, utf8EncodeChar_hexDigit h2, ih]
    rfl

theorem hexDecode_hexEncode (bytes : List UInt8) :
    hexDecode (hexEncode bytes).toUTF8.data.toList = some bytes := by
  rw [toUTF8_hexEncode]
  induction bytes with
  | nil => rfl
  | cons b bs ih =>
    have hb : b.toNat < 256 := b.toNat_lt_size
    have hbyte : (b.toNat / 16 * 16 + b.toNat % 16).toUInt8 = b :=
      UInt8.toNat.inj (by rw [toNat_toUInt8]; omega)
    rw [List.flatMap_cons, List.cons_append, List.cons_append, List.nil_append, hexDecode,
      hexVal_hexDigit (show b.toNat / 16 < 16 by omega),
      hexVal_hexDigit (Nat.mod_lt b.toNat (show 16 > 0 by decide)), ih]
    exact congrArg (some <| · :: bs) hbyte

theorem byte_xor_xor_cancel (a b : UInt8) : a ^^^ b ^^^ b = a := by
  cases a; cases b; simp only [HXor.hXor, Xor.xor, UInt8.xor]; simp [BitVec.xor_assoc]

theorem byte_add_sub_cancel (a b : UInt8) : a + b - b = a := by
  rw [UInt8.sub_def, UInt8.add_def, BitVec.add_sub_cancel]

theorem byte_zero_mul (a : UInt8) : 0 * a = 0 := by
  rw [UInt8.mul_def]; exact congrArg UInt8.mk (BitVec.zero_mul ..)

theorem byte_mul_zero (a : UInt8) : a * 0 = 0 := by
  rw [UInt8.mul_def]; exact congrArg UInt8.mk (BitVec.mul_zero ..)

theorem byte_zero_div (a : UInt8) : 0 / a = 0 := by
  apply UInt8.toNat.inj; simp

theorem map_enum_map_enum {α : Type} {f g : Nat × α → α} (h : ∀ i b, g (i, f (i, b)) = b)
    (l : List α) : (l.enum.map f).enum.map g = l :=
  List.ext_getElem (by simp) fun n _ _ => by simp [h]

end Bitchat
