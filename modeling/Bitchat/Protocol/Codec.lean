import Bitchat.Protocol.Message

/-! `BitchatProtocol::encode` and `BitchatProtocol::decode`. Decoding reads the buffer the way
the source does, by Rust indexing and slicing; a read past the end would be a panic, and the
model keeps it as an error of its own kind, apart from the errors the source returns. The
guards of `decode` cover every read, so no input reaches a panic. `calculate_size` counts a
13-byte header where `encode` writes 12 header bytes and a 2-byte length, so it is one byte
short of every encoded frame. -/

namespace Bitchat.Protocol

inductive EncodeError
  | tooLarge (length : Nat)
  deriving DecidableEq, Repr

def EncodeError.message : EncodeError → String
  | .tooLarge n => "Message too large for BLE transmission: " ++ toString n ++ " bytes"

inductive DecodeError
  | tooShort
  | unsupportedVersion (version : UInt8)
  | missingPayloadLength
  | missingSenderId
  | missingRecipientId
  | payloadLengthMismatch
  | missingSignature
  /-- The panic of `data[index]` past the end. -/
  | indexOutOfBounds (index length : Nat)
  /-- The panic of `data[start..stop]` outside the buffer. -/
  | sliceOutOfBounds (start stop length : Nat)
  /-- The panic of `copy_from_slice` between slices of different lengths. -/
  | copyLengthMismatch (destination source : Nat)
  deriving DecidableEq, Repr

def DecodeError.message : DecodeError → String
  | .tooShort => "Invalid message: too short"
  | .unsupportedVersion v => "Unsupported protocol version: " ++ toString v
  | .missingPayloadLength => "Invalid message: missing payload length"
  | .missingSenderId => "Invalid message: missing sender ID"
  | .missingRecipientId => "Invalid message: missing recipient ID"
  | .payloadLengthMismatch => "Invalid message: payload length mismatch"
  | .missingSignature => "Invalid message: missing signature"
  | .indexOutOfBounds i n =>
    "index out of bounds: the len is " ++ toString n ++ " but the index is " ++ toString i
  | .sliceOutOfBounds a b n =>
    if b < a then "slice index starts at " ++ toString a ++ " but ends at " ++ toString b
    else "range end index " ++ toString b ++ " out of range for slice of length " ++ toString n
  | .copyLengthMismatch d s =>
    "source slice length (" ++ toString s ++ ") does not match destination slice length (" ++
      toString d ++ ")"

/-- Whether the error is a panic rather than an `Err` the source returns. -/
def DecodeError.isPanic : DecodeError → Bool
  | .indexOutOfBounds .. | .sliceOutOfBounds .. | .copyLengthMismatch .. => true
  | _ => false

/-- `if let Some(bytes) = section { buffer.extend_from_slice(&bytes) }`: what an optional
section adds to the buffer. -/
def sectionBytes {n : Nat} : Option (Mathlib.Vector UInt8 n) → List UInt8
  | some bytes => bytes.toList
  | none => []

/-- The bytes `encode` pushes into its buffer, in order. -/
def frameBytes (m : ProtocolMessage) : List UInt8 :=
  m.version :: m.messageType.toByte :: m.ttl ::
    (toBeBytes 8 m.timestamp.toNat ++ m.flags.toByte ::
      (toBeBytes 2 m.payload.length.toUInt16.toNat ++ (m.senderId.toList ++
        (sectionBytes m.recipientId ++ (m.payload ++ sectionBytes m.signature)))))

def encode (m : ProtocolMessage) : Except EncodeError (List UInt8) :=
  let buffer := frameBytes m
  if buffer.length > maxPayloadSize then .error (.tooLarge buffer.length) else .ok buffer

/-- `data[i]`. -/
def index (data : List UInt8) (i : Nat) : Except DecodeError UInt8 :=
  match data[i]? with
  | some b => .ok b
  | none => .error (.indexOutOfBounds i data.length)

/-- `[data[start], data[start + 1], …]`, `n` reads in order. -/
def indexRange (data : List UInt8) (start : Nat) : Nat → Except DecodeError (List UInt8)
  | 0 => pure []
  | n + 1 => do
    let b ← index data start
    let bs ← indexRange data (start + 1) n
    pure (b :: bs)

/-- `data[start..stop]`. -/
def slice (data : List UInt8) (start stop : Nat) : Except DecodeError (List UInt8) :=
  if start ≤ stop ∧ stop ≤ data.length then .ok ((data.drop start).take (stop - start))
  else .error (.sliceOutOfBounds start stop data.length)

/-- `[0u8; n].copy_from_slice(src)`. -/
def copyFromSlice (n : Nat) (src : List UInt8) : Except DecodeError (Mathlib.Vector UInt8 n) :=
  if h : src.length = n then .ok ⟨src, h⟩ else .error (.copyLengthMismatch n src.length)

/-- `if failed { bail!(e) }`. -/
def bailIf (failed : Prop) [Decidable failed] (e : DecodeError) : Except DecodeError Unit :=
  if failed then .error e else pure ()

/-- The optional recipient id of `decode`, read at `offset`, with the offset after it. -/
def decodeRecipient (data : List UInt8) (flags : MessageFlags) (offset : Nat) :
    Except DecodeError (Option (Mathlib.Vector UInt8 8) × Nat) :=
  if flags.hasRecipient then do
    bailIf (offset + 8 > data.length) .missingRecipientId
    let recipient ← copyFromSlice 8 (← slice data offset (offset + 8))
    pure (some recipient, offset + 8)
  else pure (none, offset)

/-- The optional signature of `decode`, read at `offset`. -/
def decodeSignature (data : List UInt8) (flags : MessageFlags) (offset : Nat) :
    Except DecodeError (Option (Mathlib.Vector UInt8 64)) :=
  if flags.hasSignature then do
    bailIf (offset + 64 > data.length) .missingSignature
    let signature ← copyFromSlice 64 (← slice data offset (offset + 64))
    pure (some signature)
  else pure none

/-- `BitchatProtocol::decode`; `id` is the `Uuid::new_v4()` it gives the decoded message. -/
def decode (id : Uuid) (data : List UInt8) : Except DecodeError ProtocolMessage := do
  bailIf (data.length < 13) .tooShort
  let version ← index data 0
  bailIf (version ≠ protocolVersion) (.unsupportedVersion version)
  let messageType := MessageType.ofByte (← index data 1)
  let ttl ← index data 2
  let timestamp := (fromBeBytes (← indexRange data 3 8)).toUInt64
  let flags := MessageFlags.fromByte (← index data 11)
  let offset := 12
  bailIf (offset + 2 > data.length) .missingPayloadLength
  let payloadLen := (fromBeBytes (← indexRange data offset 2)).toUInt16.toNat
  let offset := offset + 2
  bailIf (offset + 8 > data.length) .missingSenderId
  let senderId ← copyFromSlice 8 (← slice data offset (offset + 8))
  let offset := offset + 8
  let (recipientId, offset) ← decodeRecipient data flags offset
  bailIf (offset + payloadLen > data.length) .payloadLengthMismatch
  let payload ← slice data offset (offset + payloadLen)
  let offset := offset + payloadLen
  let signature ← decodeSignature data flags offset
  pure { id := id, version := version, messageType := messageType, ttl := ttl,
         timestamp := timestamp, flags := flags, senderId := senderId,
         recipientId := recipientId, payload := payload, signature := signature }

theorem bailIf_eq_ok {failed : Prop} [Decidable failed] {e : DecodeError} {u : Unit} :
    bailIf failed e = .ok u ↔ ¬ failed := by
  unfold bailIf
  split <;> simp_all [pure, Except.pure]

theorem bailIf_of_not {failed : Prop} [Decidable failed] {e : DecodeError} (h : ¬ failed) :
    bailIf failed e = .ok () := by
  simp [bailIf, h, pure, Except.pure]

@[simp] theorem ok_bind {α β : Type} (a : α) (f : α → Except DecodeError β) :
    (Except.ok a >>= f) = f a := rfl

theorem bind_eq_ok {α β : Type} {x : Except DecodeError α} {f : α → Except DecodeError β}
    {b : β} : x >>= f = .ok b ↔ ∃ a, x = .ok a ∧ f a = .ok b := by
  cases x with
  | error e =>
    constructor
    · intro h; cases h
    · rintro ⟨_, h, _⟩; cases h
  | ok a =>
    constructor
    · intro h; exact ⟨a, rfl, h⟩
    · rintro ⟨_, h, hf⟩; cases h; exact hf

theorem index_eq_ok {data : List UInt8} {i : Nat} {b : UInt8} :
    index data i = .ok b ↔ data[i]? = some b := by
  unfold index
  split <;> rename_i h <;> simp [h]

theorem indexRange_eq {data : List UInt8} {start n : Nat} (h : start + n ≤ data.length) :
    indexRange data start n = .ok ((data.drop start).take n) := by
  induction n generalizing start with
  | zero => rfl
  | succ n ih =>
    have hs : start < data.length := by omega
    rw [indexRange, index_eq_ok.mpr (List.getElem?_eq_getElem hs), ih (by omega)]
    rw [List.drop_eq_getElem_cons hs]
    rfl

theorem slice_eq {data : List UInt8} {start stop : Nat} (h : start ≤ stop)
    (h' : stop ≤ data.length) :
    slice data start stop = .ok ((data.drop start).take (stop - start)) := by
  rw [slice, if_pos ⟨h, h'⟩]

theorem copyFromSlice_eq {n : Nat} {src : List UInt8} (h : src.length = n) :
    copyFromSlice n src = .ok ⟨src, h⟩ := by
  simp [copyFromSlice, h]

@[simp] theorem length_sectionBytes {n : Nat} (o : Option (Mathlib.Vector UInt8 n)) :
    (sectionBytes o).length = if o.isSome then n else 0 := by
  cases o <;> simp [sectionBytes]

@[simp] theorem copyFromSlice_toList {n : Nat} (v : Mathlib.Vector UInt8 n) :
    copyFromSlice n v.toList = .ok v := by
  simp [copyFromSlice]

theorem copyFromSlice_eq_ok {n : Nat} {src : List UInt8} {v : Mathlib.Vector UInt8 n} :
    copyFromSlice n src = .ok v ↔ v.toList = src := by
  unfold copyFromSlice
  split
  · constructor
    · intro h; cases h; rfl
    · intro h; subst h; rfl
  · rename_i hs
    constructor
    · intro h; cases h
    · intro h; exact absurd (h ▸ v.toList_length) hs

theorem length_frameBytes (m : ProtocolMessage) : (frameBytes m).length =
    22 + (sectionBytes m.recipientId).length + m.payload.length +
      (sectionBytes m.signature).length := by
  simp only [frameBytes, List.length_append, List.length_cons, length_toBeBytes,
    Mathlib.Vector.toList_length]
  omega

theorem encode_eq_ok {m : ProtocolMessage} {bytes : List UInt8} :
    encode m = .ok bytes ↔ bytes = frameBytes m ∧ (frameBytes m).length ≤ maxPayloadSize := by
  unfold encode
  dsimp only
  split
  · rename_i hl
    constructor
    · intro h; cases h
    · rintro ⟨-, h⟩; omega
  · rename_i hl
    constructor
    · intro h; cases h; exact ⟨rfl, by omega⟩
    · rintro ⟨rfl, -⟩; rfl

/-! Reading a field: each reader of `decode` returns the bytes that stand at its offset. -/

theorem index_window {i : Nat} (pre post : List UInt8) (b : UInt8) (hi : pre.length = i) :
    index (pre ++ b :: post) i = .ok b := by
  subst hi
  rw [index_eq_ok, List.getElem?_append_right (by omega)]
  simp

theorem indexRange_window {a n : Nat} (pre w post : List UInt8) (ha : pre.length = a)
    (hn : w.length = n) : indexRange (pre ++ (w ++ post)) a n = .ok w := by
  subst ha hn
  rw [indexRange_eq (by simp)]
  simp

theorem slice_window {a b : Nat} (pre w post : List UInt8) (ha : pre.length = a)
    (hb : a + w.length = b) : slice (pre ++ (w ++ post)) a b = .ok w := by
  subst ha hb
  rw [slice_eq (by omega) (by simp)]
  simp

theorem decodeRecipient_window {a : Nat} {flags : MessageFlags} (pre post : List UInt8)
    (recipient : Option (Mathlib.Vector UInt8 8)) (hf : flags.hasRecipient = recipient.isSome)
    (ha : pre.length = a) : decodeRecipient (pre ++ (sectionBytes recipient ++ post)) flags a =
      .ok (recipient, a + (sectionBytes recipient).length) := by
  cases recipient with
  | none => simp [decodeRecipient, hf, sectionBytes, pure, Except.pure]
  | some r =>
    have hl : ¬ (a + 8 > (pre ++ (r.toList ++ post)).length) := by simp; omega
    have hw : slice (pre ++ (r.toList ++ post)) a (a + 8) = .ok r.toList :=
      slice_window _ _ _ ha (by simp)
    simp only [decodeRecipient, sectionBytes, hf, Option.isSome_some, if_true, bailIf_of_not hl,
      ok_bind, hw, copyFromSlice_toList, Mathlib.Vector.toList_length]
    rfl

theorem decodeSignature_window {a : Nat} {flags : MessageFlags} (pre post : List UInt8)
    (signature : Option (Mathlib.Vector UInt8 64)) (hf : flags.hasSignature = signature.isSome)
    (ha : pre.length = a) :
    decodeSignature (pre ++ (sectionBytes signature ++ post)) flags a = .ok signature := by
  cases signature with
  | none => simp [decodeSignature, hf, pure, Except.pure]
  | some g =>
    have hl : ¬ (a + 64 > (pre ++ (g.toList ++ post)).length) := by simp; omega
    have hw : slice (pre ++ (g.toList ++ post)) a (a + 64) = .ok g.toList :=
      slice_window _ _ _ ha (by simp)
    simp only [decodeSignature, sectionBytes, hf, Option.isSome_some, if_true, bailIf_of_not hl,
      ok_bind, hw, copyFromSlice_toList]
    rfl

theorem frameBytes_set_append (m : ProtocolMessage) (t : UInt8) (rest : List UInt8) :
    (frameBytes m).set 1 t ++ rest = [m.version, t, m.ttl] ++
      (toBeBytes 8 m.timestamp.toNat ++ ([m.flags.toByte] ++
        (toBeBytes 2 m.payload.length.toUInt16.toNat ++ (m.senderId.toList ++
          (sectionBytes m.recipientId ++
            (m.payload ++ (sectionBytes m.signature ++ rest))))))) := by
  simp [frameBytes]

theorem frameBytes_set_toByte (m : ProtocolMessage) :
    (frameBytes m).set 1 m.messageType.toByte = frameBytes m := by
  simp [frameBytes]

theorem decode_frame_append (id : Uuid) {m : ProtocolMessage} (h : m.WellFormed)
    (hp : m.payload.length < 65536) (t : UInt8) (rest : List UInt8) :
    decode id ((frameBytes m).set 1 t ++ rest) =
      .ok { m with id := id, messageType := MessageType.ofByte t } := by
  obtain ⟨hv, hr, hR, hS⟩ := h
  obtain ⟨data, hdata⟩ : ∃ data, data = (frameBytes m).set 1 t ++ rest := ⟨_, rfl⟩
  rw [← hdata]
  have hlen : data.length = (frameBytes m).length + rest.length := by
    simp [hdata]
  rw [length_frameBytes] at hlen
  rw [frameBytes_set_append] at hdata
  have h0 : index data 0 = .ok m.version := by
    rw [hdata]; exact index_window [] _ _ rfl
  have h1 : index data 1 = .ok t := by
    rw [hdata]; exact index_window [m.version] _ _ rfl
  have h2 : index data 2 = .ok m.ttl := by
    rw [hdata]; exact index_window [m.version, t] _ _ rfl
  have h3 : indexRange data 3 8 = .ok (toBeBytes 8 m.timestamp.toNat) := by
    rw [hdata]; exact indexRange_window _ _ _ rfl (by simp)
  have h11 : index data 11 = .ok m.flags.toByte := by
    rw [hdata, ← List.append_assoc]; exact index_window _ _ _ (by simp)
  have h12 : indexRange data 12 2 = .ok (toBeBytes 2 m.payload.length.toUInt16.toNat) := by
    rw [hdata, ← List.append_assoc, ← List.append_assoc]
    exact indexRange_window _ _ _ (by simp) (by simp)
  have h14 : slice data (12 + 2) (12 + 2 + 8) = .ok m.senderId.toList := by
    rw [hdata, ← List.append_assoc, ← List.append_assoc, ← List.append_assoc]
    exact slice_window _ _ _ (by simp) (by simp)
  have hrec : decodeRecipient data m.flags (12 + 2 + 8) =
      .ok (m.recipientId, 12 + 2 + 8 + (sectionBytes m.recipientId).length) := by
    rw [hdata, ← List.append_assoc, ← List.append_assoc, ← List.append_assoc,
      ← List.append_assoc]
    exact decodeRecipient_window _ _ _ hR (by simp)
  have hpay : slice data (12 + 2 + 8 + (sectionBytes m.recipientId).length)
      (12 + 2 + 8 + (sectionBytes m.recipientId).length + m.payload.length) = .ok m.payload := by
    rw [hdata, ← List.append_assoc, ← List.append_assoc, ← List.append_assoc,
      ← List.append_assoc, ← List.append_assoc]
    exact slice_window _ _ _ (by simp only [List.length_append, List.length_cons,
      List.length_nil, length_toBeBytes, Mathlib.Vector.toList_length]) rfl
  have hsig : decodeSignature data m.flags
      (12 + 2 + 8 + (sectionBytes m.recipientId).length + m.payload.length) = .ok m.signature := by
    rw [hdata, ← List.append_assoc, ← List.append_assoc, ← List.append_assoc,
      ← List.append_assoc, ← List.append_assoc, ← List.append_assoc]
    exact decodeSignature_window _ _ _ hS (by simp only [List.length_append, List.length_cons,
      List.length_nil, length_toBeBytes, Mathlib.Vector.toList_length])
  have hplen : (fromBeBytes (toBeBytes 2 m.payload.length.toUInt16.toNat)).toUInt16.toNat =
      m.payload.length := by
    rw [fromBeBytes_toBeBytes_toUInt16, toNat_toUInt16, Nat.mod_eq_of_lt hp]
  simp only [decode, bailIf_of_not (show ¬ data.length < 13 by omega),
    bailIf_of_not (show ¬ (m.version ≠ protocolVersion) from fun h => h hv),
    bailIf_of_not (show ¬ (12 + 2 > data.length) by omega),
    bailIf_of_not (show ¬ (12 + 2 + 8 > data.length) by omega),
    ok_bind, h0, h1, h2, h3, h11, h12, h14, MessageFlags.fromByte_toByte hr, hplen, hrec, hpay,
    hsig, copyFromSlice_toList, fromBeBytes_toBeBytes_toUInt64]
  rw [bailIf_of_not (by omega)]
  rfl

/-! Decoding backwards: what each reader returned stands in the buffer at its offset. -/

theorem drop_of_index {data : List UInt8} {i : Nat} {b : UInt8} (h : index data i = .ok b) :
    data.drop i = b :: data.drop (i + 1) := by
  obtain ⟨hi, hb⟩ := List.getElem?_eq_some_iff.mp (index_eq_ok.mp h)
  rw [List.drop_eq_getElem_cons hi, hb]

theorem drop_of_indexRange {data : List UInt8} {start n : Nat} {bytes : List UInt8}
    (h : indexRange data start n = .ok bytes) :
    data.drop start = bytes ++ data.drop (start + n) ∧ bytes.length = n := by
  induction n generalizing start bytes with
  | zero => cases h; simp
  | succ n ih =>
    obtain ⟨b, hb, bs, hbs, rfl⟩ : ∃ b, index data start = .ok b ∧ ∃ bs,
        indexRange data (start + 1) n = .ok bs ∧ b :: bs = bytes := by
      simpa [indexRange, bind_eq_ok, pure, Except.pure] using h
    obtain ⟨hd, hl⟩ := ih hbs
    refine ⟨?_, by simp [hl]⟩
    rw [drop_of_index hb, hd, show start + 1 + n = start + (n + 1) by omega]
    rfl

theorem drop_of_slice {data : List UInt8} {start stop : Nat} {bytes : List UInt8}
    (h : slice data start stop = .ok bytes) :
    data.drop start = bytes ++ data.drop stop ∧ bytes.length = stop - start := by
  unfold slice at h
  split at h
  · cases h
    refine ⟨?_, by simp; omega⟩
    conv => lhs; rw [← List.take_append_drop (stop - start) (data.drop start)]
    rw [List.drop_drop, show start + (stop - start) = stop by omega]
  · cases h

theorem decodeRecipient_eq_ok {data : List UInt8} {flags : MessageFlags} {offset next : Nat}
    {recipient : Option (Mathlib.Vector UInt8 8)}
    (h : decodeRecipient data flags offset = .ok (recipient, next)) :
    flags.hasRecipient = recipient.isSome ∧ next = offset + (sectionBytes recipient).length ∧
      data.drop offset = sectionBytes recipient ++ data.drop next := by
  unfold decodeRecipient at h
  split at h
  · rename_i hf
    obtain ⟨_, -, bytes, hs, r, hr, h⟩ := by simpa only [bind_eq_ok] using h
    cases h
    rw [copyFromSlice_eq_ok] at hr
    subst hr
    simp [hf, sectionBytes, (drop_of_slice hs).1]
  · rename_i hf
    cases h
    simp [hf, sectionBytes]

theorem decodeSignature_eq_ok {data : List UInt8} {flags : MessageFlags} {offset : Nat}
    {signature : Option (Mathlib.Vector UInt8 64)}
    (h : decodeSignature data flags offset = .ok signature) :
    flags.hasSignature = signature.isSome ∧ data.drop offset =
      sectionBytes signature ++ data.drop (offset + (sectionBytes signature).length) := by
  unfold decodeSignature at h
  split at h
  · rename_i hf
    obtain ⟨_, -, bytes, hs, g, hg, h⟩ := by simpa only [bind_eq_ok] using h
    cases h
    rw [copyFromSlice_eq_ok] at hg
    subst hg
    simp [hf, sectionBytes, (drop_of_slice hs).1]
  · rename_i hf
    cases h
    simp [hf, sectionBytes]

/-- Whatever `decode` accepts is a well-formed frame, with any byte in its type field, followed
by any bytes at all. -/
theorem decode_eq_ok_frame {id : Uuid} {data : List UInt8} {m : ProtocolMessage}
    (h : decode id data = .ok m) : m.WellFormed ∧ m.id = id ∧ m.payload.length < 65536 ∧
      ∃ t rest, MessageType.ofByte t = m.messageType ∧
        data = (frameBytes m).set 1 t ++ rest := by
  simp only [decode, bind_eq_ok, bailIf_eq_ok] at h
  obtain ⟨_, -, v, h0, _, hv, t, h1, ttl, h2, ts, h3, fb, h11, _, -, pl, h12, _, -, sd, h14,
    sid, hsid, ⟨r, off⟩, hrec, _, -, p, hpay, g, hsig, hm⟩ := h
  simp only [pure, Except.pure, Except.ok.injEq] at hm
  subst hm
  dsimp only at hpay hsig ⊢
  obtain ⟨hR, -, drec⟩ := decodeRecipient_eq_ok hrec
  obtain ⟨d3, l3⟩ := drop_of_indexRange h3
  obtain ⟨d12, l12⟩ := drop_of_indexRange h12
  obtain ⟨d14, -⟩ := drop_of_slice h14
  obtain ⟨dpay, lpay⟩ := drop_of_slice hpay
  rw [Nat.add_sub_cancel_left] at lpay
  rw [← lpay] at dpay hsig
  obtain ⟨hS, dsig⟩ := decodeSignature_eq_ok hsig
  rw [copyFromSlice_eq_ok] at hsid
  have hplen : p.length < 65536 := lpay ▸ UInt16.toNat_lt_size _
  refine ⟨⟨not_not.mp hv, MessageFlags.fromByte_reserved_lt fb, hR, hS⟩, rfl, hplen, t,
    data.drop (off + p.length + (sectionBytes g).length), rfl, ?_⟩
  have d0 : data.drop 0 = v :: data.drop 1 := drop_of_index h0
  have d1 : data.drop 1 = t :: data.drop 2 := drop_of_index h1
  have d2 : data.drop 2 = ttl :: data.drop 3 := drop_of_index h2
  have d11 : data.drop 11 = fb :: data.drop 12 := drop_of_index h11
  rw [frameBytes_set_append]
  dsimp only
  rw [toBeBytes_toNat_fromBeBytes_toUInt64 l3, MessageFlags.toByte_fromByte,
    toNat_toUInt16, Nat.mod_eq_of_lt hplen, lpay, toBeBytes_toNat_fromBeBytes_toUInt16 l12,
    ← lpay, hsid,
    ← dsig, ← dpay, ← drec, ← d14, ← d12, List.singleton_append, ← d11, ← d3]
  rw [List.cons_append, List.cons_append, List.cons_append, List.nil_append, ← d2, ← d1, ← d0,
    List.drop_zero]


/-- `decode` accepts exactly the well-formed frames, with any byte in the type field, followed by
any bytes at all. -/
theorem decode_eq_ok_iff {id : Uuid} {data : List UInt8} {m : ProtocolMessage} :
    decode id data = .ok m ↔ m.WellFormed ∧ m.id = id ∧ m.payload.length < 65536 ∧
      ∃ t rest, MessageType.ofByte t = m.messageType ∧
        data = (frameBytes m).set 1 t ++ rest := by
  refine ⟨decode_eq_ok_frame, ?_⟩
  rintro ⟨h, rfl, hp, t, rest, ht, rfl⟩
  rw [decode_frame_append m.id h hp t rest, ht]

theorem decode_trailing_byte :
    decode ⟨0⟩
        (frameBytes (createAnnounce ⟨0⟩ 0 (Mathlib.Vector.replicate 8 7) []) ++ [0]) =
        .ok (createAnnounce ⟨0⟩ 0 (Mathlib.Vector.replicate 8 7) []) ∧
      encode (createAnnounce ⟨0⟩ 0 (Mathlib.Vector.replicate 8 7) []) ≠
        .ok (frameBytes (createAnnounce ⟨0⟩ 0 (Mathlib.Vector.replicate 8 7) []) ++ [0]) := by
  refine ⟨rfl, fun h => ?_⟩
  obtain ⟨h, -⟩ := encode_eq_ok.mp h
  simpa using congrArg List.length h

/-- What `encode` produces, `decode` reads back: every field but the locally minted id. -/
theorem decode_encode (id : Uuid) {m : ProtocolMessage} (h : m.WellFormed) {bytes : List UInt8}
    (he : encode m = .ok bytes) : decode id bytes = .ok { m with id := id } := by
  obtain ⟨rfl, hl⟩ := encode_eq_ok.mp he
  have hp : m.payload.length < 65536 := by
    rw [length_frameBytes] at hl
    simp only [maxPayloadSize] at hl
    omega
  simpa [frameBytes_set_toByte] using decode_frame_append id h hp m.messageType.toByte []

theorem decode_encode_announce :
    encode (createAnnounce ⟨0⟩ 0 (Mathlib.Vector.replicate 8 7) [104, 105]) =
        .ok (frameBytes (createAnnounce ⟨0⟩ 0 (Mathlib.Vector.replicate 8 7) [104, 105])) ∧
      decode ⟨1⟩
          (frameBytes (createAnnounce ⟨0⟩ 0 (Mathlib.Vector.replicate 8 7) [104, 105])) =
        .ok { createAnnounce ⟨0⟩ 0 (Mathlib.Vector.replicate 8 7) [104, 105] with
          id := ⟨1⟩ } :=
  have he := encode_eq_ok.mpr ⟨rfl, by decide⟩
  ⟨he, decode_encode ⟨1⟩ (ProtocolMessage.wellFormed_new ..) he⟩

/-! Panic freedom: every read of `decode` is behind a guard that covers it. -/

/-- The computation returns a value or an error the source returns, never a panic. -/
def NoPanic {α : Type} (x : Except DecodeError α) : Prop :=
  ∀ e, x = .error e → e.isPanic = false

theorem noPanic_ok {α : Type} (a : α) : NoPanic (.ok a : Except DecodeError α) :=
  fun _ h => by cases h

theorem noPanic_bind {α β : Type} {x : Except DecodeError α} {f : α → Except DecodeError β}
    (hx : NoPanic x) (hf : ∀ a, x = .ok a → NoPanic (f a)) : NoPanic (x >>= f) := by
  intro e h
  cases hxa : x with
  | error e' => rw [hxa] at h; cases h; exact hx _ hxa
  | ok a => rw [hxa] at h; exact hf a hxa e h

theorem noPanic_bailIf {c : Prop} [Decidable c] {e : DecodeError} (he : e.isPanic = false) :
    NoPanic (bailIf c e) := by
  unfold bailIf
  split
  · intro e' h; cases h; exact he
  · exact noPanic_ok _

theorem index_of_lt {data : List UInt8} {i : Nat} (h : i < data.length) :
    index data i = .ok data[i] := by
  simp [index, h]

theorem noPanic_copySlice {data : List UInt8} {offset : Nat} (n : Nat)
    (h : offset + n ≤ data.length) {α : Type} {f : Mathlib.Vector UInt8 n → Except DecodeError α}
    (hf : ∀ v, NoPanic (f v)) :
    NoPanic (do let v ← copyFromSlice n (← slice data offset (offset + n)); f v) := by
  rw [slice_eq (by omega) h, ok_bind, copyFromSlice_eq (by simp; omega), ok_bind]
  exact hf _

theorem noPanic_decodeRecipient (data : List UInt8) (flags : MessageFlags) (offset : Nat) :
    NoPanic (decodeRecipient data flags offset) := by
  unfold decodeRecipient
  split
  · exact noPanic_bind (noPanic_bailIf rfl) fun _ h => noPanic_copySlice 8
      (by rw [bailIf_eq_ok] at h; omega) fun _ => noPanic_ok _
  · exact noPanic_ok _

theorem noPanic_decodeSignature (data : List UInt8) (flags : MessageFlags) (offset : Nat) :
    NoPanic (decodeSignature data flags offset) := by
  unfold decodeSignature
  split
  · exact noPanic_bind (noPanic_bailIf rfl) fun _ h => noPanic_copySlice 64
      (by rw [bailIf_eq_ok] at h; omega) fun _ => noPanic_ok _
  · exact noPanic_ok _

/-! Reading within the buffer: nothing past byte `30 + 65535 + 64`. -/

theorem bind_congr_ok {α β : Type} {x x' : Except DecodeError α} {f g : α → Except DecodeError β}
    (hx : x = x') (hf : ∀ a, x = .ok a → f a = g a) : x >>= f = x' >>= g := by
  subst hx
  cases x with
  | error e => rfl
  | ok a => exact hf a rfl

section

variable {data rest : List UInt8}

theorem bailIf_append {x : Nat} (h : x ≤ data.length) (e : DecodeError) :
    bailIf (x > (data ++ rest).length) e = bailIf (x > data.length) e := by
  rw [bailIf_of_not (by simp; omega), bailIf_of_not (by omega)]

theorem index_append_of_lt {i : Nat} (h : i < data.length) :
    index (data ++ rest) i = index data i := by
  rw [index_of_lt h, index_of_lt (by simp; omega), List.getElem_append_left]

theorem indexRange_append_of_le {a n : Nat} (h : a + n ≤ data.length) :
    indexRange (data ++ rest) a n = indexRange data a n := by
  induction n generalizing a with
  | zero => rfl
  | succ n ih => simp only [indexRange, index_append_of_lt (show a < data.length by omega),
      ih (show a + 1 + n ≤ data.length by omega)]

theorem slice_append_of_le {a b : Nat} (hab : a ≤ b) (h : b ≤ data.length) :
    slice (data ++ rest) a b = slice data a b := by
  rw [slice_eq hab (by simp; omega), slice_eq hab h,
    List.drop_append_of_le_length (by omega), List.take_append_of_le_length (by simp; omega)]

theorem decodeRecipient_append {flags : MessageFlags} {offset : Nat}
    (h : offset + 8 ≤ data.length) :
    decodeRecipient (data ++ rest) flags offset = decodeRecipient data flags offset := by
  unfold decodeRecipient
  split
  · rw [bailIf_append h, slice_append_of_le (by omega) h]
  · rfl

theorem le_of_decodeRecipient {flags : MessageFlags} {offset offset' : Nat}
    {recipient : Option (Mathlib.Vector UInt8 8)}
    (h : decodeRecipient data flags offset = .ok (recipient, offset')) : offset' ≤ offset + 8 := by
  unfold decodeRecipient at h
  split at h
  · obtain ⟨_, -, h⟩ := bind_eq_ok.mp h
    obtain ⟨_, -, h⟩ := bind_eq_ok.mp h
    obtain ⟨_, -, h⟩ := bind_eq_ok.mp h
    cases h
    omega
  · cases h
    omega

theorem decodeSignature_append {flags : MessageFlags} {offset : Nat}
    (h : offset + 64 ≤ data.length) :
    decodeSignature (data ++ rest) flags offset = decodeSignature data flags offset := by
  unfold decodeSignature
  split
  · rw [bailIf_append h, slice_append_of_le (by omega) h]
  · rfl

/-- `decode` reads nothing past byte `30 + 65535 + 64`: every offset it forms is at most that. -/
theorem decode_append_of_le (id : Uuid) (h : 30 + 65535 + 64 ≤ data.length) :
    decode id (data ++ rest) = decode id data := by
  unfold decode
  refine bind_congr_ok ?_ fun _ _ => ?_
  · rw [bailIf_of_not (by simp; omega), bailIf_of_not (by omega)]
  rw [index_append_of_lt (by omega)]
  refine bind_congr_ok rfl fun _ _ => bind_congr_ok rfl fun _ _ => ?_
  rw [index_append_of_lt (by omega), index_append_of_lt (by omega),
    indexRange_append_of_le (by omega), index_append_of_lt (by omega)]
  refine bind_congr_ok rfl fun _ _ => bind_congr_ok rfl fun _ _ => bind_congr_ok rfl
    fun _ _ => bind_congr_ok rfl fun _ _ => bind_congr_ok (bailIf_append (by omega) _) fun _ _ => ?_
  rw [indexRange_append_of_le (by omega)]
  refine bind_congr_ok rfl fun bs _ => bind_congr_ok (bailIf_append (by omega) _) fun _ _ => ?_
  rw [slice_append_of_le (by omega) (by omega)]
  refine bind_congr_ok rfl fun _ _ => bind_congr_ok rfl fun _ _ => ?_
  dsimp only
  refine bind_congr_ok (decodeRecipient_append (by omega)) fun ⟨recipientId, offset⟩ hr => ?_
  have hoff := le_of_decodeRecipient hr
  have hlen : (fromBeBytes bs).toUInt16.toNat < 65536 := UInt16.toNat_lt_size _
  refine bind_congr_ok (bailIf_append (by omega) _) fun _ _ => ?_
  rw [slice_append_of_le (by omega) (by omega)]
  refine bind_congr_ok rfl fun _ _ => ?_
  dsimp only
  rw [decodeSignature_append (by omega)]

end

theorem noPanic_decode (id : Uuid) (data : List UInt8) : NoPanic (decode id data) := by
  unfold decode
  refine noPanic_bind (noPanic_bailIf rfl) fun _ h13 => ?_
  rw [bailIf_eq_ok] at h13
  rw [index_of_lt (by omega), ok_bind]
  refine noPanic_bind (noPanic_bailIf rfl) fun _ _ => ?_
  rw [index_of_lt (by omega), ok_bind, index_of_lt (by omega), ok_bind,
    indexRange_eq (by omega), ok_bind, index_of_lt (by omega), ok_bind]
  refine noPanic_bind (noPanic_bailIf rfl) fun _ h14 => ?_
  rw [bailIf_eq_ok] at h14
  rw [indexRange_eq (by omega), ok_bind]
  refine noPanic_bind (noPanic_bailIf rfl) fun _ h22 => ?_
  refine noPanic_copySlice 8 (by rw [bailIf_eq_ok] at h22; omega) fun _ => ?_
  refine noPanic_bind (noPanic_decodeRecipient _ _ _) fun _ _ => ?_
  refine noPanic_bind (noPanic_bailIf rfl) fun _ hp => ?_
  rw [bailIf_eq_ok] at hp
  rw [slice_eq (by omega) (by omega), ok_bind]
  exact noPanic_bind (noPanic_decodeSignature _ _ _) fun _ _ => noPanic_ok _

/-- Whatever bytes a peer sends, `decode` returns a message or one of its own errors: the length
check covers the 12 header bytes, and the checks on `offset + 2`, `offset + 8`,
`offset + payload_len` and `offset + 64` cover every later index, range and `copy_from_slice`.
No offset it forms passes `30 + 65535 + 64`, since `payload_len` is a `u16`: on a buffer that
long, the bytes after it change nothing, and no `usize` sum comes near overflow. -/
theorem decode_noPanic (id : Uuid) (data : List UInt8) :
    NoPanic (decode id data) ∧
      ∀ rest, 30 + 65535 + 64 ≤ data.length → decode id (data ++ rest) = decode id data :=
  ⟨noPanic_decode id data, fun _ h => decode_append_of_le id h⟩

theorem decode_empty_no_panic :
    decode ⟨0⟩ [] = .error .tooShort ∧ DecodeError.tooShort.isPanic = false :=
  ⟨rfl, (decode_noPanic ⟨0⟩ []).1 _ rfl⟩

/-! The size estimate against the encoder. -/

/-- On a message whose flags match its sections, the encoded frame is one byte longer than
`calculate_size`. -/
theorem length_frameBytes_eq_calculateSize {m : ProtocolMessage}
    (hR : m.flags.hasRecipient = m.recipientId.isSome)
    (hS : m.flags.hasSignature = m.signature.isSome) :
    (frameBytes m).length = m.calculateSize + 1 := by
  rw [length_frameBytes, length_sectionBytes, length_sectionBytes, ← hR, ← hS]
  unfold ProtocolMessage.calculateSize
  dsimp only
  split_ifs <;> omega

/-- `encode`'s output is one byte longer than `calculate_size` says, and `fits_in_ble_packet`
holds exactly when `encode` succeeds or the frame is 513 bytes, one past the limit. -/
theorem fitsInBlePacket_iff_encode {m : ProtocolMessage}
    (hR : m.flags.hasRecipient = m.recipientId.isSome)
    (hS : m.flags.hasSignature = m.signature.isSome) :
    (∀ bytes, encode m = .ok bytes → bytes.length = m.calculateSize + 1) ∧
      (m.fitsInBlePacket = true ↔
        (∃ bytes, encode m = .ok bytes) ∨ (frameBytes m).length = maxPayloadSize + 1) := by
  have hlen := length_frameBytes_eq_calculateSize hR hS
  refine ⟨fun bytes he => (encode_eq_ok.mp he).1 ▸ hlen, ?_⟩
  have hok : (∃ bytes, encode m = .ok bytes) ↔ (frameBytes m).length ≤ maxPayloadSize :=
    ⟨fun ⟨_, he⟩ => (encode_eq_ok.mp he).2, fun hl => ⟨_, encode_eq_ok.mpr ⟨rfl, hl⟩⟩⟩
  rw [hok, ProtocolMessage.fitsInBlePacket, decide_eq_true_iff]
  omega

/-- A user message with a 491-byte payload and no optional section: `calculate_size` is 512. -/
def messageOf513Bytes : ProtocolMessage :=
  createMessage ⟨0⟩ 0 (Mathlib.Vector.replicate 8 0) (List.replicate 491 0) none

theorem fits_but_encode_refuses :
    (messageOf513Bytes.flags.hasRecipient = messageOf513Bytes.recipientId.isSome ∧
      messageOf513Bytes.flags.hasSignature = messageOf513Bytes.signature.isSome) ∧
    messageOf513Bytes.fitsInBlePacket = true ∧
    encode messageOf513Bytes = .error (.tooLarge 513) :=
  have hlen : (frameBytes messageOf513Bytes).length = maxPayloadSize + 1 := by
    rw [length_frameBytes, show messageOf513Bytes.payload = List.replicate 491 0 from rfl,
      List.length_replicate]
    rfl
  ⟨⟨rfl, rfl⟩, (fitsInBlePacket_iff_encode rfl rfl).2.mpr (.inr hlen),
    by simp only [encode, hlen, maxPayloadSize]; rfl⟩

end Bitchat.Protocol
