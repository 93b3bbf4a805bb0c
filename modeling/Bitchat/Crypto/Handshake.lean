import Bitchat.Crypto.Noise

/-! Two `NoiseEngine`s, `a` and `b`, running the handshake with each other. Every message a call
returns is put in flight, addressed to the other party under the message type its text names,
and is delivered to that party's `process_handshake_message` exactly once, in any order. The
environment is ours: the source has no transport for these messages. -/

namespace Bitchat.Crypto

inductive Party
  | a
  | b
  deriving DecidableEq, Repr

def Party.other : Party → Party
  | .a => .b
  | .b => .a

/-- The message type a handshake text travels under. -/
def messageTypeOf (body : List UInt8) : UInt8 :=
  if body = noiseInit then 0x10 else if body = noiseResponse then 0x11 else 0x12

@[simp] theorem messageTypeOf_noiseInit : messageTypeOf noiseInit = 0x10 := by decide

@[simp] theorem messageTypeOf_noiseResponse : messageTypeOf noiseResponse = 0x11 := by decide

@[simp] theorem messageTypeOf_noiseFinish : messageTypeOf noiseFinish = 0x12 := by decide

structure Packet where
  recipient : Party
  messageType : UInt8
  body : List UInt8
  deriving DecidableEq

structure Exchange where
  a : NoiseEngine
  b : NoiseEngine
  inFlight : List Packet

inductive Event
  /-- The party calls `start_handshake` for the other one. -/
  | start (x : Party) (now : Nat)
  /-- The `i`-th message in flight arrives. -/
  | deliver (i : Nat) (now : Nat)

namespace Exchange

def init : Exchange := ⟨NoiseEngine.new, NoiseEngine.new, []⟩

def engine (s : Exchange) : Party → NoiseEngine
  | .a => s.a
  | .b => s.b

def setEngine (s : Exchange) : Party → NoiseEngine → Exchange
  | .a, e => { s with a := e }
  | .b, e => { s with b := e }

@[simp] theorem inFlight_setEngine (s : Exchange) (x : Party) (e : NoiseEngine) :
    (s.setEngine x e).inFlight = s.inFlight := by
  cases x <;> rfl

section

/- `idA` is `a`'s id, under which `b` keeps its session, and `idB` is `b`'s. -/
variable (idA idB : PeerId)

/-- The id under which a party keeps its session with the other one. -/
def peerOf : Party → PeerId
  | .a => idB
  | .b => idA

/-- A packet handed to its addressee's `process_handshake_message`; the reply, if any, goes
back to the sender. -/
def receive (s : Exchange) (pk : Packet) (now : Nat) : Exchange :=
  match (s.engine pk.recipient).processHandshakeMessage (peerOf idA idB pk.recipient) pk.body
      pk.messageType now with
  | .ok (e', reply) =>
    { s.setEngine pk.recipient e' with
      inFlight :=
        s.inFlight ++ (reply.map fun r => ⟨pk.recipient.other, messageTypeOf r, r⟩).toList }
  | .error _ => s

def step (s : Exchange) : Event → Exchange
  | .start x now =>
    let (e', initMessage) := (s.engine x).startHandshake (peerOf idA idB x) now
    { s.setEngine x e' with
      inFlight := s.inFlight ++ [⟨x.other, messageTypeOf initMessage, initMessage⟩] }
  | .deliver i now =>
    match s.inFlight[i]? with
    | some pk => { s with inFlight := s.inFlight.eraseIdx i }.receive idA idB pk now
    | none => s

def run (s : Exchange) (events : List Event) : Exchange := events.foldl (step idA idB) s

@[simp] theorem run_append_singleton (s : Exchange) (events : List Event) (ev : Event) :
    s.run idA idB (events ++ [ev]) = (s.run idA idB events).step idA idB ev := by
  simp [run]

/-- A packet of an exchange `b` never started: NoiseResponses, and only they, go to `a`. -/
def Allowed (pk : Packet) : Prop := pk.messageType = 0x11 ↔ pk.recipient = .a

/-- The initiator's side of an exchange `b` never started: every message in flight is allowed,
and `a`'s session is not complete. -/
structure OneSided (s : Exchange) : Prop where
  allowed : ∀ pk ∈ s.inFlight, Allowed pk
  incomplete : s.a.getSessionStatus idB ≠ some .complete

theorem oneSided_init : OneSided idB init :=
  ⟨by simp [init], by simp [init, NoiseEngine.new, NoiseEngine.getSessionStatus]⟩

variable {idA idB}

theorem recipient_eq_b {pk : Packet} (h : Allowed pk) (ht : pk.messageType ≠ 0x11) :
    pk.recipient = .b := by
  cases hr : pk.recipient
  · exact absurd (h.mpr hr) ht
  · rfl

theorem oneSided_receive {s : Exchange} {pk : Packet} {now : Nat} (h : OneSided idB s)
    (hpk : Allowed pk) : OneSided idB (s.receive idA idB pk now) := by
  unfold receive
  split
  · rename_i e' reply hr
    rcases (NoiseEngine.processHandshakeMessage_eq_ok hr).2 with
      ⟨ht, -, rfl⟩ | ⟨-, ht, hs, rfl⟩ | ⟨-, ht, -, rfl⟩
    · -- a NoiseInit reaches `b`, which answers `a` with a NoiseResponse
      rw [recipient_eq_b hpk (by rw [ht]; decide)]
      refine ⟨?_, h.incomplete⟩
      simp only [inFlight_setEngine, Option.map_some', Option.toList_some, List.mem_append,
        List.mem_singleton]
      rintro q (hq | rfl)
      exacts [h.allowed q hq, by simp [Allowed, Party.other]]
    · -- a NoiseResponse reaches `a`, which answers `b` with a NoiseFinish
      rw [hpk.mp ht] at hs ⊢
      refine ⟨?_, by simp only [peerOf] at hs; simp [setEngine, hs]⟩
      simp only [inFlight_setEngine, Option.map_some', Option.toList_some, List.mem_append,
        List.mem_singleton]
      rintro q (hq | rfl)
      exacts [h.allowed q hq, by simp [Allowed, Party.other]]
    · -- a NoiseFinish reaches `b`, which does not answer
      rw [recipient_eq_b hpk (by rw [ht]; decide)]
      exact ⟨by simpa using h.allowed, h.incomplete⟩
  · exact h

theorem oneSided_step {s : Exchange} {ev : Event} (h : OneSided idB s)
    (hev : ∀ now, ev ≠ .start .b now) : OneSided idB (s.step idA idB ev) := by
  cases ev with
  | start x now =>
    cases x with
    | a =>
      refine ⟨?_, ?_⟩
      · simp only [step, inFlight_setEngine, List.mem_append, List.mem_singleton]
        rintro q (hq | rfl)
        exacts [h.allowed q hq, by simp [Allowed, Party.other, NoiseEngine.startHandshake,
          NoiseSession.initializeHandshake]]
      · simp [step, setEngine, engine, peerOf, NoiseEngine.getSessionStatus_startHandshake]
    | b => exact absurd rfl (hev now)
  | deliver i now =>
    simp only [step]
    split
    · rename_i pk hpk
      exact oneSided_receive
        ⟨fun q hq => h.allowed q (List.mem_of_mem_eraseIdx hq), h.incomplete⟩
        (h.allowed pk (List.getElem?_mem hpk))
    · exact h

/-- If `b` never calls `start_handshake`, `a`'s session for `b` is never complete, in any
order of deliveries: `a` only ever receives NoiseResponses, and no message type but
NoiseFinish completes a session. -/
theorem initiator_never_completes {events : List Event}
    (hev : ∀ ev ∈ events, ∀ now, ev ≠ .start .b now) :
    (init.run idA idB events).a.getSessionStatus idB ≠ some .complete := by
  suffices OneSided idB (init.run idA idB events) from this.incomplete
  induction events using List.reverseRecOn with
  | nil => exact oneSided_init idB
  | append_singleton events ev ih =>
    rw [run_append_singleton]
    exact oneSided_step (ih fun e he => hev e (List.mem_append_left _ he))
      (hev ev (List.mem_append_right _ (List.mem_singleton_self _)))

theorem initiator_never_completes_scripted :
    (init.run (Mathlib.Vector.replicate 8 1) (Mathlib.Vector.replicate 8 2)
        [.start .a 0, .deliver 0 0, .deliver 0 0, .deliver 0 0]).a.getSessionStatus
      (Mathlib.Vector.replicate 8 2) ≠ some .complete :=
  initiator_never_completes (by simp)

end

/-- The handshake `a` starts, with each of its three messages delivered once: `b` ends complete,
`a` waits in `InitiatorSendingFinish` with nothing left in flight. -/
theorem handshake_leaves_initiator_waiting (idA idB : PeerId) (now : Nat) :
    (init.run idA idB [.start .a now, .deliver 0 now, .deliver 0 now, .deliver 0 now]).inFlight =
        [] ∧
      (init.run idA idB [.start .a now, .deliver 0 now, .deliver 0 now,
        .deliver 0 now]).a.getSessionStatus idB = some .initiatorSendingFinish ∧
      (init.run idA idB [.start .a now, .deliver 0 now, .deliver 0 now,
        .deliver 0 now]).b.getSessionStatus idA = some .complete := by
  simp [run, step, receive, engine, setEngine, peerOf, Party.other, init,
    NoiseEngine.startHandshake, NoiseEngine.processHandshakeMessage, NoiseEngine.getSessionStatus,
    NoiseEngine.new, NoiseEngine.setSession, NoiseSession.initializeHandshake,
    NoiseSession.newInitiator, NoiseSession.newResponder, -AList.insert_empty, AList.lookup_insert]

end Exchange

end Bitchat.Crypto
