import Mathlib.Data.List.AList

/-! What the Rust sources take from their runtime. A `Uuid` is the 128-bit identifier
`Uuid::new_v4()` mints; minting is an input of every operation that does it, as the clock
is: `SystemTime` and `Instant` are nanosecond counts and `now` is passed explicitly. The
`DashMap`s and `HashMap`s are finite maps with one entry per key; their iteration order is
unspecified in Rust, and the order of the entries here is one of the possible ones. -/

namespace Bitchat

structure Uuid where
  bits : BitVec 128
  deriving DecidableEq, Repr

def nanosPerSec : Nat := 1000000000

/-- `t.elapsed()` read at `now`; `none` is the `Err` Rust returns when the clock is behind `t`. -/
def elapsed (t now : Nat) : Option Nat := if t ≤ now then some (now - t) else none

def asSecs (d : Nat) : Nat := d / nanosPerSec

/-- `if let Some(x) = v.iter_mut().find(p) { f(x) }` -/
def updateFirst {α : Type} (p : α → Bool) (f : α → α) : List α → List α
  | [] => []
  | a :: l => if p a then f a :: l else a :: updateFirst p f l

theorem updateFirst_of_forall {α : Type} {p : α → Bool} (f : α → α) {l : List α}
    (h : ∀ a ∈ l, p a = false) : updateFirst p f l = l := by
  induction l with
  | nil => rfl
  | cons a l ih =>
    simp only [List.mem_cons, forall_eq_or_imp] at h
    simp [updateFirst, h.1, ih h.2]

theorem map_updateFirst {α β : Type} (p : α → Bool) {f : α → α} (g : α → β)
    (hf : ∀ a, p a = true → g (f a) = g a) (l : List α) :
    (updateFirst p f l).map g = l.map g := by
  induction l with
  | nil => rfl
  | cons a l ih => by_cases h : p a <;> simp [updateFirst, h, hf, ih]

theorem find?_updateFirst {α : Type} {p : α → Bool} {f : α → α}
    (hf : ∀ a, p a = true → p (f a) = true) (l : List α) :
    (updateFirst p f l).find? p = (l.find? p).map f := by
  induction l with
  | nil => rfl
  | cons a l ih => by_cases h : p a <;> simp [updateFirst, h, hf, ih]

theorem find?_updateFirst_of_disjoint {α : Type} {p q : α → Bool} {f : α → α}
    (h : ∀ a, p a = true → q a = false ∧ q (f a) = false) (l : List α) :
    (updateFirst p f l).find? q = l.find? q := by
  induction l with
  | nil => rfl
  | cons a l ih =>
    by_cases hp : p a
    · simp [updateFirst, hp, (h a hp).1, (h a hp).2]
    · rw [updateFirst, if_neg hp, List.find?_cons, List.find?_cons, ih]

theorem utf8ByteSize_go_append (l l' : List Char) :
    String.utf8ByteSize.go (l ++ l') = String.utf8ByteSize.go l + String.utf8ByteSize.go l' := by
  induction l with
  | nil => exact (Nat.zero_add _).symm
  | cons c l ih =>
    show String.utf8ByteSize.go (l ++ l') + c.utf8Size =
      String.utf8ByteSize.go l + c.utf8Size + String.utf8ByteSize.go l'
    omega

abbrev DashMap (K V : Type) := AList (fun _ : K => V)

namespace DashMap

variable {K V : Type} [DecidableEq K]

/-- `if let Some(mut v) = map.get_mut(&k) { f(v) }`. -/
def modify (k : K) (f : V → V) (m : DashMap K V) : DashMap K V :=
  match m.lookup k with
  | some v => m.insert k (f v)
  | none => m

/-- `for k in keys { map.remove(&k); }` -/
def eraseAll (keys : List K) (m : DashMap K V) : DashMap K V :=
  keys.foldl (fun m k => m.erase k) m

/-- The keys of the entries `doomed` selects, collected by one pass over the map. -/
def keysWhere (doomed : K → V → Bool) (m : DashMap K V) : List K :=
  (m.entries.filter fun e => doomed e.1 e.2).map (·.1)

theorem lookup_modify (k k' : K) (f : V → V) (m : DashMap K V) :
    (m.modify k f).lookup k' = if k' = k then (m.lookup k).map f else m.lookup k' := by
  unfold modify
  split <;> rename_i h <;> split_ifs with e
  · subst e; simp [AList.lookup_insert, h]
  · exact AList.lookup_insert_ne e
  · subst e; simp [h]
  · rfl

@[simp] theorem lookup_modify_self (k : K) (f : V → V) (m : DashMap K V) :
    (m.modify k f).lookup k = (m.lookup k).map f := by
  simp [lookup_modify]

@[simp] theorem mem_modify (k k' : K) (f : V → V) (m : DashMap K V) :
    k' ∈ m.modify k f ↔ k' ∈ m := by
  simp only [← AList.lookup_isSome, lookup_modify]
  split_ifs with e
  · subst e; simp
  · rfl

theorem mem_entries_map_snd (m : DashMap K V) (v : V) :
    v ∈ m.entries.map (·.2) ↔ ∃ k, m.lookup k = some v := by
  simp only [List.mem_map]
  constructor
  · rintro ⟨⟨k, v⟩, h, rfl⟩
    exact ⟨k, AList.mem_lookup_iff.mpr h⟩
  · rintro ⟨k, h⟩
    exact ⟨⟨k, v⟩, AList.mem_lookup_iff.mp h, rfl⟩

theorem lookup_eraseAll (keys : List K) (k : K) (m : DashMap K V) :
    (m.eraseAll keys).lookup k = if k ∈ keys then none else m.lookup k := by
  induction keys generalizing m with
  | nil => simp [eraseAll]
  | cons k' keys ih =>
    simp only [eraseAll, List.foldl_cons] at ih ⊢
    rw [ih]
    by_cases e : k = k'
    · subst e; simp [AList.lookup_erase]
    · simp [e, AList.lookup_erase_ne e]

theorem mem_keysWhere (doomed : K → V → Bool) (k : K) (m : DashMap K V) :
    k ∈ m.keysWhere doomed ↔ ∃ v, m.lookup k = some v ∧ doomed k v := by
  simp only [keysWhere, List.mem_map, List.mem_filter]
  constructor
  · rintro ⟨⟨k, v⟩, ⟨hm, hd⟩, rfl⟩
    exact ⟨v, AList.mem_lookup_iff.mpr hm, hd⟩
  · rintro ⟨v, hl, hd⟩
    exact ⟨⟨k, v⟩, ⟨AList.mem_lookup_iff.mp hl, hd⟩, rfl⟩

theorem lookup_eraseAll_keysWhere (doomed : K → V → Bool) (k : K) (m : DashMap K V) :
    (m.eraseAll (m.keysWhere doomed)).lookup k = (m.lookup k).filter (fun v => !doomed k v) := by
  rw [lookup_eraseAll]
  split_ifs with h
  · obtain ⟨v, hl, hd⟩ := (mem_keysWhere doomed k m).mp h
    simp [hl, hd, Option.filter]
  · cases hl : m.lookup k with
    | none => rfl
    | some v =>
      have : doomed k v = false := by
        by_contra hd
        exact h ((mem_keysWhere doomed k m).mpr ⟨v, hl, by simpa using hd⟩)
      simp [Option.filter, this]

end DashMap

end Bitchat
