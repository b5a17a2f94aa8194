import Mathlib.Data.List.Basic
import Mathlib.Algebra.Order.Ring.Nat

/-!
# Byte buffers and little-endian words

* `le32`, `ofLe32` and `le16`, `ofLe16` — a little-endian word and its bytes; the two directions
  are inverse to each other. `le64` — the two words of a long one.
* `packed` — consecutive words; `exists_packed` — every buffer of whole words is one.
* `fetch32`, `fetch16`, `fetchBytes`, `store` — reads and writes at an index, which stop with
  `outOfBounds` when they leave the buffer.
* `Contained` — work that refuses its data or delivers, and never leaves the buffer.
* `foldlM_ok`, `foldlM_some`, `mapM_some` — a loop each turn of which delivers; `mem_of_mapM`,
  `map_of_mapM` — what one collected.
-/

set_option autoImplicit false

namespace SmwRecomp

abbrev Bytes := List UInt8

/-- Why work on a buffer stops: the code refuses the data, or it would have left the buffer, or
an unsigned difference would have wrapped. -/
inductive Stop where
  | refused
  | outOfBounds
  | underflow
  deriving DecidableEq, Repr

/-- `if (c) return false;`. -/
def refuseIf (c : Prop) [Decidable c] : Except Stop Unit := if c then .error .refused else .ok ()

theorem refuseIf_pos {c : Prop} [Decidable c] (h : c) : refuseIf c = .error .refused := if_pos h

theorem refuseIf_neg {c : Prop} [Decidable c] (h : ¬ c) : refuseIf c = .ok () := if_neg h

@[simp] theorem ok_bind {α β : Type} (a : α) (f : α → Except Stop β) :
    (Except.ok a >>= f) = f a := rfl

@[simp] theorem error_bind {α β : Type} (stop : Stop) (f : α → Except Stop β) :
    ((Except.error stop : Except Stop α) >>= f) = .error stop := rfl

/-! ## Words -/

/-- The four little-endian bytes of a word. -/
def le32 (w : UInt32) : Bytes :=
  [w.toUInt8, (w >>> 8).toUInt8, (w >>> 16).toUInt8, (w >>> 24).toUInt8]

def ofLe32 (a b c d : UInt8) : UInt32 :=
  a.toUInt32 ||| (b.toUInt32 <<< 8) ||| (c.toUInt32 <<< 16) ||| (d.toUInt32 <<< 24)

/-- The two little-endian bytes of a half word. -/
def le16 (w : UInt16) : Bytes := [w.toUInt8, (w >>> 8).toUInt8]

def ofLe16 (a b : UInt8) : UInt16 := a.toUInt16 ||| (b.toUInt16 <<< 8)

@[simp] theorem le32_length (w : UInt32) : (le32 w).length = 4 := rfl

@[simp] theorem le16_length (w : UInt16) : (le16 w).length = 2 := rfl

theorem ofLe32_le32 (w : UInt32) :
    ofLe32 w.toUInt8 (w >>> 8).toUInt8 (w >>> 16).toUInt8 (w >>> 24).toUInt8 = w := by
  unfold ofLe32
  apply UInt32.toBitVec_inj.1
  ext i hi
  simp [-UInt32.toUInt32_toUInt8]
  grind

theorem le32_ofLe32 (a b c d : UInt8) : le32 (ofLe32 a b c d) = [a, b, c, d] := by
  have h₀ : (ofLe32 a b c d).toUInt8 = a := by
    apply UInt8.toBitVec_inj.1
    ext i hi
    simp [ofLe32]
  have h₁ : (ofLe32 a b c d >>> 8).toUInt8 = b := by
    apply UInt8.toBitVec_inj.1
    ext i hi
    simp [ofLe32]
    grind
  have h₂ : (ofLe32 a b c d >>> 16).toUInt8 = c := by
    apply UInt8.toBitVec_inj.1
    ext i hi
    simp [ofLe32]
    grind
  have h₃ : (ofLe32 a b c d >>> 24).toUInt8 = d := by
    apply UInt8.toBitVec_inj.1
    ext i hi
    simp [ofLe32]
    grind
  rw [le32, h₀, h₁, h₂, h₃]

theorem ofLe16_le16 (w : UInt16) : ofLe16 w.toUInt8 (w >>> 8).toUInt8 = w := by
  unfold ofLe16
  apply UInt16.toBitVec_inj.1
  ext i hi
  simp [-UInt16.toUInt16_toUInt8]
  grind

/-- The eight little-endian bytes of a long word. -/
def le64 (w : UInt64) : Bytes := le32 w.toUInt32 ++ le32 (w >>> 32).toUInt32

def ofLe64 (low high : UInt32) : UInt64 := low.toUInt64 ||| (high.toUInt64 <<< 32)

@[simp] theorem le64_length (w : UInt64) : (le64 w).length = 8 := rfl

theorem ofLe64_le64 (w : UInt64) : ofLe64 w.toUInt32 (w >>> 32).toUInt32 = w := by
  unfold ofLe64
  apply UInt64.toBitVec_inj.1
  ext i hi
  simp [-UInt64.toUInt64_toUInt32]
  grind

/-! ## Buffers of whole words -/

/-- Consecutive words. -/
def packed (ws : List UInt32) : Bytes := ws.flatMap le32

@[simp] theorem packed_nil : packed [] = [] := rfl

@[simp] theorem packed_cons (w : UInt32) (ws : List UInt32) :
    packed (w :: ws) = le32 w ++ packed ws := rfl

@[simp] theorem packed_append (ws vs : List UInt32) : packed (ws ++ vs) = packed ws ++ packed vs :=
  List.flatMap_append

@[simp] theorem packed_length (ws : List UInt32) : (packed ws).length = 4 * ws.length := by
  induction ws with
  | nil => rfl
  | cons w ws ih => rw [packed_cons, List.length_append, ih, le32_length, List.length_cons]; omega

theorem exists_packed : ∀ (n : Nat) (bs : Bytes), bs.length = 4 * n →
    ∃ ws, ws.length = n ∧ packed ws = bs
  | 0, bs, h => ⟨[], rfl, (List.length_eq_zero_iff.1 h).symm⟩
  | n + 1, bs, h => by
    match bs, h with
    | a :: b :: c :: d :: bs, h =>
      obtain ⟨ws, hlen, hws⟩ := exists_packed n bs (by simp only [List.length_cons] at h; omega)
      exact ⟨ofLe32 a b c d :: ws, by rw [List.length_cons, hlen],
        by rw [packed_cons, le32_ofLe32, hws]; rfl⟩
    | [], h => simp at h
    | [_], h => simp at h; omega
    | [_, _], h => simp at h; omega
    | [_, _, _], h => simp at h; omega

/-! ## Reads and writes -/

/-- The word at index `i`. -/
def fetch32 (p : Bytes) (i : Nat) : Except Stop UInt32 :=
  match p.drop i with
  | a :: b :: c :: d :: _ => .ok (ofLe32 a b c d)
  | _ => .error .outOfBounds

/-- The half word at index `i`. -/
def fetch16 (p : Bytes) (i : Nat) : Except Stop UInt16 :=
  match p.drop i with
  | a :: b :: _ => .ok (ofLe16 a b)
  | _ => .error .outOfBounds

/-- The `n` bytes from index `i`. -/
def fetchBytes (p : Bytes) (i n : Nat) : Except Stop Bytes :=
  if i + n ≤ p.length then .ok ((p.drop i).take n) else .error .outOfBounds

/-- The buffer after `bs` was written from index `i`. -/
def store (p : Bytes) (i : Nat) (bs : Bytes) : Except Stop Bytes :=
  if i + bs.length ≤ p.length then .ok (p.take i ++ (bs ++ p.drop (i + bs.length)))
  else .error .outOfBounds

theorem fetch32_eq (pre post : Bytes) (w : UInt32) :
    fetch32 (pre ++ (le32 w ++ post)) pre.length = .ok w := by
  unfold fetch32
  rw [List.drop_left]
  exact congrArg Except.ok (ofLe32_le32 w)

theorem fetch32_ok {p : Bytes} {i : Nat} (h : i + 4 ≤ p.length) : ∃ w, fetch32 p i = .ok w := by
  have hlen : 4 ≤ (p.drop i).length := by rw [List.length_drop]; omega
  unfold fetch32
  split
  · exact ⟨_, rfl⟩
  · rename_i hno
    match hd : p.drop i, hlen with
    | a :: b :: c :: d :: bs, _ => exact absurd hd (hno a b c d bs)

theorem fetchBytes_eq (pre bs post : Bytes) :
    fetchBytes (pre ++ (bs ++ post)) pre.length bs.length = .ok bs := by
  unfold fetchBytes
  rw [if_pos (by simp), List.drop_left, List.take_left]

theorem fetchBytes_ok {p : Bytes} {i n : Nat} (h : i + n ≤ p.length) :
    ∃ bs, bs.length = n ∧ fetchBytes p i n = .ok bs := by
  refine ⟨(p.drop i).take n, ?_, by rw [fetchBytes, if_pos h]⟩
  rw [List.length_take, List.length_drop]
  omega

theorem fetch32_at {p a b : Bytes} {w : UInt32} {i : Nat} (hp : p = a ++ (le32 w ++ b))
    (hi : i = a.length) : fetch32 p i = .ok w := by
  rw [hp, hi]
  exact fetch32_eq a b w

theorem fetch16_at {p a b : Bytes} {w : UInt16} {i : Nat} (hp : p = a ++ (le16 w ++ b))
    (hi : i = a.length) : fetch16 p i = .ok w := by
  unfold fetch16
  rw [hp, hi, List.drop_left]
  exact congrArg Except.ok (ofLe16_le16 w)

theorem fetchBytes_at {p a bs b : Bytes} {i n : Nat} (hp : p = a ++ (bs ++ b)) (hi : i = a.length)
    (hn : n = bs.length) : fetchBytes p i n = .ok bs := by
  rw [hp, hi, hn]
  exact fetchBytes_eq a bs b

theorem store_eq {pre old bs post : Bytes} (h : old.length = bs.length) :
    store (pre ++ (old ++ post)) pre.length bs = .ok (pre ++ (bs ++ post)) := by
  unfold store
  rw [if_pos (by simp [h]), List.take_left, ← h, ← List.append_assoc pre old, ← List.length_append,
    List.drop_left]

/-! ## Work that stays inside -/

/-- The data is refused, or something is delivered that `Q` holds of. -/
def Contained {α : Type} (r : Except Stop α) (Q : α → Prop) : Prop :=
  r = .error .refused ∨ ∃ a, r = .ok a ∧ Q a

namespace Contained

variable {α β : Type} {P : α → Prop} {Q : β → Prop} {p : Bytes} {i n : Nat}

theorem bind {r : Except Stop α} {f : α → Except Stop β} (h : Contained r P)
    (hf : ∀ a, P a → Contained (f a) Q) : Contained (r >>= f) Q := by
  rcases h with h | ⟨a, h, ha⟩
  · exact Or.inl (by rw [h, error_bind])
  · rw [h, ok_bind]
    exact hf a ha

theorem refuse {c : Prop} [Decidable c] {f : Unit → Except Stop β} (hf : ¬ c → Contained (f ()) Q) :
    Contained (refuseIf c >>= f) Q := by
  by_cases h : c
  · exact Or.inl (by rw [refuseIf_pos h, error_bind])
  · rw [refuseIf_neg h, ok_bind]
    exact hf h

theorem fetch32 {f : UInt32 → Except Stop β} (h : i + 4 ≤ p.length) (hf : ∀ w, Contained (f w) Q) :
    Contained (fetch32 p i >>= f) Q := by
  obtain ⟨w, hw⟩ := fetch32_ok h
  rw [hw, ok_bind]
  exact hf w

theorem fetchBytes {f : Bytes → Except Stop β} (h : i + n ≤ p.length)
    (hf : ∀ bs, bs.length = n → Contained (f bs) Q) : Contained (fetchBytes p i n >>= f) Q := by
  obtain ⟨bs, hlen, hbs⟩ := fetchBytes_ok h
  rw [hbs, ok_bind]
  exact hf bs hlen

end Contained

/-- A loop that collects, whose every turn goes through. -/
theorem mapM_some {α β : Type} {f : α → Option β} {g : α → β} :
    ∀ {l : List α}, (∀ a ∈ l, f a = some (g a)) →
    l.mapM f = some (l.map g)
  | [], _ => rfl
  | a :: l, h => by
      rw [List.forall_mem_cons] at h
      rw [List.mapM_cons, h.1, mapM_some h.2]
      rfl

/-- What was collected came of something. -/
theorem mem_of_mapM {α β : Type} {f : α → Option β} :
    ∀ {l : List α} {bs : List β}, l.mapM f = some bs →
    ∀ b ∈ bs, ∃ a ∈ l, f a = some b
  | [], bs, h => by
      cases h
      exact fun _ hb => absurd hb List.not_mem_nil
  | a :: l, bs, h => by
      rw [List.mapM_cons] at h
      obtain ⟨b, hb, h⟩ := Option.bind_eq_some_iff.1 h
      obtain ⟨rest, hrest, h⟩ := Option.bind_eq_some_iff.1 h
      cases h
      rw [List.forall_mem_cons]
      refine ⟨⟨a, List.mem_cons_self, hb⟩, fun c hc => ?_⟩
      obtain ⟨a', ha', hfa'⟩ := mem_of_mapM hrest c hc
      exact ⟨a', List.mem_cons_of_mem _ ha', hfa'⟩

/-- What each turn leaves alone, in order. -/
theorem map_of_mapM {α β γ : Type} {f : α → Option β} {g : β → γ} {k : α → γ}
    (hf : ∀ a b, f a = some b → g b = k a) :
    ∀ {l : List α} {bs : List β}, l.mapM f = some bs → bs.map g = l.map k
  | [], bs, h => by
      cases h
      rfl
  | a :: l, bs, h => by
      rw [List.mapM_cons] at h
      obtain ⟨b, hb, h⟩ := Option.bind_eq_some_iff.1 h
      obtain ⟨rest, hrest, h⟩ := Option.bind_eq_some_iff.1 h
      cases h
      rw [List.map_cons, List.map_cons, hf a b hb, map_of_mapM hf hrest]

theorem foldlM_some {α β : Type} {f : β → α → Option β} {I : β → Prop} :
    ∀ {l : List α} {b : β}, (∀ b, ∀ a ∈ l, I b → ∃ c, f b a = some c ∧ I c) → I b →
    ∃ c, l.foldlM f b = some c ∧ I c
  | [], b, _, hb => ⟨b, rfl, hb⟩
  | x :: xs, b, hstep, hb => by
    obtain ⟨c, hc, hic⟩ := hstep b x List.mem_cons_self hb
    rw [List.foldlM_cons, hc]
    exact foldlM_some (fun b a ha => hstep b a (List.mem_cons_of_mem _ ha)) hic

/-- A loop delivers when every turn does and keeps `I`. -/
theorem foldlM_ok {α β : Type} {f : β → α → Except Stop β} {I : β → Prop} :
    ∀ {l : List α} {b : β}, (∀ b, ∀ a ∈ l, I b → ∃ c, f b a = .ok c ∧ I c) → I b →
      ∃ c, l.foldlM f b = .ok c ∧ I c
  | [], b, _, hb => ⟨b, rfl, hb⟩
  | x :: xs, b, hstep, hb => by
    obtain ⟨c, hc, hic⟩ := hstep b x List.mem_cons_self hb
    have hrest := foldlM_ok (fun b a ha => hstep b a (List.mem_cons_of_mem _ ha)) hic
    rw [List.foldlM_cons, hc, ok_bind]
    exact hrest

end SmwRecomp
