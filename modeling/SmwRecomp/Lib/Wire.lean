import SmwRecomp.Lib.Bytes
import Mathlib.Data.Vector.Basic

/-!
# A cursor over a byte buffer

Encoders and decoders that walk a buffer with an index, as C code does, and the rules to reason
about them.

* `put32`, `putBytes`, `putWith` — write at the cursor; `Writes` — what a writer leaves.
* `next16`, `next32`, `next64`, `nextVector`, `nextHalves` — read at the cursor; `Answers` — what a
  reader makes of an image, `Reads` when it does not refuse it.
* `words` — the words of a record in front of the rest of its image.
* `room`, `need` — the bytes left before a trailer, an unsigned difference that may wrap.
* `Within` — a reader run on hostile bytes: it refuses or delivers, but never leaves the buffer.
-/

set_option autoImplicit false

namespace SmwRecomp

/-- A buffer and the index `at`. -/
structure Cursor where
  p : Bytes
  pos : Nat

abbrev CursorM := StateT Cursor (Except Stop)

variable {α β : Type}

/-! ## Writing -/

def putBytes (bs : Bytes) : CursorM Unit := fun c =>
  match store c.p c.pos bs with
  | .ok p => .ok ((), ⟨p, c.pos + bs.length⟩)
  | .error stop => .error stop

def put32 (w : UInt32) : CursorM Unit := putBytes (le32 w)

def put16 (w : UInt16) : CursorM Unit := putBytes (le16 w)

def put64 (w : UInt64) : CursorM Unit := putBytes (le64 w)

/-- A callee writes the next `n` bytes. -/
def putWith (n : Nat) (f : Bytes → Except Stop Bytes) : CursorM Unit := fun c =>
  match fetchBytes c.p c.pos n with
  | .ok old =>
    match f old with
    | .ok bs => putBytes bs c
    | .error stop => .error stop
  | .error stop => .error stop

/-- `if (c) return false;`. -/
def refuse (c : Prop) [Decidable c] : CursorM Unit := fun s =>
  match refuseIf c with
  | .ok _ => .ok ((), s)
  | .error stop => .error stop

def putEach (put : α → CursorM Unit) : List α → CursorM Unit
  | [] => pure ()
  | a :: as => do
    put a
    putEach put as

/-- A sequence succeeds when its parts do. -/
theorem bind_eq_ok {m : CursorM α} {f : α → CursorM β} {c : Cursor} {r : β × Cursor}
    (h : (m >>= f) c = .ok r) : ∃ s, m c = .ok s ∧ f s.1 s.2 = .ok r := by
  have h : (m c >>= fun s => f s.1 s.2) = .ok r := h
  cases hm : m c with
  | error stop => rw [hm] at h; cases h
  | ok s =>
      rw [hm] at h
      exact ⟨s, rfl, h⟩

theorem bind_ok {m : CursorM α} {f : α → CursorM β} {c : Cursor} {s : α × Cursor}
    (h : m c = .ok s) : (m >>= f) c = f s.1 s.2 := by
  show (m c >>= fun s => f s.1 s.2) = _
  rw [h]
  rfl

/-- A callee that succeeds may be replaced by one with the same results. -/
theorem putWith_mono {n : Nat} {f g : Bytes → Except Stop Bytes} {c : Cursor} {r : Unit × Cursor}
    (hfg : ∀ old bs, f old = .ok bs → g old = .ok bs) (h : putWith n f c = .ok r) :
    putWith n g c = .ok r ∧ ∃ old bs, f old = .ok bs := by
  unfold putWith at h ⊢
  cases hold : fetchBytes c.p c.pos n with
  | error stop => rw [hold] at h; cases h
  | ok old =>
      rw [hold] at h
      dsimp only at h ⊢
      cases hbs : f old with
      | error stop => rw [hbs] at h; cases h
      | ok bs =>
          rw [hbs] at h
          rw [hfg old bs hbs]
          exact ⟨h, old, bs, hbs⟩

/-! ## Reading -/

def nextVector (n : Nat) : CursorM (List.Vector UInt8 n) := fun c =>
  if h : c.pos + n ≤ c.p.length then
    .ok (⟨(c.p.drop c.pos).take n, by rw [List.length_take, List.length_drop]; omega⟩,
      ⟨c.p, c.pos + n⟩)
  else .error .outOfBounds

def next32 : CursorM UInt32 := fun c =>
  match fetch32 c.p c.pos with
  | .ok w => .ok (w, ⟨c.p, c.pos + 4⟩)
  | .error stop => .error stop

section

local instance twoBytes : NeZero 2 := ⟨Nat.succ_ne_zero 1⟩

def next16 : CursorM UInt16 := do
  let v ← nextVector 2
  return ofLe16 (v.get 0) (v.get 1)

end

def next64 : CursorM UInt64 := do
  let low ← next32
  let high ← next32
  return ofLe64 low high

/-- The half words of a byte string. -/
def halves : Bytes → List UInt16
  | a :: b :: bs => ofLe16 a b :: halves bs
  | _ => []

theorem halves_length : ∀ bs : Bytes, (halves bs).length = bs.length / 2
  | [] => rfl
  | [_] => by simp [halves]
  | a :: b :: bs => by
    rw [halves, List.length_cons, halves_length bs, List.length_cons, List.length_cons]
    omega

theorem halves_le16 (hs : List UInt16) : halves (hs.flatMap le16) = hs := by
  induction hs with
  | nil => rfl
  | cons h hs ih =>
      show ofLe16 h.toUInt8 (h >>> 8).toUInt8 :: halves (hs.flatMap le16) = h :: hs
      rw [ofLe16_le16, ih]

theorem flatMap_le16_length (hs : List UInt16) : (hs.flatMap le16).length = 2 * hs.length := by
  induction hs with
  | nil => rfl
  | cons h hs ih =>
      rw [List.flatMap_cons, List.length_append, ih, le16_length, List.length_cons]; omega

def halvesOf {n : Nat} (v : List.Vector UInt8 (2 * n)) : List.Vector UInt16 n :=
  ⟨halves v.toList, by rw [halves_length, List.Vector.toList_length]; omega⟩

def nextHalves (n : Nat) : CursorM (List.Vector UInt16 n) := do
  let bs ← nextVector (2 * n)
  return halvesOf bs

/-- `size - trailer - at`. -/
def room (trailer : Nat) : CursorM Nat := fun c =>
  if c.pos + trailer ≤ c.p.length then .ok (c.p.length - trailer - c.pos, c) else .error .underflow

/-- `if (size - trailer - at < n) return false;`. -/
def need (trailer n : Nat) : CursorM Unit := do
  let r ← room trailer
  refuse (r < n)

/-- `n` records, one after the other. -/
def nextEach (next : CursorM α) : Nat → CursorM (List α)
  | 0 => return []
  | n + 1 => do
    let a ← next
    let as ← nextEach next n
    return a :: as

/-- A loop over the records of an array that reads into each. -/
def nextFor (next : α → CursorM α) : List α → CursorM (List α)
  | [] => return []
  | a :: as => do
    let a ← next a
    let as ← nextFor next as
    return a :: as

/-! ## Images -/

/-- The words `ws`, and `bs` behind them. -/
def words : List UInt32 → Bytes → Bytes
  | [], bs => bs
  | w :: ws, bs => le32 w ++ words ws bs

@[simp] theorem words_length (ws : List UInt32) (bs : Bytes) :
    (words ws bs).length = 4 * ws.length + bs.length := by
  induction ws with
  | nil => simp [words]
  | cons w ws ih =>
      rw [words, List.length_append, ih, le32_length, List.length_cons]
      omega

/-! ## What a writer leaves -/

/-- `m` writes `bs` over as many bytes. -/
def Writes (m : CursorM Unit) (bs : Bytes) : Prop :=
  ∀ pre old post : Bytes, old.length = bs.length →
    m ⟨pre ++ (old ++ post), pre.length⟩ = .ok ((), ⟨pre ++ (bs ++ post), pre.length + bs.length⟩)

theorem Writes.pure : Writes (Pure.pure ()) [] := by
  intro pre old post hold
  rw [List.length_eq_zero_iff.1 hold]
  rfl

theorem Writes.bind {m : CursorM Unit} {f : Unit → CursorM Unit} {bs cs : Bytes} (hm : Writes m bs)
    (hf : Writes (f ()) cs) : Writes (m >>= f) (bs ++ cs) := by
  intro pre old post hold
  rw [List.length_append] at hold
  have htake : (old.take bs.length).length = bs.length := by rw [List.length_take]; omega
  have hdrop : (old.drop bs.length).length = cs.length := by rw [List.length_drop]; omega
  have h₁ := hm pre (old.take bs.length) (old.drop bs.length ++ post) htake
  have h₂ := hf (pre ++ bs) (old.drop bs.length) post hdrop
  rw [← List.append_assoc (old.take _), List.take_append_drop] at h₁
  rw [List.append_assoc, List.append_assoc, List.length_append] at h₂
  rw [List.append_assoc, List.length_append, ← Nat.add_assoc]
  show (m _ >>= fun r => f r.1 r.2) = _
  rw [h₁]
  exact h₂

theorem writes_putBytes (bs : Bytes) : Writes (putBytes bs) bs := by
  intro pre old post hold
  unfold putBytes
  simp only [store_eq hold]

theorem writes_put32 (w : UInt32) : Writes (put32 w) (le32 w) := writes_putBytes _

theorem Writes.word {w : UInt32} {ws : List UInt32} {bs : Bytes} {f : Unit → CursorM Unit}
    (h : Writes (f ()) (words ws bs)) : Writes (put32 w >>= f) (words (w :: ws) bs) :=
  (writes_put32 w).bind h

theorem writes_lastWord (w : UInt32) : Writes (put32 w) (words [w] []) := by
  have h := writes_put32 w
  rwa [← List.append_nil (le32 w)] at h

theorem writes_putWith {n : Nat} {f : Bytes → Except Stop Bytes} {bs : Bytes} (hn : bs.length = n)
    (hf : ∀ old : Bytes, old.length = n → f old = .ok bs) : Writes (putWith n f) bs := by
  intro pre old post hold
  have hfetch := fetchBytes_eq pre old post
  rw [hold, hn] at hfetch
  unfold putWith
  simp only [hfetch, hf old (hold.trans hn)]
  exact writes_putBytes bs pre old post hold

theorem writes_refuse {c : Prop} [Decidable c] (h : ¬ c) : Writes (refuse c) [] := by
  intro pre old post hold
  rw [List.length_eq_zero_iff.1 hold]
  unfold refuse
  rw [refuseIf_neg h]
  rfl

theorem Writes.refuse {c : Prop} [Decidable c] {bs : Bytes} {f : Unit → CursorM Unit} (hc : ¬ c)
    (h : Writes (f ()) bs) : Writes (SmwRecomp.refuse c >>= f) bs := (writes_refuse hc).bind h

theorem writes_putEach {put : α → CursorM Unit} {image : α → Bytes} :
    ∀ {as : List α}, (∀ a ∈ as, Writes (put a) (image a)) →
    Writes (putEach put as) (as.flatMap image)
  | [], _ => Writes.pure
  | a :: as, h => by
    rw [List.forall_mem_cons] at h
    exact h.1.bind (writes_putEach h.2)

/-! ## What a reader makes of an image -/

/-- What a reader leaves at the cursor `c`: the value it delivers, or nothing when it refuses. -/
def answer (c : Cursor) : Option α → Except Stop (α × Cursor)
  | some a => .ok (a, c)
  | none => .error .refused

/-- Over the bytes `bs`, with at least `k` more behind them, `m` answers `o`. -/
def Answers (k : Nat) (m : CursorM α) (bs : Bytes) (o : Option α) : Prop :=
  ∀ pre post : Bytes, k ≤ post.length →
    m ⟨pre ++ (bs ++ post), pre.length⟩ = answer ⟨pre ++ (bs ++ post), pre.length + bs.length⟩ o

/-- Over the bytes `bs`, `m` delivers `a`. -/
abbrev Reads (k : Nat) (m : CursorM α) (bs : Bytes) (a : α) : Prop := Answers k m bs (some a)

section Reads

variable {k : Nat}

theorem Reads.pure (a : α) : Reads k (Pure.pure a) [] a := fun _ _ _ => rfl

/-- The second reader's bytes count as bytes behind the first. -/
theorem Reads.bind {k' : Nat} {m : CursorM α} {f : α → CursorM β} {bs cs : Bytes} {a : α}
    {o : Option β}
    (hm : Reads k' m bs a) (hk : k' ≤ cs.length + k) (hf : Answers k (f a) cs o) :
    Answers k (m >>= f) (bs ++ cs) o := by
  intro pre post hpost
  have h₁ := hm pre (cs ++ post) (by rw [List.length_append]; omega)
  have h₂ := hf (pre ++ bs) post hpost
  rw [List.append_assoc, List.length_append] at h₂
  rw [List.append_assoc, List.length_append, ← Nat.add_assoc]
  show (m _ >>= fun r => f r.1 r.2) = _
  rw [h₁]
  exact h₂

/-- Nothing is read behind a refusal. -/
theorem Answers.refused {k' : Nat} {m : CursorM α} {f : α → CursorM β} {bs cs : Bytes}
    (hm : Answers k' m bs none) (hk : k' ≤ cs.length + k) :
    Answers k (m >>= f) (bs ++ cs) none := by
  intro pre post hpost
  have h := hm pre (cs ++ post) (by rw [List.length_append]; omega)
  rw [List.append_assoc]
  show (m _ >>= fun r => f r.1 r.2) = _
  rw [h]
  rfl

theorem reads_next32 (w : UInt32) : Reads k next32 (le32 w) w := by
  intro pre post _
  unfold next32
  simp only [fetch32_eq]
  rfl

theorem reads_nextVector {n : Nat} (v : List.Vector UInt8 n) :
    Reads k (nextVector n) v.toList v := by
  obtain ⟨bs, rfl⟩ := v
  intro pre post _
  have htake : ((pre ++ (bs ++ post)).drop pre.length).take bs.length = bs := by
    rw [List.drop_left, List.take_left]
  have hfits : pre.length + bs.length ≤ (pre ++ (bs ++ post)).length := by
    rw [List.length_append, List.length_append]; omega
  have hvalue : ∀ h, (⟨((pre ++ (bs ++ post)).drop pre.length).take bs.length, h⟩ :
      List.Vector UInt8 bs.length) = ⟨bs, rfl⟩ := fun _ => Subtype.ext htake
  show (if h : pre.length + bs.length ≤ (pre ++ (bs ++ post)).length then _ else _) = _
  rw [dif_pos hfits]
  exact congrArg (fun v => Except.ok (v, _)) (hvalue _)

theorem reads_nextHalves {n : Nat} (v : List.Vector UInt16 n) :
    Reads k (nextHalves n) (v.toList.flatMap le16) v := by
  have hlen : (v.toList.flatMap le16).length = 2 * n := by
    rw [flatMap_le16_length, v.toList_length]
  let bytes : List.Vector UInt8 (2 * n) := ⟨v.toList.flatMap le16, hlen⟩
  have hvalue : halvesOf bytes = v := Subtype.ext (halves_le16 v.toList)
  have h :=
    (reads_nextVector (k := k) bytes).bind (f := fun bs => (Pure.pure (halvesOf bs) : CursorM _))
    (Nat.le_add_left _ _) (Reads.pure _)
  rw [hvalue, List.append_nil] at h
  exact h

theorem reads_refuse {c : Prop} [Decidable c] (h : ¬ c) : Reads k (refuse c) [] () := by
  intro pre post _
  unfold refuse
  rw [refuseIf_neg h]
  rfl

/-- A check that fires. -/
theorem answers_refuse {c : Prop} [Decidable c] (h : c) : Answers k (refuse c) [] none := by
  intro pre post _
  unfold refuse
  rw [refuseIf_pos h]
  rfl

theorem Reads.word {w : UInt32} {ws : List UInt32} {bs : Bytes} {f : UInt32 → CursorM β}
    {o : Option β}
    (h : Answers k (f w) (words ws bs) o) : Answers k (next32 >>= f) (words (w :: ws) bs) o :=
  (reads_next32 (k := 0) w).bind (Nat.zero_le _) h

theorem Reads.vector {n : Nat} {v : List.Vector UInt8 n} {b : Bytes}
    {f : List.Vector UInt8 n → CursorM β} {o : Option β} (h : Answers k (f v) b o) :
    Answers k (nextVector n >>= f) (v.toList ++ b) o :=
  (reads_nextVector (k := 0) v).bind (Nat.zero_le _) h

theorem Reads.half {w : UInt16} {bs : Bytes} {f : UInt16 → CursorM β} {o : Option β}
    (h : Answers k (f w) bs o) : Answers k (next16 >>= f) (le16 w ++ bs) o := by
  unfold next16
  rw [bind_assoc]
  refine Reads.vector (v := ⟨le16 w, rfl⟩) ?_
  rw [pure_bind]
  show Answers k (f (ofLe16 w.toUInt8 (w >>> 8).toUInt8)) bs o
  rwa [ofLe16_le16]

theorem Reads.long {w : UInt64} {bs : Bytes} {f : UInt64 → CursorM β} {o : Option β}
    (h : Answers k (f w) bs o) : Answers k (next64 >>= f) (le64 w ++ bs) o := by
  unfold next64 le64
  rw [bind_assoc, List.append_assoc]
  refine (reads_next32 (k := 0) w.toUInt32).bind (Nat.zero_le _) ?_
  rw [bind_assoc]
  refine (reads_next32 (k := 0) (w >>> 32).toUInt32).bind (Nat.zero_le _) ?_
  rwa [pure_bind, ofLe64_le64]

theorem Reads.refuse {c : Prop} [Decidable c] {bs : Bytes} {f : Unit → CursorM β} {o : Option β}
    (hc : ¬ c) (h : Answers k (f ()) bs o) : Answers k (SmwRecomp.refuse c >>= f) bs o :=
  (reads_refuse (k := 0) hc).bind (Nat.zero_le _) h

/-- Looking at the room reads nothing. -/
theorem Reads.room {trailer : Nat} {f : Nat → CursorM β} {bs : Bytes} {o : Option β}
    (hk : trailer ≤ bs.length + k)
    (hf : ∀ r, bs.length + k ≤ r + trailer → Answers k (f r) bs o) :
    Answers k (SmwRecomp.room trailer >>= f) bs o := by
  intro pre post hpost
  have hlen : (pre ++ (bs ++ post)).length = pre.length + bs.length + post.length := by
    rw [List.length_append, List.length_append, Nat.add_assoc]
  show (SmwRecomp.room trailer _ >>= fun r => f r.1 r.2) = _
  unfold SmwRecomp.room
  rw [if_pos (by dsimp only; omega)]
  exact hf _ (by dsimp only; omega) pre post hpost

theorem Reads.need {trailer n : Nat} {f : Unit → CursorM β} {bs : Bytes} {o : Option β}
    (hn : n + trailer ≤ bs.length + k) (hf : Answers k (f ()) bs o) :
    Answers k (SmwRecomp.need trailer n >>= f) bs o := by
  unfold SmwRecomp.need
  rw [bind_assoc]
  exact Reads.room (by omega) fun r hr => Reads.refuse (by omega) hf

theorem reads_nextEach {next : CursorM α} {image : α → Bytes} :
    ∀ {as : List α} {n : Nat}, as.length = n → (∀ a ∈ as, Reads k next (image a) a) →
      Reads k (nextEach next n) (as.flatMap image) as
  | [], _, rfl, _ => Reads.pure []
  | a :: as, _, rfl, h => by
    rw [List.forall_mem_cons] at h
    refine h.1.bind (Nat.le_add_left _ _) ?_
    have hrest :=
      (reads_nextEach rfl h.2).bind (f := fun as => (Pure.pure (a :: as) : CursorM (List α)))
      (Nat.le_add_left _ _) (Reads.pure (k := k) (a :: as))
    rwa [List.append_nil] at hrest

theorem reads_nextFor {next : α → CursorM α} {image : α → Bytes} {as bs : List α}
    (h : List.Forall₂ (fun a b => Reads k (next a) (image b) b) as bs) :
    Reads k (nextFor next as) (bs.flatMap image) bs := by
  induction h with
  | nil => exact Reads.pure []
  | @cons a b as bs hab _ ih =>
      refine hab.bind (Nat.le_add_left _ _) ?_
      have hrest := ih.bind (f := fun bs => (Pure.pure (b :: bs) : CursorM (List α)))
        (Nat.le_add_left _ _) (Reads.pure (k := k) (b :: bs))
      rwa [List.append_nil] at hrest

end Reads

/-! ## Hostile bytes -/

/-- With `r` bytes left before the trailer, `m` refuses, or delivers `a` with `r'` bytes left and
`Q a r'`. -/
def Within (trailer : Nat) (m : CursorM α) (r : Nat) (Q : α → Nat → Prop) : Prop :=
  ∀ c : Cursor, c.pos + r + trailer = c.p.length → m c = .error .refused ∨
    ∃ a r' pos, m c = .ok (a, ⟨c.p, pos⟩) ∧ pos + r' + trailer = c.p.length ∧ Q a r'

section Within

variable {trailer : Nat} {r : Nat}

theorem Within.pure {a : α} {Q : α → Nat → Prop} (h : Q a r) : Within trailer (Pure.pure a) r Q :=
  fun c hc => Or.inr ⟨a, r, c.pos, rfl, hc, h⟩

theorem Within.bind {m : CursorM α} {f : α → CursorM β} {Q : α → Nat → Prop} {R : β → Nat → Prop}
    (hm : Within trailer m r Q) (hf : ∀ a r', Q a r' → Within trailer (f a) r' R) :
    Within trailer (m >>= f) r R := by
  intro c hc
  rcases hm c hc with hstop | ⟨a, r', pos, hok, hpos, hq⟩
  · left
    show (m c >>= fun s => f s.1 s.2) = _
    rw [hstop]
    rfl
  · have hrun : (m >>= f) c = f a ⟨c.p, pos⟩ := by
      show (m c >>= fun s => f s.1 s.2) = _
      rw [hok]
      rfl
    rw [hrun]
    exact hf a r' hq ⟨c.p, pos⟩ hpos

theorem Within.mono {m : CursorM α} {Q R : α → Nat → Prop} (hm : Within trailer m r Q)
    (h : ∀ a r', Q a r' → R a r') : Within trailer m r R := by
  intro c hc
  exact (hm c hc).imp_right fun ⟨a, r', pos, hok, hpos, hq⟩ => ⟨a, r', pos, hok, hpos, h a r' hq⟩

theorem Within.word {f : UInt32 → CursorM β} {Q : β → Nat → Prop} (h : 4 ≤ r)
    (hf : ∀ w, Within trailer (f w) (r - 4) Q) : Within trailer (next32 >>= f) r Q := by
  intro c hc
  obtain ⟨w, hw⟩ := fetch32_ok (p := c.p) (i := c.pos) (by omega)
  have hrun : (next32 >>= f) c = f w ⟨c.p, c.pos + 4⟩ := by
    show (next32 c >>= fun s => f s.1 s.2) = _
    unfold next32
    rw [hw]
    rfl
  rw [hrun]
  exact hf w ⟨c.p, c.pos + 4⟩ (by dsimp only; omega)

theorem Within.vector {n : Nat} {f : List.Vector UInt8 n → CursorM β}
    {Q : β → Nat → Prop} (h : n ≤ r)
    (hf : ∀ v, Within trailer (f v) (r - n) Q) : Within trailer (nextVector n >>= f) r Q := by
  intro c hc
  have hlen : ((c.p.drop c.pos).take n).length = n := by
    rw [List.length_take, List.length_drop]; omega
  have hrun : (nextVector n >>= f) c = f ⟨(c.p.drop c.pos).take n, hlen⟩ ⟨c.p, c.pos + n⟩ := by
    show (nextVector n c >>= fun s => f s.1 s.2) = _
    unfold nextVector
    rw [dif_pos (by omega)]
    rfl
  rw [hrun]
  exact hf _ ⟨c.p, c.pos + n⟩ (by dsimp only; omega)

theorem Within.half {f : UInt16 → CursorM β} {Q : β → Nat → Prop} (h : 2 ≤ r)
    (hf : ∀ w, Within trailer (f w) (r - 2) Q) : Within trailer (next16 >>= f) r Q := by
  unfold next16
  rw [bind_assoc]
  refine Within.vector h fun v => ?_
  rw [pure_bind]
  exact hf _

theorem Within.long {f : UInt64 → CursorM β} {Q : β → Nat → Prop} (h : 8 ≤ r)
    (hf : ∀ w, Within trailer (f w) (r - 8) Q) : Within trailer (next64 >>= f) r Q := by
  unfold next64
  rw [bind_assoc]
  refine Within.word (by omega) fun low => ?_
  rw [bind_assoc]
  refine Within.word (by omega) fun high => ?_
  rw [pure_bind, Nat.sub_sub]
  exact hf _

theorem Within.halves {n : Nat} {f : List.Vector UInt16 n → CursorM β} {Q : β → Nat → Prop}
    (h : 2 * n ≤ r) (hf : ∀ v, Within trailer (f v) (r - 2 * n) Q) :
    Within trailer (nextHalves n >>= f) r Q := by
  unfold nextHalves
  rw [bind_assoc]
  refine Within.vector h fun v => ?_
  rw [pure_bind]
  exact hf _

theorem Within.refuse {c : Prop} [Decidable c] {f : Unit → CursorM β} {Q : β → Nat → Prop}
    (hf : ¬ c → Within trailer (f ()) r Q) : Within trailer (SmwRecomp.refuse c >>= f) r Q := by
  intro s hs
  show (SmwRecomp.refuse c s >>= fun s => f s.1 s.2) = _ ∨ _
  unfold SmwRecomp.refuse
  by_cases h : c
  · rw [refuseIf_pos h]
    exact Or.inl rfl
  · rw [refuseIf_neg h]
    exact hf h s hs

/-- The room under a trailer that may hold `tail` bytes more. -/
theorem Within.room {tail : Nat} {f : Nat → CursorM β} {Q : β → Nat → Prop} (h : tail ≤ r)
    (hf : Within trailer (f (r - tail)) r Q) :
    Within trailer (SmwRecomp.room (trailer + tail) >>= f) r Q := by
  intro c hc
  have hroom : c.p.length - (trailer + tail) - c.pos = r - tail := by omega
  have hrun : (SmwRecomp.room (trailer + tail) >>= f) c = f (r - tail) c := by
    show (SmwRecomp.room (trailer + tail) c >>= fun s => f s.1 s.2) = _
    unfold SmwRecomp.room
    rw [if_pos (by omega), hroom]
    rfl
  rw [hrun]
  exact hf c hc

theorem Within.remaining {f : Nat → CursorM β} {Q : β → Nat → Prop}
    (hf : Within trailer (f r) r Q) :
    Within trailer (SmwRecomp.room trailer >>= f) r Q := Within.room (Nat.zero_le r) hf

theorem Within.need {n : Nat} {f : Unit → CursorM β} {Q : β → Nat → Prop}
    (hf : n ≤ r → Within trailer (f ()) r Q) :
    Within trailer (SmwRecomp.need trailer n >>= f) r Q := by
  unfold SmwRecomp.need
  rw [bind_assoc]
  exact Within.remaining (Within.refuse fun h => hf (by omega))

section Loops

variable {I : Nat → Nat → Prop}

/-- `I n r` holds with `n` records to go and `r` bytes left. -/
theorem within_nextEach {next : CursorM α} {P : α → Prop} (hnext : ∀ n r, I (n + 1) r →
    Within trailer next r (fun a r' => P a ∧ I n r')) : ∀ {count r : Nat}, I count r →
    Within trailer (nextEach next count) r
      (fun as r' => as.length = count ∧ (∀ a ∈ as, P a) ∧ I 0 r')
  | 0, _, h => Within.pure ⟨rfl, (fun _ h => nomatch h), h⟩
  | count + 1, r, h => by
    refine (hnext count r h).bind fun a r' ⟨ha, hr⟩ => ?_
    refine (within_nextEach hnext hr).bind fun as r'' ⟨hlen, has, hr'⟩ => Within.pure ⟨?_, ?_, hr'⟩
    · rw [List.length_cons, hlen]
    · rw [List.forall_mem_cons]
      exact ⟨ha, has⟩

theorem within_nextFor {next : α → CursorM α} {R : α → α → Prop} (hnext : ∀ a n r, I (n + 1) r →
    Within trailer (next a) r (fun b r' => R a b ∧ I n r')) : ∀ {as : List α} {r : Nat},
    I as.length r → Within trailer (nextFor next as) r (fun bs r' => List.Forall₂ R as bs ∧ I 0 r')
  | [], _, h => Within.pure ⟨.nil, h⟩
  | a :: as, r, h => by
    refine (hnext a as.length r h).bind fun b r' ⟨hb, hr⟩ => ?_
    exact (within_nextFor hnext hr).bind fun bs r'' ⟨hbs, hr'⟩ => Within.pure ⟨.cons hb hbs, hr'⟩

end Loops

end Within

end SmwRecomp
