import SmwRecomp.Coop.State

/-!
# The session codec

* `Gets m ws a bad` — loading `m` over the words `ws` yields `a`, and marks an error iff `bad`.
* `Puts m ws a` — saving `m` writes the words `ws` and hands `a` back.
* `WordCodec` — a streamed record, its words, and how the two directions meet.
* `sessionWords` — the words of a whole session.
-/

set_option autoImplicit false

namespace SmwRecomp.Coop

variable {α β : Type}

/-! ## Rules for the stream -/

def Gets (m : StreamM α) (ws : List UInt32) (a : α) (bad : Bool) : Prop :=
  ∀ (pre post : Bytes) (size : Nat) (error : Bool), pre.length + 4 * ws.length ≤ size →
    m ⟨pre ++ (packed ws ++ post), pre.length, size, error, true⟩ =
      .ok (a, ⟨pre ++ (packed ws ++ post), pre.length + 4 * ws.length, size, error || bad, true⟩)

def Puts (m : StreamM α) (ws : List UInt32) (a : α) : Prop :=
  ∀ (pre old post : Bytes) (size : Nat), old.length = 4 * ws.length →
    pre.length + 4 * ws.length ≤ size →
    m ⟨pre ++ (old ++ post), pre.length, size, false, false⟩ =
      .ok (a, ⟨pre ++ (packed ws ++ post), pre.length + 4 * ws.length, size, false, false⟩)

theorem Gets.pure (a : α) : Gets (Pure.pure a) [] a false := by
  intro pre post size error _
  show Except.ok _ = _
  simp

theorem Gets.bind {m : StreamM α} {f : α → StreamM β} {ws vs : List UInt32} {a : α} {b : β}
    {bad bad' : Bool} (hm : Gets m ws a bad) (hf : Gets (f a) vs b bad') :
    Gets (m >>= f) (ws ++ vs) b (bad || bad') := by
  intro pre post size error hsize
  rw [List.length_append] at hsize
  have h₁ := hm pre (packed vs ++ post) size error (by omega)
  have h₂ := hf (pre ++ packed ws) post size (error || bad)
    (by rw [List.length_append, packed_length]; omega)
  rw [List.append_assoc, List.length_append, packed_length] at h₂
  rw [packed_append, List.append_assoc, List.length_append]
  show (m _ >>= fun r => f r.1 r.2) = _
  rw [h₁]
  show f a _ = _
  rw [h₂, Bool.or_assoc, Nat.mul_add, Nat.add_assoc]

theorem Puts.pure (a : α) : Puts (Pure.pure a) [] a := by
  intro pre old post size hold _
  rw [List.length_eq_zero_iff.1 hold]
  show Except.ok _ = _
  simp

theorem Puts.bind {m : StreamM α} {f : α → StreamM β} {ws vs : List UInt32} {a : α} {b : β}
    (hm : Puts m ws a) (hf : Puts (f a) vs b) : Puts (m >>= f) (ws ++ vs) b := by
  intro pre old post size hold hsize
  rw [List.length_append] at hsize hold
  have hsplit := List.take_append_drop (4 * ws.length) old
  have htake : (old.take (4 * ws.length)).length = 4 * ws.length := by
    rw [List.length_take]; omega
  have hdrop : (old.drop (4 * ws.length)).length = 4 * vs.length := by
    rw [List.length_drop]; omega
  have h₁ := hm pre (old.take (4 * ws.length)) (old.drop (4 * ws.length) ++ post) size htake
    (by omega)
  have h₂ := hf (pre ++ packed ws) (old.drop (4 * ws.length)) post size hdrop
    (by rw [List.length_append, packed_length]; omega)
  rw [← List.append_assoc (old.take _), hsplit] at h₁
  rw [List.append_assoc, List.append_assoc, List.length_append, packed_length] at h₂
  rw [packed_append, List.append_assoc, List.length_append]
  show (m _ >>= fun r => f r.1 r.2) = _
  rw [h₁]
  show f a _ = _
  rw [h₂, Nat.mul_add, Nat.add_assoc]

theorem gets_word (value w : UInt32) : Gets (word value) [w] w false := by
  intro pre post size error hsize
  rw [List.length_singleton] at hsize
  unfold word
  rw [if_neg (by simp only; omega), if_pos rfl]
  simp only [packed_cons, packed_nil, List.append_nil, fetch32_eq, List.length_singleton,
    Bool.or_false, Nat.mul_one]

theorem puts_word (value : UInt32) : Puts (word value) [value] value := by
  intro pre old post size hold hsize
  rw [List.length_singleton] at hsize hold
  unfold word
  rw [if_neg (by simp only; omega), if_neg Bool.false_ne_true]
  simp only [store_eq (show old.length = (le32 value).length from hold), packed_cons, packed_nil,
    List.append_nil, List.length_singleton, Nat.mul_one]

/-- The words of a 64-bit field. -/
def wideWords (v : UInt64) : List UInt32 := [v.toUInt32, (v >>> 32).toUInt32]

def ofWide (lo hi : UInt32) : UInt64 := lo.toUInt64 ||| (hi.toUInt64 <<< 32)

def boolWord (b : Bool) : UInt32 := if b then 1 else 0

theorem ofWide_wideWords (v : UInt64) : ofWide v.toUInt32 (v >>> 32).toUInt32 = v := by
  unfold ofWide
  apply UInt64.toBitVec_inj.1
  ext i hi
  simp [-UInt64.toUInt64_toUInt32]
  grind

theorem wideWords_ofWide (lo hi : UInt32) : wideWords (ofWide lo hi) = [lo, hi] := by
  have hlo : (ofWide lo hi).toUInt32 = lo := by
    apply UInt32.toBitVec_inj.1
    ext i hi
    simp [ofWide]
  have hhi : (ofWide lo hi >>> 32).toUInt32 = hi := by
    apply UInt32.toBitVec_inj.1
    ext i hi
    simp [ofWide]
    grind
  rw [wideWords, hlo, hhi]

theorem boolWord_ne (b : Bool) : (boolWord b != 0) = b := by cases b <;> rfl

theorem boolWord_small (b : Bool) : decide (boolWord b > 1) = false := by cases b <;> rfl

theorem boolWord_of_small {w : UInt32} (h : decide (w > 1) = false) : boolWord (w != 0) = w := by
  have hle : w.toNat ≤ 1 := by
    have := of_decide_eq_false h
    rw [gt_iff_lt, UInt32.lt_iff_toNat_lt, Nat.not_lt] at this
    exact this
  rcases Nat.le_one_iff_eq_zero_or_eq_one.1 hle with h0 | h1
  · rw [UInt32.toNat_inj.1 (h0.trans rfl : w.toNat = (0 : UInt32).toNat)]; rfl
  · rw [UInt32.toNat_inj.1 (h1.trans rfl : w.toNat = (1 : UInt32).toNat)]; rfl

/-- The two branches of `signed_word` together are the two's complement reading. -/
theorem signedWord_value (v : UInt32) :
    (if v ≤ 0x7FFFFFFF then v.toInt32 else -1 - (0xFFFFFFFF - v).toInt32) = v.toInt32 := by
  split
  · rfl
  · apply Int32.toBitVec_inj.1
    show -1#32 - (0xFFFFFFFF#32 - v.toBitVec) = v.toBitVec
    bv_omega

section Primitives

variable {w lo hi : UInt32} {ws : List UInt32} {b : β} {bad : Bool}

theorem Gets.word {v : UInt32} {f : UInt32 → StreamM β} (h : Gets (f w) ws b bad) :
    Gets (Coop.word v >>= f) (w :: ws) b bad := by
  have := (gets_word v w).bind h
  rwa [Bool.false_or] at this

theorem Gets.wide {v : UInt64} {f : UInt64 → StreamM β} (h : Gets (f (ofWide lo hi)) ws b bad) :
    Gets (Coop.wide v >>= f) (lo :: hi :: ws) b bad := by
  unfold Coop.wide
  rw [bind_assoc]
  refine Gets.word ?_
  rw [bind_assoc]
  refine Gets.word ?_
  rw [pure_bind]
  exact h

theorem gets_markError (bad : Bool) : Gets (markError bad) [] () bad := by
  intro pre post size error _
  rfl

theorem Gets.boolean {v : Bool} {f : Bool → StreamM β} (h : Gets (f (w != 0)) ws b bad) :
    Gets (Coop.boolean v >>= f) (w :: ws) b (decide (w > 1) || bad) := by
  unfold Coop.boolean
  rw [bind_assoc]
  refine Gets.word ?_
  rw [bind_assoc]
  refine (gets_markError _).bind ?_
  rw [pure_bind]
  exact h

theorem Gets.signedWord {v : Int32} {f : Int32 → StreamM β} (h : Gets (f w.toInt32) ws b bad) :
    Gets (Coop.signedWord v >>= f) (w :: ws) b bad := by
  unfold Coop.signedWord
  rw [bind_assoc]
  refine Gets.word ?_
  rw [pure_bind, signedWord_value]
  exact h

theorem Gets.enumWord [Enumeration α] {v : CEnum α} {f : CEnum α → StreamM β}
    (h : Gets (f (CEnum.ofWord w)) ws b bad) : Gets (Coop.enumWord v >>= f) (w :: ws) b bad := by
  unfold Coop.enumWord
  rw [bind_assoc]
  refine Gets.word ?_
  rw [pure_bind]
  exact h

end Primitives

section Primitives

variable {ws : List UInt32} {b : β}

theorem Puts.word {v : UInt32} {f : UInt32 → StreamM β} (h : Puts (f v) ws b) :
    Puts (Coop.word v >>= f) (v :: ws) b := (puts_word v).bind h

theorem Puts.wide {v : UInt64} {f : UInt64 → StreamM β} (h : Puts (f v) ws b) :
    Puts (Coop.wide v >>= f) (wideWords v ++ ws) b := by
  unfold Coop.wide
  rw [bind_assoc]
  refine Puts.word ?_
  rw [bind_assoc]
  refine Puts.word ?_
  rw [pure_bind]
  have := ofWide_wideWords v
  unfold ofWide at this
  rw [this]
  exact h

theorem puts_markError : Puts (markError false) [] () := by
  intro pre old post size hold _
  rw [List.length_eq_zero_iff.1 hold]
  rfl

theorem Puts.boolean {v : Bool} {f : Bool → StreamM β} (h : Puts (f v) ws b) :
    Puts (Coop.boolean v >>= f) (boolWord v :: ws) b := by
  unfold Coop.boolean
  rw [bind_assoc]
  refine Puts.word ?_
  rw [bind_assoc]
  show Puts (markError (decide (boolWord v > 1)) >>= _) ws b
  rw [boolWord_small]
  refine puts_markError.bind ?_
  show Puts (Pure.pure (boolWord v != 0) >>= f) ws b
  rw [pure_bind, boolWord_ne]
  exact h

theorem Puts.signedWord {v : Int32} {f : Int32 → StreamM β} (h : Puts (f v) ws b) :
    Puts (Coop.signedWord v >>= f) (v.toUInt32 :: ws) b := by
  unfold Coop.signedWord
  rw [bind_assoc]
  refine Puts.word ?_
  rw [pure_bind, signedWord_value, Int32.toInt32_toUInt32]
  exact h

theorem Puts.enumWord [Enumeration α] {v : CEnum α} {f : CEnum α → StreamM β}
    (h : Puts (f v) ws b) : Puts (Coop.enumWord v >>= f) (v.toWord :: ws) b := by
  unfold Coop.enumWord
  rw [bind_assoc]
  refine Puts.word ?_
  rw [pure_bind, CEnum.ofWord_toWord]
  exact h

end Primitives

/-! ## Records -/

/-- A streamed record: its words, `n` of them, and what loading them gives. -/
structure WordCodec (stream : α → StreamM α) (words : α → List UInt32) (n : Nat) : Prop where
  length : ∀ a, (words a).length = n
  puts : ∀ a, Puts (stream a) (words a) a
  gets : ∀ x a, Gets (stream x) (words a) a false
  /-- Any words load, and what loads without an error has exactly these words. -/
  total : ∀ x ws, ws.length = n → ∃ a bad, Gets (stream x) ws a bad ∧ (bad = false → words a = ws)

theorem exists_gets {m : StreamM α} {ws : List UInt32} {a : α} {bad : Bool} {Q : α → Bool → Prop}
    (h : Gets m ws a bad) (hQ : Q a bad) : ∃ a bad, Gets m ws a bad ∧ Q a bad := ⟨a, bad, h, hQ⟩

theorem Gets.of_eq {m : StreamM α} {ws : List UInt32} {a a' : α} {bad bad' : Bool}
    (h : Gets m ws a bad) (ha : a = a') (hb : bad = bad') : Gets m ws a' bad' := by
  rw [← ha, ← hb]; exact h

def actionWords (a : CoopAction) : List UInt32 := [a.kind.toWord, a.player, a.entity, a.value]

def eventWords (e : CoopEvent) : List UInt32 :=
  [e.kind.toWord, e.player, e.entity, e.value, e.flags] ++ wideWords e.distanceSquared

def playerWords (p : CoopPlayer) : List UInt32 :=
  [p.id, p.character, p.life.toWord, p.power.toWord, p.reserve, p.x.toUInt32, p.y.toUInt32,
   p.halfWidth.toUInt32, p.height.toUInt32, p.starTicks, p.protectionTicks, p.recoveryTicks,
   p.separationTicks, p.mount, p.heldObject, p.heldInput, p.pressedInput, p.actionLatch,
   boolWord p.connected, boolWord p.grounded, boolWord p.swimming, boolWord p.supportedFlight,
   boolWord p.behindFence, boolWord p.checkpointUpgrade]

theorem action_codec : WordCodec streamAction actionWords 4 where
  length _ := rfl
  puts a := Puts.enumWord <| Puts.word <| Puts.word <| Puts.word <| Puts.pure a
  gets x a := by
    apply Gets.of_eq
    · exact Gets.enumWord <| Gets.word <| Gets.word <| Gets.word <| Gets.pure _
    · simp
    · rfl
  total x ws hws := by
    match ws, hws with
    | [k, p, e, v], _ =>
      apply exists_gets
      · exact Gets.enumWord <| Gets.word <| Gets.word <| Gets.word <| Gets.pure _
      · intro _; simp [actionWords]

theorem event_codec : WordCodec streamEvent eventWords 7 where
  length _ := rfl
  puts e := Puts.enumWord <| Puts.word <| Puts.word <| Puts.word <| Puts.word <| Puts.wide <|
    Puts.pure e
  gets x e := by
    apply Gets.of_eq
    · exact Gets.enumWord <| Gets.word <| Gets.word <| Gets.word <| Gets.word <| Gets.wide <|
        Gets.pure _
    · simp [ofWide_wideWords]
    · rfl
  total x ws hws := by
    match ws, hws with
    | [k, p, e, v, f, lo, hi], _ =>
      apply exists_gets
      · exact Gets.enumWord <| Gets.word <| Gets.word <| Gets.word <| Gets.word <| Gets.wide <|
          Gets.pure _
      · intro _; simp [eventWords, wideWords_ofWide]

theorem player_codec : WordCodec streamPlayer playerWords 24 where
  length _ := rfl
  puts p := by
    unfold streamPlayer
    exact Puts.word <| Puts.word <| Puts.enumWord <| Puts.enumWord <| Puts.word <|
      Puts.signedWord <| Puts.signedWord <| Puts.signedWord <| Puts.signedWord <| Puts.word <|
      Puts.word <| Puts.word <| Puts.word <| Puts.word <| Puts.word <| Puts.word <| Puts.word <|
      Puts.word <| Puts.boolean <| Puts.boolean <| Puts.boolean <| Puts.boolean <| Puts.boolean <|
      Puts.boolean <| Puts.pure _
  gets x p := by
    apply Gets.of_eq
    · unfold streamPlayer
      exact Gets.word <| Gets.word <| Gets.enumWord <| Gets.enumWord <| Gets.word <|
        Gets.signedWord <| Gets.signedWord <| Gets.signedWord <| Gets.signedWord <| Gets.word <|
        Gets.word <| Gets.word <| Gets.word <| Gets.word <| Gets.word <| Gets.word <| Gets.word <|
        Gets.word <| Gets.boolean <| Gets.boolean <| Gets.boolean <| Gets.boolean <|
        Gets.boolean <| Gets.boolean <| Gets.pure _
    · simp only [CEnum.ofWord_toWord, Int32.toInt32_toUInt32, boolWord_ne]
    · simp only [boolWord_small, Bool.or_false]
  total x ws hws := by
    match ws, hws with
    | [id, ch, li, po, re, px, py, hw, he, st, pt, rt, sp, mo, ho, hi, pi, al, b₁, b₂, b₃, b₄, b₅,
        b₆], _ =>
      apply exists_gets
      · unfold streamPlayer
        exact Gets.word <| Gets.word <| Gets.enumWord <| Gets.enumWord <| Gets.word <|
          Gets.signedWord <| Gets.signedWord <| Gets.signedWord <| Gets.signedWord <| Gets.word <|
          Gets.word <| Gets.word <| Gets.word <| Gets.word <| Gets.word <| Gets.word <|
          Gets.word <| Gets.word <| Gets.boolean <| Gets.boolean <| Gets.boolean <|
          Gets.boolean <| Gets.boolean <| Gets.boolean <| Gets.pure _
      · intro hbad
        simp only [Bool.or_eq_false_iff] at hbad
        obtain ⟨h₁, h₂, h₃, h₄, h₅, h₆, _⟩ := hbad
        simp only [playerWords, CEnum.toWord_ofWord, UInt32.toUInt32_toInt32, boolWord_of_small h₁,
          boolWord_of_small h₂, boolWord_of_small h₃, boolWord_of_small h₄, boolWord_of_small h₅,
          boolWord_of_small h₆]

/-- The words of the session's own fields and its camera. -/
def fieldWords (s : CoopSession) : List UInt32 :=
  [s.primary, s.ticksPerSecond] ++ wideWords s.frame ++
  [s.lives, s.coins, s.score, s.dragonCoins, s.bonusStars, s.checkpoint, s.levelTicks,
   s.outcome.toWord, boolWord s.advancing, boolWord s.inputBlocked, boolWord s.failed,
   boolWord s.resolved, s.camera.x.toUInt32, s.camera.y.toUInt32, s.camera.width.toUInt32,
   s.camera.height.toUInt32, s.camera.roomWidth.toUInt32, s.camera.roomHeight.toUInt32,
   s.camera.previousCenterX.toUInt32, s.camera.previousCenterY.toUInt32,
   s.camera.travelX.toUInt32, s.camera.travelY.toUInt32, s.camera.leader,
   boolWord s.camera.initialized, boolWord s.camera.autoscroll]

/-- The fields of `s` over the arrays of `x`. -/
def CoopSession.over (s x : CoopSession) : CoopSession :=
  { s with players := x.players, events := x.events, eventCapacity := x.eventCapacity,
           actions := x.actions, actionCapacity := x.actionCapacity, allocator := x.allocator }

theorem puts_streamFields (s : CoopSession) : Puts (streamFields s) (fieldWords s) s := by
  unfold streamFields
  exact Puts.word <| Puts.word <| Puts.wide <| Puts.word <| Puts.word <| Puts.word <| Puts.word <|
    Puts.word <| Puts.word <| Puts.word <| Puts.enumWord <| Puts.boolean <| Puts.boolean <|
    Puts.boolean <| Puts.boolean <| Puts.signedWord <| Puts.signedWord <| Puts.signedWord <|
    Puts.signedWord <| Puts.signedWord <| Puts.signedWord <| Puts.signedWord <| Puts.signedWord <|
    Puts.signedWord <| Puts.signedWord <| Puts.word <| Puts.boolean <| Puts.boolean <| Puts.pure _

theorem gets_streamFields (x s : CoopSession) :
    Gets (streamFields x) (fieldWords s) (s.over x) false := by
  apply Gets.of_eq
  · unfold streamFields
    exact Gets.word <| Gets.word <| Gets.wide <| Gets.word <| Gets.word <| Gets.word <|
      Gets.word <| Gets.word <| Gets.word <| Gets.word <| Gets.enumWord <| Gets.boolean <|
      Gets.boolean <| Gets.boolean <| Gets.boolean <| Gets.signedWord <| Gets.signedWord <|
      Gets.signedWord <| Gets.signedWord <| Gets.signedWord <| Gets.signedWord <|
      Gets.signedWord <| Gets.signedWord <| Gets.signedWord <| Gets.signedWord <| Gets.word <|
      Gets.boolean <| Gets.boolean <| Gets.pure _
  · simp only [CEnum.ofWord_toWord, Int32.toInt32_toUInt32, boolWord_ne, ofWide_wideWords,
      CoopSession.over]
  · simp only [boolWord_small, Bool.or_false]

/-- Any 29 words load into the fields, over the arrays the candidate came with. -/
theorem streamFields_total (x : CoopSession) (ws : List UInt32) (hws : ws.length = 29) :
    ∃ s bad, Gets (streamFields x) ws s bad ∧ s.over x = s ∧ (bad = false → fieldWords s = ws) := by
  match ws, hws with
  | [pr, tp, lo, hi, li, co, sc, dr, bo, ch, le, ou, b₁, b₂, b₃, b₄, cx, cy, cw, hh, rw, rh, px, py,
      tx, ty, ld, b₅, b₆], _ =>
    apply exists_gets
    · unfold streamFields
      exact Gets.word <| Gets.word <| Gets.wide <| Gets.word <| Gets.word <| Gets.word <|
        Gets.word <| Gets.word <| Gets.word <| Gets.word <| Gets.enumWord <| Gets.boolean <|
        Gets.boolean <| Gets.boolean <| Gets.boolean <| Gets.signedWord <| Gets.signedWord <|
        Gets.signedWord <| Gets.signedWord <| Gets.signedWord <| Gets.signedWord <|
        Gets.signedWord <| Gets.signedWord <| Gets.signedWord <| Gets.signedWord <| Gets.word <|
        Gets.boolean <| Gets.boolean <| Gets.pure _
    · refine ⟨rfl, fun hbad => ?_⟩
      simp only [Bool.or_eq_false_iff] at hbad
      obtain ⟨h₁, h₂, h₃, h₄, h₅, h₆, _⟩ := hbad
      simp only [fieldWords, wideWords_ofWide, CEnum.toWord_ofWord, UInt32.toUInt32_toInt32,
        boolWord_of_small h₁, boolWord_of_small h₂, boolWord_of_small h₃, boolWord_of_small h₄,
        boolWord_of_small h₅, boolWord_of_small h₆]
      rfl

/-! ## Arrays -/

section Arrays

variable {stream : α → StreamM α} {words : α → List UInt32} {n : Nat}

theorem WordCodec.length_each (h : WordCodec stream words n) (as : List α) :
    (as.flatMap words).length = n * as.length := by
  induction as with
  | nil => rfl
  | cons a as ih =>
      rw [List.flatMap_cons, List.length_append, h.length, ih, List.length_cons, Nat.mul_succ,
        Nat.add_comm]

theorem WordCodec.puts_each (h : WordCodec stream words n) :
    ∀ as, Puts (streamEach stream as) (as.flatMap words) as
  | [] => Puts.pure []
  | a :: as => by
    rw [List.flatMap_cons, ← List.append_nil (as.flatMap words)]
    exact (h.puts a).bind ((WordCodec.puts_each h as).bind (Puts.pure _))

theorem WordCodec.gets_each (h : WordCodec stream words n) : ∀ xs as : List α,
    xs.length = as.length → Gets (streamEach stream xs) (as.flatMap words) as false
  | [], [], _ => Gets.pure []
  | x :: xs, a :: as, hlen => by
    rw [List.flatMap_cons, ← List.append_nil (as.flatMap words)]
    exact (h.gets x a).bind ((WordCodec.gets_each h xs as (Nat.succ.inj hlen)).bind (Gets.pure _))

theorem WordCodec.total_each (h : WordCodec stream words n) : ∀ (xs : List α) (ws : List UInt32),
    ws.length = n * xs.length → ∃ as bad, Gets (streamEach stream xs) ws as bad ∧
      (bad = false → as.length = xs.length ∧ as.flatMap words = ws)
  | [], ws, hlen => by
    rw [List.length_eq_zero_iff.1 hlen]
    exact exists_gets (Gets.pure []) fun _ => ⟨rfl, rfl⟩
  | x :: xs, ws, hlen => by
    rw [List.length_cons, Nat.mul_succ] at hlen
    obtain ⟨a, bad, hget, ha⟩ := h.total x (ws.take n) (by rw [List.length_take]; omega)
    obtain ⟨as, bads, hgets, has⟩ := WordCodec.total_each h xs (ws.drop n)
      (by rw [List.length_drop]; omega)
    rw [← List.take_append_drop n ws, ← List.append_nil (ws.drop n)]
    refine exists_gets (hget.bind (hgets.bind (Gets.pure _))) fun hbad => ?_
    rw [Bool.or_false, Bool.or_eq_false_iff] at hbad
    obtain ⟨hlen', hwords⟩ := has hbad.2
    rw [List.append_nil, List.length_cons, List.length_cons, hlen', List.flatMap_cons,
      ha hbad.1, hwords]
    exact ⟨rfl, rfl⟩

end Arrays

/-! ## The session -/

def sessionWords (s : CoopSession) : List UInt32 :=
  fieldWords s ++ (s.players.flatMap playerWords ++
    (s.events.flatMap eventWords ++ s.actions.flatMap actionWords))

/-- The contents of `s` in the storage of `x`. -/
def CoopSession.storedIn (s x : CoopSession) : CoopSession :=
  { s with eventCapacity := x.eventCapacity, actionCapacity := x.actionCapacity,
           allocator := x.allocator }

theorem sessionWords_length (s : CoopSession) : (sessionWords s).length =
    29 + 24 * s.players.length + 7 * s.events.length + 4 * s.actions.length := by
  unfold sessionWords
  rw [List.length_append, List.length_append, List.length_append, player_codec.length_each,
    event_codec.length_each, action_codec.length_each]
  show 29 + _ = _
  omega

theorem puts_streamSession (s : CoopSession) : Puts (streamSession s) (sessionWords s) s := by
  unfold streamSession sessionWords
  rw [← List.append_nil (s.actions.flatMap actionWords)]
  exact (puts_streamFields s).bind <| (player_codec.puts_each s.players).bind <|
    (event_codec.puts_each s.events).bind <|
    (action_codec.puts_each s.actions).bind (Puts.pure s)

theorem gets_streamSession (x s : CoopSession) (hp : x.players.length = s.players.length)
    (he : x.events.length = s.events.length) (ha : x.actions.length = s.actions.length) :
    Gets (streamSession x) (sessionWords s) (s.storedIn x) false := by
  unfold streamSession sessionWords
  rw [← List.append_nil (s.actions.flatMap actionWords)]
  exact (gets_streamFields x s).bind <| (player_codec.gets_each x.players s.players hp).bind <|
    (event_codec.gets_each x.events s.events he).bind <|
    (action_codec.gets_each x.actions s.actions ha).bind (Gets.pure _)

theorem streamSession_total (x : CoopSession) (ws : List UInt32)
    (hws : ws.length = 29 + 24 * x.players.length + 7 * x.events.length + 4 * x.actions.length) :
    ∃ s bad, Gets (streamSession x) ws s bad ∧ (bad = false → sessionWords s = ws ∧
      s.players.length = x.players.length ∧ s.events.length = x.events.length ∧
      s.actions.length = x.actions.length ∧ s.storedIn x = s) := by
  obtain ⟨fs, rest, rfl, hfs⟩ : ∃ fs rest, ws = fs ++ rest ∧ fs.length = 29 :=
    ⟨ws.take 29, ws.drop 29, (List.take_append_drop _ _).symm, by rw [List.length_take]; omega⟩
  rw [List.length_append] at hws
  obtain ⟨ps, rest, rfl, hps⟩ : ∃ ps rest', rest = ps ++ rest' ∧
    ps.length = 24 * x.players.length :=
    ⟨rest.take (24 * x.players.length), rest.drop (24 * x.players.length),
      (List.take_append_drop _ _).symm, by rw [List.length_take]; omega⟩
  rw [List.length_append] at hws
  obtain ⟨es, as, rfl, hes⟩ : ∃ es as, rest = es ++ as ∧ es.length = 7 * x.events.length :=
    ⟨rest.take (7 * x.events.length), rest.drop (7 * x.events.length),
      (List.take_append_drop _ _).symm, by rw [List.length_take]; omega⟩
  rw [List.length_append] at hws
  obtain ⟨s, bad₁, hs, hover, hfields⟩ := streamFields_total x fs hfs
  obtain ⟨players, bad₂, hplayers, hp⟩ := player_codec.total_each x.players ps hps
  obtain ⟨events, bad₃, hevents, he⟩ := event_codec.total_each x.events es hes
  obtain ⟨actions, bad₄, hactions, ha⟩ := action_codec.total_each x.actions as (by omega)
  have hps' : s.players = x.players := by rw [← hover]; rfl
  have hes' : s.events = x.events := by rw [← hover]; rfl
  have has' : s.actions = x.actions := by rw [← hover]; rfl
  unfold streamSession
  rw [← List.append_nil as]
  rw [← hps'] at hplayers
  rw [← hes'] at hevents
  rw [← has'] at hactions
  refine exists_gets (hs.bind <| hplayers.bind <| hevents.bind <| hactions.bind (Gets.pure _)) ?_
  intro hbad
  simp only [Bool.or_eq_false_iff] at hbad
  obtain ⟨hb₁, hb₂, hb₃, hb₄, _⟩ := hbad
  obtain ⟨hplen, hpw⟩ := hp hb₂
  obtain ⟨helen, hew⟩ := he hb₃
  obtain ⟨halen, haw⟩ := ha hb₄
  refine ⟨?_, hplen, helen, halen, ?_⟩
  · rw [List.append_nil, ← hfields hb₁, ← hpw, ← hew, ← haw]
    rfl
  · have hcap : s.eventCapacity = x.eventCapacity := by rw [← hover]; rfl
    have hacap : s.actionCapacity = x.actionCapacity := by rw [← hover]; rfl
    have halloc : s.allocator = x.allocator := by rw [← hover]; rfl
    simp only [CoopSession.storedIn, hcap, hacap, halloc]

end SmwRecomp.Coop
