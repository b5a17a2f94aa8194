import Mathlib.Data.List.Basic
import Mathlib.Data.List.Infix
import Mathlib.Algebra.Order.Ring.Nat

/-!
# Matchers on strings

The pieces regular expressions without ambiguity are made of, and what a match makes of text that is
added behind it.

* `lit`, `run`, `ensure` — a literal, the longest run of a class, a condition; `search` — the first
  place that matches.
* `bind_of_some`, `lit_append`, `run_append` — a match, step by step.
* `Apart`, `Blind` — a tail that no match starting before it reaches into.
* `StopsAt`, `Inside` — a character that no match gets past.
* `infix_append_apart`, `search_append` — what is found in a text with such a tail.
-/

set_option autoImplicit false

namespace SmwRecomp

variable {γ α β : Type}

/-- A matcher makes something of a prefix of the text, and leaves the rest. -/
abbrev Scan (γ α : Type) := StateT (List γ) Option α

def lit [DecidableEq γ] (p : List γ) : Scan γ Unit :=
  fun t => if p <+: t then some ((), t.drop p.length) else none

def run (cls : γ → Bool) : Scan γ (List γ) := fun t => some (t.takeWhile cls, t.dropWhile cls)

def ensure (c : Bool) : Scan γ Unit := fun t => if c then some ((), t) else none

/-- The first match in a text. -/
def search (m : Scan γ α) : List γ → Option α
  | [] => (m []).map Prod.fst
  | c :: cs =>
    match m (c :: cs) with
    | some r => some r.1
    | none => search m cs

/-! ## Matching step by step -/

theorem bind_of_some {m : Scan γ α} {f : α → Scan γ β} {t r : List γ} {a : α}
    (h : m t = some (a, r)) :
    (m >>= f) t = f a r := by
  show Option.bind (m t) _ = _
  rw [h]
  rfl

theorem bind_of_none {m : Scan γ α} {f : α → Scan γ β} {t : List γ} (h : m t = none) :
    (m >>= f) t = none := by
  show Option.bind (m t) _ = _
  rw [h]
  rfl

theorem lit_append [DecidableEq γ] (p t : List γ) : lit p (p ++ t) = some ((), t) := by
  unfold lit
  rw [if_pos (List.prefix_append p t), List.drop_left]

theorem run_append {cls : γ → Bool} {u t : List γ} (hu : ∀ c ∈ u, cls c = true)
    (ht : ∀ c ∈ t.head?, cls c = false) :
    run cls (u ++ t) = some (u, t) := by
  have hstop : t.takeWhile cls = [] ∧ t.dropWhile cls = t := by
    cases t with
    | nil => exact ⟨rfl, rfl⟩
    | cons c t =>
        have hc : ¬ cls c = true := by
          rw [ht c rfl]
          exact Bool.false_ne_true
        exact ⟨List.takeWhile_cons_of_neg hc, List.dropWhile_cons_of_neg hc⟩
  unfold run
  rw [List.takeWhile_append_of_pos hu, List.dropWhile_append_of_pos hu, hstop.1, hstop.2,
    List.append_nil]

theorem ensure_of {c : Bool} (h : c = true) (t : List γ) : ensure c t = some ((), t) := if_pos h

/-! ## Tails that no match reaches into -/

/-- No part of `p` that ends it starts `x`. -/
def Apart (p x : List γ) : Prop := ∀ v, v ≠ [] → v <:+ p → ¬ v <+: x

theorem apart_of_not_mem {p x : List γ} {c : γ} (h : c ∉ p) : Apart p (c :: x) := by
  intro v hne hsuffix hprefix
  cases v with
  | nil => exact hne rfl
  | cons d v =>
      have hd : d = c := (List.cons_prefix_cons.1 hprefix).1
      subst hd
      exact h (hsuffix.subset List.mem_cons_self)

theorem apart_of_pair {p x : List γ} {c d : γ} (hd : d ∉ p) (hc : p.getLast? ≠ some c) :
    Apart p (c :: d :: x) := by
  intro v hne hsuffix hprefix
  match v with
  | [] => exact hne rfl
  | [a] =>
      have ha : a = c := (List.cons_prefix_cons.1 hprefix).1
      subst ha
      obtain ⟨u, rfl⟩ := hsuffix
      exact hc List.getLast?_concat
  | a :: b :: v =>
      have hb : b = d := (List.cons_prefix_cons.1 (List.cons_prefix_cons.1 hprefix).2).1
      subst hb
      exact hd (hsuffix.subset (List.mem_cons_of_mem _ List.mem_cons_self))

theorem prefix_append_apart {p t x : List γ} (h : Apart p x) : p <+: t ++ x ↔ p <+: t := by
  constructor
  · intro hp
    rcases List.prefix_or_prefix_of_prefix hp (List.prefix_append t x) with ht | ht
    · exact ht
    · obtain ⟨v, rfl⟩ := ht
      have hv : v <+: x := (List.prefix_append_right_inj t).1 hp
      by_cases hne : v = []
      · rw [hne, List.append_nil]
      · exact absurd hv (h v hne (List.suffix_append t v))
  · intro hp
    exact hp.trans (List.prefix_append t x)

/-- What occurs in a text with such a tail occurs in the text or in the tail. -/
theorem infix_append_apart {p x : List γ} (h : Apart p x) : ∀ {t : List γ}, p <:+: t ++ x ↔
    p <:+: t ∨ p <:+: x
  | [] => by
    rw [List.nil_append]
    constructor
    · exact .inr
    · rintro (hp | hp)
      · rw [List.infix_nil.1 hp]
        exact List.nil_infix
      · exact hp
  | c :: t => by
    rw [List.cons_append, List.infix_cons_iff, List.infix_cons_iff, infix_append_apart h,
      ← List.cons_append, prefix_append_apart h, or_assoc]

/-- The matcher does not see `x` behind a text. -/
def Blind (x : List γ) (m : Scan γ α) : Prop := ∀ t, m (t ++ x) = (m t).map fun r => (r.1, r.2 ++ x)

theorem blind_lit [DecidableEq γ] {p x : List γ} (h : Apart p x) : Blind x (lit p) := by
  intro t
  unfold lit
  by_cases hp : p <+: t
  · rw [if_pos hp, if_pos ((prefix_append_apart h).2 hp),
      List.drop_append_of_le_length hp.length_le]
    rfl
  · rw [if_neg hp, if_neg (mt (prefix_append_apart h).1 hp)]
    rfl

theorem blind_run {cls : γ → Bool} {c : γ} {x : List γ} (h : cls c = false) :
    Blind (c :: x) (run cls) := by
  intro t
  unfold run
  induction t with
  | nil => simp [h]
  | cons d t ih =>
      rw [Option.map_some, Option.some_inj] at ih
      cases hd : cls d with
      | false => simp [hd]
      | true =>
          obtain ⟨htake, hdrop⟩ := Prod.mk.inj ih
          simp only [List.cons_append, List.takeWhile_cons_of_pos hd, List.dropWhile_cons_of_pos hd,
            Option.map_some, htake, hdrop]

theorem blind_ensure {c : Bool} {x : List γ} : Blind x (ensure c : Scan γ Unit) := by
  intro t
  unfold ensure
  split <;> rfl

theorem blind_pure {x : List γ} (a : α) : Blind x (pure a : Scan γ α) := fun _ => rfl

theorem Blind.bind {x : List γ} {m : Scan γ α} {f : α → Scan γ β} (hm : Blind x m)
    (hf : ∀ a, Blind x (f a)) :
    Blind x (m >>= f) := by
  intro t
  show (m (t ++ x)).bind (fun r => f r.1 r.2) = ((m t).bind fun r => f r.1 r.2).map _
  rw [hm t]
  cases m t with
  | none => rfl
  | some r => exact hf r.1 r.2

/-- A search in a text with such a tail goes on in the tail. -/
theorem search_append {x : List γ} {m : Scan γ α} (h : Blind x m) :
    ∀ t, search m (t ++ x) = (search m t <|> search m x)
  | [] => by
    have hx := h []
    rw [List.nil_append] at hx ⊢
    cases hm : m [] with
    | none => simp [search, hm]
    | some r =>
        have hfirst : search m x = some r.1 := by
          rw [hm, Option.map_some] at hx
          cases x with
          | nil => simp [search, hx]
          | cons c x => simp [search, hx]
        rw [hfirst]
        simp [search, hm]
  | c :: t => by
    rw [List.cons_append, search, search, ← List.cons_append, h (c :: t)]
    cases m (c :: t) with
    | none => exact search_append h t
    | some r => rfl

theorem lit_bind_none [DecidableEq γ] {p t : List γ} {f : Unit → Scan γ α} (h : ¬ p <+: t) :
    (lit p >>= f) t = none :=
  bind_of_none (if_neg h)

/-- A literal that does not occur is not found. -/
theorem search_lit_none [DecidableEq γ] {p : List γ} {f : Unit → Scan γ α} (hp : p ≠ []) :
    ∀ {t : List γ}, ¬ p <:+: t → search (lit p >>= f) t = none
  | [], _ => by
    rw [search, lit_bind_none (fun h => hp (List.prefix_nil.1 h))]
    rfl
  | c :: t, h => by
    rw [List.infix_cons_iff, not_or] at h
    rw [search, lit_bind_none h.1]
    exact search_lit_none hp h.2

/-! ## Characters that no match gets past -/

/-- A match in front of `b` sees nothing behind it. -/
def Inside (b : γ) (m : Scan γ α) : Prop :=
  ∀ r y, b ∈ r → m (r ++ y) = (m r).map fun q => (q.1, q.2 ++ y)

/-- And it leaves `b` in the rest. -/
def StopsAt (b : γ) (m : Scan γ α) : Prop :=
  Inside b m ∧ ∀ r a r', b ∈ r → m r = some (a, r') → b ∈ r'

section StopsAt

variable {b : γ}

theorem StopsAt.bind {m : Scan γ α} {f : α → Scan γ β} (hm : StopsAt b m)
    (hf : ∀ a, StopsAt b (f a)) :
    StopsAt b (m >>= f) := by
  constructor
  · intro r y hb
    show (m (r ++ y)).bind (fun q => f q.1 q.2) = ((m r).bind fun q => f q.1 q.2).map _
    rw [hm.1 r y hb]
    cases hr : m r with
    | none => rfl
    | some q => exact (hf q.1).1 q.2 y (hm.2 r q.1 q.2 hb hr)
  · intro r a r' hb h
    have h : (m r).bind (fun q => f q.1 q.2) = some (a, r') := h
    obtain ⟨q, hq, h⟩ := Option.bind_eq_some_iff.1 h
    exact (hf q.1).2 q.2 a r' (hm.2 r q.1 q.2 hb hq) h

theorem StopsAt.inside {m : Scan γ α} {f : α → Scan γ β} (hm : StopsAt b m)
    (hf : ∀ a, Inside b (f a)) :
    Inside b (m >>= f) := by
  intro r y hb
  show (m (r ++ y)).bind (fun q => f q.1 q.2) = ((m r).bind fun q => f q.1 q.2).map _
  rw [hm.1 r y hb]
  cases hr : m r with
  | none => rfl
  | some q => exact hf q.1 q.2 y (hm.2 r q.1 q.2 hb hr)

theorem Inside.bind_pure {m : Scan γ α} (hm : Inside b m) (a : β) :
    Inside b (m >>= fun _ => pure a) := by
  intro r y hb
  show (m (r ++ y)).bind (fun q => some (a, q.2)) = ((m r).bind fun q => some (a, q.2)).map _
  rw [hm r y hb]
  cases m r <;> rfl

theorem stopsAt_pure (a : α) : StopsAt b (pure a : Scan γ α) := by
  constructor
  · intro r y _
    rfl
  · intro r a' r' hb h
    cases h
    exact hb

theorem stopsAt_ensure {c : Bool} : StopsAt b (ensure c : Scan γ Unit) := by
  constructor
  · intro r y _
    unfold ensure
    split <;> rfl
  · intro r a r' hb h
    unfold ensure at h
    split at h
    · cases h
      exact hb
    · cases h

theorem stopsAt_lit [DecidableEq γ] {p : List γ} (h : b ∉ p) : StopsAt b (lit p) := by
  constructor
  · intro r y hb
    unfold lit
    have hiff : p <+: r ++ y ↔ p <+: r := by
      constructor
      · intro hp
        rcases List.prefix_or_prefix_of_prefix hp (List.prefix_append r y) with hr | hr
        · exact hr
        · exact absurd (hr.subset hb) h
      · intro hp
        exact hp.trans (List.prefix_append r y)
    by_cases hp : p <+: r
    · rw [if_pos hp, if_pos (hiff.2 hp), List.drop_append_of_le_length hp.length_le]
      rfl
    · rw [if_neg hp, if_neg (mt hiff.1 hp)]
      rfl
  · intro r a r' hb hr
    unfold lit at hr
    split at hr
    · rename_i hp
      cases hr
      obtain ⟨rest, rfl⟩ := hp
      rw [List.drop_left]
      exact (List.mem_append.1 hb).resolve_left h
    · cases hr

theorem stopsAt_run {cls : γ → Bool} (h : cls b = false) : StopsAt b (run cls) := by
  have hboth : ∀ r y : List γ, b ∈ r → (r ++ y).takeWhile cls = r.takeWhile cls ∧
      (r ++ y).dropWhile cls = r.dropWhile cls ++ y ∧ b ∈ r.dropWhile cls := by
    intro r y
    induction r with
    | nil => intro hb; cases hb
    | cons c r ih =>
        intro hb
        cases hc : cls c with
        | false => simp [hc, hb]
        | true =>
            have hne : b ≠ c := by
              rintro rfl
              rw [h] at hc
              cases hc
            obtain ⟨htake, hdrop, hmem⟩ := ih ((List.mem_cons.1 hb).resolve_left hne)
            simp [hc, htake, hdrop, hmem]
  constructor
  · intro r y hb
    unfold run
    rw [(hboth r y hb).1, (hboth r y hb).2.1]
    rfl
  · intro r a r' hb hr
    cases hr
    exact (hboth r [] hb).2.2

/-- One character is read off a text that has one. -/
theorem inside_lit_one [DecidableEq γ] (c : γ) : Inside b (lit [c]) := by
  intro r y hb
  cases r with
  | nil => cases hb
  | cons d r =>
      unfold lit
      by_cases hd : c = d
      · subst hd
        rw [if_pos (by simp), if_pos (by simp)]
        rfl
      · rw [if_neg (by simp [hd]), if_neg (by simp [hd])]
        rfl

end StopsAt

end SmwRecomp
