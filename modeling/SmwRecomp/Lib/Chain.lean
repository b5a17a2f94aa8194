import Mathlib.Data.List.Basic
import Mathlib.Data.List.Nodup
import Mathlib.Data.List.TakeWhile
import Mathlib.Logic.Function.Basic

/-!
# Singly linked lists in an array

A table of list heads beside a growing array whose elements carry a `next`.  Elements are numbered
from 0 and links from 1, so that the link 0 ends a list.

* `Cell` — what a pointer to a link points to: a head, or the `next` of an element.
* `Chain`, `endOf` — the elements a cell leads to, and the cell behind some of them.
* `walk` — the loop that moves such a pointer as long as the elements ask for it.
* `Lists` — every head leads to distinct elements of the array, no element in two lists; kept when
  an element is put into a list (`Lists.insert`) or into none (`Lists.skip`).
* `Linked` — the heads and the array themselves, with reads and writes through a pointer to a link.
-/

set_option autoImplicit false

namespace SmwRecomp

/-- A place where a link is stored. -/
inductive Cell (κ : Type) where
  | first (k : κ)
  | next (i : Nat)
  deriving DecidableEq, Repr

variable {κ ε : Type}

section Links

variable {link link' : Cell κ → Nat}

/-- The links from `c` on lead to the elements `l`, and end. -/
def Chain (link : Cell κ → Nat) : Cell κ → List Nat → Prop
  | c, [] => link c = 0
  | c, i :: l => link c = i + 1 ∧ Chain link (.next i) l

/-- The cell behind the elements `l` that `c` leads to. -/
def endOf : Cell κ → List Nat → Cell κ
  | c, [] => c
  | _, i :: l => endOf (.next i) l

theorem endOf_next (i : Nat) (l : List Nat) :
    ∃ j ∈ i :: l, endOf (.next i : Cell κ) l = .next j := by
  induction l generalizing i with
  | nil => exact ⟨i, List.mem_cons_self, rfl⟩
  | cons j l ih =>
      obtain ⟨e, he, heq⟩ := ih j
      exact ⟨e, List.mem_cons_of_mem i he, heq⟩

theorem Chain.congr : ∀ {l : List Nat} {c : Cell κ}, Chain link c l → link' c = link c →
    (∀ i ∈ l, link' (.next i) = link (.next i)) → Chain link' c l
  | [], _, h, hc, _ => hc.trans h
  | i :: _, _, ⟨hlink, hrest⟩, hc, hl =>
      ⟨hc.trans hlink,
        hrest.congr (hl i List.mem_cons_self) (fun j hj => hl j (List.mem_cons_of_mem i hj))⟩

theorem Chain.behind : ∀ {l₁ l₂ : List Nat} {c : Cell κ}, Chain link c (l₁ ++ l₂) →
    Chain link (endOf c l₁) l₂
  | [], _, _, h => h
  | _ :: _, _, _, ⟨_, hrest⟩ => hrest.behind

/-- A chain has one reading. -/
theorem Chain.unique : ∀ {l l' : List Nat} {c : Cell κ}, Chain link c l → Chain link c l' → l = l'
  | [], [], _, _, _ => rfl
  | [], _ :: _, _, h, ⟨h', _⟩ => absurd (h.symm.trans h') (Nat.succ_ne_zero _).symm
  | _ :: _, [], _, ⟨h, _⟩, h' => absurd (h.symm.trans h') (Nat.succ_ne_zero _)
  | i :: l, j :: l', _, ⟨hi, hrest⟩, ⟨hj, hrest'⟩ => by
      have hij : i = j := Nat.succ.inj (hi.symm.trans hj)
      subst hij
      rw [hrest.unique hrest']

/-- One more element between two parts of a chain: the cell behind the first part leads to it, and
it leads on. -/
theorem Chain.insert {l₂ : List Nat} {n : Nat} :
    ∀ {l₁ : List Nat} {c : Cell κ}, Chain link c (l₁ ++ l₂) →
    (l₁ ++ l₂).Nodup → n ∉ l₁ ++ l₂ → c ≠ .next n → (∀ i ∈ l₁ ++ l₂, c ≠ .next i) →
    link' (endOf c l₁) = n + 1 → link' (.next n) = link (endOf c l₁) →
    (∀ d, d ≠ endOf c l₁ → d ≠ .next n → link' d = link d) → Chain link' c (l₁ ++ n :: l₂)
  | [], c, h, _, hn, hcn, hc, hend, hnew, hother => by
      refine ⟨hend, ?_⟩
      have hkeep : ∀ i ∈ l₂, link' (.next i) = link (.next i) := by
        intro i hi
        refine hother _ (hc i hi).symm ?_
        rintro ⟨⟩
        exact hn hi
      cases l₂ with
      | nil => exact hnew.trans h
      | cons i l₂ =>
          obtain ⟨hlink, hrest⟩ := h
          exact ⟨hnew.trans hlink, hrest.congr (hkeep i List.mem_cons_self)
            (fun j hj => hkeep j (List.mem_cons_of_mem i hj))⟩
  | i :: l₁, c, ⟨hlink, hrest⟩, hnodup, hn, hcn, hc, hend, hnew, hother => by
      obtain ⟨hi, hnodup⟩ := List.nodup_cons.1 hnodup
      obtain ⟨e, he, heq⟩ := endOf_next (κ := κ) i l₁
      have hce : c ≠ endOf c (i :: l₁) := by
        intro hcontra
        exact hc e (List.mem_append_left l₂ he) (hcontra.trans heq)
      refine ⟨(hother c hce hcn).trans hlink, ?_⟩
      refine hrest.insert hnodup (fun h => hn (List.mem_cons_of_mem i h)) ?_ ?_ hend hnew hother
      · rintro ⟨⟩
        exact hn List.mem_cons_self
      · rintro j hj ⟨⟩
        exact hi hj

/-! ## Walking along a chain -/

/-- `while (*p && go (*p - 1)) p = &next of (*p - 1)`: where it stops, and the elements it looked
at. -/
def walk (link : Cell κ → Nat) (go : Nat → Except ε Bool) (spins : ε) :
    Nat → Cell κ → Except ε (Cell κ × List Nat)
  | 0, _ => .error spins
  | fuel + 1, c =>
    match link c with
    | 0 => .ok (c, [])
    | i + 1 => do
      if ← go i then
        let (d, seen) ← walk link go spins fuel (.next i)
        .ok (d, i :: seen)
      else .ok (c, [i])

theorem Chain.walk_eq (spins : ε) {go : Nat → Except ε Bool} {p : Nat → Bool} :
    ∀ {l : List Nat} {c : Cell κ}
    {fuel : Nat}, Chain link c l → (∀ i ∈ l, go i = .ok (p i)) → l.length < fuel →
    walk link go spins fuel c =
      .ok (endOf c (l.takeWhile p), l.takeWhile p ++ (l.dropWhile p).take 1)
  | [], c, fuel + 1, h, _, _ => by
      have hlink : link c = 0 := h
      simp only [walk, hlink]
      rfl
  | i :: l, c, fuel + 1, ⟨hlink, hrest⟩, hgo, hfuel => by
      have hi : go i = .ok (p i) := hgo i List.mem_cons_self
      have hlt : l.length < fuel := Nat.lt_of_succ_lt_succ hfuel
      have ih := hrest.walk_eq spins (fun j hj => hgo j (List.mem_cons_of_mem i hj)) hlt
      simp only [walk, hlink, hi]
      cases hp : p i with
      | false => simp [hp, endOf, bind, Except.bind]
      | true => simp [hp, endOf, bind, Except.bind, ih]

/-- The link at the place where a walk stops leads to the first element that stopped it. -/
theorem Chain.link_stop {p : Nat → Bool} {l : List Nat} {c : Cell κ} (h : Chain link c l) :
    link (endOf c (l.takeWhile p)) = ((l.find? fun i => !p i).map (· + 1)).getD 0 := by
  have hrest : Chain link (endOf c (l.takeWhile p)) (l.dropWhile p) := by
    apply Chain.behind
    rwa [List.takeWhile_append_dropWhile]
  rw [List.find?_not_eq_head?_dropWhile]
  cases hl : l.dropWhile p with
  | nil =>
      rw [hl] at hrest
      exact hrest
  | cons i l' =>
      rw [hl] at hrest
      exact hrest.1

/-! ## Lists that share an array -/

/-- The heads lead to lists of distinct elements below `n`, no element in two of them. -/
structure Lists (link : Cell κ → Nat) (n : Nat) (lists : κ → List Nat) : Prop where
  chain : ∀ k, Chain link (.first k) (lists k)
  inside : ∀ k, ∀ i ∈ lists k, i < n
  nodup : ∀ k, (lists k).Nodup
  apart : ∀ k k' i, i ∈ lists k → i ∈ lists k' → k = k'
  stored : ∀ c, link c ≤ n

namespace Lists

variable {n : Nat} {lists : κ → List Nat}

theorem empty (h : ∀ c, link c = 0) : Lists link 0 (fun _ => []) where
  chain k := h (.first k)
  inside _ _ hi := nomatch hi
  nodup _ := List.nodup_nil
  apart _ _ _ hi := nomatch hi
  stored c := Nat.le_of_eq (h c)

/-- No list is longer than the array, so a walk over one comes to its end. -/
theorem length_le (h : Lists link n lists) (k : κ) : (lists k).length ≤ n := by
  have hsub : lists k ⊆ List.range n := fun i hi => List.mem_range.2 (h.inside k i hi)
  have hle := List.Nodup.length_le_of_subset (h.nodup k) hsub
  rwa [List.length_range] at hle

theorem fresh (h : Lists link n lists) (k : κ) : n ∉ lists k :=
  fun hn => absurd (h.inside k n hn) (Nat.lt_irrefl n)

/-- A new element that no list leads to. -/
theorem skip (h : Lists link n lists) (hnew : link' (.next n) = 0)
    (hother : ∀ d, d ≠ .next n → link' d = link d) :
    Lists link' (n + 1) lists where
  chain k := (h.chain k).congr (hother _ (nomatch ·)) (by
    intro i hi
    refine hother _ ?_
    rintro ⟨⟩
    exact h.fresh k hi)
  inside k i hi := Nat.lt_succ_of_lt (h.inside k i hi)
  nodup := h.nodup
  apart := h.apart
  stored c := by
    by_cases hc : c = .next n
    · rw [hc, hnew]
      exact Nat.zero_le _
    · rw [hother c hc]
      exact Nat.le_succ_of_le (h.stored c)

/-- A new element put into the list of `k`, behind `l₁`. -/
theorem insert [DecidableEq κ] (h : Lists link n lists) {k : κ} {l₁ l₂ : List Nat}
    (hl : lists k = l₁ ++ l₂)
    (hend : link' (endOf (.first k) l₁) = n + 1)
    (hnew : link' (.next n) = link (endOf (.first k) l₁))
    (hother : ∀ d, d ≠ endOf (.first k) l₁ → d ≠ .next n → link' d = link d) :
    Lists link' (n + 1) (Function.update lists k (l₁ ++ n :: l₂)) := by
  have hend_other : ∀ k', k' ≠ k → ∀ i ∈ lists k', (.next i : Cell κ) ≠ endOf (.first k) l₁ := by
    intro k' hk i hi heq
    cases l₁ with
    | nil => cases heq
    | cons j l₁ =>
        obtain ⟨e, he, hee⟩ := endOf_next (κ := κ) j l₁
        cases heq.trans hee
        exact hk (h.apart k' k i hi (hl ▸ List.mem_append_left l₂ he))
  have hhead : ∀ k', k' ≠ k → (.first k' : Cell κ) ≠ endOf (.first k) l₁ := by
    intro k' hk heq
    cases l₁ with
    | nil =>
        cases heq
        exact hk rfl
    | cons j l₁ =>
        obtain ⟨e, _, hee⟩ := endOf_next (κ := κ) j l₁
        cases heq.trans hee
  have hfresh : n ∉ l₁ ++ l₂ := hl ▸ h.fresh k
  have hperm : ∀ i, i ∈ l₁ ++ n :: l₂ ↔ i = n ∨ i ∈ lists k := by
    intro i
    rw [hl, List.mem_append, List.mem_cons, List.mem_append]
    tauto
  refine ⟨?_, ?_, ?_, ?_, ?_⟩
  · intro k'
    by_cases hk : k' = k
    · subst hk
      rw [Function.update_self]
      exact (hl ▸ h.chain k').insert (hl ▸ h.nodup k') hfresh (nomatch ·)
        (fun _ _ => (nomatch ·)) hend hnew hother
    · rw [Function.update_of_ne hk]
      refine (h.chain k').congr (hother _ (hhead k' hk) (nomatch ·)) ?_
      intro i hi
      refine hother _ (hend_other k' hk i hi) ?_
      rintro ⟨⟩
      exact h.fresh k' hi
  · intro k' i hi
    by_cases hk : k' = k
    · subst hk
      rw [Function.update_self, hperm] at hi
      rcases hi with rfl | hi
      · exact Nat.lt_succ_self i
      · exact Nat.lt_succ_of_lt (h.inside k' i hi)
    · rw [Function.update_of_ne hk] at hi
      exact Nat.lt_succ_of_lt (h.inside k' i hi)
  · intro k'
    by_cases hk : k' = k
    · subst hk
      rw [Function.update_self]
      exact List.nodup_middle.2 (List.nodup_cons.2 ⟨hfresh, hl ▸ h.nodup k'⟩)
    · rw [Function.update_of_ne hk]
      exact h.nodup k'
  · intro k' k'' i hi hi'
    have hcase : ∀ m, i ∈ Function.update lists k (l₁ ++ n :: l₂) m → (i = n ∧ m = k) ∨
      i ∈ lists m := by
      intro m hm
      by_cases hk : m = k
      · subst hk
        rw [Function.update_self, hperm] at hm
        exact hm.imp (fun hn => ⟨hn, rfl⟩) id
      · rw [Function.update_of_ne hk] at hm
        exact .inr hm
    rcases hcase k' hi with ⟨hn, hk'⟩ | hold
    · rcases hcase k'' hi' with ⟨_, hk''⟩ | hold'
      · exact hk'.trans hk''.symm
      · exact absurd (hn ▸ hold') (h.fresh k'')
    · rcases hcase k'' hi' with ⟨hn, _⟩ | hold'
      · exact absurd (hn ▸ hold) (h.fresh k')
      · exact h.apart k' k'' i hold hold'
  · intro c
    by_cases hce : c = endOf (.first k) l₁
    · rw [hce, hend]
    · by_cases hcn : c = .next n
      · rw [hcn, hnew]
        exact Nat.le_succ_of_le (h.stored _)
      · rw [hother c hce hcn]
        exact Nat.le_succ_of_le (h.stored c)

end Lists

end Links

/-! ## The array -/

/-- The list heads, and the elements with the link stored in each. -/
structure Linked (κ α : Type) where
  first : κ → Nat
  items : List (α × Nat)

namespace Linked

variable {α : Type}

def empty : Linked κ α := ⟨fun _ => 0, []⟩

def link (t : Linked κ α) : Cell κ → Nat
  | .first k => t.first k
  | .next i => (t.items[i]?.map Prod.snd).getD 0

def item (t : Linked κ α) (i : Nat) : Option α := t.items[i]?.map Prod.fst

/-- A write through a pointer to a link. -/
def setLink [DecidableEq κ] (t : Linked κ α) (c : Cell κ) (v : Nat) : Linked κ α :=
  match c with
  | .first k => { t with first := Function.update t.first k v }
  | .next i => { t with items := t.items.modify i fun e => (e.1, v) }

/-- One more element, that no link leads to yet. -/
def push (t : Linked κ α) (a : α) (v : Nat) : Linked κ α := { t with items := t.items ++ [(a, v)] }

variable {t : Linked κ α} {a : α} {v n : Nat}

theorem item_isSome {i : Nat} (h : i < t.items.length) : ∃ a, t.item i = some a :=
  ⟨(t.items[i]).1, by simp [item, h]⟩

@[simp] theorem push_length : (t.push a v).items.length = t.items.length + 1 := by simp [push]

theorem link_push {d : Cell κ} (h : d ≠ .next t.items.length) : (t.push a v).link d = t.link d := by
  cases d with
  | first k => rfl
  | next i =>
      have hne : i ≠ t.items.length := fun hi => h (by rw [hi])
      rcases Nat.lt_or_gt_of_ne hne with hlt | hgt
      · simp [push, link, List.getElem?_append_left hlt]
      · have hnone : (t.items ++ [(a, v)])[i]? = none := List.getElem?_eq_none (by simp; omega)
        have hnone' : t.items[i]? = none := List.getElem?_eq_none (by omega)
        simp [push, link, hnone, hnone']

theorem link_push_new : (t.push a v).link (.next t.items.length) = v := by simp [push, link]

theorem item_push {i : Nat} (h : i < t.items.length) : (t.push a v).item i = t.item i := by
  simp [push, item, List.getElem?_append_left h]

theorem item_push_new : (t.push a v).item t.items.length = some a := by simp [push, item]

/-- A list of the array ends within it. -/
theorem endOf_lt {lists : κ → List Nat} (h : Lists t.link n lists) {k : κ} {l₁ l₂ : List Nat}
    (hl : lists k = l₁ ++ l₂) {i : Nat} (hi : endOf (.first k) l₁ = .next i) : i < n := by
  cases l₁ with
  | nil => cases hi
  | cons j l₁ =>
      obtain ⟨e, he, hee⟩ := endOf_next (κ := κ) j l₁
      have hie : (.next i : Cell κ) = .next e := hi.symm.trans hee
      cases hie
      exact h.inside k i (hl ▸ List.mem_append_left l₂ he)

theorem lists_skip {lists : κ → List Nat} (h : Lists t.link t.items.length lists) :
    Lists (t.push a 0).link (t.items.length + 1) lists :=
  h.skip link_push_new (fun _ hd => link_push hd)

variable [DecidableEq κ]

@[simp] theorem setLink_length (c : Cell κ) : (t.setLink c v).items.length = t.items.length := by
  cases c <;> simp [setLink]

theorem link_setLink {c : Cell κ} (hc : ∀ i, c = .next i → i < t.items.length) (d : Cell κ) :
    (t.setLink c v).link d = if d = c then v else t.link d := by
  cases c with
  | first k =>
      cases d with
      | first k' => by_cases h : k' = k <;> simp [setLink, link, h]
      | next i => simp [setLink, link]
  | next i =>
      have hi := hc i rfl
      cases d with
      | first k' => simp [setLink, link]
      | next i' =>
          by_cases h : i' = i
          · subst h
            simp [setLink, link, hi]
          · simp [setLink, link, h, List.getElem?_modify_ne _ _ (Ne.symm h)]

theorem item_setLink (c : Cell κ) (i : Nat) : (t.setLink c v).item i = t.item i := by
  cases c with
  | first k => rfl
  | next i' =>
      by_cases h : i = i'
      · subst h
        simp [setLink, item, Function.comp_def]
      · simp [setLink, item, List.getElem?_modify_ne _ _ (Ne.symm h)]

/-- An element pushed, and put into the list of `k` behind `l₁`. -/
theorem lists_insert {lists : κ → List Nat} (h : Lists t.link t.items.length lists) {k : κ}
    {l₁ l₂ : List Nat}
    (hl : lists k = l₁ ++ l₂) :
    Lists ((t.push a (t.link (endOf (.first k) l₁))).setLink (endOf (.first k) l₁)
      (t.items.length + 1)).link
      (t.items.length + 1) (Function.update lists k (l₁ ++ t.items.length :: l₂)) := by
  have hinside : ∀ i, endOf (.first k) l₁ = .next i → i < t.items.length := fun i => endOf_lt h hl
  have hlink := fun d => link_setLink (v := t.items.length + 1)
    (t := t.push a (t.link (endOf (.first k) l₁)))
    (fun i hi => Nat.lt_of_lt_of_eq (Nat.lt_succ_of_lt (hinside i hi)) push_length.symm) d
  have hne : (.next t.items.length : Cell κ) ≠ endOf (.first k) l₁ :=
    fun heq => absurd (hinside _ heq.symm) (Nat.lt_irrefl _)
  refine h.insert hl ?_ ?_ ?_
  · rw [hlink, if_pos rfl]
  · rw [hlink, if_neg hne, link_push_new]
  · intro d hd hdn
    rw [hlink, if_neg hd, link_push hdn]

end Linked

end SmwRecomp
