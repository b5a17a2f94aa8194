import Mathlib.Data.Finset.Card
import Mathlib.Data.List.Nodup
import Mathlib.Data.List.TakeWhile

/-!
# A memory that fills up

A loop that handles what it has not handled before, as far as a list with a fixed capacity
remembers.

* `Recall`, `Recall.visit` — what is remembered and what was handled, and one visit.
* `Recall.mem_handled` — everything visited is handled.
* `handled_nodup_iff` — nothing is handled twice iff what is visited more than once is among the
  first few different elements that were visited, as many as the memory holds.
-/

set_option autoImplicit false

namespace SmwRecomp

variable {α : Type} [DecidableEq α]

structure Recall (α : Type) where
  remembered : List α
  handled : List α

namespace Recall

def empty : Recall α := ⟨[], []⟩

/-- The element is handled, and remembered while there is room. -/
def handle (capacity : Nat) (r : Recall α) (a : α) : Recall α where
  remembered := if r.remembered.length < capacity then r.remembered ++ [a] else r.remembered
  handled := r.handled ++ [a]

/-- The element is handled unless it is remembered. -/
def visit (capacity : Nat) (r : Recall α) (a : α) : Recall α :=
  if a ∈ r.remembered then r else r.handle capacity a

def visitAll (capacity : Nat) (l : List α) : Recall α := l.foldl (visit capacity) empty

theorem visitAll_snoc (capacity : Nat) (l : List α) (a : α) :
    visitAll capacity (l ++ [a]) = visit capacity (visitAll capacity l) a := by
  unfold visitAll
  rw [List.foldl_append]
  rfl

/-- The memory holds what was handled first. -/
theorem remembered_eq (capacity : Nat) (l : List α) :
    (visitAll capacity l).remembered = (visitAll capacity l).handled.take capacity := by
  induction l using List.reverseRecOn with
  | nil => exact List.take_nil.symm
  | append_singleton l a ih =>
    rw [visitAll_snoc]
    unfold visit
    split
    · exact ih
    · unfold handle
      dsimp only
      rw [ih]
      split
      · rename_i hroom
        have hshort : (visitAll capacity l).handled.length < capacity := by
          rw [List.length_take] at hroom
          omega
        rw [List.take_of_length_le (Nat.le_of_lt hshort), List.take_of_length_le]
        rw [List.length_append]
        exact hshort
      · rename_i hfull
        rw [List.length_take] at hfull
        rw [List.take_append_of_le_length (by omega)]

/-- What was visited is what was handled. -/
theorem mem_handled (capacity : Nat) (l : List α) (a : α) :
    a ∈ (visitAll capacity l).handled ↔ a ∈ l := by
  induction l using List.reverseRecOn with
  | nil => exact Iff.rfl
  | append_singleton l b ih =>
    rw [visitAll_snoc, List.mem_append, List.mem_singleton]
    unfold visit
    split
    · rename_i hb
      rw [remembered_eq] at hb
      rw [ih]
      refine ⟨Or.inl, fun h => h.elim id fun heq => ?_⟩
      subst heq
      exact ih.1 (List.mem_of_mem_take hb)
    · show a ∈ _ ++ [b] ↔ _
      rw [List.mem_append, List.mem_singleton, ih]

end Recall

/-- `a` is visited more than once. -/
def Revisited (l : List α) (a : α) : Prop := 1 < l.count a

/-- How many different elements stand in front of the first `a`. -/
def rank (l : List α) (a : α) : Nat := (l.take (l.idxOf a)).toFinset.card

theorem rank_append {l : List α} {a : α} (h : a ∈ l) (m : List α) : rank (l ++ m) a = rank l a := by
  unfold rank
  rw [List.idxOf_append_of_mem h, List.take_append_of_le_length (List.idxOf_le_length)]

theorem rank_snoc {l : List α} {a : α} (h : a ∉ l) : rank (l ++ [a]) a = l.toFinset.card := by
  unfold rank
  rw [List.idxOf_append_of_notMem h, List.idxOf_cons_self, Nat.add_zero, List.take_left']
  rfl

namespace Recall

/-- Once only, elements are handled in the order of their first visits. -/
theorem idxOf_handled (capacity : Nat) (l : List α) (h : (visitAll capacity l).handled.Nodup) :
    ∀ a ∈ l, (visitAll capacity l).handled.idxOf a = rank l a := by
  induction l using List.reverseRecOn with
  | nil => exact fun a ha => nomatch ha
  | append_singleton l b ih =>
    rw [visitAll_snoc] at h ⊢
    unfold visit at h ⊢
    split at h
    · rename_i hb
      rw [if_pos hb]
      have hseen : b ∈ l := by
        rw [remembered_eq] at hb
        exact (mem_handled capacity l b).1 (List.mem_of_mem_take hb)
      intro a ha
      have hal : a ∈ l := by
        rcases List.mem_append.1 ha with hal | hab
        · exact hal
        · rwa [List.mem_singleton.1 hab]
      rw [rank_append hal]
      exact ih h a hal
    · rename_i hb
      rw [if_neg hb]
      have hsplit : (visitAll capacity l).handled.Nodup ∧ b ∉ (visitAll capacity l).handled := by
        have := List.nodup_append.1 h
        exact ⟨this.1, fun hin => this.2.2 b hin b (List.mem_singleton.2 rfl) rfl⟩
      have hnew : b ∉ l := fun hin => hsplit.2 ((mem_handled capacity l b).2 hin)
      intro a ha
      show (_ ++ [b]).idxOf a = _
      by_cases hal : a ∈ l
      · rw [List.idxOf_append_of_mem ((mem_handled capacity l a).2 hal), rank_append hal]
        exact ih hsplit.1 a hal
      · obtain rfl : a = b := by simpa [hal] using ha
        rw [List.idxOf_append_of_notMem hsplit.2, rank_snoc hnew,
          List.idxOf_cons_self, Nat.add_zero, ← List.toFinset_card_of_nodup hsplit.1]
        congr 1
        ext x
        rw [List.mem_toFinset, List.mem_toFinset, mem_handled]

/-- Once only, an element is remembered iff it is among the first different ones. -/
theorem mem_remembered (capacity : Nat) {l : List α} (h : (visitAll capacity l).handled.Nodup)
    {a : α}
    (ha : a ∈ l) : a ∈ (visitAll capacity l).remembered ↔ rank l a < capacity := by
  rw [remembered_eq, List.mem_take_iff_idxOf_lt ((mem_handled capacity l a).2 ha),
    idxOf_handled capacity l h a ha]

end Recall

/-- **Handled once**: exactly when every element visited more than once is among the first different
ones, as many as the memory holds. -/
theorem handled_nodup_iff (capacity : Nat) (l : List α) :
    (Recall.visitAll capacity l).handled.Nodup ↔ ∀ a, Revisited l a → rank l a < capacity := by
  unfold Revisited
  induction l using List.reverseRecOn with
  | nil => exact ⟨fun _ a h => absurd h (Nat.not_lt_zero _), fun _ => List.nodup_nil⟩
  | append_singleton l b ih =>
    have hseen : ∀ {a}, 1 < l.count a → a ∈ l := fun h => List.count_pos_iff.1 (by omega)
    -- what is asked of the longer list asks it of the shorter one
    have hshort : (∀ a, 1 < (l ++ [b]).count a → rank (l ++ [b]) a < capacity) →
        ∀ a, 1 < l.count a → rank l a < capacity := by
      intro h a ha
      rw [← rank_append (hseen ha) [b]]
      refine h a (Nat.lt_of_lt_of_le ha ?_)
      rw [List.count_append]
      exact Nat.le_add_right _ _
    -- and a second visit to `b` is all it asks besides
    have hlong : ∀ a, 1 < (l ++ [b]).count a → a ≠ b → 1 < l.count a := by
      intro a ha hne
      rwa [List.count_append, List.count_singleton, beq_eq_false_iff_ne.2 (Ne.symm hne)] at ha
    rw [Recall.visitAll_snoc]
    unfold Recall.visit
    split
    · rename_i hb
      have hbl : b ∈ l := by
        rw [Recall.remembered_eq] at hb
        exact (Recall.mem_handled capacity l b).1 (List.mem_of_mem_take hb)
      refine ⟨fun h a ha => ?_, fun h => ih.2 (hshort h)⟩
      by_cases heq : a = b
      · subst heq
        rw [rank_append hbl]
        exact (Recall.mem_remembered capacity h hbl).1 hb
      · rw [rank_append (hseen (hlong a ha heq))]
        exact ih.1 h a (hlong a ha heq)
    · rename_i hb
      show ((Recall.visitAll capacity l).handled ++ [b]).Nodup ↔ _
      constructor
      · intro h a ha
        have hparts := List.nodup_append.1 h
        have hnew : b ∉ l := fun hin =>
          hparts.2.2 b ((Recall.mem_handled capacity l b).2 hin) b (List.mem_singleton.2 rfl) rfl
        have hne : a ≠ b := by
          rintro rfl
          rw [List.count_append, List.count_eq_zero.2 hnew, List.count_singleton_self] at ha
          omega
        rw [rank_append (hseen (hlong a ha hne))]
        exact ih.1 hparts.1 a (hlong a ha hne)
      · intro h
        have hnodup := ih.2 (hshort h)
        refine List.nodup_append.2 ⟨hnodup, List.nodup_singleton b, fun x hx y hy heq => ?_⟩
        rw [List.mem_singleton.1 hy] at heq
        subst heq
        -- an element handled before and no longer remembered came too late
        have hxl := (Recall.mem_handled capacity l x).1 hx
        have hcount : 1 < (l ++ [x]).count x := by
          rw [List.count_append, List.count_singleton_self]
          have := List.count_pos_iff.2 hxl
          omega
        have hrank := h x hcount
        rw [rank_append hxl] at hrank
        exact hb ((Recall.mem_remembered capacity hnodup hxl).2 hrank)

end SmwRecomp
