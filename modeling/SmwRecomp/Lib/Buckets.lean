import Mathlib.Data.List.Nodup
import Mathlib.Data.List.Perm.Basic
import Mathlib.Data.List.TakeWhile

/-!
# A sorted list cut by a key

* `bucketStart` — how far the keys of a list stay below a bound.
* `bucketStart_add` — one pass finds the starts of all buckets, each from where the last one lay.
* `bucket_eq` — in a list sorted by the key, what lies between two starts is what has the key.
* `stable_sort` — a sort by key and position leaves the elements of a key in their order.
-/

set_option autoImplicit false

namespace SmwRecomp

variable {α : Type} {key : α → Nat}

def bucketStart (key : α → Nat) (l : List α) (k : Nat) : Nat :=
  (l.takeWhile fun a => key a < k).length

theorem bucketStart_le (l : List α) (k : Nat) : bucketStart key l k ≤ l.length :=
  (List.takeWhile_sublist _).length_le

theorem bucketStart_cons_of_lt {a : α} {l : List α} {k : Nat} (h : key a < k) :
    bucketStart key (a :: l) k = bucketStart key l k + 1 := by
  unfold bucketStart
  rw [List.takeWhile_cons_of_pos (by simpa using h), List.length_cons]

theorem bucketStart_cons_of_le {a : α} {l : List α} {k : Nat} (h : k ≤ key a) :
    bucketStart key (a :: l) k = 0 := by
  unfold bucketStart
  rw [List.takeWhile_cons_of_neg (by simpa using h), List.length_nil]

variable (key) in
/-- From the start of a bucket the pass goes on to that of a later one. -/
theorem bucketStart_add (l : List α) {j k : Nat} (h : j ≤ k) :
    bucketStart key l j + bucketStart key (l.drop (bucketStart key l j)) k =
      bucketStart key l k := by
  induction l with
  | nil => rfl
  | cons a l ih =>
      by_cases hj : key a < j
      · rw [bucketStart_cons_of_lt hj, bucketStart_cons_of_lt (Nat.lt_of_lt_of_le hj h),
          List.drop_succ_cons, ← ih]
        omega
      · rw [bucketStart_cons_of_le (Nat.le_of_not_lt hj), List.drop_zero, Nat.zero_add]

theorem bucketStart_mono (l : List α) {j k : Nat} (h : j ≤ k) :
    bucketStart key l j ≤ bucketStart key l k := by
  rw [← bucketStart_add key l h]
  exact Nat.le_add_right _ _

theorem bucketStart_zero (l : List α) : bucketStart key l 0 = 0 := by
  cases l with
  | nil => rfl
  | cons a l => exact bucketStart_cons_of_le (Nat.zero_le _)

theorem bucketStart_all {l : List α} {k : Nat} (h : ∀ a ∈ l, key a < k) :
    bucketStart key l k = l.length := by
  unfold bucketStart
  rw [List.takeWhile_eq_self_iff.2 fun a ha => by simpa using h a ha]

theorem bucketStart_none {l : List α} {k : Nat} (h : ∀ a ∈ l, k ≤ key a) :
    bucketStart key l k = 0 := by
  cases l with
  | nil => rfl
  | cons a l => exact bucketStart_cons_of_le (h a List.mem_cons_self)

variable (key) in
/-- In a sorted list a bucket lies between its start and the next. -/
theorem bucket_eq {l : List α} (h : l.Pairwise fun a b => key a ≤ key b) (k : Nat) :
    (l.drop (bucketStart key l k)).take (bucketStart key l (k + 1) - bucketStart key l k) =
      l.filter fun a => key a = k := by
  induction l with
  | nil => rfl
  | cons a l ih =>
      obtain ⟨hfirst, hrest⟩ := List.pairwise_cons.1 h
      rcases Nat.lt_trichotomy (key a) k with hlt | heq | hgt
      · rw [bucketStart_cons_of_lt hlt, bucketStart_cons_of_lt (by omega), List.drop_succ_cons,
          Nat.add_sub_add_right, ih hrest,
          List.filter_cons_of_neg (by simpa using Nat.ne_of_lt hlt)]
      · have hnone : bucketStart key l k = 0 := bucketStart_none fun b hb => heq ▸ hfirst b hb
        have hrest := ih hrest
        rw [hnone, List.drop_zero, Nat.sub_zero] at hrest
        rw [bucketStart_cons_of_le (Nat.le_of_eq heq.symm), bucketStart_cons_of_lt (by omega),
          List.drop_zero, Nat.sub_zero, List.take_succ_cons, hrest,
          List.filter_cons_of_pos (by simpa using heq)]
      · have hnone : ∀ b ∈ a :: l, ¬ key b = k := by
          intro b hb
          rcases List.mem_cons.1 hb with rfl | hb
          · omega
          · have := hfirst b hb
            omega
        rw [bucketStart_cons_of_le (Nat.le_of_lt hgt), bucketStart_cons_of_le (by omega),
          List.filter_eq_nil_iff.2 fun b hb => by simpa using hnone b hb]
        rfl

variable (key) in
/-- What a sort by key and position makes of the elements of a key: they stand in the order they
came in. -/
theorem stable_sort {position : α → Nat} {l sorted : List α} (hperm : sorted.Perm l)
    (hsorted : sorted.Pairwise fun a b => key a < key b ∨ key a = key b ∧ position a ≤ position b)
    (hpositions : l.Pairwise fun a b => position a < position b) (k : Nat) :
    (sorted.filter fun a => key a = k) = l.filter fun a => key a = k := by
  have hinj : ∀ a ∈ l, ∀ b ∈ l, position a = position b → a = b := by
    have hnodup : (l.map position).Nodup :=
      List.pairwise_map.2 (hpositions.imp fun h => Nat.ne_of_lt h)
    exact fun a ha b hb => List.inj_on_of_nodup_map hnodup ha hb
  have hmine : (sorted.filter fun a => key a = k).Pairwise fun a b => position a ≤ position b := by
    refine (hsorted.filter _).imp_of_mem fun {a b} ha hb hab => ?_
    have ha : key a = k := by simpa using (List.mem_filter.1 ha).2
    have hb : key b = k := by simpa using (List.mem_filter.1 hb).2
    rcases hab with hlt | ⟨-, hle⟩
    · omega
    · exact hle
  refine List.Perm.eq_of_pairwise ?_ hmine ((hpositions.filter _).imp Nat.le_of_lt) (hperm.filter _)
  intro a b ha hb hab hba
  exact hinj a (hperm.mem_iff.1 (List.mem_filter.1 ha).1) b (List.mem_filter.1 hb).1
    (Nat.le_antisymm hab hba)

end SmwRecomp
