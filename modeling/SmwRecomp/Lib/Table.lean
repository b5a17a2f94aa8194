import SmwRecomp.Lib.Keyed
import Mathlib.Data.List.Perm.Subperm

/-!
# Unordered tables and nested scans

* `indexKey`, `swapRemove` — "find the record, move the last one into its place, shrink";
  `swapRemove_perm` — the rest of the table is kept, whatever its order.
* `set_eq_map` — with distinct keys a write at an index is a map over the table.
* `length_le_of_keys` — distinct keys below `n` bound the table by `n`.
* `scan` — a loop over an array whose body looks at the records before and after the current one;
  `scan_before`, `scan_around` — what such loops check.
-/

set_option autoImplicit false

namespace SmwRecomp

variable {α κ : Type} [DecidableEq κ] {key : α → κ}

/-! ## Removal -/

/-- The index of the first record with key `k`. -/
def indexKey (key : α → κ) (k : κ) : List α → Option Nat
  | [] => none
  | x :: xs => if key x = k then some 0 else (indexKey key k xs).map (· + 1)

/-- `xs[i] = xs[--n]`. -/
def swapRemove (i : Nat) (xs : List α) : List α :=
  match xs.getLast? with
  | none => []
  | some last => (xs.set i last).dropLast

theorem indexKey_eq_none {k : κ} : ∀ {xs : List α}, indexKey key k xs = none ↔ ∀ a ∈ xs, key a ≠ k
  | [] => by simp [indexKey]
  | x :: xs => by
    unfold indexKey
    split
    · rename_i h; simp [h]
    · rename_i h
      rw [Option.map_eq_none_iff, indexKey_eq_none, List.forall_mem_cons]
      exact ⟨fun hx => ⟨h, hx⟩, fun hx => hx.2⟩

theorem indexKey_eq_some {k : κ} : ∀ {xs : List α} {i : Nat}, indexKey key k xs = some i →
    ∃ a, xs[i]? = some a ∧ key a = k
  | x :: xs, i, h => by
    rw [indexKey] at h
    split at h
    · rename_i hk
      cases h
      exact ⟨x, rfl, hk⟩
    · obtain ⟨j, hj, rfl⟩ := Option.map_eq_some_iff.1 h
      have ih : ∃ a, xs[j]? = some a ∧ key a = k := indexKey_eq_some hj
      exact ih

/-- Removing by moving the last record into the hole loses exactly that record. -/
theorem swapRemove_perm {xs : List α} {i : Nat} {a : α} (h : xs[i]? = some a) :
    (a :: swapRemove i xs).Perm xs := by
  obtain ⟨pre, post, rfl, rfl⟩ : ∃ pre post, xs = pre ++ a :: post ∧ pre.length = i := by
    obtain ⟨hi, hget⟩ := List.getElem?_eq_some_iff.1 h
    exact ⟨xs.take i, xs.drop (i + 1), by rw [← hget, ← List.drop_eq_getElem_cons hi,
      List.take_append_drop], by rw [List.length_take]; omega⟩
  rcases List.eq_nil_or_concat post with rfl | ⟨mid, last, rfl⟩
  · have hremove : swapRemove pre.length (pre ++ [a]) = pre := by
      simp [swapRemove]
    rw [hremove]
    exact (List.perm_append_comm : ([a] ++ pre).Perm (pre ++ [a]))
  · have hremove : swapRemove pre.length (pre ++ a :: mid.concat last) = pre ++ last :: mid := by
      have hlast : (pre ++ a :: (mid ++ [last])).getLast? = some last := by
        rw [← List.cons_append, ← List.append_assoc, List.getLast?_concat]
      rw [List.concat_eq_append, swapRemove, hlast]
      show ((pre ++ a :: (mid ++ [last])).set pre.length last).dropLast = _
      rw [List.set_append_right _ _ (Nat.le_refl _), Nat.sub_self, List.set_cons_zero,
        ← List.cons_append, ← List.append_assoc, List.dropLast_concat]
    rw [hremove, List.concat_eq_append]
    exact (List.perm_middle.symm).trans
      ((List.Perm.cons a (List.perm_append_singleton last mid).symm).append_left pre)

theorem swapRemove_length {xs : List α} {i : Nat} {a : α} (h : xs[i]? = some a) :
    (swapRemove i xs).length + 1 = xs.length := (swapRemove_perm h).length_eq

theorem swapRemove_nodup {β : Type} {f : α → β} {xs : List α} {i : Nat} {a : α}
    (h : xs[i]? = some a) (hnd : (xs.map f).Nodup) : ((swapRemove i xs).map f).Nodup := by
  have hcons := ((swapRemove_perm h).map f).nodup_iff.2 hnd
  exact (List.nodup_cons.1 hcons).2

omit [DecidableEq κ] in
/-- With distinct keys exactly the record with that key has gone. -/
theorem mem_swapRemove {xs : List α} {i : Nat} {a b : α} (h : xs[i]? = some a)
    (hnd : (xs.map key).Nodup) : b ∈ swapRemove i xs ↔ b ∈ xs ∧ key b ≠ key a := by
  have hcons := ((swapRemove_perm h).map key).nodup_iff.2 hnd
  rw [List.map_cons, List.nodup_cons] at hcons
  have hperm : b ∈ a :: swapRemove i xs ↔ b ∈ xs := (swapRemove_perm h).mem_iff
  constructor
  · intro hb
    exact ⟨hperm.1 (List.mem_cons_of_mem _ hb), fun he => hcons.1 (he ▸ List.mem_map_of_mem hb)⟩
  · rintro ⟨hb, hne⟩
    rcases List.mem_cons.1 (hperm.2 hb) with rfl | hb
    · exact absurd rfl hne
    · exact hb

/-! ## Writing -/

theorem set_eq_map {a b : α} : ∀ {xs : List α} {i : Nat}, (xs.map key).Nodup → xs[i]? = some a →
    xs.set i b = xs.map (fun x => if key x = key a then b else x)
  | x :: xs, 0, hnd, h => by
    rw [List.map_cons, List.nodup_cons] at hnd
    cases h
    have hrest : xs.map (fun y => if key y = key a then b else y) = xs := by
      conv_rhs => rw [← List.map_id xs]
      refine List.map_congr_left fun y hy => if_neg fun he => hnd.1 ?_
      rw [← he]
      exact List.mem_map_of_mem hy
    rw [List.set_cons_zero, List.map_cons, if_pos rfl, hrest]
  | x :: xs, i + 1, hnd, h => by
    rw [List.map_cons, List.nodup_cons] at hnd
    have hget : xs[i]? = some a := h
    have hne : key x ≠ key a := fun he =>
      hnd.1 (he ▸ List.mem_map_of_mem (List.mem_of_getElem? hget))
    rw [List.set_cons_succ, List.map_cons, if_neg hne, set_eq_map hnd.2 hget]

/-! ## Size -/

theorem length_le_of_keys {f : α → Nat} {n : Nat} {xs : List α} (hnd : (xs.map f).Nodup)
    (hlt : ∀ x ∈ xs, f x < n) : xs.length ≤ n := by
  have hsub : xs.map f ⊆ List.range n := by
    intro k hk
    obtain ⟨x, hx, rfl⟩ := List.mem_map.1 hk
    exact List.mem_range.2 (hlt x hx)
  have hle := (hnd.subperm hsub).length_le
  rwa [List.length_map, List.length_range] at hle

/-! ## Scans -/

/-- A loop whose body sees the records before and after the current one. -/
def scan (check : List α → α → List α → Bool) : List α → List α → Bool
  | _, [] => true
  | before, x :: after => check before x after && scan check (before ++ [x]) after

theorem scan_before_aux {check : List α → α → List α → Bool} {P : α → Prop} {R : α → α → Prop}
    (h : ∀ before x after, check before x after = true ↔ P x ∧ ∀ y ∈ before, R y x) :
    ∀ before xs : List α, scan check before xs = true ↔
      (∀ x ∈ xs, P x ∧ ∀ y ∈ before, R y x) ∧ xs.Pairwise R
  | before, [] => by simp [scan]
  | before, x :: xs => by
    unfold scan
    rw [Bool.and_eq_true, h, scan_before_aux h (before ++ [x]) xs, List.forall_mem_cons,
      List.pairwise_cons]
    simp only [List.mem_append, List.mem_singleton]
    constructor
    · rintro ⟨hx, hxs, hpair⟩
      exact ⟨⟨hx, fun z hz => ⟨(hxs z hz).1, fun y hy => (hxs z hz).2 y (Or.inl hy)⟩⟩,
        fun z hz => (hxs z hz).2 x (Or.inr rfl), hpair⟩
    · rintro ⟨⟨hx, hxs⟩, hhead, hpair⟩
      refine ⟨hx, fun z hz => ⟨(hxs z hz).1, fun y hy => ?_⟩, hpair⟩
      rcases hy with hy | rfl
      · exact (hxs z hz).2 y hy
      · exact hhead z hz

/-- A loop that compares with the records before: a property of each, a relation of each pair. -/
theorem scan_before {check : List α → α → List α → Bool} {P : α → Prop} {R : α → α → Prop}
    (h : ∀ before x after, check before x after = true ↔ P x ∧ ∀ y ∈ before, R y x)
    (xs : List α) : scan check [] xs = true ↔ (∀ x ∈ xs, P x) ∧ xs.Pairwise R := by
  rw [scan_before_aux h]
  simp

theorem scan_around_aux {check : List α → α → List α → Bool} {P : α → Prop} {R : α → α → Prop}
    (h : ∀ before x after, check before x after = true ↔ P x ∧ ∀ y ∈ before ++ after, R y x) :
    ∀ before xs : List α, scan check before xs = true ↔
      (∀ x ∈ xs, P x ∧ ∀ y ∈ before, R y x) ∧ xs.Pairwise (fun y x => R y x ∧ R x y)
  | before, [] => by simp [scan]
  | before, x :: xs => by
    unfold scan
    rw [Bool.and_eq_true, h, scan_around_aux h (before ++ [x]) xs, List.forall_mem_cons,
      List.pairwise_cons]
    simp only [List.mem_append, List.mem_singleton]
    constructor
    · rintro ⟨⟨hx, hothers⟩, hxs, hpair⟩
      exact ⟨⟨⟨hx, fun y hy => hothers y (Or.inl hy)⟩,
        fun z hz => ⟨(hxs z hz).1, fun y hy => (hxs z hz).2 y (Or.inl hy)⟩⟩,
        fun z hz => ⟨(hxs z hz).2 x (Or.inr rfl), hothers z (Or.inr hz)⟩, hpair⟩
    · rintro ⟨⟨⟨hx, hbefore⟩, hxs⟩, hhead, hpair⟩
      refine ⟨⟨hx, fun y hy => ?_⟩, fun z hz => ⟨(hxs z hz).1, fun y hy => ?_⟩, hpair⟩
      · rcases hy with hy | hy
        · exact hbefore y hy
        · exact (hhead y hy).2
      · rcases hy with hy | rfl
        · exact (hxs z hz).2 y hy
        · exact (hhead z hz).1

/-- A loop that compares with all the other records. -/
theorem scan_around {check : List α → α → List α → Bool} {P : α → Prop} {R : α → α → Prop}
    (h : ∀ before x after, check before x after = true ↔ P x ∧ ∀ y ∈ before ++ after, R y x)
    (xs : List α) : scan check [] xs = true ↔
      (∀ x ∈ xs, P x) ∧ xs.Pairwise (fun y x => R y x ∧ R x y) := by
  rw [scan_around_aux h]
  simp

end SmwRecomp
