import Mathlib.Data.List.Basic
import Mathlib.Data.List.Perm.Basic
import Mathlib.Data.List.Nodup
import Mathlib.Data.List.Forall2

/-!
# Arrays of records searched by key

The C idiom "scan the array for the record with this key and return a pointer to it", followed
by a write through that pointer.

* `findKey` — the record the scan finds (the first one).
* `putKey` — the array after a record has been written through the pointer the scan returns.
* `findKey_perm`, `putKey_perm` — with distinct keys neither depends on the storage order.
-/

set_option autoImplicit false

namespace SmwRecomp

variable {α κ : Type} [DecidableEq κ] (key : α → κ)

/-- The first record with key `k`. -/
def findKey (k : κ) : List α → Option α
  | [] => none
  | x :: xs => if key x = k then some x else findKey k xs

/-- Overwrite the first record whose key is `key a`. -/
def putKey (a : α) : List α → List α
  | [] => []
  | x :: xs => if key x = key a then a :: xs else x :: putKey a xs

variable {key}

theorem findKey_some {k : κ} : ∀ {xs : List α} {a : α}, findKey key k xs = some a →
    a ∈ xs ∧ key a = k
  | x :: xs, a, h => by
    unfold findKey at h
    split at h
    · rename_i hk
      cases h
      exact ⟨List.mem_cons_self, hk⟩
    · obtain ⟨hm, hk⟩ := findKey_some h
      exact ⟨List.mem_cons_of_mem _ hm, hk⟩

theorem findKey_eq_none {k : κ} {xs : List α} :
    findKey key k xs = none ↔ ∀ a ∈ xs, key a ≠ k := by
  induction xs with
  | nil => simp [findKey]
  | cons x xs ih =>
      unfold findKey
      split
      · rename_i hk; simp [hk]
      · rename_i hk; simp [ih, hk]

theorem findKey_isSome {k : κ} {xs : List α} :
    (findKey key k xs).isSome ↔ ∃ a ∈ xs, key a = k := by
  rw [← not_iff_not, Bool.not_eq_true, Option.isSome_eq_false_iff, Option.isNone_iff_eq_none,
    findKey_eq_none]
  push Not
  rfl

/-- Whether a key is present depends on the keys alone. -/
theorem findKey_isSome_of_keys {k : κ} {xs ys : List α} (h : xs.map key = ys.map key) :
    (findKey key k xs).isSome = (findKey key k ys).isSome := by
  have hmem : ∀ zs : List α, (findKey key k zs).isSome ↔ k ∈ zs.map key := fun zs => by
    rw [findKey_isSome, List.mem_map]
  exact Bool.eq_iff_iff.2 (by rw [hmem, hmem, h])

/-- With distinct keys the scan finds every record. -/
theorem findKey_of_mem : ∀ {xs : List α} {a : α}, (xs.map key).Nodup → a ∈ xs →
    findKey key (key a) xs = some a
  | x :: xs, a, hnd, hm => by
    rw [List.map_cons, List.nodup_cons] at hnd
    unfold findKey
    rcases List.mem_cons.1 hm with rfl | hm
    · simp
    · rw [if_neg, findKey_of_mem hnd.2 hm]
      intro he
      exact hnd.1 (he ▸ List.mem_map_of_mem hm)

theorem findKey_perm {xs ys : List α} (hnd : (xs.map key).Nodup) (hp : xs.Perm ys) (k : κ) :
    findKey key k xs = findKey key k ys := by
  cases hx : findKey key k xs with
  | none =>
      have h := findKey_eq_none.1 hx
      exact (findKey_eq_none.2 fun a ha => h a (hp.mem_iff.2 ha)).symm
  | some a =>
      obtain ⟨hm, rfl⟩ := findKey_some hx
      exact (findKey_of_mem ((hp.map key).nodup_iff.1 hnd) (hp.mem_iff.1 hm)).symm

theorem findKey_map {β : Type} {key' : β → κ} {f : α → β} (hf : ∀ a, key' (f a) = key a) (k : κ)
    (xs : List α) : findKey key' k (xs.map f) = (findKey key k xs).map f := by
  induction xs with
  | nil => rfl
  | cons x xs ih =>
      simp only [List.map_cons, findKey, hf]
      split
      · rfl
      · exact ih

/-- What records contribute under their keys, picked out for one key. -/
theorem filter_flatMap_key {β : Type} {tag : β → κ} {f : α → List β}
    (htag : ∀ a, ∀ b ∈ f a, tag b = key a) (k : κ) :
    ∀ {xs : List α}, (xs.map key).Nodup →
      (xs.flatMap f).filter (fun b => tag b = k) = ((findKey key k xs).map f).getD []
  | [], _ => rfl
  | x :: xs, hnd => by
    rw [List.map_cons, List.nodup_cons] at hnd
    have hfind : findKey key k (x :: xs) = if key x = k then some x else findKey key k xs := rfl
    rw [List.flatMap_cons, List.filter_append, filter_flatMap_key htag k hnd.2, hfind]
    by_cases hk : key x = k
    · have hall : (f x).filter (fun b => tag b = k) = f x :=
        List.filter_eq_self.mpr fun b hb => by simp [htag x b hb, hk]
      have hrest : findKey key k xs = none := findKey_eq_none.mpr fun a ha heq =>
        hnd.1 (hk.trans heq.symm ▸ List.mem_map_of_mem ha)
      rw [if_pos hk, hall, hrest]
      simp
    · have hnone : (f x).filter (fun b => tag b = k) = [] :=
        List.filter_eq_nil_iff.mpr fun b hb => by simp [htag x b hb, hk]
      rw [if_neg hk, hnone, List.nil_append]

/-- Arrays that are related record by record and keep the keys have related records under a key. -/
theorem findKey_forall₂ {R : α → α → Prop} (hR : ∀ a b, R a b → key b = key a) {xs ys : List α}
    (h : List.Forall₂ R xs ys) {k : κ} {a : α} (ha : findKey key k xs = some a) :
    ∃ b, findKey key k ys = some b ∧ R a b := by
  induction h with
  | nil => cases ha
  | @cons x y xs ys hxy _ ih =>
      unfold findKey at ha ⊢
      rw [hR x y hxy]
      split at ha
      · rename_i hk
        cases ha
        rw [if_pos hk]
        exact ⟨y, rfl, hxy⟩
      · rename_i hk
        rw [if_neg hk]
        exact ih ha

@[simp] theorem putKey_length (a : α) (xs : List α) : (putKey key a xs).length = xs.length := by
  induction xs with
  | nil => rfl
  | cons x xs ih => unfold putKey; split <;> simp [ih]

@[simp] theorem map_key_putKey (a : α) (xs : List α) :
    (putKey key a xs).map key = xs.map key := by
  induction xs with
  | nil => rfl
  | cons x xs ih =>
      unfold putKey
      split
      · rename_i h; simp [h]
      · simp [ih]

/-- A write that keeps `f` of the record keeps `f` of the array. -/
theorem map_putKey {β : Type} {f : α → β} {a b : α} (hf : f b = f a) : ∀ {xs : List α},
    findKey key (key b) xs = some a → (putKey key b xs).map f = xs.map f
  | x :: xs, h => by
    unfold findKey at h
    unfold putKey
    split at h
    · rename_i hk
      cases h
      rw [if_pos hk, List.map_cons, List.map_cons, hf]
    · rename_i hk
      rw [if_neg hk, List.map_cons, List.map_cons, map_putKey hf h]

theorem mem_putKey {a b : α} : ∀ {xs : List α}, b ∈ putKey key a xs → b = a ∨ b ∈ xs
  | x :: xs, h => by
    unfold putKey at h
    split at h
    · rcases List.mem_cons.1 h with rfl | h
      · exact Or.inl rfl
      · exact Or.inr (List.mem_cons_of_mem _ h)
    · rcases List.mem_cons.1 h with rfl | h
      · exact Or.inr List.mem_cons_self
      · exact (mem_putKey h).imp_right (List.mem_cons_of_mem _)

theorem findKey_putKey (a : α) (k : κ) (xs : List α) :
    findKey key k (putKey key a xs) =
      if k = key a then (findKey key k xs).map (fun _ => a) else findKey key k xs := by
  induction xs with
  | nil => simp [putKey, findKey]
  | cons x xs ih =>
      unfold putKey
      by_cases hx : key x = key a
      · rw [if_pos hx]
        by_cases hk : k = key a
        · simp [findKey, hk, hx]
        · have hk' : ¬ key a = k := fun h => hk h.symm
          simp [findKey, hk, hk', hx]
      · rw [if_neg hx]
        unfold findKey
        by_cases hk : k = key a
        · have hxk : ¬ key x = k := fun h => hx (h.trans hk)
          rw [if_neg hxk, if_neg hxk, ih]
        · rw [if_neg hk] at ih ⊢
          rw [ih]

/-- The write lands on the first record with its key. -/
theorem putKey_append {a b : α} (hk : key b = key a) : ∀ {front back : List α},
    key a ∉ front.map key → putKey key a (front ++ b :: back) = front ++ a :: back
  | [], back, _ => by
    rw [List.nil_append, putKey, if_pos hk, List.nil_append]
  | x :: front, back, h => by
    rw [List.map_cons, List.mem_cons, not_or] at h
    rw [List.cons_append, putKey, if_neg fun he => h.1 he.symm, putKey_append hk h.2,
      List.cons_append]

/-- With distinct keys, writing through the pointer is a map over the array. -/
theorem putKey_eq_map {a : α} : ∀ {xs : List α}, (xs.map key).Nodup →
    putKey key a xs = xs.map (fun x => if key x = key a then a else x)
  | [], _ => rfl
  | x :: xs, hnd => by
    rw [List.map_cons, List.nodup_cons] at hnd
    unfold putKey
    rw [List.map_cons]
    split
    · rename_i hk
      have : xs.map (fun x => if key x = key a then a else x) = xs := by
        conv_rhs => rw [← List.map_id xs]
        refine List.map_congr_left fun y hy => ?_
        rw [if_neg]
        · rfl
        · intro hy'
          exact hnd.1 (by rw [hk, ← hy']; exact List.mem_map_of_mem hy)
      rw [this]
    · rw [putKey_eq_map hnd.2]

theorem putKey_perm {a : α} {xs ys : List α} (hnd : (xs.map key).Nodup) (hp : xs.Perm ys) :
    (putKey key a xs).Perm (putKey key a ys) := by
  rw [putKey_eq_map hnd, putKey_eq_map ((hp.map key).nodup_iff.1 hnd)]
  exact hp.map _

end SmwRecomp
