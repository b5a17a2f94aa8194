import SmwRecomp.Lib.Least
import Mathlib.Data.List.Count

/-!
# Ranks

How many elements of a list come before one, and the cells of a grid that is filled by rank.

* `rankIn_inj` — where a strict order decides between the elements, their ranks differ.
* `rankIn_perm` — they do not depend on the arrangement.
* `cell_inj` — different ranks have different cells.
-/

set_option autoImplicit false

namespace SmwRecomp

section Rank

variable {α : Type} {before : α → α → Bool} {xs : List α}

/-- How many elements of the list come before `a`. -/
def rankIn (before : α → α → Bool) (xs : List α) (a : α) : Nat := xs.countP fun b => before b a

theorem rankIn_perm {ys : List α} (hperm : xs.Perm ys) (a : α) :
    rankIn before xs a = rankIn before ys a := hperm.countP_eq _

/-- What comes before `a` comes before everything behind it, and so does `a`. -/
theorem rankIn_lt_rankIn (h : Strict before) {a b : α} (ha : a ∈ xs) (hab : before a b = true) :
    rankIn before xs a < rankIn before xs b := by
  have hmono : ∀ ys : List α, rankIn before ys a ≤ rankIn before ys b := fun ys =>
    List.countP_mono_left fun c _ hc => h.trans c a b hc hab
  obtain ⟨front, back, rfl⟩ := List.append_of_mem ha
  have hfront := hmono front
  have hback := hmono back
  have hself : (a :: back).countP (fun c => before c a) = back.countP fun c => before c a :=
    List.countP_cons_of_neg (by rw [h.irrefl]; exact Bool.false_ne_true)
  have hother : (a :: back).countP (fun c => before c b) = back.countP (fun c => before c b) + 1 :=
    List.countP_cons_of_pos hab
  unfold rankIn at hfront hback ⊢
  rw [List.countP_append, List.countP_append, hself, hother]
  omega

theorem rankIn_inj (h : Strict before) (hdecides : Decides before xs) {a b : α}
    (ha : a ∈ xs) (hb : b ∈ xs)
    (heq : rankIn before xs a = rankIn before xs b) : a = b := by
  by_contra hne
  rcases hdecides a ha b hb hne with hab | hba
  · exact absurd heq (Nat.ne_of_lt (rankIn_lt_rankIn h ha hab))
  · exact absurd heq.symm (Nat.ne_of_lt (rankIn_lt_rankIn h hb hba))

end Rank

/-- The cell of a rank in a grid of so many columns. -/
def cell (columns rank : Nat) : Nat × Nat := (rank % columns, rank / columns)

theorem cell_inj {columns r r' : Nat} (h : cell columns r = cell columns r') : r = r' := by
  have hmod : r % columns = r' % columns := congrArg Prod.fst h
  have hdiv : r / columns = r' / columns := congrArg Prod.snd h
  rw [← Nat.div_add_mod r columns, ← Nat.div_add_mod r' columns, hmod, hdiv]

theorem cell_column {columns : Nat} (h : 0 < columns) (rank : Nat) :
    (cell columns rank).1 < columns := Nat.mod_lt _ h

end SmwRecomp
