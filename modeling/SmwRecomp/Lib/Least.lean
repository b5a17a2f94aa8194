import Mathlib.Data.List.Perm.Basic
import Mathlib.Order.Defs.LinearOrder
import Mathlib.Order.Lattice

/-!
# Running minima

The loop that keeps the best element so far, and replaces it when the next one comes before it.

* `least` — what the loop ends with.
* `Strict` — irreflexive and transitive; then `least_some`: nothing comes before the result.
* `least_perm` — when the order also decides between any two elements of the list, the result does
  not depend on how the list is arranged.
* `foldl_keepLeast_perm` — nor does it when the loop starts with an element of its own.
* `Foremost`, `least_foremost` — what the result is then; `byKey` — a key, and another order where
  it ties.
-/

set_option autoImplicit false

namespace SmwRecomp

variable {α : Type}

/-- One turn of the loop. -/
def keepLeast (before : α → α → Bool) (best : Option α) (x : α) : Option α :=
  match best with
  | none => some x
  | some b => if before x b then some x else some b

/-- The whole loop. -/
def least (before : α → α → Bool) (xs : List α) : Option α := xs.foldl (keepLeast before) none

structure Strict (before : α → α → Bool) : Prop where
  irrefl : ∀ a, before a a = false
  trans : ∀ a b c, before a b = true → before b c = true → before a c = true

/-- The order decides between any two of the elements. -/
def Decides (before : α → α → Bool) (xs : List α) : Prop :=
  ∀ a ∈ xs, ∀ b ∈ xs, a ≠ b → before a b = true ∨ before b a = true

section Least

variable {before : α → α → Bool}

theorem Strict.asymm (h : Strict before) {a b : α} (hab : before a b = true) :
    before b a = false := by
  cases hba : before b a with
  | false => rfl
  | true =>
      have := h.trans a b a hab hba
      rw [h.irrefl] at this
      cases this

/-- The loop holds the element it looks at, or what it held. -/
theorem keepLeast_mem {best : Option α} {x y : α} (h : keepLeast before best x = some y) :
    y = x ∨ best = some y := by
  unfold keepLeast at h
  cases best with
  | none => exact Or.inl (Option.some.inj h).symm
  | some b =>
      dsimp only at h
      split at h
      · exact Or.inl (Option.some.inj h).symm
      · exact Or.inr h

/-- From a best element the loop ends with that, or with an element of the list that comes before
it, and nothing of the list comes before the result. -/
theorem foldl_keepLeast (h : Strict before) (xs : List α) :
    ∀ b, ∃ w, xs.foldl (keepLeast before) (some b) = some w ∧
    (w = b ∨ w ∈ xs ∧ before w b = true) ∧ ∀ x ∈ xs, before x w = false := by
  induction xs with
  | nil =>
      intro b
      exact ⟨b, rfl, Or.inl rfl, fun _ hx => nomatch hx⟩
  | cons x xs ih =>
      intro b
      rw [List.foldl_cons]
      unfold keepLeast
      dsimp only
      by_cases hx : before x b = true
      · obtain ⟨w, hw, hmem, hrest⟩ := ih x
        rw [if_pos hx]
        refine ⟨w, hw, Or.inr ?_, ?_⟩
        · rcases hmem with rfl | ⟨hmem, hwx⟩
          · exact ⟨List.mem_cons_self, hx⟩
          · exact ⟨List.mem_cons_of_mem _ hmem, h.trans w x b hwx hx⟩
        · rw [List.forall_mem_cons]
          refine ⟨?_, hrest⟩
          rcases hmem with rfl | ⟨-, hwx⟩
          · exact h.irrefl _
          · exact h.asymm hwx
      · obtain ⟨w, hw, hmem, hrest⟩ := ih b
        rw [if_neg hx]
        refine ⟨w, hw, ?_, ?_⟩
        · exact hmem.imp_right fun hmem => ⟨List.mem_cons_of_mem _ hmem.1, hmem.2⟩
        · rw [List.forall_mem_cons]
          refine ⟨?_, hrest⟩
          cases hxw : before x w with
          | false => rfl
          | true =>
              -- `x` would come before what it failed to replace
              rcases hmem with rfl | ⟨-, hwb⟩
              · exact absurd hxw hx
              · exact absurd (h.trans x w b hxw hwb) hx

theorem least_nil : least before [] = none := rfl

theorem least_cons (h : Strict before) (x : α) (xs : List α) :
    ∃ w, least before (x :: xs) = some w ∧
    w ∈ x :: xs ∧ ∀ v ∈ x :: xs, before v w = false := by
  obtain ⟨w, hw, hmem, hrest⟩ := foldl_keepLeast h xs x
  refine ⟨w, hw, ?_, ?_⟩
  · rw [List.mem_cons]
    exact hmem.imp_right fun hmem => hmem.1
  · rw [List.forall_mem_cons]
    refine ⟨?_, hrest⟩
    rcases hmem with rfl | ⟨-, hwx⟩
    · exact h.irrefl _
    · exact h.asymm hwx

theorem least_eq_none (h : Strict before) {xs : List α} : least before xs = none ↔ xs = [] := by
  cases xs with
  | nil => simp [least_nil]
  | cons x xs =>
      obtain ⟨w, hw, -⟩ := least_cons h x xs
      simp [hw]

/-- An order that is read of images. -/
theorem Strict.comap {β : Type} (h : Strict before) (f : β → α) : Strict fun x y =>
    before (f x) (f y) :=
  ⟨fun x => h.irrefl (f x), fun x y z => h.trans (f x) (f y) (f z)⟩

theorem foldl_keepLeast_map {β : Type} (f : β → α) (xs : List β) : ∀ best : Option β,
    (xs.map f).foldl (keepLeast before) (best.map f) =
      (xs.foldl (keepLeast fun x y => before (f x) (f y)) best).map f := by
  induction xs with
  | nil => exact fun _ => rfl
  | cons x xs ih =>
      intro best
      have hstep : keepLeast before (best.map f) (f x) =
        (keepLeast (fun x y => before (f x) (f y)) best x).map f := by
        cases best with
        | none => rfl
        | some b =>
            unfold keepLeast
            dsimp only [Option.map_some]
            split <;> rfl
      rw [List.map_cons, List.foldl_cons, List.foldl_cons, hstep, ih]

/-- The least of the images is the image of the one whose image is least. -/
theorem least_map {β : Type} (f : β → α) (xs : List β) :
    least before (xs.map f) = (least (fun x y => before (f x) (f y)) xs).map f :=
  foldl_keepLeast_map f xs none

/-- The result is in the list, and nothing of the list comes before it. -/
theorem least_some (h : Strict before) {xs : List α} {w : α} (hw : least before xs = some w) :
    w ∈ xs ∧ ∀ v ∈ xs, before v w = false := by
  cases xs with
  | nil => cases hw
  | cons x xs =>
      obtain ⟨w', hw', hmem, hrest⟩ := least_cons h x xs
      rw [hw] at hw'
      cases hw'
      exact ⟨hmem, hrest⟩

/-- An element before all others is the result. -/
theorem least_eq_some (h : Strict before) {xs : List α} {w : α} (hmem : w ∈ xs)
    (hbefore : ∀ v ∈ xs, v ≠ w → before w v = true) : least before xs = some w := by
  cases hleast : least before xs with
  | none =>
      rw [least_eq_none h] at hleast
      rw [hleast] at hmem
      cases hmem
  | some v =>
      obtain ⟨hv, hrest⟩ := least_some h hleast
      by_cases hne : v = w
      · rw [hne]
      · have hwv := hbefore v hv hne
        rw [hrest w hmem] at hwv
        cases hwv

theorem least_perm (h : Strict before) {xs ys : List α} (hdecides : Decides before xs)
    (hp : xs.Perm ys) :
    least before xs = least before ys := by
  cases hleast : least before xs with
  | none =>
      rw [least_eq_none h] at hleast
      rw [hleast] at hp
      rw [List.nil_perm.1 hp]
      rfl
  | some w =>
      obtain ⟨hmem, hrest⟩ := least_some h hleast
      symm
      apply least_eq_some h (hp.mem_iff.1 hmem)
      intro v hv hne
      have hv := hp.mem_iff.2 hv
      rcases hdecides w hmem v hv (Ne.symm hne) with hwv | hvw
      · exact hwv
      · rw [hrest v hv] at hvw
        cases hvw

/-- From whatever the loop starts with, the arrangement of the list does not matter. -/
theorem foldl_keepLeast_perm (h : Strict before) {xs ys : List α} (hdecides : Decides before xs)
    (hp : xs.Perm ys)
    (best : Option α) : xs.foldl (keepLeast before) best = ys.foldl (keepLeast before) best := by
  cases best with
  | none => exact least_perm h hdecides hp
  | some b =>
      obtain ⟨v, hv, hfrom, hbest⟩ := foldl_keepLeast h xs b
      obtain ⟨w, hw, hfrom', hbest'⟩ := foldl_keepLeast h ys b
      rw [hv, hw]
      have hxy : ∀ {x}, x ∈ xs ↔ x ∈ ys := hp.mem_iff
      rcases hfrom with rfl | ⟨hmem, hvb⟩
      · rcases hfrom' with rfl | ⟨hmem', hwb⟩
        · rfl
        · rw [hbest w (hxy.2 hmem')] at hwb
          cases hwb
      · rcases hfrom' with rfl | ⟨hmem', -⟩
        · rw [hbest' v (hxy.1 hmem)] at hvb
          cases hvb
        · by_contra hne
          have hdecided := hdecides v hmem w (hxy.2 hmem') fun heq => hne (congrArg some heq)
          rcases hdecided with hvw | hwv
          · rw [hbest' v (hxy.1 hmem)] at hvw
            cases hvw
          · rw [hbest w (hxy.2 hmem')] at hwv
            cases hwv

/-- The element before all others, if the list has any. -/
def Foremost (before : α → α → Bool) (xs : List α) (w : Option α) : Prop :=
  (w = none ↔ xs = []) ∧ ∀ v ∈ w, v ∈ xs ∧ ∀ u ∈ xs, u ≠ v → before v u = true

theorem least_foremost (h : Strict before) {xs : List α} (hdecides : Decides before xs) :
    Foremost before xs (least before xs) := by
  refine ⟨least_eq_none h, ?_⟩
  intro v hv
  obtain ⟨hmem, hrest⟩ := least_some h hv
  refine ⟨hmem, ?_⟩
  intro u hu hne
  exact (hdecides v hmem u hu (Ne.symm hne)).resolve_right (by simp [hrest u hu])

end Least

/-! ## Keys -/

/-- First by a key, then by another order. -/
def byKey {κ : Type} [LinearOrder κ] (key : α → κ) (next : α → α → Bool) (a b : α) : Bool :=
  decide (key a < key b) || (decide (key a = key b) && next a b)

section ByKey

variable {κ : Type} [LinearOrder κ] {key : α → κ} {next : α → α → Bool}

theorem byKey_iff {a b : α} : byKey key next a b = true ↔ key a < key b ∨ key a = key b ∧
    next a b = true := by
  simp [byKey]

theorem Strict.byKey (h : Strict next) : Strict (byKey key next) where
  irrefl a := by
    simp [SmwRecomp.byKey, h.irrefl]
  trans a b c hab hbc := by
    rw [byKey_iff] at hab hbc ⊢
    rcases hab with hab | ⟨hab, hnab⟩
    · rcases hbc with hbc | ⟨hbc, -⟩
      · exact .inl (lt_trans hab hbc)
      · exact .inl (hbc ▸ hab)
    · rcases hbc with hbc | ⟨hbc, hnbc⟩
      · exact .inl (hab ▸ hbc)
      · exact .inr ⟨hab.trans hbc, h.trans a b c hnab hnbc⟩

theorem Decides.byKey {xs : List α} (h : Decides next xs) : Decides (byKey key next) xs := by
  intro a ha b hb hne
  rw [byKey_iff, byKey_iff]
  rcases lt_trichotomy (key a) (key b) with hlt | heq | hlt
  · exact .inl (.inl hlt)
  · exact (h a ha b hb hne).imp (fun hab => .inr ⟨heq, hab⟩) (fun hba => .inr ⟨heq.symm, hba⟩)
  · exact .inr (.inl hlt)

end ByKey

end SmwRecomp
