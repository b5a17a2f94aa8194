import SmwRecomp.Coop.Runtime

/-!
# What Yoshis may hold in their mouths

`coop_machine_mouths_valid` against the law it decides.

* `named` — the sprite slot an active mouth names; `Fed` — what one mouth demands of its food and of
  the food's holders.
* `mouthPass_eq` — one turn of the scan; `mouthLoop_iff` — the scan over any slots.
* `MouthLaw` — the law; `mouthsValid_iff` — it is what is decided.
-/

set_option autoImplicit false

namespace SmwRecomp.Coop

/-! ## One mouth -/

/-- The slot that an active mouth names, unless it is empty. -/
def named (ram : Ram) (slot : Nat) : Option Nat :=
  if coopMountMouthActive ram slot = true ∧ (ram (0x160e + slot)).toNat < 0x80
    then some (ram (0x160e + slot)).toNat
  else none

/-- Neither an egg nor a Yoshi. -/
def Food (ram : Ram) (object : Nat) : Prop :=
  ram (0x9e + object) ≠ 0x2c ∧ ram (0x9e + object) ≠ 0x2d ∧ ram (0x9e + object) ≠ 0x35

/-- Nobody but the owner of the entity in `slot` holds what is in `object`, or has it attached. -/
def HeldByRider (entities : List CoopEntity) (slot object : Nat) : Prop :=
  ∀ e ∈ entities, e.kind = COOP_ENTITY_NORMAL → e.slot.toNat = object →
    e.flags &&& (COOP_ENTITY_HELD ||| COOP_ENTITY_ATTACHED) ≠ 0 → e.owner = slotOwner entities slot

/-- An active mouth is that of an adult and empty, or names another sprite slot with food that
nobody else holds. -/
def Fed (entities : List CoopEntity) (ram : Ram) (slot : Nat) : Prop :=
  coopMountMouthActive ram slot = true →
    match named ram slot with
    | none => ram (0x9e + slot) = 0x35
    | some object => object < 12 ∧ object ≠ slot ∧ Food ram object ∧
        HeldByRider entities slot object

theorem active_type {ram : Ram} {slot : Nat} (h : coopMountMouthActive ram slot = true) :
    ram (0x9e + slot) = 0x2d ∨ ram (0x9e + slot) = 0x35 := by
  unfold coopMountMouthActive at h
  split at h
  · cases h
  · rw [Bool.or_eq_true] at h
    rcases h with h | h
    · simp only [Bool.and_eq_true, decide_eq_true_eq] at h
      exact .inr h.2
    · simp only [Bool.and_eq_true, decide_eq_true_eq] at h
      exact .inl h.1.2

theorem heldByRider_iff {entities : List CoopEntity} {slot object : Nat} :
    (entities.any fun e => decide (e.kind = COOP_ENTITY_NORMAL) && decide (e.slot.toNat = object) &&
      decide (e.flags &&& (COOP_ENTITY_HELD ||| COOP_ENTITY_ATTACHED) ≠ 0) &&
        decide (e.owner ≠ slotOwner entities slot)) = false ↔ HeldByRider entities slot object := by
  rw [List.any_eq_false]
  unfold HeldByRider
  simp only [Bool.and_eq_true, decide_eq_true_eq, not_and, not_not, and_imp]

open Classical in
/-- One turn of the scan: the slot is fed with what no earlier mouth names. -/
theorem mouthPass_eq (entities : List CoopEntity) (ram : Ram) (referenced : List Nat) (slot : Nat) :
    mouthPass entities ram referenced slot =
      if Fed entities ram slot ∧ ∀ object ∈ named ram slot, object ∉ referenced
      then some ((named ram slot).toList ++ referenced) else none := by
  unfold mouthPass Fed
  dsimp only
  cases hactive : coopMountMouthActive ram slot with
  | false =>
      have hnamed : named ram slot = none := by simp [named, hactive]
      simp [hnamed]
  | true =>
      rw [if_neg (by simp)]
      by_cases hempty : (ram (0x160e + slot)).toNat ≥ 0x80
      · have hnamed : named ram slot = none := by
          unfold named
          rw [if_neg]
          omega
        rw [if_pos hempty, hnamed]
        rcases active_type hactive with htype | htype
        · simp [htype]
        · simp [htype]
      · have hnamed : named ram slot = some (ram (0x160e + slot)).toNat := by
          unfold named
          rw [if_pos ⟨hactive, by omega⟩]
        rw [if_neg hempty, hnamed]
        by_cases hplace : (ram (0x160e + slot)).toNat ≥ 12 ∨ (ram (0x160e + slot)).toNat = slot ∨
            (ram (0x160e + slot)).toNat ∈ referenced
        · rw [if_pos hplace, if_neg]
          rintro ⟨hfed, hfree⟩
          obtain ⟨hlt, hne, -⟩ := hfed rfl
          rcases hplace with h | h | h
          · omega
          · exact hne h
          · exact hfree _ rfl h
        · rw [if_neg hplace]
          rw [not_or, not_or] at hplace
          obtain ⟨hlt, hne, hfree⟩ := hplace
          by_cases hfood : Food ram (ram (0x160e + slot)).toNat
          · rw [if_neg (by rintro (h | h | h); exacts [hfood.1 h, hfood.2.1 h, hfood.2.2 h])]
            by_cases hheld : HeldByRider entities slot (ram (0x160e + slot)).toNat
            · rw [heldByRider_iff.2 hheld, if_neg Bool.false_ne_true, if_pos]
              · rfl
              · exact ⟨fun _ => ⟨by omega, hne, hfood, hheld⟩, by simpa using hfree⟩
            · rw [← heldByRider_iff, Bool.not_eq_false] at hheld
              rw [if_pos hheld, if_neg]
              rintro ⟨hfed, -⟩
              obtain ⟨-, -, -, h⟩ := hfed rfl
              rw [heldByRider_iff.2 h] at hheld
              cases hheld
          · have hspecies : ram (0x9e + (ram (0x160e + slot)).toNat) = 0x2c ∨
                ram (0x9e + (ram (0x160e + slot)).toNat) = 0x2d ∨
                ram (0x9e + (ram (0x160e + slot)).toNat) = 0x35 := by
              unfold Food at hfood
              tauto
            rw [if_pos hspecies, if_neg]
            rintro ⟨hfed, -⟩
            exact hfood (hfed rfl).2.2.1

/-! ## The scan -/

/-- The scan over any slots: each is fed, and no two name one slot, nor any an earlier one's. -/
theorem mouthLoop_iff (entities : List CoopEntity) (ram : Ram) : ∀ (slots referenced : List Nat),
    (slots.foldlM (mouthPass entities ram) referenced).isSome = true ↔
      (∀ slot ∈ slots, Fed entities ram slot) ∧ (slots.filterMap (named ram)).Nodup ∧
        ∀ object ∈ slots.filterMap (named ram), object ∉ referenced
  | [], referenced => by simp
  | slot :: slots, referenced => by
    classical
    rw [List.foldlM_cons, mouthPass_eq]
    by_cases hstep : Fed entities ram slot ∧ ∀ object ∈ named ram slot, object ∉ referenced
    · obtain ⟨hfed, hfree⟩ := hstep
      rw [if_pos ⟨hfed, hfree⟩]
      show (slots.foldlM (mouthPass entities ram) ((named ram slot).toList ++ referenced)).isSome =
        true ↔ _
      rw [mouthLoop_iff entities ram slots, List.forall_mem_cons]
      cases hnamed : named ram slot with
      | none => simp [hnamed, hfed]
      | some object =>
          have hobject : object ∉ referenced := hfree object hnamed
          rw [List.filterMap_cons_some hnamed, List.nodup_cons, List.forall_mem_cons]
          simp only [Option.toList_some, List.singleton_append, List.mem_cons, not_or,
            hfed, true_and]
          constructor
          · rintro ⟨hall, hnodup, hapart⟩
            exact ⟨hall, ⟨fun h => (hapart object h).1 rfl, hnodup⟩, hobject,
              fun o ho => (hapart o ho).2⟩
          · rintro ⟨hall, ⟨hnot, hnodup⟩, -, hapart⟩
            exact ⟨hall, hnodup, fun o ho => ⟨fun h => hnot (h ▸ ho), hapart o ho⟩⟩
    · rw [if_neg hstep]
      constructor
      · intro h
        cases h
      · rintro ⟨hall, -, hapart⟩
        refine absurd ⟨hall slot List.mem_cons_self, ?_⟩ hstep
        intro object hnamed
        exact hapart object (List.mem_filterMap.2 ⟨slot, List.mem_cons_self, hnamed⟩)

/-! ## The law -/

/-- No two mounts bite one berry, every active mouth is fed, and no two name one slot. -/
structure MouthLaw (m : CoopMachine) (ram : Ram) : Prop where
  berries : ∀ i j (hi : i < m.entities.length) (hj : j < m.entities.length) tile, i ≠ j →
    coopMountPendingBerry m.entities[i] ram = some tile →
    coopMountPendingBerry m.entities[j] ram ≠ some tile
  fed : ∀ slot, Fed m.entities ram slot
  apart : ∀ slot other object, slot ≠ other → named ram slot = some object →
    named ram other ≠ some object

/-- Positions with one value make a list that repeats it. -/
theorem nodup_filterMap_iff {α β : Type} {f : α → Option β} {xs : List α} : (xs.filterMap f).Nodup ↔
    ∀ i j (hi : i < xs.length) (hj : j < xs.length) b, i ≠ j → f xs[i] = some b →
    f xs[j] ≠ some b := by
  unfold List.Nodup
  rw [List.pairwise_filterMap, List.pairwise_iff_getElem]
  constructor
  · intro h i j hi hj b hne hbi hbj
    rcases Nat.lt_or_gt_of_ne hne with hlt | hlt
    · exact h i j hi hj hlt b hbi b hbj rfl
    · exact h j i hj hi hlt b hbj b hbi rfl
  · intro h i j hi hj hlt b hbi b' hbj heq
    subst heq
    exact h i j hi hj b (Nat.ne_of_lt hlt) hbi hbj

theorem named_lt {ram : Ram} {slot object : Nat} (h : named ram slot = some object) :
    slot < 12 := by
  unfold named at h
  split at h
  · rename_i hactive
    by_contra hge
    have hnone : coopMountMouthActive ram slot = false := by
      unfold coopMountMouthActive
      rw [if_pos (by omega)]
    rw [hnone] at hactive
    cases hactive.1
  · cases h

/-- The check decides the law. -/
theorem mouthsValid_iff (m : CoopMachine) (ram : Ram) : coopMachineMouthsValid m ram = true ↔
    MouthLaw m ram := by
  unfold coopMachineMouthsValid berriesDistinct
  rw [Bool.and_eq_true, decide_eq_true_eq, mouthLoop_iff, nodup_filterMap_iff, nodup_filterMap_iff]
  constructor
  · rintro ⟨hberries, hfed, hapart, -⟩
    refine ⟨hberries, ?_, ?_⟩
    · intro slot
      by_cases hlt : slot < 12
      · exact hfed slot (List.mem_range.2 hlt)
      · intro hactive
        unfold coopMountMouthActive at hactive
        rw [if_pos (by omega)] at hactive
        cases hactive
    · intro slot other object hne hslot hother
      have hlt := named_lt hslot
      have hlt' := named_lt hother
      exact hapart slot other (by simpa using hlt) (by simpa using hlt') object hne
        (by simpa using hslot)
        (by simpa using hother)
  · intro h
    refine ⟨h.berries, fun slot _ => h.fed slot, ?_, by simp⟩
    intro i j hi hj object hne hi' hj'
    rw [List.getElem_range] at hi' hj'
    exact h.apart i j object hne hi' hj'

end SmwRecomp.Coop
