import Mathlib.Data.Nat.BitIndices
import SmwRecomp.Config.KeyMap

/-!
# The gamepad command map

Model of `GamepadMap_Add`, `CountBits32` and `FindCmdForGamepadButton` (`config.c`): one list of
bindings for every button of two gamepads, in an array shared by all.

* `GamepadMap.accesses` records every index the additions read or write with the number of entries
  the array is allocated for at that moment; the reads and writes themselves go on.
* `Listed` — the invariant: the list of a button holds the additions for it, those with more
  modifiers first, the later ones first among equals.
* `findCmdForGamepadButton_mostSpecific` — what a lookup finds.
* `gamepadMap_inBounds_iff` — the array is grown by 64 entries where the count is a multiple of
  256, so the accesses stay within it for up to 64 additions and no further.
-/

set_option autoImplicit false

namespace SmwRecomp.Config

def kGamepadBtnCount : Nat := 17

abbrev GamepadButton := Fin (kGamepadBtnCount * 2)

/-- A binding beside its link. -/
structure GamepadMapEnt where
  modifiers : UInt32
  cmd : UInt16
  deriving DecidableEq, Repr

/-- `joymap_first` and the entries of `joymap_ents` written so far, the number it was last allocated
for, and what was accessed at which such number. -/
structure GamepadMap where
  table : Linked GamepadButton GamepadMapEnt
  capacity : Nat
  accesses : List (Nat × Nat)

def GamepadMap.empty : GamepadMap := ⟨.empty, 0, []⟩

/-- `for (; n != 0; count++) n &= n - 1`, at most once for each bit. -/
def countBitsLoop : Nat → Nat → Nat
  | 0, _ => 0
  | fuel + 1, n => if n = 0 then 0 else countBitsLoop fuel (n &&& (n - 1)) + 1

def countBits32 (n : UInt32) : Nat := countBitsLoop 32 n.toNat

/-- An addition: `button`, `modifiers` and `cmd`. -/
structure GamepadCall where
  button : GamepadButton
  modifiers : UInt32
  cmd : UInt16
  deriving DecidableEq, Repr

/-- The number of entries `joymap_ents` is allocated for when an entry is added. -/
def GamepadMap.grow (m : GamepadMap) : Outcome Nat :=
  let size := m.table.items.length
  if size &&& 0xff = 0 then
    if 1000 < size then .error (.die "Too many joypad keys") else .ok (size + 64)
  else .ok m.capacity

def gamepadMapAdd (m : GamepadMap) (c : GamepadCall) : Outcome GamepadMap := do
  let size := m.table.items.length
  let capacity ← m.grow
  let cb := countBits32 c.modifiers
  let (p, seen) ← walk m.table.link
    (fun i => do
      let e ← readItem m.table i
      pure (decide (cb < countBits32 e.modifiers)))
    (.fault .spins) (size + 1) (.first c.button)
  let table := (m.table.push ⟨c.modifiers, c.cmd⟩ (m.table.link p)).setLink p (u16 (size + 1))
  .ok ⟨table, capacity, m.accesses ++ (seen ++ [size]).map fun i => (i, capacity)⟩

def findCmdForGamepadButton (m : GamepadMap) (button : GamepadButton) (modifiers : UInt32) :
    Outcome UInt16 := do
  let (p, _) ← walk m.table.link
    (fun i => do
      let e ← readItem m.table i
      pure (decide (modifiers &&& e.modifiers ≠ e.modifiers)))
    (.fault .spins) (m.table.items.length + 1) (.first button)
  match m.table.link p with
  | 0 => .ok 0
  | i + 1 => do
    let e ← readItem m.table i
    .ok e.cmd

/-- Additions one after the other: the map they leave, and what ended the program if they did. -/
def gamepadMapAddAll : GamepadMap → List GamepadCall → GamepadMap × Option Halt
  | m, [] => (m, none)
  | m, c :: calls =>
    match gamepadMapAdd m c with
    | .ok m => gamepadMapAddAll m calls
    | .error h => (m, some h)

/-! ## The number of modifiers -/

theorem and_pred_even {n : Nat} (h : n ≠ 0) : 2 * n &&& (2 * n - 1) = 2 * (n &&& (n - 1)) := by
  apply Nat.eq_of_testBit_eq
  intro i
  have hpred : 2 * n - 1 = 2 * (n - 1) + 1 := by omega
  rw [hpred, Nat.testBit_and]
  cases i with
  | zero => simp
  | succ i => simp [Nat.testBit_succ, Nat.mul_add_div]

theorem and_pred_odd (n : Nat) : (2 * n + 1) &&& (2 * n + 1 - 1) = 2 * n := by
  apply Nat.eq_of_testBit_eq
  intro i
  rw [Nat.add_sub_cancel, Nat.testBit_and]
  cases i with
  | zero => simp
  | succ i => simp [Nat.testBit_succ, Nat.mul_add_div]

/-- A turn of the loop takes one bit away. -/
theorem bits_and_pred (n : Nat) (h : n ≠ 0) :
    (n &&& (n - 1)).bitIndices.length + 1 = n.bitIndices.length := by
  induction n using Nat.strongRecOn with
  | ind n ih =>
      rcases Nat.even_or_odd' n with ⟨k, rfl | rfl⟩
      · have hk : k ≠ 0 := by omega
        rw [and_pred_even hk, Nat.bitIndices_two_mul, Nat.bitIndices_two_mul, List.length_map,
          List.length_map]
        exact ih k (by omega) hk
      · rw [and_pred_odd, Nat.bitIndices_two_mul, Nat.bitIndices_two_mul_add_one]
        rfl

theorem countBitsLoop_eq : ∀ {fuel n : Nat}, n.bitIndices.length ≤ fuel →
    countBitsLoop fuel n = n.bitIndices.length
  | 0, n, h => (Nat.le_zero.1 h).symm
  | fuel + 1, n, h => by
      unfold countBitsLoop
      by_cases hn : n = 0
      · simp [hn]
      · have hbits := bits_and_pred n hn
        rw [if_neg hn, countBitsLoop_eq (by omega), hbits]

/-- `CountBits32` counts the bits that are set. -/
theorem countBits32_eq (n : UInt32) : countBits32 n = n.toNat.bitIndices.length := by
  refine countBitsLoop_eq ?_
  have hsub : n.toNat.bitIndices ⊆ List.range 32 := by
    intro i hi
    have hle := Nat.two_pow_le_of_mem_bitIndices hi
    have hlt : 2 ^ i < 2 ^ 32 := Nat.lt_of_le_of_lt hle n.toNat_lt
    exact List.mem_range.2 ((Nat.pow_lt_pow_iff_right (by decide)).1 hlt)
  have hle := Nat.bitIndices_nodup.length_le_of_subset hsub
  rwa [List.length_range] at hle

/-! ## The lists of the buttons -/

/-- The addition `i` goes before the addition `j`. -/
def Before (calls : List GamepadCall) (i j : Nat) : Prop :=
  ∀ c d, calls[i]? = some c → calls[j]? = some d →
    countBits32 d.modifiers < countBits32 c.modifiers ∨
    (countBits32 d.modifiers = countBits32 c.modifiers ∧ j < i)

/-- The number of entries `joymap_ents` is allocated for once `n` have been added. -/
def allocated (n : Nat) : Nat := (n - 1) / 256 * 256 + 64

/-- Every addition has its entry, in the list of its button and at its place there. -/
structure Listed (m : GamepadMap) (calls : List GamepadCall) : Prop where
  lists : ∃ lists, Lists m.table.link m.table.items.length lists ∧
    (∀ button i, i ∈ lists button ↔ ∃ c, calls[i]? = some c ∧ c.button = button) ∧
    ∀ button, (lists button).Pairwise (Before calls)
  item : ∀ i, m.table.item i = calls[i]?.map fun c => ⟨c.modifiers, c.cmd⟩
  size : m.table.items.length = calls.length
  capacity : calls ≠ [] → m.capacity = allocated calls.length
  accessed : ∀ a ∈ m.accesses, a.1 < calls.length ∧ 64 ≤ a.2
  written : ∀ i, i < calls.length → (i, allocated (i + 1)) ∈ m.accesses
  limit : calls.length ≤ 1024

theorem Listed.empty : Listed .empty [] where
  lists := ⟨fun _ => [], .empty (by intro c; cases c <;> rfl), fun _ i => by simp, fun _ => .nil⟩
  item _ := rfl
  size := rfl
  capacity h := absurd rfl h
  accessed _ h := nomatch h
  written _ h := absurd h (Nat.not_lt_zero _)
  limit := Nat.zero_le _

theorem gamepad_grow {m : GamepadMap} {calls : List GamepadCall} (h : Listed m calls) :
    m.grow = if calls.length < 1024 then .ok (allocated (calls.length + 1))
    else .error (.die "Too many joypad keys") := by
  have hand : m.table.items.length &&& 0xff = m.table.items.length % 256 :=
    Nat.and_two_pow_sub_one_eq_mod _ 8
  have hlimit := h.limit
  unfold GamepadMap.grow
  dsimp only
  rw [hand, h.size]
  by_cases hmod : calls.length % 256 = 0
  · rw [if_pos hmod]
    by_cases hlt : calls.length < 1024
    · rw [if_pos hlt, if_neg (by omega)]
      have heq : calls.length + 64 = allocated (calls.length + 1) := by
        unfold allocated
        omega
      rw [heq]
    · rw [if_neg hlt, if_pos (by omega)]
  · have hne : calls ≠ [] := by
      rintro rfl
      exact hmod rfl
    rw [if_neg hmod, if_pos (by omega), h.capacity hne]
    have heq : allocated calls.length = allocated (calls.length + 1) := by
      unfold allocated
      omega
    rw [heq]

/-- Once a walk over a list stops it would stop at all that follow, where what makes it go on only
gets weaker. -/
theorem dropWhile_all {p : Nat → Bool} {R : Nat → Nat → Prop} : ∀ {l : List Nat}, l.Pairwise R →
    (∀ i ∈ l, ∀ j ∈ l, R i j → p j = true → p i = true) → ∀ j ∈ l.dropWhile p, p j = false
  | [], _, _, j, hj => nomatch hj
  | i :: l, hl, hp, j, hj => by
      obtain ⟨hi, hrest⟩ := List.pairwise_cons.1 hl
      cases hpi : p i with
      | true =>
          rw [List.dropWhile_cons_of_pos hpi] at hj
          exact dropWhile_all hrest
            (fun a ha b hb => hp a (List.mem_cons_of_mem i ha) b (List.mem_cons_of_mem i hb)) j hj
      | false =>
          rw [List.dropWhile_cons_of_neg (by simp [hpi])] at hj
          rcases List.mem_cons.1 hj with rfl | hj
          · exact hpi
          · rw [← Bool.not_eq_true]
            intro hpj
            have htrue := hp i List.mem_cons_self j (List.mem_cons_of_mem i hj) (hi j hj) hpj
            rw [hpi] at htrue
            cases htrue

/-- What the insertion goes past: an entry with more modifiers. -/
def deeper (t : Linked GamepadButton GamepadMapEnt) (cb i : Nat) : Bool :=
  (t.item i).any fun e => decide (cb < countBits32 e.modifiers)

theorem before_concat {calls : List GamepadCall} {c : GamepadCall} {i j : Nat}
    (hi : i < calls.length)
    (hj : j < calls.length) (h : Before calls i j) : Before (calls ++ [c]) i j := by
  intro a b ha hb
  rw [List.getElem?_append_left hi] at ha
  rw [List.getElem?_append_left hj] at hb
  exact h a b ha hb

theorem item_concat {t : Linked GamepadButton GamepadMapEnt} {calls : List GamepadCall}
    {c : GamepadCall}
    {p : Cell GamepadButton} {v w : Nat} (hsize : t.items.length = calls.length)
    (h : ∀ i, t.item i = calls[i]?.map fun c => ⟨c.modifiers, c.cmd⟩) (i : Nat) :
    ((t.push ⟨c.modifiers, c.cmd⟩ v).setLink p w).item i = (calls ++ [c])[i]?.map fun c =>
    ⟨c.modifiers, c.cmd⟩ := by
  rw [Linked.item_setLink]
  rcases Nat.lt_trichotomy i calls.length with hlt | rfl | hgt
  · rw [Linked.item_push (hsize ▸ hlt), h i, List.getElem?_append_left hlt]
  · rw [← hsize, Linked.item_push_new, hsize, List.getElem?_concat_length]
    rfl
  · have hnone : (calls ++ [c])[i]? = none := List.getElem?_eq_none (by simp; omega)
    rw [hnone]
    unfold Linked.item Linked.push
    rw [List.getElem?_eq_none (by simp; omega)]
    rfl

/-- The list of the button with the new entry between those with more modifiers and the others. -/
theorem sorted_insert {t : Linked GamepadButton GamepadMapEnt} {calls : List GamepadCall}
    {c : GamepadCall}
    {l : List Nat} (hitem : ∀ i, t.item i = calls[i]?.map fun c => ⟨c.modifiers, c.cmd⟩)
    (hinside : ∀ i ∈ l, i < calls.length) (hl : l.Pairwise (Before calls)) :
    (l.takeWhile (deeper t (countBits32 c.modifiers)) ++
      calls.length :: l.dropWhile (deeper t (countBits32 c.modifiers))).Pairwise
        (Before (calls ++ [c])) := by
  have hdeeper : ∀ {i a}, calls[i]? = some a →
      deeper t (countBits32 c.modifiers) i =
        decide (countBits32 c.modifiers < countBits32 a.modifiers) := by
    intro i a ha
    simp [deeper, hitem, ha]
  have hcall : ∀ i ∈ l, ∃ a, calls[i]? = some a :=
    fun i hi => ⟨_, List.getElem?_eq_getElem (hinside i hi)⟩
  have hpast : ∀ i ∈ l.takeWhile (deeper t (countBits32 c.modifiers)),
    Before (calls ++ [c]) i calls.length := by
    intro i hi a b ha hb
    have hp := List.mem_takeWhile_imp hi
    have hlt := hinside i ((List.takeWhile_subset _) hi)
    rw [List.getElem?_append_left hlt] at ha
    rw [List.getElem?_concat_length] at hb
    cases hb
    rw [hdeeper ha] at hp
    exact .inl (of_decide_eq_true hp)
  have hrest : ∀ j ∈ l.dropWhile (deeper t (countBits32 c.modifiers)),
    Before (calls ++ [c]) calls.length j := by
    intro j hj a b ha hb
    have hlt := hinside j ((List.dropWhile_sublist _).subset hj)
    have hp : deeper t (countBits32 c.modifiers) j = false := by
      refine dropWhile_all hl ?_ j hj
      intro i hi k hk hbefore hdeep
      obtain ⟨x, hx⟩ := hcall i hi
      obtain ⟨y, hy⟩ := hcall k hk
      rw [hdeeper hy, decide_eq_true_eq] at hdeep
      rw [hdeeper hx, decide_eq_true_eq]
      rcases hbefore x y hx hy with hmore | ⟨heq, _⟩
      · omega
      · omega
    rw [List.getElem?_concat_length] at ha
    rw [List.getElem?_append_left hlt] at hb
    cases ha
    rw [hdeeper hb, decide_eq_false_iff_not] at hp
    rcases Nat.lt_or_eq_of_le (Nat.le_of_not_lt hp) with hless | heq
    · exact .inl hless
    · exact .inr ⟨heq, hlt⟩
  have hall : ∀ i ∈ l, ∀ j ∈ l, Before calls i j → Before (calls ++ [c]) i j :=
    fun i hi j hj => before_concat (hinside i hi) (hinside j hj)
  have hlong : l.Pairwise (Before (calls ++ [c])) := hl.imp_of_mem fun {i j} hi hj => hall i hi j hj
  rw [← List.takeWhile_append_dropWhile (p := deeper t (countBits32 c.modifiers)) (l := l),
    List.pairwise_append] at hlong
  rw [List.pairwise_append, List.pairwise_cons]
  refine ⟨hlong.1, ⟨hrest, hlong.2.1⟩, ?_⟩
  intro i hi j hj
  rcases List.mem_cons.1 hj with rfl | hj
  · exact hpast i hi
  · exact hlong.2.2 i hi j hj

/-- The lists of the buttons go on listing the additions for each. -/
theorem mem_insert {calls : List GamepadCall} {c : GamepadCall} {lists : GamepadButton → List Nat}
    {l₁ l₂ : List Nat}
    (hmem : ∀ button i, i ∈ lists button ↔ ∃ c, calls[i]? = some c ∧ c.button = button)
    (hl : lists c.button = l₁ ++ l₂) (button : GamepadButton) (i : Nat) :
    i ∈ Function.update lists c.button (l₁ ++ calls.length :: l₂) button ↔
      ∃ d, (calls ++ [c])[i]? = some d ∧ d.button = button := by
  have hupdate : i ∈ Function.update lists c.button (l₁ ++ calls.length :: l₂) button ↔
      i ∈ lists button ∨ (i = calls.length ∧ c.button = button) := by
    by_cases hb : button = c.button
    · subst hb
      rw [Function.update_self, hl, List.mem_append, List.mem_cons, List.mem_append]
      tauto
    · rw [Function.update_of_ne hb]
      simp [Ne.symm hb]
  rw [hupdate, hmem]
  rcases Nat.lt_trichotomy i calls.length with hlt | rfl | hgt
  · rw [List.getElem?_append_left hlt]
    simp [Nat.ne_of_lt hlt]
  · rw [List.getElem?_concat_length]
    simp
  · have hnone : (calls ++ [c])[i]? = none := List.getElem?_eq_none (by simp; omega)
    have hnone' : calls[i]? = none := List.getElem?_eq_none (by omega)
    simp [hnone, hnone', Nat.ne_of_gt hgt]

theorem gamepadMapAdd_spec {m : GamepadMap} {calls : List GamepadCall} (h : Listed m calls)
    (hlt : calls.length < 1024) (c : GamepadCall) :
    ∃ m', gamepadMapAdd m c = .ok m' ∧ Listed m' (calls ++ [c]) := by
  obtain ⟨lists, hlists, hmem, hsorted⟩ := h.lists
  have hinside : ∀ i ∈ lists c.button, i < calls.length :=
    fun i hi => h.size ▸ hlists.inside c.button i hi
  have hgo : ∀ i ∈ lists c.button,
      (do
        let e ← readItem m.table i
        pure (decide (countBits32 c.modifiers < countBits32 e.modifiers)) : Outcome Bool) =
        .ok (deeper m.table (countBits32 c.modifiers) i) := by
    intro i hi
    obtain ⟨e, he⟩ := m.table.item_isSome (hlists.inside _ i hi)
    simp [readItem, deeper, he]
  have hwalk :=
    (hlists.chain c.button).walk_eq (.fault .spins) hgo (Nat.lt_succ_of_le (hlists.length_le _))
  have hsplit : lists c.button = (lists c.button).takeWhile
    (deeper m.table (countBits32 c.modifiers)) ++
      (lists c.button).dropWhile (deeper m.table (countBits32 c.modifiers)) :=
      List.takeWhile_append_dropWhile.symm
  have hinsert := Linked.lists_insert (a := ⟨c.modifiers, c.cmd⟩) hlists hsplit
  have hu : u16 (m.table.items.length + 1) = m.table.items.length + 1 := by
    rw [h.size]
    exact Nat.mod_eq_of_lt (by omega)
  have hgrow : m.grow = .ok (allocated (calls.length + 1)) := (gamepad_grow h).trans (if_pos hlt)
  unfold gamepadMapAdd
  simp only [hgrow, hwalk, hu, outcome_bind]
  rw [h.size] at hinsert
  refine ⟨_, rfl,
    ⟨⟨_, ?_, mem_insert hmem hsplit, ?_⟩, item_concat h.size h.item, ?_, ?_, ?_, ?_, ?_⟩⟩
  · rw [Linked.setLink_length, Linked.push_length, h.size]
    exact hinsert
  · intro button
    by_cases hb : button = c.button
    · subst hb
      rw [Function.update_self]
      exact sorted_insert h.item hinside (hsorted c.button)
    · rw [Function.update_of_ne hb]
      have hbutton : ∀ i ∈ lists button, i < calls.length :=
        fun i hi => h.size ▸ hlists.inside button i hi
      exact (hsorted button).imp_of_mem fun {i j} hi hj =>
        before_concat (hbutton i hi) (hbutton j hj)
  · rw [Linked.setLink_length, Linked.push_length, List.length_append, h.size,
      List.length_singleton]
  · intro _
    rw [List.length_append, List.length_singleton]
  · intro a ha
    rw [List.length_append, List.length_singleton]
    rcases List.mem_append.1 ha with hold | hnew
    · obtain ⟨hlow, hhigh⟩ := h.accessed a hold
      exact ⟨Nat.lt_succ_of_lt hlow, hhigh⟩
    · obtain ⟨i, hi, rfl⟩ := List.mem_map.1 hnew
      have hle : i ≤ calls.length := by
        rcases List.mem_append.1 hi with hseen | hsize
        · have hl : i ∈ lists c.button := by
            rw [hsplit]
            refine List.mem_append.2 ((List.mem_append.1 hseen).imp id ?_)
            exact fun hone => List.mem_of_mem_take hone
          exact Nat.le_of_lt (hinside i hl)
        · rw [List.mem_singleton.1 hsize, h.size]
      refine ⟨Nat.lt_succ_of_le hle, ?_⟩
      dsimp only [allocated]
      omega
  · intro i hi
    rw [List.length_append, List.length_singleton] at hi
    rcases Nat.lt_or_eq_of_le (Nat.le_of_lt_succ hi) with hold | rfl
    · exact List.mem_append_left _ (h.written i hold)
    · refine List.mem_append_right _ (List.mem_map.2 ⟨calls.length, ?_, rfl⟩)
      rw [h.size]
      exact List.mem_append_right _ List.mem_cons_self
  · rw [List.length_append, List.length_singleton]
    exact hlt

/-- The additions go through up to the limit and end the program beyond it. -/
theorem gamepadMapAddAll_spec : ∀ {calls before : List GamepadCall} {m : GamepadMap},
    Listed m before →
    Listed (gamepadMapAddAll m calls).1 ((before ++ calls).take 1024) ∧
      (gamepadMapAddAll m calls).2 =
        if (before ++ calls).length ≤ 1024 then none else some (.die "Too many joypad keys")
  | [], before, m, h => by
      rw [List.append_nil, List.take_of_length_le h.limit, if_pos h.limit]
      exact ⟨h, rfl⟩
  | c :: calls, before, m, h => by
      by_cases hlt : before.length < 1024
      · obtain ⟨m', hadd, hlisted⟩ := gamepadMapAdd_spec h hlt c
        have ih := @gamepadMapAddAll_spec calls _ _ hlisted
        rw [List.append_assoc, List.singleton_append] at ih
        unfold gamepadMapAddAll
        rw [hadd]
        exact ih
      · have hfull : before.length = 1024 := Nat.le_antisymm h.limit (Nat.le_of_not_lt hlt)
        have hadd : gamepadMapAdd m c = .error (.die "Too many joypad keys") := by
          unfold gamepadMapAdd
          rw [gamepad_grow h, if_neg hlt]
          rfl
        have htake : (before ++ c :: calls).take 1024 = before := by rw [← hfull, List.take_left]
        unfold gamepadMapAddAll
        rw [hadd, htake, if_neg (by simp; omega)]
        exact ⟨h, rfl⟩

/-! ## The array's bounds -/

def InBounds (m : GamepadMap) : Prop := ∀ a ∈ m.accesses, a.1 < a.2

/-- Every link is null or the number of an entry. -/
def LinksWritten (m : GamepadMap) : Prop := ∀ c, m.table.link c ≤ m.table.items.length

/-- The entry of the 65th addition lies behind the 64 there is room for. -/
theorem outOfBounds_of_lt {calls : List GamepadCall} (h : 64 < calls.length) :
    ¬ InBounds (gamepadMapAddAll .empty calls).1 := by
  intro hbounds
  obtain ⟨hlisted, -⟩ := @gamepadMapAddAll_spec calls _ _ Listed.empty
  have hlong : 64 < (([] ++ calls).take 1024).length := by
    rw [List.nil_append, List.length_take]
    omega
  exact absurd (hbounds _ (hlisted.written 64 hlong)) (by decide)

theorem gamepadMap_inBounds_iff (calls : List GamepadCall) :
    (InBounds (gamepadMapAddAll .empty calls).1 ∧ LinksWritten (gamepadMapAddAll .empty calls).1) ↔
      calls.length ≤ 64 := by
  constructor
  · rintro ⟨hbounds, -⟩
    exact Nat.le_of_not_lt fun hmany => outOfBounds_of_lt hmany hbounds
  · intro hfew
    obtain ⟨hlisted, -⟩ := @gamepadMapAddAll_spec calls _ _ Listed.empty
    rw [List.nil_append] at hlisted
    obtain ⟨lists, hlists, -⟩ := hlisted.lists
    refine ⟨?_, hlists.stored⟩
    intro a ha
    obtain ⟨hlow, hhigh⟩ := hlisted.accessed a ha
    have hle := List.length_take_le' 1024 calls
    omega

/-- The A button of the first gamepad bound 65 times. -/
theorem gamepadMap_outOfBounds :
    ¬ (InBounds (gamepadMapAddAll .empty (List.replicate 65 ⟨⟨0, by decide⟩, 0, 69⟩)).1 ∧
      LinksWritten (gamepadMapAddAll .empty (List.replicate 65 ⟨⟨0, by decide⟩, 0, 69⟩)).1) :=
  fun h => outOfBounds_of_lt (by decide) h.1

/-! ## Lookups -/

/-- The addition binds the button, under modifiers that are all among those held. -/
def Answers (button : GamepadButton) (held : UInt32) (c : GamepadCall) : Prop :=
  c.button = button ∧ ∀ i, c.modifiers.toNat.testBit i = true → held.toNat.testBit i = true

def modifierCount (c : GamepadCall) : Nat := c.modifiers.toNat.bitIndices.length

/-- The command of the addition `i` answers: it has the most modifiers, and no later one has as
many. -/
def MostSpecific (calls : List GamepadCall) (button : GamepadButton) (held : UInt32) (i : Nat)
    (c : GamepadCall) : Prop :=
  calls[i]? = some c ∧ Answers button held c ∧
    ∀ j d, calls[j]? = some d → Answers button held d →
      modifierCount d < modifierCount c ∨ (modifierCount d = modifierCount c ∧ j ≤ i)

theorem and_eq_iff (held modifiers : UInt32) :
    held &&& modifiers = modifiers ↔
      ∀ i, modifiers.toNat.testBit i = true → held.toNat.testBit i = true := by
  rw [← UInt32.toNat_inj, UInt32.toNat_and]
  constructor
  · intro h i hi
    rw [← h, Nat.testBit_and, Bool.and_eq_true] at hi
    exact hi.1
  · intro h
    apply Nat.eq_of_testBit_eq
    intro i
    rw [Nat.testBit_and]
    cases hi : modifiers.toNat.testBit i with
    | false => simp
    | true => simp [h i hi]

/-- What a lookup goes past: a binding with a modifier that is not held. -/
def unheld (t : Linked GamepadButton GamepadMapEnt) (held : UInt32) (i : Nat) : Bool :=
  (t.item i).any fun e => decide (held &&& e.modifiers ≠ e.modifiers)

theorem findCmdForGamepadButton_eq {m : GamepadMap} {lists : GamepadButton → List Nat}
    (h : Lists m.table.link m.table.items.length lists) (button : GamepadButton) (held : UInt32) :
    findCmdForGamepadButton m button held =
      .ok (((((lists button).find? fun i => !unheld m.table held i).bind m.table.item).map
        GamepadMapEnt.cmd).getD 0) := by
  have hgo : ∀ i ∈ lists button,
      (do let e ← readItem m.table i; pure (decide (held &&& e.modifiers ≠ e.modifiers)) :
        Outcome Bool) =
        .ok (unheld m.table held i) := by
    intro i hi
    obtain ⟨e, he⟩ := m.table.item_isSome (h.inside _ i hi)
    simp [readItem, unheld, he]
  have hwalk := (h.chain button).walk_eq (.fault .spins) hgo (Nat.lt_succ_of_le (h.length_le _))
  unfold findCmdForGamepadButton
  simp only [hwalk, outcome_bind, (h.chain button).link_stop]
  cases hp : (lists button).find? fun i => !unheld m.table held i with
  | none => rfl
  | some i =>
      obtain ⟨e, he⟩ := m.table.item_isSome (h.inside _ i (List.mem_of_find?_eq_some hp))
      simp [readItem, he]

/-- The first answer of a list in order goes before the others. -/
theorem find?_before {p : Nat → Bool} {R : Nat → Nat → Prop} :
    ∀ {l : List Nat} {i : Nat}, l.Pairwise R →
    l.find? p = some i → ∀ j ∈ l, p j = true → j = i ∨ R i j
  | k :: l, i, hl, hfind, j, hj, hpj => by
      obtain ⟨hk, hrest⟩ := List.pairwise_cons.1 hl
      cases hpk : p k with
      | true =>
          rw [List.find?_cons_of_pos hpk] at hfind
          cases hfind
          exact (List.mem_cons.1 hj).imp id (hk j)
      | false =>
          rw [List.find?_cons_of_neg (by simp [hpk])] at hfind
          rcases List.mem_cons.1 hj with rfl | hj
          · rw [hpk] at hpj
            cases hpj
          · exact find?_before hrest hfind j hj hpj

theorem lookup_spec {m : GamepadMap} {calls : List GamepadCall} (h : Listed m calls)
    (button : GamepadButton)
    (held : UInt32) :
    (∃ i c, MostSpecific calls button held i c ∧
      findCmdForGamepadButton m button held = .ok c.cmd) ∨
      ((∀ c ∈ calls, ¬ Answers button held c) ∧ findCmdForGamepadButton m button held = .ok 0) := by
  obtain ⟨lists, hlists, hmem, hsorted⟩ := h.lists
  have hunheld : ∀ {j d}, calls[j]? = some d → d.button = button →
      ((!unheld m.table held j) = true ↔ Answers button held d) := by
    intro j d hd hb
    have hand := and_eq_iff held d.modifiers
    simp [unheld, h.item, hd, Answers, hb, ← hand]
  rw [findCmdForGamepadButton_eq hlists]
  cases hp : (lists button).find? fun i => !unheld m.table held i with
  | some i =>
      obtain ⟨c, hc, hb⟩ := (hmem button i).1 (List.mem_of_find?_eq_some hp)
      have hfirst := List.find?_some hp
      refine .inl ⟨i, c, ⟨hc, (hunheld hc hb).1 hfirst, ?_⟩, by simp [h.item, hc]⟩
      intro j d hd hanswers
      have hj : j ∈ lists button := (hmem button j).2 ⟨d, hd, hanswers.1⟩
      rcases find?_before (hsorted button) hp j hj ((hunheld hd hanswers.1).2 hanswers)
        with rfl | hbefore
      · cases hd.symm.trans hc
        exact .inr ⟨rfl, Nat.le_refl _⟩
      · have hless := hbefore c d hc hd
        rw [countBits32_eq, countBits32_eq] at hless
        exact hless.imp id (And.imp id Nat.le_of_lt)
  | none =>
      refine .inr ⟨?_, rfl⟩
      intro c hc hanswers
      obtain ⟨j, hj⟩ := List.getElem?_of_mem hc
      have hlist : j ∈ lists button := (hmem button j).2 ⟨c, hj, hanswers.1⟩
      exact List.find?_eq_none.1 hp j hlist ((hunheld hj hanswers.1).2 hanswers)

/-- Whatever the order of the additions, a lookup gives the most specific binding, and 0 where there
is none. -/
theorem findCmdForGamepadButton_mostSpecific (calls : List GamepadCall) :
    match gamepadMapAddAll .empty calls with
    | (m, none) => ∀ button held,
        (∃ i c, MostSpecific calls button held i c ∧
          findCmdForGamepadButton m button held = .ok c.cmd) ∨
          ((∀ c ∈ calls, ¬ Answers button held c) ∧ findCmdForGamepadButton m button held = .ok 0)
    | (_, some halt) => halt = .die "Too many joypad keys" ∧ 1024 < calls.length := by
  obtain ⟨hlisted, hhalt⟩ := @gamepadMapAddAll_spec calls _ _ Listed.empty
  rw [List.nil_append] at hlisted hhalt
  rcases hrun : gamepadMapAddAll .empty calls with ⟨m, _ | halt⟩
  · rw [hrun] at hlisted hhalt
    have hfits : calls.length ≤ 1024 := by
      by_contra hmany
      rw [if_neg hmany] at hhalt
      cases hhalt
    rw [List.take_of_length_le hfits] at hlisted
    exact lookup_spec hlisted
  · rw [hrun] at hhalt
    by_cases hfits : calls.length ≤ 1024
    · rw [if_pos hfits] at hhalt
      cases hhalt
    · rw [if_neg hfits] at hhalt
      cases hhalt
      exact ⟨rfl, Nat.lt_of_not_le hfits⟩

end SmwRecomp.Config
