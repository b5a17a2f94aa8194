import SmwRecomp.Coop.Guest
import Mathlib.Data.Bool.AllAny
import Mathlib.Data.List.Nodup
import Mathlib.Algebra.Order.Ring.Nat

/-!
# Actor-owned memory

`coop_guest_capture`, `coop_guest_bind` and `coop_guest_peek` walk one table of address ranges.

* `fieldAddresses` — the addresses of a table, in the order of the image; `cells` — each with its
  byte.
* `captureFields_eq`, `bindFields_eq`, `peekFields_eq` — the three walks as a map and two lookups,
  for ranges that are disjoint.
* `guest_ownership` — what a bind changes, and what a capture, a peek and another bind make of it.
-/

set_option autoImplicit false

namespace SmwRecomp.Coop

/-- `$18E3`: shared challenge progress, whose byte of the image is padding. -/
def sharedAddress : Nat := 0x18e3

/-- The addresses of a table of fields. -/
def fieldAddresses (fields : List (UInt16 × UInt16)) : List Nat :=
  fields.flatMap fun f => (List.range f.2.toNat).map (f.1.toNat + ·)

/-- Each address with its byte of an image. -/
def cells (fields : List (UInt16 × UInt16)) (bytes : List UInt8) : List (Nat × UInt8) :=
  (fieldAddresses fields).zip bytes

theorem fieldAddresses_cons (f : UInt16 × UInt16) (fields : List (UInt16 × UInt16)) :
    fieldAddresses (f :: fields) = (List.range f.2.toNat).map (f.1.toNat + ·) ++
      fieldAddresses fields :=
  List.flatMap_cons

/-! ## Ranges -/

theorem lookup_zip_none {a : Nat} : ∀ {keys : List Nat} {bytes : List UInt8}, a ∉ keys →
    (keys.zip bytes).lookup a = none
  | [], _, _ => rfl
  | _ :: _, [], _ => rfl
  | k :: keys, b :: bytes, h => by
    rw [List.mem_cons, not_or] at h
    rw [List.zip_cons_cons, List.lookup_cons, beq_false_of_ne h.1]
    exact lookup_zip_none h.2

theorem lookup_zip_getElem {i : Nat} :
    ∀ {keys : List Nat} {bytes : List UInt8} (hi : i < keys.length), keys.Nodup →
    (keys.zip bytes).lookup keys[i] = bytes[i]?
  | [], _, hi, _ => by cases hi
  | _ :: _, [], _, _ => by simp
  | k :: keys, b :: bytes, hi, h => by
    rw [List.nodup_cons] at h
    cases i with
    | zero => simp
    | succ i =>
        have hi : i < keys.length := Nat.lt_of_succ_lt_succ hi
        have hne : keys[i] ≠ k := fun heq => h.1 (heq ▸ List.getElem_mem hi)
        rw [List.getElem_cons_succ, List.zip_cons_cons, List.lookup_cons, beq_false_of_ne hne,
          List.getElem?_cons_succ]
        exact lookup_zip_getElem hi h.2

theorem mem_range_map {base n a : Nat} : a ∈ (List.range n).map (base + ·) ↔ base ≤ a ∧
    a < base + n := by
  rw [List.mem_map]
  constructor
  · rintro ⟨k, hk, rfl⟩
    rw [List.mem_range] at hk
    omega
  · rintro ⟨hle, hlt⟩
    exact ⟨a - base, List.mem_range.2 (by omega), by omega⟩

/-- The byte of an address in one range. -/
theorem lookup_range {base n a : Nat} {bytes : List UInt8} (hle : base ≤ a) (hlt : a < base + n) :
    (((List.range n).map (base + ·)).zip bytes).lookup a = bytes[a - base]? := by
  have hnodup : ((List.range n).map (base + ·)).Nodup := by
    apply List.Nodup.map _ List.nodup_range
    intro i j h
    dsimp only at h
    omega
  have hlength : a - base < ((List.range n).map (base + ·)).length := by
    rw [List.length_map, List.length_range]
    omega
  have hkey : ((List.range n).map (base + ·))[a - base] = a := by
    rw [List.getElem_map, List.getElem_range]
    omega
  conv_lhs => rw [← hkey]
  exact lookup_zip_getElem hlength hnodup

/-- The byte of an address, in the first range or in the others. -/
theorem lookup_cells_cons {f : UInt16 × UInt16} {fields : List (UInt16 × UInt16)}
    {bytes : List UInt8}
    (hlength : f.2.toNat ≤ bytes.length) (a : Nat) : (cells (f :: fields) bytes).lookup a =
      if f.1.toNat ≤ a ∧ a < f.1.toNat + f.2.toNat then bytes[a - f.1.toNat]?
      else (cells fields (bytes.drop f.2.toNat)).lookup a := by
  have hsplit : cells (f :: fields) bytes = ((List.range f.2.toNat).map (f.1.toNat + ·)).zip
    (bytes.take f.2.toNat) ++
      cells fields (bytes.drop f.2.toNat) := by
    unfold cells
    rw [fieldAddresses_cons, ← List.zip_append (by simp [hlength]), List.take_append_drop]
  rw [hsplit, List.lookup_append]
  by_cases hin : f.1.toNat ≤ a ∧ a < f.1.toNat + f.2.toNat
  · have hindex : a - f.1.toNat < f.2.toNat := by omega
    rw [if_pos hin, lookup_range hin.1 hin.2, List.getElem?_take_of_lt hindex,
      List.getElem?_eq_getElem (by omega : a - f.1.toNat < bytes.length)]
    rfl
  · rw [if_neg hin, lookup_zip_none (fun h => hin (mem_range_map.1 h))]
    rfl

/-! ## The three walks -/

theorem captureFields_eq (ram : Ram) : ∀ fields : List (UInt16 × UInt16),
    captureFields ram fields = (fieldAddresses fields).map ram
  | [] => rfl
  | (address, size) :: fields => by
    rw [captureFields, fieldAddresses_cons, List.map_append, captureFields_eq ram fields,
      Ram.bytes, List.map_map]
    rfl

/-- A table whose ranges are disjoint, the shared byte a range of its own. -/
structure FieldsApart (fields : List (UInt16 × UInt16)) : Prop where
  nodup : (fieldAddresses fields).Nodup
  shared : ∀ f ∈ fields, if f.1.toNat = sharedAddress then f.2 = 1
    else ¬ (f.1.toNat ≤ sharedAddress ∧ sharedAddress < f.1.toNat + f.2.toNat)

theorem FieldsApart.tail {f : UInt16 × UInt16} {fields : List (UInt16 × UInt16)}
    (h : FieldsApart (f :: fields)) :
    FieldsApart fields := by
  have hnodup := h.nodup
  rw [fieldAddresses_cons] at hnodup
  exact ⟨hnodup.of_append_right, fun g hg => h.shared g (List.mem_cons_of_mem _ hg)⟩

theorem FieldsApart.apart {f : UInt16 × UInt16} {fields : List (UInt16 × UInt16)}
    (h : FieldsApart (f :: fields)) {a : Nat}
    (hin : f.1.toNat ≤ a ∧ a < f.1.toNat + f.2.toNat) : a ∉ fieldAddresses fields := by
  have hnodup := h.nodup
  rw [fieldAddresses_cons] at hnodup
  exact List.disjoint_of_nodup_append hnodup (mem_range_map.2 hin)

/-- A bound image, address by address. -/
theorem bindFields_eq :
    ∀ {fields : List (UInt16 × UInt16)} {bytes : List UInt8} (ram : Ram) (a : Nat),
    FieldsApart fields →
    (fieldAddresses fields).length = bytes.length →
    bindFields fields bytes ram a =
      if a = sharedAddress then ram a else ((cells fields bytes).lookup a).getD (ram a)
  | [], bytes, ram, a, _, _ => by
    simp [bindFields, cells, fieldAddresses]
  | (address, size) :: fields, bytes, ram, a, hfields, hlength => by
    have hsum : size.toNat + (fieldAddresses fields).length = bytes.length := by
      rw [fieldAddresses_cons, List.length_append, List.length_map, List.length_range] at hlength
      exact hlength
    have hrest : (fieldAddresses fields).length = (bytes.drop size.toNat).length := by
      rw [List.length_drop]
      omega
    have htake : (bytes.take size.toNat).length = size.toNat := by
      rw [List.length_take]
      omega
    have hiff : address ≠ 0x18e3 ↔ address.toNat ≠ sharedAddress := not_congr UInt16.toNat_inj.symm
    have hshared := hfields.shared _ List.mem_cons_self
    rw [bindFields, bindFields_eq _ a hfields.tail hrest, lookup_cells_cons (by dsimp only; omega)]
    simp only [hiff]
    dsimp only at hshared ⊢
    by_cases ha : a = sharedAddress
    · rw [if_pos ha, if_pos ha]
      by_cases hfield : address.toNat = sharedAddress
      · rw [if_neg (not_not_intro hfield)]
      · rw [if_neg hfield, ← ha] at hshared
        rw [if_pos hfield, Ram.write, htake, if_neg hshared]
    · rw [if_neg ha, if_neg ha]
      by_cases hin : address.toNat ≤ a ∧ a < address.toNat + size.toNat
      · have hfield : address.toNat ≠ sharedAddress := by
          intro hfield
          rw [if_pos hfield] at hshared
          rw [hshared] at hin
          have hone : (1 : UInt16).toNat = 1 := rfl
          omega
        have hlookup : (cells fields (bytes.drop size.toNat)).lookup a = none :=
          lookup_zip_none (hfields.apart hin)
        have hbyte : bytes[a - address.toNat]? = some (bytes.get ⟨a - address.toNat, by omega⟩) :=
          List.getElem?_eq_getElem (by omega)
        rw [if_pos hin, hlookup, if_pos hfield, Ram.write, htake, if_pos hin,
          List.getD_eq_getElem?_getD, List.getElem?_take_of_lt (by omega), hbyte]
        rfl
      · rw [if_neg hin]
        by_cases hfield : address.toNat = sharedAddress
        · rw [if_neg (not_not_intro hfield)]
        · rw [if_pos hfield, Ram.write, htake, if_neg hin]

theorem peekFields_eq : ∀ {fields : List (UInt16 × UInt16)} {bytes : List UInt8} (address : UInt16),
    (fieldAddresses fields).length = bytes.length →
    peekFields fields bytes address = (cells fields bytes).lookup address.toNat
  | [], _, _, _ => rfl
  | (first, size) :: fields, bytes, address, hlength => by
    have hsum : size.toNat + (fieldAddresses fields).length = bytes.length := by
      rw [fieldAddresses_cons, List.length_append, List.length_map, List.length_range] at hlength
      exact hlength
    have hrest : (fieldAddresses fields).length = (bytes.drop size.toNat).length := by
      rw [List.length_drop]
      omega
    have hin : (address ≥ first ∧ address - first < size) ↔
        first.toNat ≤ address.toNat ∧ address.toNat < first.toNat + size.toNat := by
      rw [ge_iff_le, UInt16.le_iff_toNat_le, UInt16.lt_iff_toNat_lt]
      constructor
      · rintro ⟨hle, hlt⟩
        rw [UInt16.toNat_sub_of_le _ _ hle] at hlt
        omega
      · rintro ⟨hle, hlt⟩
        rw [UInt16.toNat_sub_of_le _ _ hle]
        omega
    rw [peekFields, lookup_cells_cons (by dsimp only; omega), peekFields_eq address hrest]
    by_cases h : address ≥ first ∧ address - first < size
    · rw [if_pos h, if_pos (hin.1 h), UInt16.toNat_sub_of_le _ _ h.1]
    · rw [if_neg h, if_neg (fun h' => h (hin.2 h'))]

/-! ## The table of a player -/

theorem guestFields_apart : FieldsApart guestFields where
  nodup := by decide +kernel
  shared := List.all_iff_forall_prop.1 (by decide +kernel)

/-- The padding byte is the last of the image. -/
example : (fieldAddresses guestFields)[143]? = some sharedAddress := by decide +kernel

theorem guestFields_length : (fieldAddresses guestFields).length = COOP_GUEST_BYTES := by
  decide +kernel

section Player

variable (guest other : List.Vector UInt8 COOP_GUEST_BYTES) (ram : Ram)

theorem guest_length : (fieldAddresses guestFields).length = guest.toList.length := by
  rw [guestFields_length, guest.toList_length]

theorem coopGuestBind_eq (a : Nat) : coopGuestBind guest ram a =
    if a = sharedAddress then ram a else ((cells guestFields guest.toList).lookup a).getD (ram a) :=
  bindFields_eq ram a guestFields_apart (guest_length guest)

theorem coopGuestBind_other {a : Nat} (h : a ∉ fieldAddresses guestFields ∨ a = sharedAddress) :
    coopGuestBind guest ram a = ram a := by
  rw [coopGuestBind_eq]
  rcases h with h | h
  · rw [cells, lookup_zip_none h]
    simp
  · rw [if_pos h]

/-- A listed address is bound to its byte of the image. -/
theorem coopGuestBind_field {k : Nat} (hk : k < COOP_GUEST_BYTES)
    (hne : (fieldAddresses guestFields).get ⟨k, guestFields_length ▸ hk⟩ ≠ sharedAddress) :
    coopGuestBind guest ram ((fieldAddresses guestFields).get ⟨k, guestFields_length ▸ hk⟩) =
      guest.get ⟨k, hk⟩ := by
  have hbyte : guest.toList[k]? = some (guest.get ⟨k, hk⟩) := by
    rw [List.getElem?_eq_getElem (by rw [guest.toList_length]; exact hk)]
    rfl
  rw [coopGuestBind_eq, if_neg hne, List.get_eq_getElem, cells,
    lookup_zip_getElem _ guestFields_apart.nodup, hbyte]
  rfl

theorem lookup_isSome_iff {a : Nat} :
    ((cells guestFields guest.toList).lookup a).isSome ↔ a ∈ fieldAddresses guestFields := by
  constructor
  · intro h
    by_contra hnot
    rw [cells, lookup_zip_none hnot] at h
    cases h
  · intro h
    obtain ⟨k, hk, rfl⟩ := List.getElem_of_mem h
    rw [cells, lookup_zip_getElem hk guestFields_apart.nodup,
      List.getElem?_eq_getElem (by rw [← guest_length guest]; exact hk)]
    rfl

theorem coopGuestPeek_eq (address : UInt16) :
    coopGuestPeek guest address = (cells guestFields guest.toList).lookup address.toNat :=
  peekFields_eq address (guest_length guest)

theorem coopGuestBind_again : coopGuestBind guest (coopGuestBind other (coopGuestBind guest ram)) =
    coopGuestBind guest ram := by
  funext a
  by_cases h : a ∉ fieldAddresses guestFields ∨ a = sharedAddress
  · rw [coopGuestBind_other _ _ h, coopGuestBind_other _ _ h]
  · rw [not_or, not_not] at h
    obtain ⟨byte, hbyte⟩ := Option.isSome_iff_exists.1 ((lookup_isSome_iff guest).2 h.1)
    rw [coopGuestBind_eq guest, coopGuestBind_eq guest ram, if_neg h.2, if_neg h.2, hbyte]
    rfl

end Player

/-- A bind changes the addresses of the table and no others, the shared one apart; a capture gives
the bound image back, a peek finds what a bind would write, and a bind between two of one image
leaves no trace. -/
theorem guest_ownership :
    (∀ a, (∀ guest ram, coopGuestBind guest ram a = ram a) ↔ a ∉ fieldAddresses guestFields ∨
      a = sharedAddress) ∧
    (∀ guest ram k (hk : k < COOP_GUEST_BYTES),
      (fieldAddresses guestFields).get ⟨k, guestFields_length ▸ hk⟩ ≠ sharedAddress →
        (coopGuestCapture (coopGuestBind guest ram)).get ⟨k, hk⟩ = guest.get ⟨k, hk⟩) ∧
    (∀ guest ram (address : UInt16),
      (address.toNat ∉ fieldAddresses guestFields → coopGuestPeek guest address = none) ∧
      (address.toNat ∈ fieldAddresses guestFields → (coopGuestPeek guest address).isSome = true ∧
        (address.toNat ≠ sharedAddress →
          coopGuestPeek guest address = some (coopGuestBind guest ram address.toNat)))) ∧
    ∀ a b ram, coopGuestBind a (coopGuestBind b (coopGuestBind a ram)) = coopGuestBind a ram := by
  refine ⟨?_, ?_, ?_, coopGuestBind_again⟩
  · intro a
    constructor
    · intro h
      by_contra hnot
      rw [not_or, not_not] at hnot
      obtain ⟨k, hk, rfl⟩ := List.getElem_of_mem hnot.1
      have hk' : k < COOP_GUEST_BYTES := guestFields_length ▸ hk
      -- an image of ones over a memory of zeros
      have hset := coopGuestBind_field (List.Vector.replicate _ 1) (fun _ => 0) hk' hnot.2
      rw [List.get_eq_getElem, h, List.Vector.get_replicate] at hset
      exact absurd hset (by decide)
    · intro h guest ram
      exact coopGuestBind_other guest ram h
  · intro guest ram k hk hne
    have hget : (coopGuestCapture (coopGuestBind guest ram)).get ⟨k, hk⟩ =
        coopGuestBind guest ram
          ((fieldAddresses guestFields).get ⟨k, guestFields_length ▸ hk⟩) := by
      show (captureFields (coopGuestBind guest ram) guestFields).get ⟨k, _⟩ = _
      simp only [captureFields_eq, List.get_eq_getElem, List.getElem_map]
    rw [hget, coopGuestBind_field guest ram hk hne]
  · intro guest ram address
    rw [coopGuestPeek_eq, lookup_isSome_iff]
    constructor
    · intro h
      rw [cells, lookup_zip_none h]
    · intro h
      refine ⟨h, ?_⟩
      intro hne
      obtain ⟨byte, hbyte⟩ := Option.isSome_iff_exists.1 ((lookup_isSome_iff guest).2 h)
      rw [coopGuestBind_eq, if_neg hne, hbyte]
      rfl

end SmwRecomp.Coop
