import SmwRecomp.Lib.Bytes
import SmwRecomp.Lib.Spans
import Mathlib.Data.List.Sort

/-!
# The regions that are not code

`src/tools/ingest_smwdisx.py`: `non_code_regions`.

* `AddressMap` — a dict over 24-bit addresses.
* `nonCodeRegions` — the function; `none` is its `KeyError`.
* `Owns` — the address a byte belongs to: the last one emitted at or in front of it in its bank.
* `nonCodeRegions_exact` — the regions are apart and hold exactly the bytes of what is not 65816
  code.
-/

set_option autoImplicit false

namespace SmwRecomp.Ingest

inductive Kind where
  | code
  | data
  deriving DecidableEq

/-- A dict over 24-bit addresses, in the order of insertion. -/
structure AddressMap (α : Type) where
  entries : List (Nat × α)
  nodup : (entries.map Prod.fst).Nodup
  bounded : ∀ e ∈ entries, e.1 < 2 ^ 24

namespace AddressMap

variable {α : Type}

def keys (m : AddressMap α) : List Nat := m.entries.map Prod.fst

/-- `m.get(pc24)`. -/
def get (m : AddressMap α) (pc24 : Nat) : Option α := m.entries.lookup pc24

theorem get_isSome (m : AddressMap α) {pc24 : Nat} (h : pc24 ∈ m.keys) : (m.get pc24).isSome := by
  obtain ⟨e, he, rfl⟩ := List.mem_map.1 h
  unfold get
  rw [List.lookup_isSome_iff]
  exact ⟨e, he, beq_self_eq_true _⟩

theorem mem_keys (m : AddressMap α) {pc24 : Nat} {a : α} (h : m.get pc24 = some a) :
    pc24 ∈ m.keys := by
  have hsome : (m.entries.lookup pc24).isSome = true := by
    rw [show m.entries.lookup pc24 = some a from h]
    rfl
  obtain ⟨e, he, heq⟩ := List.lookup_isSome_iff.1 hsome
  exact List.mem_map.2 ⟨e, he, (beq_iff_eq.1 heq).symm⟩

theorem bounded_key (m : AddressMap α) {pc24 : Nat} (h : pc24 ∈ m.keys) : pc24 < 2 ^ 24 := by
  obtain ⟨e, he, rfl⟩ := List.mem_map.1 h
  exact m.bounded e he

end AddressMap

/-- `(pc24 >> 16) & 0xFF`. -/
def bankOf (pc24 : Nat) : Nat := (pc24 >>> 16) &&& 0xff

/-- `pc24 & 0xFFFF`. -/
def pc16Of (pc24 : Nat) : Nat := pc24 &&& 0xffff

/-- `(bank << 16) | pc16`. -/
def pc24Of (bank pc16 : Nat) : Nat := (bank <<< 16) ||| pc16

/-- `by_bank[bank].append(pc16)`. -/
def appendTo (bank pc16 : Nat) : List (Nat × List Nat) → List (Nat × List Nat)
  | [] => [(bank, [pc16])]
  | (key, addresses) :: rest =>
    if key = bank then (key, addresses ++ [pc16]) :: rest
      else (key, addresses) :: appendTo bank pc16 rest

def byBank (keys : List Nat) : List (Nat × List Nat) :=
  keys.foldl (fun banks pc24 => appendTo (bankOf pc24) (pc16Of pc24) banks) []

abbrev Region := Span Nat Nat

/-- The loop over the sorted addresses of a bank. -/
def bankSpans (code : Nat → Option Bool) (bank : Nat) : List Nat → Option (List Region)
  | [] => some []
  | pc16 :: rest => do
    let isCode ← code (pc24Of bank pc16)
    let below ← bankSpans code bank rest
    let stop := rest.head?.getD 0x10000
    if isCode then return below
    else if stop > pc16 then return ⟨bank, pc16, stop⟩ :: below
    else return below

/-- `kind_by_pc24[pc24] == "code" and arch_by_pc24.get(pc24) == "65816"`. -/
def isCode (kinds : AddressMap Kind) (archs : AddressMap String) (pc24 : Nat) : Option Bool :=
  (kinds.get pc24).map fun kind => decide (kind = .code) && decide (archs.get pc24 = some "65816")

/-- The order of the tuples `(bank, start, end)`. -/
def tupleLe (r s : Region) : Bool :=
  decide (r.key < s.key ∨ r.key = s.key ∧ (r.start < s.start ∨ r.start = s.start ∧ r.stop ≤ s.stop))

/-- `non_code_regions`. -/
def nonCodeRegions (kinds : AddressMap Kind) (archs : AddressMap String) :
    Option (List Region) := do
  let spans ← (byBank kinds.keys).mapM fun (bank, addresses) =>
    bankSpans (isCode kinds archs) bank (addresses.mergeSort fun a b => decide (a ≤ b))
  return (spans.flatten.mergeSort tupleLe).foldl mergeSpan []

/-! ## Addresses -/

theorem bankOf_eq {pc24 : Nat} (h : pc24 < 2 ^ 24) : bankOf pc24 = pc24 / 0x10000 := by
  unfold bankOf
  rw [Nat.shiftRight_eq_div_pow, Nat.and_two_pow_sub_one_eq_mod _ 8]
  exact Nat.mod_eq_of_lt (by omega)

theorem pc16Of_eq (pc24 : Nat) : pc16Of pc24 = pc24 % 0x10000 := Nat.and_two_pow_sub_one_eq_mod _ 16

theorem pc24Of_eq {bank pc16 : Nat} (h : pc16 < 0x10000) :
    pc24Of bank pc16 = bank * 0x10000 + pc16 := by
  unfold pc24Of
  rw [Nat.shiftLeft_eq, Nat.mul_comm, ← Nat.two_pow_add_eq_or_of_lt h]

theorem pc16Of_lt (pc24 : Nat) : pc16Of pc24 < 0x10000 := by
  rw [pc16Of_eq]
  exact Nat.mod_lt _ (by decide)

/-- Bank and offset make the address. -/
theorem address_iff {pc24 bank pc16 : Nat} (h : pc24 < 2 ^ 24) (hlow : pc16 < 0x10000) :
    bankOf pc24 = bank ∧ pc16Of pc24 = pc16 ↔ pc24 = bank * 0x10000 + pc16 := by
  rw [bankOf_eq h, pc16Of_eq]
  omega

/-! ## The banks -/

/-- The groups behind the keys `done`. -/
structure Grouped (done : List Nat) (banks : List (Nat × List Nat)) : Prop where
  nodup : (banks.map Prod.fst).Nodup
  members : ∀ g ∈ banks, ∀ pc16, pc16 ∈ g.2 ↔ ∃ pc24 ∈ done, bankOf pc24 = g.1 ∧ pc16Of pc24 = pc16
  present : ∀ pc24 ∈ done, bankOf pc24 ∈ banks.map Prod.fst

theorem keys_appendTo (bank pc16 : Nat) :
    ∀ banks : List (Nat × List Nat), (appendTo bank pc16 banks).map Prod.fst =
    if bank ∈ banks.map Prod.fst then banks.map Prod.fst else banks.map Prod.fst ++ [bank]
  | [] => rfl
  | (key, addresses) :: rest => by
      unfold appendTo
      by_cases hkey : key = bank
      · rw [if_pos hkey, if_pos (by rw [hkey]; exact List.mem_cons_self)]
        rfl
      · rw [if_neg hkey, List.map_cons, keys_appendTo bank pc16 rest, List.map_cons]
        by_cases hmem : bank ∈ rest.map Prod.fst
        · rw [if_pos hmem, if_pos (List.mem_cons_of_mem _ hmem)]
        · rw [if_neg hmem, if_neg]
          · rfl
          · rw [List.mem_cons]
            exact fun h => h.elim (fun heq => hkey heq.symm) hmem

theorem members_appendTo {bank pc16 : Nat} {P : Nat → Nat → Prop} :
    ∀ {banks : List (Nat × List Nat)},
    (banks.map Prod.fst).Nodup → (∀ g ∈ banks, ∀ x, x ∈ g.2 ↔ P g.1 x) →
    (bank ∉ banks.map Prod.fst → ∀ x, ¬ P bank x) →
    ∀ g ∈ appendTo bank pc16 banks, ∀ x, x ∈ g.2 ↔ P g.1 x ∨ g.1 = bank ∧ x = pc16
  | [], _, _, hnone, g, hg, x => by
      rw [List.mem_singleton.1 hg]
      simp [hnone (List.not_mem_nil) x]
  | (key, addresses) :: rest, hnodup, hmembers, hnone, g, hg, x => by
      rw [List.map_cons, List.nodup_cons] at hnodup
      rw [List.forall_mem_cons] at hmembers
      have hrest : ∀ q ∈ rest, q.1 ∈ rest.map Prod.fst := fun q hq => List.mem_map_of_mem hq
      unfold appendTo at hg
      by_cases hkey : key = bank
      · rw [if_pos hkey] at hg
        rcases List.mem_cons.1 hg with rfl | hg
        · simp only [List.mem_append, List.mem_singleton, hmembers.1, hkey, true_and]
        · have hne : g.1 ≠ bank := fun heq => hnodup.1 (by rw [hkey, ← heq]; exact hrest g hg)
          rw [hmembers.2 g hg x]
          simp [hne]
      · rw [if_neg hkey] at hg
        rcases List.mem_cons.1 hg with rfl | hg
        · simp only [hmembers.1, hkey, false_and, or_false]
        · refine members_appendTo hnodup.2 hmembers.2 (fun hmem => hnone ?_) g hg x
          rw [List.map_cons, List.mem_cons]
          exact fun h => h.elim (fun heq => hkey heq.symm) hmem

theorem Grouped.step {done : List Nat} {banks : List (Nat × List Nat)} (h : Grouped done banks)
    (pc24 : Nat) :
    Grouped (done ++ [pc24]) (appendTo (bankOf pc24) (pc16Of pc24) banks) where
  nodup := by
    rw [keys_appendTo]
    split
    · exact h.nodup
    · rename_i hmem
      exact List.nodup_append.2 ⟨h.nodup, List.nodup_singleton _, fun a ha b hb hab => by
        rw [List.mem_singleton.1 hb] at hab
        exact hmem (hab ▸ ha)⟩
  members g hg pc16 := by
    have hmembers := members_appendTo
      (P := fun bank pc16 => ∃ pc24 ∈ done, bankOf pc24 = bank ∧ pc16Of pc24 = pc16)
        h.nodup h.members
      (fun hmem x ⟨k, hk, hbank, _⟩ => hmem (hbank ▸ h.present k hk)) g hg pc16
    rw [hmembers]
    simp only [List.mem_append, List.mem_singleton, or_and_right, exists_or, exists_eq_left]
    exact or_congr_right ⟨fun ⟨hbank, hlow⟩ => ⟨hbank.symm, hlow.symm⟩, fun ⟨hbank, hlow⟩ =>
      ⟨hbank.symm, hlow.symm⟩⟩
  present k hk := by
    rw [keys_appendTo]
    rcases List.mem_append.1 hk with hk | hk
    · have hmem := h.present k hk
      split
      · exact hmem
      · exact List.mem_append_left _ hmem
    · rw [List.mem_singleton.1 hk]
      split
      · assumption
      · exact List.mem_append_right _ List.mem_cons_self

theorem grouped_byBank (keys : List Nat) : Grouped keys (byBank keys) := by
  induction keys using List.reverseRecOn with
  | nil => exact ⟨.nil, (fun _ hg => nomatch hg), (fun _ hk => nomatch hk)⟩
  | append_singleton keys pc24 ih =>
      unfold byBank at ih ⊢
      rw [List.foldl_append]
      exact ih.step pc24

/-! ## The spans of a bank -/

/-- The address in front of a byte, among the addresses of a bank. -/
def OwnedBy (addresses : List Nat) (x pc16 : Nat) : Prop :=
  pc16 ∈ addresses ∧ pc16 ≤ x ∧ x < 0x10000 ∧ ∀ other ∈ addresses, other ≤ x → other ≤ pc16

theorem ownedBy_cons {pc16 : Nat} {rest : List Nat} (hsorted : (pc16 :: rest).Pairwise (· ≤ ·))
    (x owner : Nat) :
    OwnedBy (pc16 :: rest) x owner ↔
      owner = pc16 ∧ pc16 ≤ x ∧ x < rest.head?.getD 0x10000 ∧ x < 0x10000 ∨
      OwnedBy rest x owner := by
  rw [List.pairwise_cons] at hsorted
  obtain ⟨hfirst, hrest⟩ := hsorted
  have hhead : ∀ a ∈ rest, rest.head?.getD 0x10000 ≤ a := by
    intro a ha
    cases rest with
    | nil => cases ha
    | cons b rest =>
        rcases List.mem_cons.1 ha with rfl | ha
        · exact Nat.le_refl _
        · exact (List.pairwise_cons.1 hrest).1 a ha
  rw [OwnedBy, OwnedBy, List.forall_mem_cons, List.mem_cons]
  constructor
  · rintro ⟨rfl | hmem, hle, hx, hself, hlast⟩
    · by_cases hbefore : x < rest.head?.getD 0x10000
      · exact Or.inl ⟨rfl, hle, hbefore, hx⟩
      · cases rest with
        | nil => exact absurd hx hbefore
        | cons b rest =>
            have hb := hlast b List.mem_cons_self (Nat.le_of_not_lt hbefore)
            have heq : b = owner := Nat.le_antisymm hb (hfirst b List.mem_cons_self)
            exact Or.inr ⟨List.mem_cons.2 (Or.inl heq.symm), hle, hx, hlast⟩
    · exact Or.inr ⟨hmem, hle, hx, hlast⟩
  · rintro (⟨rfl, hle, hbefore, hx⟩ | ⟨hmem, hle, hx, hlast⟩)
    · refine ⟨Or.inl rfl, hle, hx, fun _ => Nat.le_refl _, fun other hother hother' => ?_⟩
      have := hhead other hother
      omega
    · exact ⟨Or.inr hmem, hle, hx, fun _ => hfirst owner hmem, hlast⟩

theorem bankSpans_spec {code : Nat → Option Bool} {bank : Nat} : ∀ {addresses : List Nat},
    addresses.Pairwise (· ≤ ·) → (∀ a ∈ addresses, a < 0x10000 ∧ (code (pc24Of bank a)).isSome) →
    ∃ spans, bankSpans code bank addresses = some spans ∧
      (∀ r ∈ spans, r.key = bank ∧ r.Full ∧ r.stop ≤ 0x10000) ∧
      ∀ x, Covered spans bank x ↔ ∃ a, OwnedBy addresses x a ∧ code (pc24Of bank a) =
        some false := by
  intro addresses
  induction addresses with
  | nil =>
      intro _ _
      refine ⟨[], rfl, (fun _ hr => nomatch hr), fun x => ⟨fun ⟨r, hr, _⟩ => (nomatch hr), ?_⟩⟩
      rintro ⟨a, ⟨hmem, -⟩, -⟩
      cases hmem
  | cons pc16 rest ih =>
      intro hsorted hall
      rw [List.forall_mem_cons] at hall
      obtain ⟨below, hbelow, hkeys, hcovered⟩ := ih (List.pairwise_cons.1 hsorted).2 hall.2
      obtain ⟨isCode, hcode⟩ := Option.isSome_iff_exists.1 hall.1.2
      have hstop : rest.head?.getD 0x10000 ≤ 0x10000 := by
        cases rest with
        | nil => exact Nat.le_refl _
        | cons b rest => exact Nat.le_of_lt (hall.2 b List.mem_cons_self).1
      have hnew : ∀ x, (∃ a, OwnedBy (pc16 :: rest) x a ∧ code (pc24Of bank a) = some false) ↔
          (isCode = false ∧ pc16 ≤ x ∧ x < rest.head?.getD 0x10000) ∨ Covered below bank x := by
        intro x
        rw [hcovered]
        simp only [ownedBy_cons hsorted]
        constructor
        · rintro ⟨a, ⟨rfl, hle, hbefore, hx⟩ | hown, hno⟩
          · rw [hcode] at hno
            exact Or.inl ⟨Option.some.inj hno, hle, hbefore⟩
          · exact Or.inr ⟨a, hown, hno⟩
        · rintro (⟨rfl, hle, hbefore⟩ | ⟨a, hown, hno⟩)
          · exact ⟨pc16, Or.inl ⟨rfl, hle, hbefore, Nat.lt_of_lt_of_le hbefore hstop⟩, hcode⟩
          · exact ⟨a, Or.inr hown, hno⟩
      unfold bankSpans
      rw [hcode, hbelow]
      simp only [Option.bind_eq_bind, Option.bind_some, Option.pure_def]
      by_cases hskip : isCode = true
      · rw [if_pos hskip]
        refine ⟨below, rfl, hkeys, fun x => ?_⟩
        rw [hnew, hskip]
        simp
      rw [if_neg hskip]
      by_cases hwide : rest.head?.getD 0x10000 > pc16
      · rw [if_pos hwide]
        refine ⟨_, rfl, List.forall_mem_cons.2 ⟨⟨rfl, hwide, hstop⟩, hkeys⟩, fun x => ?_⟩
        rw [hnew]
        have happend := covered_append [⟨bank, pc16, rest.head?.getD 0x10000⟩] below bank x
        rw [covered_singleton] at happend
        refine Iff.trans happend (or_congr_left ?_)
        unfold Span.Holds
        simp [hskip]
      · rw [if_neg hwide]
        refine ⟨below, rfl, hkeys, fun x => ?_⟩
        rw [hnew]
        constructor
        · exact Or.inr
        · rintro (⟨-, hle, hbefore⟩ | hin)
          · omega
          · exact hin

/-! ## The regions -/

/-- `owner` is the address that owns the byte `x` of a bank: emitted, and the last one not behind
it. -/
def Owns (kinds : AddressMap Kind) (bank x owner : Nat) : Prop :=
  bank * 0x10000 + owner ∈ kinds.keys ∧ owner ≤ x ∧ x < 0x10000 ∧
    ∀ other ≤ x, bank * 0x10000 + other ∈ kinds.keys → other ≤ owner

/-- An address of 65816 code. -/
def Is65816Code (kinds : AddressMap Kind) (archs : AddressMap String) (pc24 : Nat) : Prop :=
  kinds.get pc24 = some .code ∧ archs.get pc24 = some "65816"

/-- A byte owned by an address that is not 65816 code. -/
def NonCode (kinds : AddressMap Kind) (archs : AddressMap String) (bank x : Nat) : Prop :=
  ∃ owner, Owns kinds bank x owner ∧ ¬ Is65816Code kinds archs (bank * 0x10000 + owner)

section Exact

variable (kinds : AddressMap Kind) (archs : AddressMap String)

theorem isCode_false {pc24 : Nat} (h : pc24 ∈ kinds.keys) :
    isCode kinds archs pc24 = some false ↔ ¬ Is65816Code kinds archs pc24 := by
  obtain ⟨kind, hkind⟩ := Option.isSome_iff_exists.1 (kinds.get_isSome h)
  unfold isCode Is65816Code
  rw [hkind]
  simp only [Option.map_some, Option.some.injEq, Bool.and_eq_false_iff,
    decide_eq_false_iff_not, not_and_or]

/-- The spans of a group. -/
theorem group_spec {g : Nat × List Nat} (hg : g ∈ byBank kinds.keys) : ∃ spans,
    bankSpans (isCode kinds archs) g.1 (g.2.mergeSort fun a b => decide (a ≤ b)) = some spans ∧
      (∀ r ∈ spans, r.key = g.1 ∧ r.Full ∧ r.stop ≤ 0x10000) ∧
      ∀ x, Covered spans g.1 x ↔ NonCode kinds archs g.1 x := by
  have hmembers := (grouped_byBank kinds.keys).members g hg
  have hin : ∀ pc16, pc16 ∈ g.2.mergeSort (fun a b => decide (a ≤ b)) ↔
      pc16 < 0x10000 ∧ g.1 * 0x10000 + pc16 ∈ kinds.keys := by
    intro pc16
    rw [List.mem_mergeSort, hmembers]
    constructor
    · rintro ⟨pc24, hkey, hbank, rfl⟩
      have haddress := (address_iff (kinds.bounded_key hkey) (pc16Of_lt pc24)).1 ⟨hbank, rfl⟩
      exact ⟨pc16Of_lt pc24, haddress ▸ hkey⟩
    · rintro ⟨hlow, hkey⟩
      exact ⟨_, hkey, (address_iff (kinds.bounded_key hkey) hlow).2 rfl⟩
  have hsorted : (g.2.mergeSort fun a b => decide (a ≤ b)).Pairwise (· ≤ ·) := by
    have h := @List.pairwise_mergeSort _ (fun a b : Nat => decide (a ≤ b))
      (by simp only [decide_eq_true_eq]; exact fun _ _ _ => Nat.le_trans)
      (by simp only [Bool.or_eq_true, decide_eq_true_eq]; exact fun a b => Nat.le_total a b) g.2
    exact h.imp fun hle => by simpa using hle
  obtain ⟨spans, hspans, hshape, hcovered⟩ := @bankSpans_spec (isCode kinds archs) g.1 _ hsorted
    fun a ha => by
      obtain ⟨hlow, hkey⟩ := (hin a).1 ha
      refine ⟨hlow, ?_⟩
      rw [pc24Of_eq hlow]
      unfold isCode
      rw [Option.isSome_map]
      exact kinds.get_isSome hkey
  refine ⟨spans, hspans, hshape, fun x => ?_⟩
  rw [hcovered]
  refine exists_congr fun owner => ?_
  constructor
  · rintro ⟨⟨hmem, hle, hx, hlast⟩, hno⟩
    obtain ⟨hlow, hkey⟩ := (hin owner).1 hmem
    rw [pc24Of_eq hlow] at hno
    refine ⟨⟨hkey, hle, hx, fun other hother hkey' =>
      hlast other ((hin other).2 ⟨by omega, hkey'⟩) hother⟩, ?_⟩
    exact (isCode_false kinds archs hkey).1 hno
  · rintro ⟨⟨hkey, hle, hx, hlast⟩, hno⟩
    have hlow : owner < 0x10000 := by omega
    refine ⟨⟨(hin owner).2 ⟨hlow, hkey⟩, hle, hx, fun other hmem hother =>
      hlast other hother ((hin other).1 hmem).2⟩, ?_⟩
    rw [pc24Of_eq hlow]
    exact (isCode_false kinds archs hkey).2 hno

theorem tupleLe_trans (q r s : Region) (hqr : tupleLe q r = true) (hrs : tupleLe r s = true) :
    tupleLe q s = true := by
  unfold tupleLe at *
  rw [decide_eq_true_eq] at *
  omega

theorem tupleLe_total (r s : Region) : (tupleLe r s || tupleLe s r) = true := by
  unfold tupleLe
  rw [Bool.or_eq_true, decide_eq_true_eq, decide_eq_true_eq]
  omega

/-- The spans of a group, as a value. -/
def spansOf (g : Nat × List Nat) : List Region :=
  (bankSpans (isCode kinds archs) g.1 (g.2.mergeSort fun a b => decide (a ≤ b))).getD []

theorem spansOf_spec {g : Nat × List Nat} (hg : g ∈ byBank kinds.keys) :
    bankSpans (isCode kinds archs) g.1 (g.2.mergeSort fun a b => decide (a ≤ b)) =
      some (spansOf kinds archs g) ∧
      (∀ r ∈ spansOf kinds archs g, r.key = g.1 ∧ r.Full ∧ r.stop ≤ 0x10000) ∧
      ∀ x, Covered (spansOf kinds archs g) g.1 x ↔ NonCode kinds archs g.1 x := by
  obtain ⟨spans, hspans, hshape, hcovered⟩ := group_spec kinds archs hg
  have hsame : spansOf kinds archs g = spans := by
    unfold spansOf
    rw [hspans, Option.getD_some]
  rw [hsame]
  exact ⟨hspans, hshape, hcovered⟩

/-- The spans of all groups, sorted. -/
def sortedSpans : List Region :=
  ((byBank kinds.keys).map (spansOf kinds archs)).flatten.mergeSort tupleLe

theorem nonCodeRegions_eq :
    nonCodeRegions kinds archs = some ((sortedSpans kinds archs).foldl mergeSpan []) := by
  have hmap := mapM_some (f := fun (g : Nat × List Nat) =>
    bankSpans (isCode kinds archs) g.1 (g.2.mergeSort fun a b => decide (a ≤ b))) fun g hg =>
      (spansOf_spec kinds archs hg).1
  exact congrArg (Option.bind · _) hmap

/-- No key is missing. -/
theorem nonCodeRegions_some : ∃ regions, nonCodeRegions kinds archs = some regions :=
  ⟨_, nonCodeRegions_eq kinds archs⟩

theorem mem_sortedSpans {r : Region} :
    r ∈ sortedSpans kinds archs ↔ ∃ g ∈ byBank kinds.keys, r ∈ spansOf kinds archs g := by
  unfold sortedSpans
  rw [List.mem_mergeSort, List.mem_flatten]
  constructor
  · rintro ⟨group, hgroup, hr⟩
    obtain ⟨g, hg, rfl⟩ := List.mem_map.1 hgroup
    exact ⟨g, hg, hr⟩
  · rintro ⟨g, hg, hr⟩
    exact ⟨_, List.mem_map_of_mem hg, hr⟩

theorem sortedSpans_starts : (sortedSpans kinds archs).Pairwise Span.Starts := by
  refine (List.pairwise_mergeSort tupleLe_trans tupleLe_total _).imp fun {r s} hle => ?_
  unfold tupleLe at hle
  rw [decide_eq_true_eq] at hle
  unfold Span.Starts
  omega

theorem sortedSpans_full : ∀ r ∈ sortedSpans kinds archs, r.Full := by
  intro r hr
  obtain ⟨g, hg, hr⟩ := (mem_sortedSpans kinds archs).1 hr
  exact ((spansOf_spec kinds archs hg).2.1 r hr).2.1

/-- Every group has the spans of its own bank, and the owner of a byte is in the group of its bank.
-/
theorem sortedSpans_covered (bank x : Nat) : Covered (sortedSpans kinds archs) bank x ↔
    NonCode kinds archs bank x := by
  constructor
  · rintro ⟨r, hr, hholds⟩
    obtain ⟨g, hg, hr⟩ := (mem_sortedSpans kinds archs).1 hr
    obtain ⟨-, hshape, hcovered⟩ := spansOf_spec kinds archs hg
    have hbank : g.1 = bank := (hshape r hr).1.symm.trans hholds.1
    rw [← hbank, ← hcovered]
    exact ⟨r, hr, hbank ▸ hholds⟩
  · intro hnon
    have hnon' := hnon
    obtain ⟨owner, ⟨hkey, hle, hx, -⟩, -⟩ := hnon'
    have hbank : bankOf (bank * 0x10000 + owner) = bank :=
      ((address_iff (kinds.bounded_key hkey) (by omega)).2 rfl).1
    have hpresent := (grouped_byBank kinds.keys).present _ hkey
    rw [hbank] at hpresent
    obtain ⟨g, hg, hsame⟩ := List.mem_map.1 hpresent
    rw [← hsame] at hnon ⊢
    obtain ⟨r, hr, hholds⟩ := ((spansOf_spec kinds archs hg).2.2 x).2 hnon
    exact ⟨r, (mem_sortedSpans kinds archs).2 ⟨g, hg, hr⟩, hholds⟩

/-- The regions of every map: ascending and apart in every bank, inside the bank, and made of
exactly the bytes whose owner is not 65816 code. -/
theorem nonCodeRegions_exact : ∃ regions, nonCodeRegions kinds archs = some regions ∧
    regions.Pairwise (fun r s => r.key < s.key ∨ r.key = s.key ∧ r.stop < s.start) ∧
    (∀ r ∈ regions, r.start < r.stop ∧ r.stop ≤ 0x10000) ∧
    (∀ bank x, Covered regions bank x ↔ NonCode kinds archs bank x) ∧
    (∀ pc24, Is65816Code kinds archs pc24 → ¬ Covered regions (pc24 / 0x10000) (pc24 % 0x10000)) ∧
    ∀ pc24 ∈ kinds.keys, ¬ Is65816Code kinds archs pc24 →
    Covered regions (pc24 / 0x10000) (pc24 % 0x10000) := by
  have hmerged := mergeSpans_spec (sortedSpans_starts kinds archs) (sortedSpans_full kinds archs)
  have hcovered : ∀ bank x, Covered ((sortedSpans kinds archs).foldl mergeSpan []) bank x ↔
    NonCode kinds archs bank x :=
    fun bank x => (hmerged.covered bank x).trans (sortedSpans_covered kinds archs bank x)
  have hown : ∀ {pc24 : Nat}, pc24 ∈ kinds.keys → pc24 / 0x10000 * 0x10000 + pc24 % 0x10000 =
    pc24 := fun _ => by omega
  refine ⟨_, nonCodeRegions_eq kinds archs, hmerged.apart,
    fun r hr => ⟨hmerged.full r hr, ?_⟩, hcovered, fun pc24 hcode hin =>
    ?_, fun pc24 hkey hno => ?_⟩
  · by_contra hover
    obtain ⟨owner, ⟨-, -, hx, -⟩, -⟩ := (hcovered r.key (max r.start 0x10000)).1
      ⟨r, hr, rfl, le_max_left _ _, max_lt (hmerged.full r hr) (Nat.lt_of_not_le hover)⟩
    exact absurd (le_max_right r.start 0x10000) (Nat.not_le_of_lt hx)
  · have hkey := kinds.mem_keys hcode.1
    have haddress := hown hkey
    obtain ⟨owner, ⟨hkey', hle, -, hlast⟩, hno⟩ := (hcovered _ _).1 hin
    have hself := hlast (pc24 % 0x10000) (Nat.le_refl _) (haddress.symm ▸ hkey)
    have howner : owner = pc24 % 0x10000 := Nat.le_antisymm hle hself
    rw [howner, haddress] at hno
    exact hno hcode
  · have haddress := hown hkey
    refine (hcovered _ _).2
      ⟨pc24 % 0x10000, ⟨haddress.symm ▸ hkey, Nat.le_refl _, Nat.mod_lt _ (by decide),
      fun other hother _ => hother⟩, ?_⟩
    rw [haddress]
    exact hno

end Exact

end SmwRecomp.Ingest
