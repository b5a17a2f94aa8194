import Mathlib.Data.List.Find
import SmwRecomp.Lib.Chain
import SmwRecomp.Lib.Checked

/-!
# The keyboard command map

Model of `KeyMapHash_Add`, `KeyMapHash_Find` and `FindCmdForSdlKey` (`config.c`): 255 buckets of
one-based 16-bit links into an array that grows by 256 entries.

* `keyMapHashAdd` — an addition writes its entry first and looks for an earlier one with the same
  key then, so that a rejected duplicate leaves an entry no bucket leads to.
* `Bound` — the invariant of the table: the buckets are lists of its entries, and what they find is
  what was added first.
* `keyMapHash_first` — after any additions up to the limit a lookup gives the command of the first.
-/

set_option autoImplicit false

namespace SmwRecomp.Config

/-- What ends the program, by `Die` or by an operation that C leaves undefined. -/
inductive Halt where
  | die (message : String)
  | fault (f : Fault)
  deriving DecidableEq, Repr

abbrev Outcome := Except Halt

section Outcome

variable {α β : Type}

@[simp] theorem outcome_bind (a : α) (f : α → Outcome β) : (Except.ok a >>= f : Outcome β) = f a :=
  rfl

@[simp] theorem halt_bind (h : Halt) (f : α → Outcome β) :
    (Except.error h >>= f : Outcome β) = .error h := rfl

@[simp] theorem outcome_pure (a : α) : (pure a : Outcome α) = .ok a := rfl

end Outcome

/-! ## Commands -/

def kKeysNull : Nat := 0
def kKeysControls : Nat := 1
def kKeysControlsLast : Nat := kKeysControls + 11
def kKeysControlsP2 : Nat := kKeysControlsLast + 1
def kKeysControlsP2Last : Nat := kKeysControlsP2 + 11
def kKeysLoad : Nat := kKeysControlsP2Last + 1
def kKeysLoadLast : Nat := kKeysLoad + 19
def kKeysSave : Nat := kKeysLoadLast + 1
def kKeysSaveLast : Nat := kKeysSave + 19
def kKeysFullscreen : Nat := kKeysSaveLast + 1
def kKeysReset : Nat := kKeysFullscreen + 1
def kKeysPause : Nat := kKeysReset + 1
def kKeysPauseDimmed : Nat := kKeysPause + 1
def kKeysTurbo : Nat := kKeysPauseDimmed + 1
def kKeysWindowBigger : Nat := kKeysTurbo + 1
def kKeysWindowSmaller : Nat := kKeysWindowBigger + 1
def kKeysDisplayPerf : Nat := kKeysWindowSmaller + 1
def kKeysToggleRenderer : Nat := kKeysDisplayPerf + 1
def kKeysVolumeUp : Nat := kKeysToggleRenderer + 1
def kKeysVolumeDown : Nat := kKeysVolumeUp + 1

/-! ## The table -/

/-- An entry of `keymap_hash` beside its link. -/
structure KeyMapHashEnt where
  key : UInt16
  cmd : UInt16
  deriving DecidableEq, Repr

/-- `keymap_hash_first` and the entries of `keymap_hash` written so far, and the number it was last
allocated for. -/
structure KeyMap where
  table : Linked (Fin 255) KeyMapHashEnt
  capacity : Nat

def KeyMap.empty : KeyMap := ⟨.empty, 0⟩

/-- The keyboard's part of the globals. -/
structure Keyboard where
  map : KeyMap
  hasKeyboardControls : UInt8

def Keyboard.empty : Keyboard := ⟨.empty, 0⟩

/-- A read of an array of which `items` have been written. -/
def readItem {κ α : Type} (t : Linked κ α) (i : Nat) : Outcome α :=
  match t.item i with
  | some a => .ok a
  | none => .error (.fault .outOfBounds)

/-- What is stored in a 16-bit link. -/
def u16 (n : Nat) : Nat := n % 65536

def bucket (key : UInt16) : Fin 255 := ⟨key.toNat % 255, Nat.mod_lt _ (by decide)⟩

/-- `*cur` moved along a bucket until it is null or leads to an entry with the key. -/
def KeyMap.seek (m : KeyMap) (key : UInt16) : Outcome (Cell (Fin 255) × List Nat) :=
  walk m.table.link (fun i => do let e ← readItem m.table i; pure (decide (e.key ≠ key)))
    (.fault .spins)
    (m.table.items.length + 1) (.first (bucket key))

/-- The number of entries `keymap_hash` is allocated for once there is room for one more. -/
def KeyMap.grow (m : KeyMap) : Outcome Nat :=
  let size := m.table.items.length
  if size &&& 0xff = 0 then
    if 10000 < size then .error (.die "Too many keys") else .ok (size + 256)
  else .ok m.capacity

/-- The write of an entry behind those written so far. -/
def KeyMap.place (m : KeyMap) (capacity : Nat) (e : KeyMapHashEnt) : Outcome KeyMap :=
  if m.table.items.length < capacity then .ok ⟨m.table.push e 0, capacity⟩
    else .error (.fault .outOfBounds)

/-- `has_keyboard_controls` once a key has been given a command. -/
def controlsWith (controls : UInt8) (cmd : UInt16) : UInt8 :=
  if cmd.toNat = kKeysControls then controls ||| 1
  else if cmd.toNat = kKeysControlsP2 then controls ||| 2
  else controls

def keyMapHashAdd (b : Keyboard) (key cmd : UInt16) : Outcome (Keyboard × Bool) :=
  if key = 0 then .ok (b, false)
  else do
    let controls := controlsWith b.hasKeyboardControls cmd
    let size := b.map.table.items.length
    let capacity ← b.map.grow
    let m ← b.map.place capacity ⟨key, cmd⟩
    let (cur, _) ← m.seek key
    if m.table.link cur ≠ 0 then .ok (⟨m, controls⟩, false)
    else .ok (⟨{ m with table := m.table.setLink cur (u16 (size + 1)) }, controls⟩, true)

def keyMapHashFind (m : KeyMap) (key : UInt16) : Outcome UInt16 := do
  let (cur, _) ← m.seek key
  match m.table.link cur with
  | 0 => .ok 0
  | i + 1 => do
    let e ← readItem m.table i
    .ok e.cmd

/-- Additions one after the other. -/
def keyMapHashAddAll (b : Keyboard) (calls : List (UInt16 × UInt16)) : Outcome Keyboard :=
  calls.foldlM (fun b c => do let (b, _) ← keyMapHashAdd b c.1 c.2; pure b) b

/-! ## What a bucket holds -/

section Table

variable {m : KeyMap} {n : Nat} {lists : Fin 255 → List Nat}

/-- What a seek goes past: an entry with another key. -/
def differs (t : Linked (Fin 255) KeyMapHashEnt) (key : UInt16) (i : Nat) : Bool :=
  decide ((t.item i).map KeyMapHashEnt.key ≠ some key)

/-- The first entry of the bucket that has the key. -/
def position (t : Linked (Fin 255) KeyMapHashEnt) (lists : Fin 255 → List Nat)
    (key : UInt16) : Option Nat :=
  (lists (bucket key)).find? fun i => !differs t key i

/-- What a lookup finds. -/
def found (t : Linked (Fin 255) KeyMapHashEnt) (lists : Fin 255 → List Nat) (key : UInt16) :
    Option UInt16 :=
  ((position t lists key).bind t.item).map KeyMapHashEnt.cmd

variable {t t' : Linked (Fin 255) KeyMapHashEnt}

theorem position_lt (h : Lists t.link n lists) {key : UInt16} {i : Nat}
    (hi : position t lists key = some i) : i < n :=
  h.inside _ i (List.mem_of_find?_eq_some hi)

theorem found_none (h : Lists t.link t.items.length lists) (key : UInt16) :
    found t lists key = none ↔ position t lists key = none := by
  unfold found
  cases hp : position t lists key with
  | none => simp
  | some i =>
      obtain ⟨e, he⟩ := t.item_isSome (position_lt h hp)
      simp [he]

/-- Only the entries of the bucket matter. -/
theorem found_congr {key : UInt16} (h : ∀ i ∈ lists (bucket key), t'.item i = t.item i) :
    position t' lists key = position t lists key ∧ found t' lists key = found t lists key := by
  have hpos : position t' lists key = position t lists key := by
    refine List.find?_congr ?_
    intro i hi
    unfold differs
    rw [h i hi]
  refine ⟨hpos, ?_⟩
  unfold found
  rw [hpos]
  cases hp : position t lists key with
  | none => rfl
  | some i =>
      have hi := h i (List.mem_of_find?_eq_some hp)
      simp only [Option.bind_some, hi]

/-- An entry behind the others of its bucket is found where there was none with its key. -/
theorem found_concat {key key' cmd : UInt16} {n : Nat} (h : Lists t.link n lists)
    (hold : ∀ i, i < n → t'.item i = t.item i) (hnew : t'.item n = some ⟨key, cmd⟩)
    (hn : n ≤ t.items.length) :
    found t' (Function.update lists (bucket key) (lists (bucket key) ++ [n])) key' =
      (found t lists key').or (if key = key' then some cmd else none) := by
  have hsame : ∀ i ∈ lists (bucket key'), t'.item i = t.item i :=
    fun i hi => hold i (h.inside _ i hi)
  obtain ⟨hpos, hfound⟩ := found_congr hsame
  by_cases hb : bucket key' = bucket key
  · have hlast : [n].find? (fun i => !differs t' key' i) = if key = key' then some n else none := by
      by_cases hk : key = key' <;> simp [differs, hnew, hk]
    have hposition : position t'
      (Function.update lists (bucket key) (lists (bucket key) ++ [n])) key' =
        (position t lists key').or (if key = key' then some n else none) := by
      rw [← hpos, ← hlast]
      unfold position
      rw [hb, Function.update_self, List.find?_append]
    unfold found at hfound ⊢
    rw [hposition]
    cases hp : position t lists key' with
    | some i =>
        obtain ⟨e, he⟩ := t.item_isSome (Nat.lt_of_lt_of_le (position_lt h hp) hn)
        have hi : t'.item i = t.item i := hold i (position_lt h hp)
        simp [hi, he]
    | none => by_cases hk : key = key' <;> simp [hk, hnew]
  · have hk : key ≠ key' := fun hk => hb (by rw [hk])
    rw [if_neg hk, Option.or_none, ← hfound]
    unfold found position
    rw [Function.update_of_ne hb]

theorem seek_eq (h : Lists m.table.link m.table.items.length lists) (key : UInt16) :
    ∃ seen, m.seek key =
      .ok (endOf (.first (bucket key)) ((lists (bucket key)).takeWhile (differs m.table key)),
        seen) := by
  have hgo : ∀ i ∈ lists (bucket key),
      (do let e ← readItem m.table i; pure (decide (e.key ≠ key)) : Outcome Bool) =
        .ok (differs m.table key i) := by
    intro i hi
    obtain ⟨e, he⟩ := m.table.item_isSome (h.inside _ i hi)
    simp [readItem, differs, he]
  exact ⟨_, (h.chain (bucket key)).walk_eq _ hgo (Nat.lt_succ_of_le (h.length_le _))⟩

theorem link_stop (h : Lists t.link n lists) (key : UInt16) :
    t.link (endOf (.first (bucket key)) ((lists (bucket key)).takeWhile (differs t key))) =
      ((position t lists key).map (· + 1)).getD 0 :=
  (h.chain (bucket key)).link_stop

theorem keyMapHashFind_eq (h : Lists m.table.link m.table.items.length lists) (key : UInt16) :
    keyMapHashFind m key = .ok ((found m.table lists key).getD 0) := by
  obtain ⟨seen, hseek⟩ := seek_eq h key
  unfold keyMapHashFind
  rw [hseek, outcome_bind]
  dsimp only
  rw [link_stop h key]
  unfold found
  cases hp : position m.table lists key with
  | none => rfl
  | some i =>
      obtain ⟨e, he⟩ := m.table.item_isSome (position_lt h hp)
      simp [readItem, he]

end Table

/-! ## Additions -/

/-- The command of the first of the additions with the key. -/
def firstAdded (calls : List (UInt16 × UInt16)) (key : UInt16) : Option UInt16 :=
  (calls.find? fun c => c.1 = key).map Prod.snd

/-- The additions that write an entry: those with a key. -/
def keyed (calls : List (UInt16 × UInt16)) : List (UInt16 × UInt16) := calls.filter fun c => c.1 ≠ 0

/-- The buckets are lists of the entries, and the first one with a key is what was first added with
it. -/
structure Bound (m : KeyMap) (calls : List (UInt16 × UInt16)) : Prop where
  lists : ∃ lists, Lists m.table.link m.table.items.length lists ∧
    ∀ key, key ≠ 0 → found m.table lists key = firstAdded calls key
  size : m.table.items.length = (keyed calls).length
  room : m.table.items.length ≤ m.capacity
  blocks : m.capacity % 256 = 0

theorem Bound.empty : Bound .empty [] where
  lists := ⟨fun _ => [], .empty (by intro c; cases c <;> rfl), fun _ _ => rfl⟩
  size := rfl
  room := Nat.le_refl 0
  blocks := rfl

theorem firstAdded_append (calls calls' : List (UInt16 × UInt16)) (key : UInt16) :
    firstAdded (calls ++ calls') key = (firstAdded calls key).or (firstAdded calls' key) := by
  unfold firstAdded
  rw [List.find?_append]
  cases calls.find? fun c => c.1 = key <;> rfl

theorem firstAdded_eq_none {calls : List (UInt16 × UInt16)} {key : UInt16} :
    firstAdded calls key = none ↔ ∀ c ∈ calls, c.1 ≠ key := by
  simp [firstAdded, List.find?_eq_none]

theorem firstAdded_mem {calls : List (UInt16 × UInt16)} {key cmd : UInt16}
    (h : firstAdded calls key = some cmd) :
    (key, cmd) ∈ calls := by
  obtain ⟨c, hfind, hcmd⟩ := Option.map_eq_some_iff.1 h
  have hkey := List.find?_some hfind
  rw [decide_eq_true_eq] at hkey
  subst hkey hcmd
  exact List.mem_of_find?_eq_some hfind

theorem firstAdded_concat (calls : List (UInt16 × UInt16)) (key cmd key' : UInt16) :
    firstAdded (calls ++ [(key, cmd)]) key' = (firstAdded calls key').or
      (if key = key' then some cmd else none) := by
  rw [firstAdded_append]
  by_cases h : key = key' <;> simp [firstAdded, h]

theorem keyed_append (calls calls' : List (UInt16 × UInt16)) :
    (keyed (calls ++ calls')).length = (keyed calls).length + (keyed calls').length := by
  unfold keyed
  rw [List.filter_append, List.length_append]

/-- Where the array is grown it is full, and after that there is room for one more entry. -/
theorem grow_spec {m : KeyMap} {calls : List (UInt16 × UInt16)} (h : Bound m calls)
    (hsize : m.table.items.length < 10240) :
    ∃ capacity, m.grow = .ok capacity ∧ m.table.items.length < capacity ∧ capacity % 256 = 0 := by
  have hand : m.table.items.length &&& 0xff = m.table.items.length % 256 :=
    Nat.and_two_pow_sub_one_eq_mod _ 8
  have hroom := h.room
  have hblocks := h.blocks
  unfold KeyMap.grow
  dsimp only
  rw [hand]
  split
  · rw [if_neg (by omega)]
    exact ⟨_, rfl, by omega, by omega⟩
  · exact ⟨_, rfl, by omega, hblocks⟩

/-- An addition whose key is in the table already leaves its entry unlinked. -/
theorem Bound.leave {t : Linked (Fin 255) KeyMapHashEnt} {calls : List (UInt16 × UInt16)}
    {c capacity : Nat}
    {key cmd : UInt16} (h : Bound ⟨t, c⟩ calls) (hkey : key ≠ 0) (hroom : t.items.length < capacity)
    (hblocks : capacity % 256 = 0) (hadded : firstAdded calls key ≠ none) :
    Bound ⟨t.push ⟨key, cmd⟩ 0, capacity⟩ (calls ++ [(key, cmd)]) := by
  obtain ⟨lists, hlists, hfound⟩ := h.lists
  refine ⟨⟨lists, ?_, ?_⟩, ?_, ?_, hblocks⟩
  · rw [Linked.push_length]
    exact Linked.lists_skip hlists
  · intro key' hkey'
    have hsame : ∀ i ∈ lists (bucket key'), (t.push ⟨key, cmd⟩ 0).item i = t.item i :=
      fun i hi => Linked.item_push (hlists.inside _ i hi)
    rw [(found_congr hsame).2, hfound key' hkey', firstAdded_concat]
    by_cases hk : key = key'
    · subst hk
      obtain ⟨e, he⟩ := Option.ne_none_iff_exists'.1 hadded
      rw [he]
      rfl
    · rw [if_neg hk, Option.or_none]
  · rw [Linked.push_length, keyed_append, ← h.size]
    simp [keyed, hkey]
  · rw [Linked.push_length]
    exact hroom

/-- An addition of a new key puts its entry behind the others of the bucket. -/
theorem Bound.link {t : Linked (Fin 255) KeyMapHashEnt} {calls : List (UInt16 × UInt16)}
    {c capacity : Nat}
    {key cmd : UInt16} {lists : Fin 255 → List Nat} (h : Bound ⟨t, c⟩ calls)
    (hlists : Lists t.link t.items.length lists)
    (hfound : ∀ key, key ≠ 0 → found t lists key = firstAdded calls key) (hkey : key ≠ 0)
    (hroom : t.items.length < capacity) (hblocks : capacity % 256 = 0)
    (hnull : t.link (endOf (.first (bucket key)) (lists (bucket key))) = 0) :
    Bound ⟨(t.push ⟨key, cmd⟩ 0).setLink (endOf (.first (bucket key)) (lists (bucket key)))
      (t.items.length + 1),
      capacity⟩ (calls ++ [(key, cmd)]) := by
  refine ⟨⟨Function.update lists (bucket key) (lists (bucket key) ++ [t.items.length]), ?_, ?_⟩,
    ?_, ?_, hblocks⟩
  · have hinsert :=
      Linked.lists_insert (a := ⟨key, cmd⟩) hlists (List.append_nil (lists (bucket key))).symm
    rw [hnull] at hinsert
    dsimp only
    rw [Linked.setLink_length, Linked.push_length]
    exact hinsert
  · intro key' hkey'
    rw [firstAdded_concat, ← hfound key' hkey']
    refine found_concat hlists ?_ ?_ (Nat.le_refl _)
    · intro i hi
      rw [Linked.item_setLink, Linked.item_push hi]
    · rw [Linked.item_setLink, Linked.item_push_new]
  · dsimp only
    rw [Linked.setLink_length, Linked.push_length, keyed_append, ← h.size]
    simp [keyed, hkey]
  · dsimp only
    rw [Linked.setLink_length, Linked.push_length]
    exact hroom

theorem keyMapHashAdd_zero (b : Keyboard) (cmd : UInt16) : keyMapHashAdd b 0 cmd = .ok (b, false) :=
  rfl

/-- Below the limit an addition goes through, and answers whether it was the first with its key. -/
theorem keyMapHashAdd_spec {b : Keyboard} {calls : List (UInt16 × UInt16)} (h : Bound b.map calls)
    (key cmd : UInt16) (hsize : key ≠ 0 → b.map.table.items.length < 10240) :
    ∃ b', keyMapHashAdd b key cmd = .ok (b', decide (key ≠ 0 ∧ firstAdded calls key = none)) ∧
      Bound b'.map (calls ++ [(key, cmd)]) := by
  obtain ⟨lists, hlists, hfound⟩ := h.lists
  by_cases hkey : key = 0
  · subst hkey
    refine ⟨b, keyMapHashAdd_zero b cmd, ⟨lists, hlists, ?_⟩, ?_, h.room, h.blocks⟩
    · intro key' hkey'
      rw [hfound key' hkey', firstAdded_concat, if_neg (Ne.symm hkey'), Option.or_none]
    · rw [h.size]
      simp [keyed]
  · obtain ⟨capacity, hgrow, hroom, hblocks⟩ := grow_spec h (hsize hkey)
    have hplace : b.map.place capacity ⟨key, cmd⟩ = .ok ⟨b.map.table.push ⟨key, cmd⟩ 0, capacity⟩ :=
      if_pos hroom
    have hskip : Lists (b.map.table.push ⟨key, cmd⟩ 0).link
      (b.map.table.push ⟨key, cmd⟩ 0).items.length lists := by
      rw [Linked.push_length]
      exact Linked.lists_skip hlists
    obtain ⟨seen, hseek⟩ := seek_eq (m := ⟨b.map.table.push ⟨key, cmd⟩ 0, capacity⟩) hskip key
    have hstop := link_stop hskip key
    have hsame : ∀ i ∈ lists (bucket key), (b.map.table.push ⟨key, cmd⟩ 0).item i =
      b.map.table.item i :=
      fun i hi => Linked.item_push (hlists.inside _ i hi)
    have hnone := found_none hskip key
    rw [(found_congr hsame).2, hfound key hkey] at hnone
    unfold keyMapHashAdd
    rw [if_neg hkey]
    simp only [hgrow, hplace, hseek, outcome_bind, hstop]
    cases hp : position (b.map.table.push ⟨key, cmd⟩ 0) lists key with
    | some i =>
        have hadded : firstAdded calls key ≠ none := fun hno => by
          rw [hnone.1 hno] at hp
          cases hp
        exact ⟨⟨⟨b.map.table.push ⟨key, cmd⟩ 0, capacity⟩, controlsWith b.hasKeyboardControls cmd⟩,
          by simp [hadded], h.leave hkey hroom hblocks hadded⟩
    | none =>
        have hadded := hnone.2 hp
        have hall : (lists (bucket key)).takeWhile (differs (b.map.table.push ⟨key, cmd⟩ 0) key) =
            lists (bucket key) := by
          rw [List.takeWhile_eq_self_iff]
          intro i hi
          have hno := List.find?_eq_none.1 hp i hi
          simpa using hno
        rw [hall, hp] at hstop
        have hold : b.map.table.link (endOf (.first (bucket key)) (lists (bucket key))) = 0 := by
          refine Eq.trans (Linked.link_push ?_).symm hstop
          intro hend
          exact absurd (Linked.endOf_lt hlists (List.append_nil _).symm hend) (Nat.lt_irrefl _)
        have hu : u16 (b.map.table.items.length + 1) = b.map.table.items.length + 1 := by
          have hlt := hsize hkey
          exact Nat.mod_eq_of_lt (by omega)
        rw [hall, hu]
        exact ⟨⟨⟨_, capacity⟩, controlsWith b.hasKeyboardControls cmd⟩, by simp [hkey, hadded],
          h.link hlists hfound hkey hroom hblocks hold⟩

/-- Additions to a table, as long as they stay within the limit. -/
theorem keyMapHashAddAll_spec :
    ∀ (calls : List (UInt16 × UInt16)) {before : List (UInt16 × UInt16)} {b : Keyboard},
    Bound b.map before →
    (keyed (before ++ calls)).length ≤ 10240 →
    ∃ b', keyMapHashAddAll b calls = .ok b' ∧ Bound b'.map (before ++ calls)
  | [], before, b, h, _ => ⟨b, rfl, by rwa [List.append_nil]⟩
  | c :: calls, before, b, h, hlimit => by
      have hroom : c.1 ≠ 0 → b.map.table.items.length < 10240 := by
        intro hkey
        have hc : (keyed [c]).length = 1 := by simp [keyed, hkey]
        have hall := keyed_append [c] calls
        have hsplit := keyed_append before ([c] ++ calls)
        have hsize := h.size
        rw [List.singleton_append] at hall hsplit
        omega
      obtain ⟨b', hadd, hbound⟩ := keyMapHashAdd_spec h c.1 c.2 hroom
      have happend : before ++ c :: calls = before ++ [c] ++ calls := by simp
      rw [happend] at hlimit ⊢
      obtain ⟨b'', hrest, hbound'⟩ := keyMapHashAddAll_spec calls hbound hlimit
      refine ⟨b'', ?_, hbound'⟩
      unfold keyMapHashAddAll at hrest ⊢
      rw [List.foldlM_cons, hadd]
      exact hrest

/-- Additions that go through have stayed within the limit. -/
theorem keyMapHashAddAll_limit : ∀ {calls before : List (UInt16 × UInt16)} {b b' : Keyboard},
    Bound b.map before →
    (keyed before).length ≤ 10240 → keyMapHashAddAll b calls = .ok b' →
    (keyed (before ++ calls)).length ≤ 10240
  | [], before, b, b', _, hle, _ => by rwa [List.append_nil]
  | c :: calls, before, b, b', h, hle, hrun => by
      have happend : before ++ c :: calls = before ++ [c] ++ calls := by simp
      have hone := keyed_append before [c]
      have hsize := h.size
      unfold keyMapHashAddAll at hrun
      rw [List.foldlM_cons] at hrun
      by_cases hfull : c.1 ≠ 0 ∧ b.map.table.items.length = 10240
      · have hgrow : b.map.grow = .error (.die "Too many keys") := by
          unfold KeyMap.grow
          dsimp only
          rw [hfull.2]
          rfl
        unfold keyMapHashAdd at hrun
        rw [if_neg hfull.1, hgrow] at hrun
        cases hrun
      · have hroom : c.1 ≠ 0 → b.map.table.items.length < 10240 := by
          intro hkey
          have hne : b.map.table.items.length ≠ 10240 := fun heq => hfull ⟨hkey, heq⟩
          omega
        have hle' : (keyed (before ++ [c])).length ≤ 10240 := by
          by_cases hkey : c.1 = 0
          · have hzero : (keyed [c]).length = 0 := by simp [keyed, hkey]
            omega
          · have hc : (keyed [c]).length ≤ 1 := List.length_filter_le _ _
            have hlt := hroom hkey
            omega
        obtain ⟨b₁, hadd, hbound⟩ := keyMapHashAdd_spec h c.1 c.2 hroom
        rw [hadd] at hrun
        rw [happend]
        exact keyMapHashAddAll_limit hbound hle' hrun

/-- A table built by additions gives what was added first. -/
theorem keyMapHashAddAll_find {calls : List (UInt16 × UInt16)} {b : Keyboard}
    (h : keyMapHashAddAll .empty calls = .ok b) {key : UInt16} (hkey : key ≠ 0) :
    keyMapHashFind b.map key = .ok ((firstAdded calls key).getD 0) := by
  have hlimit := keyMapHashAddAll_limit (b := .empty) Bound.empty (Nat.zero_le _) h
  obtain ⟨b', hb', hbound⟩ := keyMapHashAddAll_spec (b := .empty) _ Bound.empty hlimit
  rw [h] at hb'
  cases hb'
  obtain ⟨lists, hlists, hfound⟩ := hbound.lists
  rw [keyMapHashFind_eq hlists key, hfound key hkey, List.nil_append]

/-- In a table built by additions every bucket is a list of distinct entries of the array, every
16-bit link is null or the number of an entry, and lookups give what was added first. -/
theorem keyMapHash_first (calls : List (UInt16 × UInt16)) (hlimit : (keyed calls).length ≤ 10240) :
    ∃ b, keyMapHashAddAll .empty calls = .ok b ∧
      (∃ lists, Lists b.map.table.link b.map.table.items.length lists) ∧
      b.map.table.items.length < 65536 ∧
      ∀ key, key ≠ 0 → keyMapHashFind b.map key = .ok ((firstAdded calls key).getD 0) := by
  obtain ⟨b, hb, hbound⟩ := keyMapHashAddAll_spec (b := .empty) _ Bound.empty hlimit
  obtain ⟨lists, hlists, -⟩ := hbound.lists
  refine ⟨b, hb, ⟨lists, hlists⟩, ?_, fun key hkey => keyMapHashAddAll_find hb hkey⟩
  have hsize := hbound.size
  rw [List.nil_append] at hsize
  omega

/-- Two keys of one bucket, one of them added twice. -/
theorem keyMapHash_first_collision :
    ∃ b, keyMapHashAddAll .empty [(1, 69), (256, 67), (1, 66)] = .ok b ∧
    (∃ lists, Lists b.map.table.link b.map.table.items.length lists) ∧
    b.map.table.items.length < 65536 ∧
    ∀ key, key ≠ 0 →
    keyMapHashFind b.map key = .ok ((firstAdded [(1, 69), (256, 67), (1, 66)] key).getD 0) :=
  keyMapHash_first [(1, 69), (256, 67), (1, 66)] (by decide)

/-! ## Keys of the keyboard -/

def kKeyModScanCode : UInt16 := 0x200
def kKeyModAlt : UInt16 := 0x400
def kKeyModShift : UInt16 := 0x800
def kKeyModCtrl : UInt16 := 0x1000

/-! The key codes and modifier masks of SDL. -/

def SDLK_SCANCODE_MASK : UInt32 := 0x40000000
def SDLK_LCTRL : UInt32 := 0x400000E0
def SDLK_LSHIFT : UInt32 := 0x400000E1
def SDLK_LALT : UInt32 := 0x400000E2
def SDLK_RCTRL : UInt32 := 0x400000E4
def SDLK_RSHIFT : UInt32 := 0x400000E5
def SDLK_RALT : UInt32 := 0x400000E6
def SDLK_TAB : UInt32 := 9
def KMOD_SHIFT : UInt16 := 0x0003
def KMOD_CTRL : UInt16 := 0x00C0
def KMOD_ALT : UInt16 := 0x0300

/-- `REMAP_SDL_KEYCODE`. -/
def remapSdlKeycode (key : UInt32) : UInt16 :=
  (if key &&& SDLK_SCANCODE_MASK ≠ 0 then kKeyModScanCode else 0) ||| (key &&& 0x1ff).toUInt16

/-- The key of the table that a key stands for while the modifiers `mod` are held. -/
def sdlKey (code : UInt32) (mod : UInt16) : UInt16 :=
  let alt := if code ≠ SDLK_LALT ∧ code ≠ SDLK_RALT ∧ mod &&& KMOD_ALT ≠ 0 then kKeyModAlt else 0
  let ctrl := if code ≠ SDLK_LCTRL ∧ code ≠ SDLK_RCTRL ∧ mod &&& KMOD_CTRL ≠ 0 then kKeyModCtrl
    else 0
  let shift := if code ≠ SDLK_LSHIFT ∧ code ≠ SDLK_RSHIFT ∧ mod &&& KMOD_SHIFT ≠ 0 then kKeyModShift
    else 0
  alt ||| ctrl ||| shift ||| remapSdlKeycode code

def findCmdForSdlKey (m : KeyMap) (code : UInt32) (mod : UInt16) : Outcome UInt16 :=
  if code &&& ~~~(SDLK_SCANCODE_MASK ||| 0x1ff) ≠ 0 then .ok 0
    else keyMapHashFind m (sdlKey code mod)

end SmwRecomp.Config
