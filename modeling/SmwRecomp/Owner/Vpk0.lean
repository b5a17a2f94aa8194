import Mathlib.Tactic.Linarith
import SmwRecomp.Lib.BitList

/-!
# VPK0 decoding

`BitStream`, `_tree`, `_decode_tree` and `vpk0_decode` of `tools/owner_ssb64/build_cache.py`.

* `BitStream.read_ok`, `BitStream.read_short` — the stream as the list of the bits it has left.
* `Handled` — a computation that comes to a result or to a `ValueError`, with its rule for binds.
* `skipTree` — where the description of a tree ends, from its bits alone.
* `vpk0_handled_iff` — a decode ends in the declared number of bytes or in a `ValueError` unless a
  tree it comes to begins with a branch.

A loop that is not over when its fuel is gone `spins`; the fuel is the bits left, and one turn more.
-/

set_option autoImplicit false

namespace SmwRecomp.Owner

/-- The exceptions of the decoder. -/
inductive PyError where
  | valueError (message : String)
  | indexError
  | spins
  deriving DecidableEq, Repr

/-- `BitStream`: the data from `pos` on, and what was shifted in. -/
structure BitStream where
  rest : List UInt8
  bits : Nat
  available : Nat
  deriving DecidableEq, Repr

namespace BitStream

def start (data : List UInt8) : BitStream := ⟨data, 0, 0⟩

def fill (count : Nat) : List UInt8 → Nat → Nat → Except PyError BitStream
  | [], bits, available =>
    if available < count then .error (.valueError "VPK0 bitstream ended unexpectedly")
      else .ok ⟨[], bits, available⟩
  | byte :: rest, bits, available =>
    if available < count then fill count rest (bits <<< 8 ||| byte.toNat) (available + 8)
    else .ok ⟨byte :: rest, bits, available⟩

def read (s : BitStream) (count : Nat) : Except PyError (Nat × BitStream) := do
  let s ← fill count s.rest s.bits s.available
  let available := s.available - count
  .ok ((s.bits >>> available) &&& (1 <<< count - 1), { s with available })

/-- `stream.read(count) if count else 0`. -/
def readIf (s : BitStream) (count : Nat) : Except PyError (Nat × BitStream) :=
  if count ≠ 0 then s.read count else .ok (0, s)

end BitStream

inductive HuffNode where
  | leaf (value : Nat)
  | branch (left right : HuffNode)
  deriving DecidableEq, Repr

/-- The loop of `_tree`, the top of the stack first: a branch takes two nodes, ends on one, and
fails on none. -/
def treeLoop : Nat → BitStream → List HuffNode → Except PyError (HuffNode × BitStream)
  | 0, _, _ => .error .spins
  | fuel + 1, s, stack => do
    let (branch, s) ← s.read 1
    if branch ≠ 0 then
      match stack with
      | [] => .error .indexError
      | [node] => .ok (node, s)
      | right :: left :: stack => treeLoop fuel s (.branch left right :: stack)
    else do
      let (value, s) ← s.read 8
      treeLoop fuel s (.leaf value :: stack)

def fuelOf (s : BitStream) : Nat := s.available + 8 * s.rest.length + 1

/-- `_tree`. -/
def tree (s : BitStream) : Except PyError (HuffNode × BitStream) := treeLoop (fuelOf s) s []

/-- `_decode_tree`. -/
def decodeTree (s : BitStream) : HuffNode → Except PyError (Nat × BitStream)
  | .leaf value => .ok (value, s)
  | .branch left right => do
    let (bit, s) ← s.read 1
    if bit ≠ 0 then decodeTree s right else decodeTree s left

/-- The copy of a back-reference, byte by byte into its own window. -/
def copyBack (outputSize : Nat) : Nat → Int → List UInt8 → Except PyError (List UInt8)
  | 0, _, output => .ok output
  | length + 1, sourceIndex, output =>
    if sourceIndex < 0 ∨ sourceIndex ≥ output.length
      then .error (.valueError "VPK0 invalid back-reference")
    else
      let output := output ++ [output.getD sourceIndex.toNat 0]
      if output.length = outputSize then .ok output
        else copyBack outputSize length (sourceIndex + 1) output

/-- Where a back-reference starts, by the sample method of the header. -/
def sourceIndex (sampleMethod : Nat) (offsets : HuffNode) (size : Nat) (s : BitStream) :
    Except PyError (Int × BitStream) := do
  let (offsetBits, s) ← decodeTree s offsets
  let (value, s) ← s.readIf offsetBits
  if sampleMethod ≠ 0 then
    if value ≤ 2 then do
      let subOffset : Int := value + 1
      let (extraBits, s) ← decodeTree s offsets
      let (value, s) ← s.readIf extraBits
      .ok (size - value * 4 - subOffset + 8, s)
    else .ok (size - value * 4 + 8, s)
  else .ok (size - value, s)

def decodeLoop (sampleMethod outputSize : Nat) (offsets lengths : HuffNode) :
    Nat → BitStream → List UInt8 → Except PyError (List UInt8)
  | 0, _, _ => .error .spins
  | fuel + 1, s, output =>
    if output.length < outputSize then do
      let (reference, s) ← s.read 1
      if reference = 0 then do
        let (byte, s) ← s.read 8
        decodeLoop sampleMethod outputSize offsets lengths fuel s (output ++ [UInt8.ofNat byte])
      else do
        let (source, s) ← sourceIndex sampleMethod offsets output.length s
        let (lengthBits, s) ← decodeTree s lengths
        let (length, s) ← s.readIf lengthBits
        let output ← copyBack outputSize length source output
        decodeLoop sampleMethod outputSize offsets lengths fuel s output
    else .ok output

def vpk0Magic : List UInt8 := [0x76, 0x70, 0x6b, 0x30]

/-- `struct.unpack_from(">I", source, 4)`. -/
def declaredSize (source : List UInt8) : Nat :=
  ((source.drop 4).take 4).foldl (fun n byte => n * 256 + byte.toNat) 0

/-- `vpk0_decode`. -/
def vpk0Decode (source : List UInt8) : Except PyError (List UInt8) :=
  if source.length < 9 ∨ source.take 4 ≠ vpk0Magic
    then .error (.valueError "expected a VPK0 stream")
  else do
    let outputSize := declaredSize source
    let (_, s) ← (BitStream.start (source.drop 4)).read 32
    let (sampleMethod, s) ← s.read 8
    let (offsets, s) ← tree s
    let (lengths, s) ← tree s
    decodeLoop sampleMethod outputSize offsets lengths (fuelOf s) s []

/-! ## The stream as bits -/

def byteBits (data : List UInt8) : List Bool := data.flatMap fun byte => msbBits 8 byte.toNat

theorem byteBits_length (data : List UInt8) : (byteBits data).length = 8 * data.length := by
  induction data with
  | nil => rfl
  | cons byte data ih =>
      unfold byteBits at ih ⊢
      rw [List.flatMap_cons, List.length_append, ih, msbBits_length, List.length_cons]
      omega

theorem byteBits_drop (data : List UInt8) (n : Nat) :
    (byteBits data).drop (8 * n) = byteBits (data.drop n) := by
  induction n generalizing data with
  | zero => rfl
  | succ n ih =>
      cases data with
      | nil => exact List.drop_nil
      | cons byte data =>
          have hcons : byteBits (byte :: data) = msbBits 8 byte.toNat ++ byteBits data :=
            List.flatMap_cons
          rw [hcons, Nat.mul_succ, Nat.add_comm, ← List.drop_drop,
            List.drop_left' (msbBits_length 8 _), ih, List.drop_succ_cons]

namespace BitStream

/-- The bits that were not read yet. -/
def left (s : BitStream) : List Bool := msbBits s.available s.bits ++ byteBits s.rest

theorem left_length (s : BitStream) : s.left.length = s.available + 8 * s.rest.length := by
  unfold left
  rw [List.length_append, msbBits_length, byteBits_length]

theorem left_start (data : List UInt8) : (start data).left = byteBits data := rfl

/-- Shifting bytes in leaves the bits as they were. -/
theorem fill_spec (count : Nat) : ∀ (rest : List UInt8) (bits available : Nat),
    (count ≤ available + 8 * rest.length → ∃ s, fill count rest bits available = .ok s ∧
      count ≤ s.available ∧
      s.left = left ⟨rest, bits, available⟩) ∧
    (available + 8 * rest.length < count →
      fill count rest bits available = .error (.valueError "VPK0 bitstream ended unexpectedly"))
  | [], bits, available => by
    unfold fill
    refine ⟨fun h => ?_, fun h => ?_⟩
    · rw [List.length_nil] at h
      exact ⟨_, if_neg (by omega), by omega, rfl⟩
    · rw [List.length_nil] at h
      exact if_pos (by omega)
  | byte :: rest, bits, available => by
    have hbits : left ⟨rest, bits <<< 8 ||| byte.toNat, available + 8⟩ =
      left ⟨byte :: rest, bits, available⟩ := by
      unfold left byteBits
      rw [List.flatMap_cons, msbBits_byte _ _ byte.toNat_lt, List.append_assoc]
    obtain ⟨hok, hshort⟩ := fill_spec count rest (bits <<< 8 ||| byte.toNat) (available + 8)
    unfold fill
    rw [List.length_cons]
    by_cases havailable : available < count
    · rw [if_pos havailable]
      refine ⟨fun h => ?_, fun h => hshort (by omega)⟩
      obtain ⟨s, hs, hcount, hleft⟩ := hok (by omega)
      exact ⟨s, hs, hcount, hleft.trans hbits⟩
    · rw [if_neg havailable]
      exact ⟨fun _ => ⟨_, rfl, Nat.le_of_not_lt havailable, rfl⟩, fun h => absurd h (by omega)⟩

theorem read_ok {s : BitStream} {count : Nat} (h : count ≤ s.left.length) :
    ∃ t, s.read count = .ok (ofMsb (s.left.take count), t) ∧ t.left = s.left.drop count := by
  obtain ⟨u, hfill, hcount, hleft⟩ :=
    (fill_spec count s.rest s.bits s.available).1 (s.left_length ▸ h)
  obtain ⟨w, hw⟩ : ∃ w, u.available = count + w := ⟨u.available - count, by omega⟩
  have hsplit : s.left = msbBits count (u.bits >>> w) ++ left { u with available := w } := by
    rw [← show u.left = s.left from hleft]
    unfold left
    rw [hw, msbBits_add, List.append_assoc]
  refine ⟨{ u with available := w }, ?_, ?_⟩
  · unfold read
    rw [hfill]
    change Except.ok (_, _) = Except.ok (_, _)
    rw [hsplit, List.take_left' (msbBits_length _ _), ofMsb_msbBits, hw, Nat.add_sub_cancel_left,
      Nat.one_shiftLeft, Nat.and_two_pow_sub_one_eq_mod]
  · rw [hsplit, List.drop_left' (msbBits_length _ _)]

theorem read_short {s : BitStream} {count : Nat} (h : s.left.length < count) :
    s.read count = .error (.valueError "VPK0 bitstream ended unexpectedly") := by
  have hfill := (fill_spec count s.rest s.bits s.available).2 (s.left_length ▸ h)
  unfold read
  rw [hfill]
  rfl

end BitStream

/-! ## Computations that callers can handle -/

/-- It comes to a result with the property, or to a `ValueError`. -/
def Handled {α : Type} (P : α → Prop) : Except PyError α → Prop
  | .ok a => P a
  | .error (.valueError _) => True
  | .error _ => False

section Handled

variable {α β : Type} {P : α → Prop} {Q : β → Prop}

theorem Handled.bind {r : Except PyError α} {f : α → Except PyError β} (h : Handled P r)
    (hf : ∀ a, P a → Handled Q (f a)) : Handled Q (r >>= f) := by
  match r, h with
  | .ok a, h => exact hf a h
  | .error (.valueError _), _ => exact True.intro

theorem Handled.imp {P' : α → Prop} {r : Except PyError α} (h : Handled P r)
    (himp : ∀ a, P a → P' a) : Handled P' r := by
  match r, h with
  | .ok a, h => exact himp a h
  | .error (.valueError _), _ => exact True.intro

end Handled

theorem read_handled (s : BitStream) (count : Nat) :
    Handled (fun p => p.2.left.length + count = s.left.length) (s.read count) := by
  by_cases h : count ≤ s.left.length
  · obtain ⟨t, hread, hleft⟩ := BitStream.read_ok h
    rw [hread]
    change t.left.length + count = s.left.length
    rw [hleft, List.length_drop]
    omega
  · rw [BitStream.read_short (Nat.lt_of_not_le h)]
    exact True.intro

theorem readIf_handled (s : BitStream) (count : Nat) :
    Handled (fun p => p.2.left.length ≤ s.left.length) (s.readIf count) := by
  unfold BitStream.readIf
  split
  · exact (read_handled s count).imp fun _ h => by omega
  · exact Nat.le_refl _

theorem decodeTree_handled (node : HuffNode) : ∀ s : BitStream,
    Handled (fun p => p.2.left.length ≤ s.left.length) (decodeTree s node) := by
  induction node with
  | leaf value => exact fun s => Nat.le_refl _
  | branch l r ihl ihr =>
      intro s
      refine (read_handled s 1).bind fun ⟨bit, t⟩ ht => ?_
      dsimp only at ht ⊢
      split
      · exact (ihr t).imp fun _ h => by omega
      · exact (ihl t).imp fun _ h => by omega

theorem sourceIndex_handled (sampleMethod : Nat) (offsets : HuffNode) (size : Nat) (s : BitStream) :
    Handled (fun p => p.2.left.length ≤ s.left.length)
      (sourceIndex sampleMethod offsets size s) := by
  refine (decodeTree_handled offsets s).bind fun ⟨offsetBits, t⟩ ht => ?_
  refine (readIf_handled t offsetBits).bind fun ⟨value, u⟩ hu => ?_
  dsimp only at ht hu ⊢
  split
  · split
    · refine (decodeTree_handled offsets u).bind fun ⟨extraBits, v⟩ hv => ?_
      refine (readIf_handled v extraBits).bind fun ⟨value, w⟩ hw => ?_
      dsimp only at hv hw
      change w.left.length ≤ s.left.length
      omega
    · change u.left.length ≤ s.left.length
      omega
  · change u.left.length ≤ s.left.length
    omega

/-- A copy stops at the declared size. -/
theorem copyBack_handled {size : Nat} (length : Nat) :
    ∀ {source : Int} {output : List UInt8}, output.length < size →
    Handled (fun out => out.length ≤ size) (copyBack size length source output) := by
  induction length with
  | zero => exact fun h => Nat.le_of_lt h
  | succ length ih =>
      intro source output h
      unfold copyBack
      have hgrown : (output ++ [output.getD source.toNat 0]).length = output.length + 1 :=
        List.length_append
      split
      · exact True.intro
      · dsimp only
        split
        · change (output ++ [output.getD source.toNat 0]).length ≤ size
          omega
        · exact ih (by omega)

/-- Each turn takes a bit: with more fuel than bits the loop ends, at the declared size. -/
theorem decodeLoop_handled {sampleMethod size : Nat} {offsets lengths : HuffNode} (fuel : Nat) :
    ∀ {s : BitStream} {output : List UInt8}, s.left.length < fuel → output.length ≤ size →
      Handled (fun out => out.length = size)
        (decodeLoop sampleMethod size offsets lengths fuel s output) := by
  induction fuel with
  | zero => exact fun h => absurd h (Nat.not_lt_zero _)
  | succ fuel ih =>
      intro s output hfuel hsize
      unfold decodeLoop
      split
      case isTrue hlt =>
        refine (read_handled s 1).bind fun ⟨reference, t⟩ ht => ?_
        dsimp only at ht ⊢
        split
        · refine (read_handled t 8).bind fun ⟨byte, u⟩ hu => ?_
          dsimp only at hu
          change Handled _ (decodeLoop sampleMethod size offsets lengths fuel u _)
          refine ih ?_ ?_
          · omega
          · rw [List.length_append, List.length_singleton]
            exact hlt
        · refine (sourceIndex_handled sampleMethod offsets output.length t).bind
            fun ⟨source, u⟩ hu => ?_
          refine (decodeTree_handled lengths u).bind fun ⟨lengthBits, v⟩ hv => ?_
          refine (readIf_handled v lengthBits).bind fun ⟨length, w⟩ hw => ?_
          dsimp only at hu hv hw
          refine (copyBack_handled length hlt).bind fun out hout => ?_
          change Handled _ (decodeLoop sampleMethod size offsets lengths fuel w out)
          exact ih (by omega) hout
      case isFalse hge => exact Nat.le_antisymm hsize (Nat.le_of_not_lt hge)

/-! ## Trees -/

/-- The bits behind the description of a tree, when `n` nodes are on the stack. -/
def skipTree (n : Nat) (bits : List Bool) : Option (List Bool) :=
  match bits with
  | [] => none
  | true :: bits =>
    match n with
    | 0 => none
    | 1 => some bits
    | n + 2 => skipTree (n + 1) bits
  | false :: bits => if 8 ≤ bits.length then skipTree (n + 1) (bits.drop 8) else none
termination_by bits.length
decreasing_by
  · exact Nat.lt_succ_self _
  · rw [List.length_drop, List.length_cons]
    omega

theorem BitStream.read_bit {s : BitStream} {bit : Bool} {bits : List Bool}
    (h : s.left = bit :: bits) :
    ∃ t, s.read 1 = .ok (bit.toNat, t) ∧ t.left = bits := by
  obtain ⟨t, hread, hleft⟩ : ∃ t, s.read 1 = .ok (ofMsb (s.left.take 1), t) ∧
    t.left = s.left.drop 1 :=
    read_ok (by rw [h]; exact Nat.le_add_left 1 _)
  rw [h] at hread hleft
  refine ⟨t, hread.trans ?_, hleft⟩
  cases bit <;> rfl

theorem treeLoop_branch {fuel : Nat} {s t : BitStream} {stack : List HuffNode}
    (h : s.read 1 = .ok (1, t)) :
    treeLoop (fuel + 1) s stack =
      match stack with
      | [] => .error .indexError
      | [node] => .ok (node, t)
      | right :: left :: stack => treeLoop fuel t (.branch left right :: stack) := by
  rw [treeLoop, h]
  rfl

theorem treeLoop_leaf {fuel : Nat} {s t : BitStream} {stack : List HuffNode}
    (h : s.read 1 = .ok (0, t)) :
    treeLoop (fuel + 1) s stack = t.read 8 >>= fun p => treeLoop fuel p.2 (.leaf p.1 :: stack) := by
  rw [treeLoop, h]
  rfl

/-- A tree that does not begin with a branch is read to its end, or the bits run out. -/
theorem treeLoop_spec (fuel : Nat) :
    ∀ (s : BitStream) (stack : List HuffNode), s.left.length < fuel →
    0 < stack.length ∨ s.left.head? ≠ some true →
      (∃ node t, treeLoop fuel s stack = .ok (node, t) ∧ skipTree stack.length s.left =
        some t.left) ∨
        (∃ message, treeLoop fuel s stack = .error (.valueError message)) ∧
        skipTree stack.length s.left = none := by
  induction fuel with
  | zero => exact fun _ _ h => absurd h (Nat.not_lt_zero _)
  | succ fuel ih =>
      intro s stack hfuel hstart
      cases hbits : s.left with
      | nil =>
          have hshort : s.read 1 = _ := BitStream.read_short (by rw [hbits]; exact Nat.zero_lt_one)
          refine .inr ⟨⟨"VPK0 bitstream ended unexpectedly", ?_⟩, by rw [skipTree]⟩
          rw [treeLoop, hshort]
          rfl
      | cons bit bits =>
          obtain ⟨t, hread, hleft⟩ := BitStream.read_bit hbits
          rw [hbits, List.length_cons] at hfuel
          rw [hbits] at hstart
          cases bit with
          | true =>
              rw [treeLoop_branch hread]
              match stack, hstart with
              | [], hstart => exact absurd rfl (hstart.resolve_left (Nat.lt_irrefl 0))
              | [node], _ =>
                  exact .inl ⟨node, t, rfl, by rw [hleft, List.length_singleton, skipTree]⟩
              | r :: l :: stack, _ =>
                  have hrest :=
                    ih t (.branch l r :: stack) (by rw [hleft]; omega) (.inl (Nat.succ_pos _))
                  rw [hleft] at hrest
                  rw [List.length_cons, List.length_cons, skipTree]
                  exact hrest
          | false =>
              rw [treeLoop_leaf hread, skipTree]
              by_cases hbyte : 8 ≤ bits.length
              · obtain ⟨u, hvalue, hrest⟩ := BitStream.read_ok (hleft.symm ▸ hbyte)
                have hnext := ih u (.leaf (ofMsb (t.left.take 8)) :: stack)
                  (by rw [hrest, hleft, List.length_drop]; omega) (.inl (Nat.succ_pos _))
                rw [hrest, hleft] at hnext
                rw [if_pos hbyte, hvalue, hleft]
                exact hnext
              · have hshort : t.read 8 = _ := BitStream.read_short (by rw [hleft]; omega)
                rw [if_neg hbyte, hshort]
                exact .inr ⟨⟨_, rfl⟩, rfl⟩

theorem fuelOf_eq (s : BitStream) : fuelOf s = s.left.length + 1 := by
  rw [s.left_length]
  rfl

/-- `_tree` on a tree that does not begin with a branch. -/
theorem tree_spec {s : BitStream} (h : s.left.head? ≠ some true) :
    (∃ node t, tree s = .ok (node, t) ∧ skipTree 0 s.left = some t.left) ∨
      (∃ message, tree s = .error (.valueError message)) ∧ skipTree 0 s.left = none :=
  treeLoop_spec _ s [] (by rw [fuelOf_eq]; exact Nat.lt_succ_self _) (.inr h)

/-- `_tree` on a tree that begins with a branch: the empty stack has no first node. -/
theorem tree_empty {s : BitStream} (h : s.left.head? = some true) :
    tree s = .error .indexError := by
  obtain ⟨bits, hbits⟩ := List.head?_eq_some_iff.1 h
  obtain ⟨t, hread, -⟩ := BitStream.read_bit hbits
  unfold tree fuelOf
  rw [treeLoop_branch hread]

/-! ## Decodes -/

/-- The stream has a header, and a tree that the decoder comes to begins with a branch. -/
def BeginsWithBranch (source : List UInt8) : Prop :=
  9 ≤ source.length ∧ source.take 4 = vpk0Magic ∧
    ((byteBits (source.drop 9)).head? = some true ∨
      ∃ bits, skipTree 0 (byteBits (source.drop 9)) = some bits ∧ bits.head? = some true)

/-- The decode behind the header. -/
theorem vpk0Decode_eq {source : List UInt8} (hlength : 9 ≤ source.length)
    (hmagic : source.take 4 = vpk0Magic) :
    ∃ sampleMethod s, s.left = byteBits (source.drop 9) ∧ vpk0Decode source = (do
      let (offsets, s) ← tree s
      let (lengths, s) ← tree s
      decodeLoop sampleMethod (declaredSize source) offsets lengths (fuelOf s) s []) := by
  have hlong : 40 ≤ (byteBits (source.drop 4)).length := by
    rw [byteBits_length, List.length_drop]
    omega
  rw [← BitStream.left_start] at hlong
  obtain ⟨t, hsize, ht⟩ := BitStream.read_ok (Nat.le_trans (show 32 ≤ 40 by decide) hlong)
  rw [BitStream.left_start] at ht
  have hbyte : 8 ≤ t.left.length := by
    rw [BitStream.left_start] at hlong
    rw [ht, List.length_drop]
    omega
  obtain ⟨u, hmethod, hu⟩ := BitStream.read_ok hbyte
  refine ⟨ofMsb (t.left.take 8), u, ?_, ?_⟩
  · rw [hu, ht, List.drop_drop]
    exact (byteBits_drop (source.drop 4) 5).trans (by rw [List.drop_drop])
  · unfold vpk0Decode
    rw [if_neg (by rw [hmagic]; simp only [ne_eq, not_true, or_false]; omega), hsize]
    change (t.read 8 >>= _) = _
    rw [hmethod]
    rfl

theorem vpk0_handled_iff (source : List UInt8) :
    Handled (fun output => output.length = declaredSize source) (vpk0Decode source) ↔
    ¬ BeginsWithBranch source := by
  by_cases hheader : 9 ≤ source.length ∧ source.take 4 = vpk0Magic
  · obtain ⟨sampleMethod, s, hleft, hdecode⟩ := vpk0Decode_eq hheader.1 hheader.2
    rw [hdecode]
    unfold BeginsWithBranch
    rw [← hleft]
    by_cases hfirst : s.left.head? = some true
    · rw [tree_empty hfirst]
      exact iff_of_false (fun h => h) (not_not_intro ⟨hheader.1, hheader.2, .inl hfirst⟩)
    · rcases tree_spec hfirst with ⟨offsets, t, htree, hskip⟩ | ⟨⟨message, htree⟩, hskip⟩
      · rw [htree]
        by_cases hsecond : t.left.head? = some true
        · change Handled _ (tree t >>= _) ↔ _
          rw [tree_empty hsecond]
          exact iff_of_false (fun h => h)
            (not_not_intro ⟨hheader.1, hheader.2, .inr ⟨_, hskip, hsecond⟩⟩)
        · refine iff_of_true ?_ ?_
          · change Handled _ (tree t >>= _)
            rcases tree_spec hsecond with ⟨lengths, u, htree', -⟩ | ⟨⟨message, htree'⟩, -⟩
            · rw [htree']
              exact decodeLoop_handled _ (by rw [fuelOf_eq]; exact Nat.lt_succ_self _)
                (Nat.zero_le _)
            · rw [htree']
              exact True.intro
          · rintro ⟨-, -, hbranch | ⟨bits, hbits, hbranch⟩⟩
            · exact hfirst hbranch
            · rw [hskip, Option.some.injEq] at hbits
              rw [← hbits] at hbranch
              exact hsecond hbranch
      · rw [htree]
        refine iff_of_true True.intro ?_
        rintro ⟨-, -, hbranch | ⟨bits, hbits, -⟩⟩
        · exact hfirst hbranch
        · rw [hskip] at hbits
          cases hbits
  · have hrefused : vpk0Decode source = .error (.valueError "expected a VPK0 stream") := by
      unfold vpk0Decode
      rw [if_pos]
      rw [not_and_or, Nat.not_le] at hheader
      exact hheader
    rw [hrefused]
    exact iff_of_true True.intro fun h => hheader ⟨h.1, h.2.1⟩

/-- Eight output bytes are declared, and the first tree begins with a branch. -/
def branchFirst : List UInt8 := vpk0Magic ++ [0, 0, 0, 8, 0, 0x80]

/-- The empty stack is indexed: an `IndexError`, which nobody handles. -/
theorem branchFirst_unhandled : vpk0Decode branchFirst = .error .indexError ∧
    ¬ Handled (fun output => output.length = declaredSize branchFirst)
      (vpk0Decode branchFirst) := by
  have hdecode : vpk0Decode branchFirst = .error .indexError := by decide
  rw [hdecode]
  exact ⟨rfl, fun h => h⟩

end SmwRecomp.Owner
