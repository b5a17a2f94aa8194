import SmwRecomp.Coop.Types
import SmwRecomp.Lib.Bytes
import SmwRecomp.Lib.Overlay

/-!
# The two IPS appliers

`ApplyIps` of `src/src/coop_patch.c` and `apply_ips` of `src/tools/apply_msu_patch.py`.

* `CoopPatch.applyIps` — works on an allocated buffer whose size is the capacity ensured so far;
  every read of the patch and every write of the buffer is checked. `realloc n` tells whether `n`
  bytes are granted.
  Positions in a patch are far below `SIZE_MAX`.
* `MsuPatch.applyIps` — works on a `bytearray`; an index outside the patch raises, a slice is cut.
* `appliers_agree` — what the first accepts, the second accepts with the same result; and the first
  stays inside the patch and its buffer.
-/

set_option autoImplicit false

namespace SmwRecomp.Ips

open Coop (SIZE_MAX)

/-- `PATCH`. -/
def magic : Bytes := [0x50, 0x41, 0x54, 0x43, 0x48]

/-- `EOF`. -/
def eof : Bytes := [0x45, 0x4f, 0x46]

def ofBe16 (a b : UInt8) : Nat := a.toNat * 256 + b.toNat

def ofBe24 (a b c : UInt8) : Nat := a.toNat * 65536 + b.toNat * 256 + c.toNat

/-! ## `coop_patch.c` -/

namespace CoopPatch

/-- `p[i]`. -/
def fetch8 (p : Bytes) (i : Nat) : Except Stop UInt8 :=
  match p[i]? with
  | some b => .ok b
  | none => .error .outOfBounds

def fetchBe16 (p : Bytes) (i : Nat) : Except Stop Nat := do
  let a ← fetch8 p i
  let b ← fetch8 p (i + 1)
  return ofBe16 a b

def fetchBe24 (p : Bytes) (i : Nat) : Except Stop Nat := do
  let a ← fetch8 p i
  let b ← fetch8 p (i + 1)
  let c ← fetch8 p (i + 2)
  return ofBe24 a b c

/-- `EnsureCapacity`: the buffer behind it, `none` when it fails. -/
def ensureCapacity (realloc : Nat → Bool) (rom : Bytes) (needed : Nat) : Option Bytes :=
  if needed ≤ rom.length then some rom
  else if needed > 16 * 1024 * 1024 then none
  else if realloc needed then some (padTo 0 needed rom)
  else none

/-- What a pass of the loop of `ApplyIps` comes to. -/
inductive Pass where
  | done
  | fail (message : String)
  | next (rom : Bytes) (pos : Nat)

/-- A pass of the loop of `ApplyIps`. -/
def pass (realloc : Nat → Bool) (ips rom : Bytes) (pos : Nat) : Except Stop Pass :=
  if pos + 3 > ips.length then .ok (.fail "Co-op IPS ended before its EOF marker")
  else do
    let mark ← fetchBytes ips pos 3
    if mark = eof then return .done
    else if pos + 5 > ips.length then return .fail "Co-op IPS has a truncated record header"
    else do
      let offset ← fetchBe24 ips pos
      let length ← fetchBe16 ips (pos + 3)
      let pos := pos + 5
      if length = 0 then
        if pos + 3 > ips.length then return .fail "Co-op IPS has a truncated RLE record"
        else do
          let length ← fetchBe16 ips pos
          let value ← fetch8 ips (pos + 2)
          let pos := pos + 3
          if length = 0 ∨ offset > SIZE_MAX - length
            then return .fail "Co-op IPS contains an invalid RLE range"
          else
            match ensureCapacity realloc rom (offset + length) with
            | none => return .fail "Co-op IPS contains an invalid RLE range"
            | some rom => do
              let rom ← store rom offset (List.replicate length value)
              return .next rom pos
      else
        if pos + length > ips.length ∨ offset > SIZE_MAX - length then
          return .fail "Co-op IPS contains an invalid data range"
        else
          match ensureCapacity realloc rom (offset + length) with
          | none => return .fail "Co-op IPS contains an invalid data range"
          | some rom => do
            let data ← fetchBytes ips pos length
            let rom ← store rom offset data
            return .next rom (pos + length)

section Reads

variable {p : Bytes} {i : Nat} {α : Type} {Q : α → Prop}

theorem fetch8_ok (h : i < p.length) : fetch8 p i = .ok (p.getD i 0) := by
  simp [fetch8, h]

theorem fetchBe16_ok (h : i + 2 ≤ p.length) :
    fetchBe16 p i = .ok (ofBe16 (p.getD i 0) (p.getD (i + 1) 0)) := by
  unfold fetchBe16
  rw [fetch8_ok (by omega), ok_bind, fetch8_ok (by omega), ok_bind]
  rfl

theorem fetchBe24_ok (h : i + 3 ≤ p.length) :
    fetchBe24 p i = .ok (ofBe24 (p.getD i 0) (p.getD (i + 1) 0) (p.getD (i + 2) 0)) := by
  unfold fetchBe24
  rw [fetch8_ok (by omega), ok_bind, fetch8_ok (by omega), ok_bind, fetch8_ok (by omega), ok_bind]
  rfl

end Reads

/-- A buffer that is large enough. -/
theorem ensureCapacity_some {realloc : Nat → Bool} {rom grown : Bytes} {needed : Nat}
    (h : ensureCapacity realloc rom needed = some grown) :
    grown = padTo 0 needed rom ∧ needed ≤ grown.length := by
  unfold ensureCapacity at h
  split at h
  · cases h
    exact ⟨(padTo_of_le ‹_›).symm, ‹_›⟩
  · split at h
    · cases h
    · split at h
      · cases h
        exact ⟨rfl, by rw [padTo_length]; omega⟩
      · cases h

/-- A write into a buffer that was made large enough. -/
theorem store_padTo (rom : Bytes) (offset : Nat) (bytes : Bytes) :
    store (padTo 0 (offset + bytes.length) rom) offset bytes =
      .ok (overlay 0 rom offset bytes) := by
  unfold store overlay
  rw [if_pos (by rw [padTo_length]; omega)]

/-- What a pass has seen when it goes on: a record inside the patch, and the buffer it leaves. -/
structure Goes (ips rom : Bytes) (pos : Nat) (rom' : Bytes) (pos' : Nat) : Prop where
  header : pos + 5 ≤ ips.length
  unmarked : (ips.drop pos).take 3 ≠ eof
  record : ∃ offset length, offset = ofBe24 (ips.getD pos 0) (ips.getD (pos + 1) 0)
    (ips.getD (pos + 2) 0) ∧
    length = ofBe16 (ips.getD (pos + 3) 0) (ips.getD (pos + 4) 0) ∧
    ((length = 0 ∧ pos' = pos + 8 ∧ pos' ≤ ips.length ∧
        rom' = overlay 0 rom offset
          (List.replicate (ofBe16 (ips.getD (pos + 5) 0) (ips.getD (pos + 6) 0))
          (ips.getD (pos + 7) 0))) ∨
      (length ≠ 0 ∧ pos' = pos + 5 + length ∧ pos' ≤ ips.length ∧
        rom' = overlay 0 rom offset ((ips.drop (pos + 5)).take length)))

/-- A pass never leaves the patch or the buffer. -/
theorem pass_cases (realloc : Nat → Bool) (ips rom : Bytes) (pos : Nat) :
    (pass realloc ips rom pos = .ok .done ∧ pos + 3 ≤ ips.length ∧ (ips.drop pos).take 3 = eof) ∨
    (∃ message, pass realloc ips rom pos = .ok (.fail message)) ∨
    ∃ rom' pos', pass realloc ips rom pos = .ok (.next rom' pos') ∧ Goes ips rom pos rom' pos' := by
  unfold pass
  by_cases hend : pos + 3 > ips.length
  · exact Or.inr (Or.inl ⟨_, if_pos hend⟩)
  rw [if_neg hend]
  have hmark : fetchBytes ips pos 3 = .ok ((ips.drop pos).take 3) := if_pos (by omega)
  rw [hmark, ok_bind]
  by_cases heof : (ips.drop pos).take 3 = eof
  · rw [if_pos heof]
    exact Or.inl ⟨rfl, by omega, heof⟩
  rw [if_neg heof]
  by_cases hheader : pos + 5 > ips.length
  · rw [if_pos hheader]
    exact Or.inr (Or.inl ⟨_, rfl⟩)
  rw [if_neg hheader, fetchBe24_ok (by omega), ok_bind, fetchBe16_ok (by omega), ok_bind]
  dsimp only
  generalize hoffset : ofBe24 (ips.getD pos 0) (ips.getD (pos + 1) 0) (ips.getD (pos + 2) 0) =
    offset
  generalize hlength : ofBe16 (ips.getD (pos + 3) 0) (ips.getD (pos + 3 + 1) 0) = length
  by_cases hzero : length = 0
  · rw [if_pos hzero]
    by_cases hrle : pos + 5 + 3 > ips.length
    · rw [if_pos hrle]
      exact Or.inr (Or.inl ⟨_, rfl⟩)
    rw [if_neg hrle, fetchBe16_ok (by omega), ok_bind, fetch8_ok (by omega), ok_bind]
    split
    · exact Or.inr (Or.inl ⟨_, rfl⟩)
    · split
      · exact Or.inr (Or.inl ⟨_, rfl⟩)
      · rename_i grown hgrown
        obtain ⟨rfl, -⟩ := ensureCapacity_some hgrown
        refine Or.inr
          (Or.inr ⟨_, pos + 5 + 3, ?_, by omega, heof, offset, length, hoffset.symm, hlength.symm,
          Or.inl ⟨hzero, by omega, by omega, rfl⟩⟩)
        have hstore := store_padTo rom offset (List.replicate
          (ofBe16 (ips.getD (pos + 5) 0) (ips.getD (pos + 6) 0)) (ips.getD (pos + 7) 0))
        rw [List.length_replicate] at hstore
        rw [hstore, ok_bind]
        rfl
  · rw [if_neg hzero]
    by_cases hdata : pos + 5 + length > ips.length ∨ offset > SIZE_MAX - length
    · rw [if_pos hdata]
      exact Or.inr (Or.inl ⟨_, rfl⟩)
    rw [if_neg hdata]
    rw [not_or, Nat.not_lt] at hdata
    split
    · exact Or.inr (Or.inl ⟨_, rfl⟩)
    · rename_i grown hgrown
      obtain ⟨rfl, -⟩ := ensureCapacity_some hgrown
      have hread : fetchBytes ips (pos + 5) length = .ok ((ips.drop (pos + 5)).take length) :=
        if_pos hdata.1
      have hsize : ((ips.drop (pos + 5)).take length).length = length := by
        simp
        omega
      have hstore := store_padTo rom offset ((ips.drop (pos + 5)).take length)
      rw [hsize] at hstore
      refine Or.inr
        (Or.inr ⟨_, pos + 5 + length, ?_, by omega, heof, offset, length,
        hoffset.symm, hlength.symm, Or.inr ⟨hzero, rfl, hdata.1, rfl⟩⟩)
      rw [hread, ok_bind, hstore, ok_bind]
      rfl

theorem Goes.advances {ips rom rom' : Bytes} {pos pos' : Nat} (h : Goes ips rom pos rom' pos') :
    pos < pos' ∧ pos' ≤ ips.length := by
  obtain ⟨-, -, offset, length, -, -, ⟨-, hpos, hle, -⟩ | ⟨-, hpos, hle, -⟩⟩ := h
  · omega
  · omega

theorem pass_next {realloc : Nat → Bool} {ips rom rom' : Bytes} {pos pos' : Nat}
    (h : pass realloc ips rom pos = .ok (.next rom' pos')) : Goes ips rom pos rom' pos' := by
  rcases pass_cases realloc ips rom pos with ⟨hp, -⟩ | ⟨message, hp⟩ | ⟨rom'', pos'', hp, hgoes⟩
  · rw [hp] at h
    cases h
  · rw [hp] at h
    cases h
  · rw [hp] at h
    cases h
    exact hgoes

/-- The loop of `ApplyIps`: the buffer, and the message of a failure. -/
def loop (realloc : Nat → Bool) (ips rom : Bytes) (pos : Nat) :
    Except Stop (Bytes × Option String) :=
  match _hpass : pass realloc ips rom pos with
  | .error stop => .error stop
  | .ok .done => .ok (rom, none)
  | .ok (.fail message) => .ok (rom, some message)
  | .ok (.next rom' pos') => loop realloc ips rom' pos'
termination_by ips.length - pos
decreasing_by
  obtain ⟨hlt, hle⟩ := (pass_next _hpass).advances
  omega

/-- `ApplyIps`. -/
def applyIps (realloc : Nat → Bool) (rom ips : Bytes) : Except Stop (Bytes × Option String) := do
  if ips.length < 8 then return (rom, some "Co-op patch is not a valid IPS file")
  else
    let mark ← fetchBytes ips 0 5
    if mark ≠ magic then return (rom, some "Co-op patch is not a valid IPS file")
    else loop realloc ips rom 5

end CoopPatch

/-! ## `apply_msu_patch.py` -/

/-- What a Python function raises. -/
inductive Raised where
  | valueError (message : String)
  | indexError
  | overflowError
  deriving DecidableEq

@[simp] theorem raised_ok_bind {α β : Type} (a : α) (f : α → Except Raised β) :
    (Except.ok a >>= f) = f a := rfl

theorem raised_bind {α β : Type} {r : Except Raised α} {f : α → Except Raised β} {b : β}
    (h : (r >>= f) = .ok b) : ∃ a, r = .ok a ∧ f a = .ok b := by
  cases r with
  | error e => cases h
  | ok a => exact ⟨a, rfl, h⟩

namespace MsuPatch

/-- `ips[i]`. -/
def item (ips : Bytes) (i : Nat) : Except Raised UInt8 :=
  match ips[i]? with
  | some b => .ok b
  | none => .error .indexError

/-- `xs[i:j]`. -/
def slice (xs : Bytes) (i j : Nat) : Bytes := (xs.drop i).take (j - i)

/-- `if end > len(rom): rom.extend(...)`. -/
def extendTo (rom : Bytes) (stop : Nat) : Bytes :=
  if stop > rom.length then rom ++ List.replicate (stop - rom.length) 0 else rom

/-- A pass of the loop of `apply_ips`; `none` is its `break`. -/
def pass (ips rom : Bytes) (i : Nat) : Except Raised (Option (Bytes × Nat)) :=
  if slice ips i (i + 3) = eof then .ok none
  else do
    let a ← item ips i
    let b ← item ips (i + 1)
    let c ← item ips (i + 2)
    let off := ofBe24 a b c
    let i := i + 3
    let a ← item ips i
    let b ← item ips (i + 1)
    let size := ofBe16 a b
    let i := i + 2
    if size = 0 then do
      let a ← item ips i
      let b ← item ips (i + 1)
      let run := ofBe16 a b
      let val ← item ips (i + 2)
      let i := i + 3
      let rom := extendTo rom (off + run)
      return some ((List.range' off run).foldl (fun rom j => rom.set j val) rom, i)
    else
      let stop := off + size
      let rom := extendTo rom stop
      return some (rom.take off ++ (slice ips i (i + size) ++ rom.drop stop), i + size)

theorem item_ok {ips : Bytes} {i : Nat} (h : i < ips.length) : item ips i = .ok (ips.getD i 0) := by
  simp [item, h]

theorem item_some {ips : Bytes} {i : Nat} {b : UInt8} (h : item ips i = .ok b) :
    i < ips.length := by
  unfold item at h
  split at h
  · rename_i hb
    exact (List.getElem?_eq_some_iff.1 hb).1
  · cases h

/-- A pass goes on from inside the patch, and further. -/
theorem pass_advances {ips rom rom' : Bytes} {i i' : Nat}
    (h : pass ips rom i = .ok (some (rom', i'))) :
    i < i' ∧ i < ips.length := by
  unfold pass at h
  split at h
  · cases h
  · obtain ⟨a, ha, h⟩ := raised_bind h
    obtain ⟨b, -, h⟩ := raised_bind h
    obtain ⟨c, -, h⟩ := raised_bind h
    obtain ⟨d, -, h⟩ := raised_bind h
    obtain ⟨e, -, h⟩ := raised_bind h
    dsimp only at h
    split at h
    · obtain ⟨f, -, h⟩ := raised_bind h
      obtain ⟨g, -, h⟩ := raised_bind h
      obtain ⟨v, -, h⟩ := raised_bind h
      cases h
      exact ⟨by omega, item_some ha⟩
    · cases h
      exact ⟨by omega, item_some ha⟩

/-- The loop of `apply_ips`: the number of records and the buffer. -/
def loop (ips rom : Bytes) (i records : Nat) : Except Raised (Nat × Bytes) :=
  match _hpass : pass ips rom i with
  | .error e => .error e
  | .ok none => .ok (records, rom)
  | .ok (some (rom', i')) => loop ips rom' i' (records + 1)
termination_by ips.length - i
decreasing_by
  obtain ⟨hlt, hle⟩ := pass_advances _hpass
  omega

/-- `apply_ips`. -/
def applyIps (rom ips : Bytes) : Except Raised (Nat × Bytes) :=
  if slice ips 0 5 ≠ magic then .error (.valueError "not an IPS file (missing PATCH magic)")
  else loop ips rom 5 0

theorem extendTo_eq (rom : Bytes) (stop : Nat) : extendTo rom stop = padTo 0 stop rom := by
  unfold extendTo
  split
  · rfl
  · rw [padTo_of_le (by omega)]

/-- Where the C loop goes on, so does this one, with the same buffer. -/
theorem pass_goes {ips rom rom' : Bytes} {pos pos' : Nat}
    (h : CoopPatch.Goes ips rom pos rom' pos') :
    pass ips rom pos = .ok (some (rom', pos')) := by
  obtain ⟨hheader, hmark, offset, length, hoffset, hlength, hrecord⟩ := h
  unfold pass
  rw [if_neg (by unfold slice; rwa [Nat.add_sub_cancel_left]), item_ok (by omega), raised_ok_bind,
    item_ok (by omega), raised_ok_bind, item_ok (by omega), raised_ok_bind]
  dsimp only
  rw [item_ok (by omega), raised_ok_bind, item_ok (by omega), raised_ok_bind, ← hoffset,
    show pos + 3 + 1 = pos + 4 from rfl, ← hlength]
  rcases hrecord with ⟨hzero, hpos, hle, hrom⟩ | ⟨hzero, hpos, hle, hrom⟩
  · rw [if_pos hzero, item_ok (by omega), raised_ok_bind, item_ok (by omega), raised_ok_bind,
      item_ok (by omega), raised_ok_bind, extendTo_eq,
      foldl_set_eq_overlay (d := 0) _ _ _ _ (by rw [padTo_length]; omega)]
    have hfill := overlay_padTo (d := 0) rom offset (List.replicate
      (ofBe16 (ips.getD (pos + 5) 0) (ips.getD (pos + 6) 0)) (ips.getD (pos + 7) 0))
    rw [List.length_replicate] at hfill
    rw [hrom, hpos, ← hfill]
    rfl
  · rw [if_neg hzero, extendTo_eq, hrom, hpos]
    unfold slice overlay
    have hsize : ((ips.drop (pos + 5)).take length).length = length := by
      simp
      omega
    dsimp only
    rw [hsize, Nat.add_sub_cancel_left]
    rfl

end MsuPatch

/-! ## Agreement -/

/-- From one position on: what the C loop accepts, the Python loop accepts with the same buffer. -/
theorem loops_agree {realloc : Nat → Bool} {ips rom bytes : Bytes} {pos : Nat} (records : Nat)
    (h : CoopPatch.loop realloc ips rom pos = .ok (bytes, none)) :
    ∃ n, MsuPatch.loop ips rom pos records = .ok (n, bytes) := by
  fun_induction CoopPatch.loop realloc ips rom pos generalizing records with
  | case1 rom pos stop hpass => cases h
  | case2 rom pos hpass =>
      rcases CoopPatch.pass_cases realloc ips rom pos with ⟨-, -, heof⟩ | ⟨message, hp⟩
        | ⟨rom', pos', hp, -⟩
      · have hbreak : MsuPatch.pass ips rom pos = .ok none := by
          unfold MsuPatch.pass MsuPatch.slice
          rw [if_pos (by rwa [Nat.add_sub_cancel_left])]
        cases h
        refine ⟨records, ?_⟩
        unfold MsuPatch.loop
        rw [hbreak]
      · rw [hp] at hpass
        cases hpass
      · rw [hp] at hpass
        cases hpass
  | case3 rom pos message hpass => cases h
  | case4 rom pos rom' pos' hpass ih =>
      obtain ⟨n, hn⟩ := ih (records + 1) h
      refine ⟨n, ?_⟩
      unfold MsuPatch.loop
      rw [MsuPatch.pass_goes (CoopPatch.pass_next hpass)]
      exact hn

theorem loop_inside (realloc : Nat → Bool) (ips rom : Bytes) (pos : Nat) :
    ∃ r, CoopPatch.loop realloc ips rom pos = .ok r := by
  fun_induction CoopPatch.loop realloc ips rom pos with
  | case1 rom pos stop hpass =>
      rcases CoopPatch.pass_cases realloc ips rom pos with ⟨hp, -⟩ | ⟨message, hp⟩
        | ⟨rom', pos', hp, -⟩
      all_goals
        rw [hp] at hpass
        cases hpass
  | case2 rom pos hpass => exact ⟨_, rfl⟩
  | case3 rom pos message hpass => exact ⟨_, rfl⟩
  | case4 rom pos rom' pos' hpass ih => exact ih

theorem applyIps_inside (realloc : Nat → Bool) (rom ips : Bytes) :
    ∃ r, CoopPatch.applyIps realloc rom ips = .ok r := by
  unfold CoopPatch.applyIps
  split
  · exact ⟨_, rfl⟩
  · have hmark : fetchBytes ips 0 5 = .ok (ips.take 5) := if_pos (by omega)
    rw [hmark, ok_bind]
    split
    · exact ⟨_, rfl⟩
    · exact loop_inside realloc ips rom 5

/-- The Python function follows where the C function succeeds. -/
theorem msuPatch_follows {realloc : Nat → Bool} {rom ips bytes : Bytes}
    (h : CoopPatch.applyIps realloc rom ips = .ok (bytes, none)) :
    ∃ records, MsuPatch.applyIps rom ips = .ok (records, bytes) := by
  unfold CoopPatch.applyIps at h
  split at h
  · cases h
  · have hmark : fetchBytes ips 0 5 = .ok (ips.take 5) := if_pos (by omega)
    rw [hmark, ok_bind] at h
    split at h
    · cases h
    · rename_i hmagic
      obtain ⟨n, hn⟩ := loops_agree 0 h
      refine ⟨n, ?_⟩
      unfold MsuPatch.applyIps MsuPatch.slice
      rw [if_neg (by simpa using hmagic)]
      exact hn

/-- **The appliers agree.**  Whatever the buffer, the patch and the allocator: the C function reads
nothing outside the patch and writes nothing outside its buffer, and what it accepts the Python
function accepts, with the same bytes. -/
theorem appliers_agree (realloc : Nat → Bool) (rom ips : Bytes) :
    (∃ r, CoopPatch.applyIps realloc rom ips = .ok r) ∧
    ∀ bytes, CoopPatch.applyIps realloc rom ips = .ok (bytes, none) →
      ∃ records, MsuPatch.applyIps rom ips = .ok (records, bytes) :=
  ⟨applyIps_inside realloc rom ips, fun _ h => msuPatch_follows h⟩

end SmwRecomp.Ips
