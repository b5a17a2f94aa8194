import SmwRecomp.Ips.Appliers

/-!
# Creating an IPS patch

`create_ips` of `src/tools/create_ips.py`, and the records it writes.

* `createIps` — the patch, byte by byte.
* `Record`, `scan` — the records its loop writes, and what each does to a buffer.
* `createIps_eq` — the patch is the encoding of these records between the two marks.
-/

set_option autoImplicit false

namespace SmwRecomp.Ips

/-! ## `create_ips.py` -/

/-- The `n` low bytes of `v`, the highest first. -/
def bigEndian : Nat → Nat → Bytes
  | 0, _ => []
  | n + 1, v => bigEndian n (v / 256) ++ [UInt8.ofNat v]

/-- `v.to_bytes(n, "big")`. -/
def toBytes (n v : Nat) : Except Raised Bytes :=
  if v < 256 ^ n then .ok (bigEndian n v) else .error .overflowError

/-- `source[pos] if pos < len(source) else 0`. -/
def sourceByte (source : Bytes) (pos : Nat) : UInt8 := source.getD pos 0

/-- The loop of `_same_byte_run`; `value` is `data[start]`. -/
def sameByteEnd (data : Bytes) (value : UInt8) (stop pos : Nat) : Nat :=
  if pos < stop ∧ data.getD pos 0 = value then sameByteEnd data value stop (pos + 1) else pos
termination_by stop - pos

/-- `_same_byte_run`, with its default limit. -/
def sameByteRun (data : Bytes) (start : Nat) : Nat :=
  sameByteEnd data (data.getD start 0) (min data.length (start + 0xFFFF)) (start + 1) - start

/-- The loop that collects a literal: where it ends, and its bytes. -/
def collect (source target : Bytes) (pos : Nat) (literal : Bytes) : Nat × Bytes :=
  if pos < target.length ∧ literal.length < 0xFFFF then
    if sourceByte source pos = target.getD pos 0 then (pos, literal)
    else if literal ≠ [] ∧ sameByteRun target pos ≥ 4 then (pos, literal)
    else collect source target (pos + 1) (literal ++ [target.getD pos 0])
  else (pos, literal)
termination_by target.length - pos

theorem collect_le (source target : Bytes) (pos : Nat) (literal : Bytes) :
    pos ≤ (collect source target pos literal).1 := by
  fun_induction collect source target pos literal with
  | case1 | case2 | case4 => exact Nat.le_refl _
  | case3 pos literal _ _ _ ih => omega

/-- The first byte of a literal differs. -/
theorem collect_advances {source target : Bytes} {pos : Nat} (hpos : pos < target.length)
    (hdiffers : sourceByte source pos ≠ target.getD pos 0) :
    pos < (collect source target pos []).1 := by
  unfold collect
  rw [if_pos ⟨hpos, by simp⟩, if_neg hdiffers, if_neg (fun h => h.1 rfl)]
  exact collect_le source target (pos + 1) _

theorem sameByteRun_pos (data : Bytes) (start : Nat) : 0 < sameByteRun data start := by
  have hle : ∀ (value : UInt8) (stop pos : Nat), pos ≤ sameByteEnd data value stop pos := by
    intro value stop pos
    fun_induction sameByteEnd data value stop pos with
    | case1 pos _ ih => omega
    | case2 => exact Nat.le_refl _
  have := hle (data.getD start 0) (min data.length (start + 0xFFFF)) (start + 1)
  unfold sameByteRun
  omega

/-- The loop of `create_ips`: the records behind those it has, and `highest_written`. -/
def createLoop (source target : Bytes) (pos : Nat) (records : Bytes) (highest : Nat) :
    Except Raised (Bytes × Nat) :=
  if _hpos : pos < target.length then
    if _hsame : sourceByte source pos = target.getD pos 0 then
      createLoop source target (pos + 1) records highest
    else
      let rleLen := sameByteRun target pos
      if rleLen ≥ 4 then do
        let offset ← toBytes 3 pos
        let count ← toBytes 2 rleLen
        createLoop source target (pos + rleLen)
          (records ++ (offset ++ ([0, 0] ++ (count ++ [target.getD pos 0]))))
            (max highest (pos + rleLen))
      else do
        let stop := (collect source target pos []).1
        let literal := (collect source target pos []).2
        let offset ← toBytes 3 pos
        let count ← toBytes 2 literal.length
        createLoop source target stop (records ++ (offset ++ (count ++ literal))) (max highest stop)
  else .ok (records, highest)
termination_by target.length - pos
decreasing_by
  · omega
  · have := sameByteRun_pos target pos
    omega
  · have := collect_advances _hpos _hsame
    omega

/-- `create_ips`. -/
def createIps (source target : Bytes) : Except Raised Bytes :=
  if target.length > 0x1000000 then
    .error (.valueError "classic IPS cannot address files larger than 16 MiB")
  else do
    let (records, highest) ← createLoop source target 0 magic 0
    if target.length > source.length ∧ highest < target.length then do
      let offset ← toBytes 3 (target.length - 1)
      return records ++ (offset ++ ([0, 1] ++ [target.getD (target.length - 1) 0])) ++ eof
    else return records ++ eof

/-! ## Records -/

inductive Record where
  | data (offset : Nat) (bytes : Bytes)
  | fill (offset count : Nat) (value : UInt8)

namespace Record

def offset : Record → Nat
  | data offset _ => offset
  | fill offset _ _ => offset

/-- What the record writes. -/
def bytes : Record → Bytes
  | data _ bytes => bytes
  | fill _ count value => List.replicate count value

/-- Where the record ends. -/
def stop (r : Record) : Nat := r.offset + r.bytes.length

@[simp] theorem offset_data (offset : Nat) (bytes : Bytes) : (data offset bytes).offset = offset :=
  rfl

@[simp] theorem bytes_data (offset : Nat) (bytes : Bytes) : (data offset bytes).bytes = bytes := rfl

@[simp] theorem offset_fill (offset count : Nat) (value : UInt8) :
    (fill offset count value).offset = offset := rfl

@[simp] theorem bytes_fill (offset count : Nat) (value : UInt8) :
    (fill offset count value).bytes = List.replicate count value := rfl

def encode : Record → Bytes
  | data offset bytes => bigEndian 3 offset ++ (bigEndian 2 bytes.length ++ bytes)
  | fill offset count value => bigEndian 3 offset ++ ([0, 0] ++ (bigEndian 2 count ++ [value]))

/-- The buffer behind the record. -/
def write (rom : Bytes) (r : Record) : Bytes := overlay 0 rom r.offset r.bytes

/-- A record that has something to write, as long as its fields can tell. -/
structure Encodable (r : Record) : Prop where
  nonempty : 0 < r.bytes.length
  short : r.bytes.length ≤ 0xFFFF
  inside : r.stop ≤ 0x1000000

end Record

def encodeAll (rs : List Record) : Bytes := rs.flatMap Record.encode

@[simp] theorem encodeAll_nil : encodeAll [] = [] := rfl

@[simp] theorem encodeAll_cons (r : Record) (rs : List Record) :
    encodeAll (r :: rs) = r.encode ++ encodeAll rs := rfl

@[simp] theorem encodeAll_append (rs rs' : List Record) :
    encodeAll (rs ++ rs') = encodeAll rs ++ encodeAll rs' := List.flatMap_append

/-- The records the loop of `create_ips` writes from `pos` on. -/
def scan (source target : Bytes) (pos : Nat) : List Record :=
  if _hpos : pos < target.length then
    if _hsame : sourceByte source pos = target.getD pos 0 then scan source target (pos + 1)
    else if sameByteRun target pos ≥ 4 then
      .fill pos (sameByteRun target pos) (target.getD pos 0) ::
        scan source target (pos + sameByteRun target pos)
    else
      .data pos (collect source target pos []).2 :: scan source target
        (collect source target pos []).1
  else []
termination_by target.length - pos
decreasing_by
  · omega
  · have := sameByteRun_pos target pos
    omega
  · have := collect_advances _hpos _hsame
    omega

/-- The record that forces the last byte of a longer target. -/
def tailRecord (source target : Bytes) (highest : Nat) : List Record :=
  if target.length > source.length ∧ highest < target.length then
    [.data (target.length - 1) [target.getD (target.length - 1) 0]]
  else []

/-- `highest_written` behind some records. -/
def highestWritten (rs : List Record) : Nat := rs.foldl (fun highest r => max highest r.stop) 0

/-- The records of a patch. -/
def patchRecords (source target : Bytes) : List Record :=
  let rs := scan source target 0
  rs ++ tailRecord source target (highestWritten rs)

/-! ## What a record covers -/

section Scan

variable {source target : Bytes}

/-- The run of equal bytes ends inside its limit, and all of it is that byte. -/
theorem sameByteEnd_spec (data : Bytes) (value : UInt8) (stop pos : Nat) (h : pos ≤ stop) :
    pos ≤ sameByteEnd data value stop pos ∧ sameByteEnd data value stop pos ≤ stop ∧
      ∀ j, pos ≤ j → j < sameByteEnd data value stop pos → data.getD j 0 = value := by
  fun_induction sameByteEnd data value stop pos with
  | case1 pos hpos ih =>
      obtain ⟨hle, hstop, hall⟩ := ih (by omega)
      refine ⟨by omega, hstop, fun j hj hlt => ?_⟩
      by_cases hjp : j = pos
      · rw [hjp]
        exact hpos.2
      · exact hall j (by omega) hlt
  | case2 pos _ => exact ⟨Nat.le_refl _, h, fun j hj hlt => by omega⟩

theorem sameByteRun_spec {data : Bytes} {start : Nat} (h : start < data.length) :
    sameByteRun data start ≤ 0xFFFF ∧ start + sameByteRun data start ≤ data.length ∧
      ∀ j, start ≤ j → j < start + sameByteRun data start → data.getD j 0 = data.getD start 0 := by
  obtain ⟨hle, hstop, hall⟩ :=
    sameByteEnd_spec data (data.getD start 0) (min data.length (start + 0xFFFF))
    (start + 1) (by omega)
  unfold sameByteRun
  refine ⟨by omega, by omega, fun j hj hlt => ?_⟩
  by_cases hjs : j = start
  · rw [hjs]
  · exact hall j (by omega) (by omega)

/-- A literal holds the bytes of the target from its start on. -/
theorem collect_spec (source target : Bytes) (start pos : Nat) (literal : Bytes)
    (hstart : pos = start + literal.length) (hpos : pos ≤ target.length)
    (hshort : literal.length ≤ 0xFFFF)
    (hbytes : ∀ j, j < literal.length → literal.getD j 0 = target.getD (start + j) 0) :
    (collect source target pos literal).1 = start + (collect source target pos literal).2.length ∧
      (collect source target pos literal).1 ≤ target.length ∧
      (collect source target pos literal).2.length ≤ 0xFFFF ∧
      ∀ j, j < (collect source target pos literal).2.length →
        (collect source target pos literal).2.getD j 0 = target.getD (start + j) 0 := by
  fun_induction collect source target pos literal with
  | case1 | case2 | case4 => exact ⟨hstart, hpos, hshort, hbytes⟩
  | case3 pos literal hlt hdiffers hloose ih =>
      refine ih (by simp; omega) (by omega) (by simp; omega) fun j hj => ?_
      rw [List.length_append, List.length_singleton] at hj
      rw [List.getD_eq_getElem?_getD]
      by_cases hjl : j < literal.length
      · rw [List.getElem?_append_left hjl, ← List.getD_eq_getElem?_getD]
        exact hbytes j hjl
      · have hj : j = literal.length := by omega
        rw [hj, List.getElem?_concat_length, hstart]
        rfl

/-- A record writes the target's bytes where it stands. -/
structure Faithful (target : Bytes) (r : Record) : Prop where
  nonempty : 0 < r.bytes.length
  short : r.bytes.length ≤ 0xFFFF
  inside : r.stop ≤ target.length
  bytes : ∀ j, j < r.bytes.length → r.bytes.getD j 0 = target.getD (r.offset + j) 0

theorem faithful_fill {pos : Nat} (hpos : pos < target.length) :
    Faithful target (.fill pos (sameByteRun target pos) (target.getD pos 0)) := by
  obtain ⟨hshort, hinside, hall⟩ := sameByteRun_spec hpos
  have hrun := sameByteRun_pos target pos
  refine ⟨by simpa, by simpa, by simpa [Record.stop], fun j hj => ?_⟩
  simp only [Record.bytes_fill, List.length_replicate, Record.offset_fill] at hj ⊢
  rw [hall (pos + j) (by omega) (by omega), List.getD_eq_getElem?_getD,
    List.getElem?_replicate, if_pos hj]
  rfl

theorem faithful_data {pos : Nat} (hpos : pos < target.length)
    (hdiffers : sourceByte source pos ≠ target.getD pos 0) :
    Faithful target (.data pos (collect source target pos []).2) ∧
      Record.stop (.data pos (collect source target pos []).2) =
        (collect source target pos []).1 := by
  obtain ⟨hstop, hinside, hshort, hall⟩ :=
    collect_spec source target pos pos [] (by simp) (by omega) (by simp)
    (fun j hj => by simp at hj)
  have hadvances := collect_advances hpos hdiffers
  refine ⟨⟨?_, hshort, ?_, hall⟩, hstop.symm⟩
  · rw [Record.bytes_data]
    omega
  · rw [Record.stop, Record.offset_data, Record.bytes_data]
    omega

end Scan

/-! ## The patch -/

theorem toBytes_ok {n v : Nat} (h : v < 256 ^ n) : toBytes n v = .ok (bigEndian n v) := if_pos h

theorem createLoop_eq {source target : Bytes} (htarget : target.length ≤ 0x1000000) (pos : Nat)
    (records : Bytes)
    (highest : Nat) : createLoop source target pos records highest =
      .ok (records ++ encodeAll (scan source target pos),
        (scan source target pos).foldl (fun highest r => max highest r.stop) highest) := by
  fun_induction createLoop source target pos records highest with
  | case1 pos records highest hpos hsame ih =>
      unfold scan
      rw [dif_pos hpos, dif_pos hsame, ih]
  | case2 pos records highest hpos hdiffers rleLen hrun ih =>
      obtain ⟨hshort, -, -⟩ := sameByteRun_spec hpos
      unfold scan
      rw [dif_pos hpos, dif_neg hdiffers, if_pos hrun, toBytes_ok (by omega), raised_ok_bind,
        toBytes_ok (show sameByteRun target pos < 256 ^ 2 by omega), raised_ok_bind, ih]
      simp [Record.encode, Record.stop, rleLen]
  | case3 pos records highest hpos hdiffers rleLen hrun stop literal ih =>
      obtain ⟨hfaithful, hstop⟩ := faithful_data hpos hdiffers
      have hshort : literal.length ≤ 0xFFFF := hfaithful.short
      unfold scan
      rw [dif_pos hpos, dif_neg hdiffers, if_neg hrun, toBytes_ok (by omega), raised_ok_bind,
        toBytes_ok (show literal.length < 256 ^ 2 by omega), raised_ok_bind, ih,
        List.foldl_cons, hstop]
      simp [Record.encode, literal, stop]
  | case4 pos records highest hpos =>
      unfold scan
      rw [dif_neg hpos]
      simp

/-- A patch is its records between the two marks. -/
theorem createIps_eq {source target : Bytes} (htarget : target.length ≤ 0x1000000) :
    createIps source target = .ok (magic ++ (encodeAll (patchRecords source target) ++ eof)) := by
  unfold createIps patchRecords tailRecord highestWritten
  rw [if_neg (by omega), createLoop_eq htarget, raised_ok_bind]
  dsimp only
  split
  · rw [toBytes_ok (by omega), raised_ok_bind]
    simp [Record.encode, bigEndian]
    rfl
  · simp
    rfl

end SmwRecomp.Ips
