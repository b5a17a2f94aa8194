import Mathlib.Tactic.NormNum
import SmwRecomp.Foreign.Controller
import SmwRecomp.Lib.Ring

/-!
# The trace of the foreign controllers

The ring of `foreign_controller.c` (`snes_foreign_trace_push`, the notes on its newest entry,
`snes_foreign_trace_last`, `snes_foreign_trace_count`) against the log of what was pushed since it
was cleared.

* `TraceOp.apply`, `TraceOp.log` — an operation on the ring, and what it means for the log.
* `Tracked` — head and cells as the log has them, but for notes on the entry under a head of zero.
* `faithful_iff` — count and read-back are those of the log until the running counter wraps, and
  again when it has counted a full ring since.

A null destination, and the CSV dump, are left out.
-/

set_option autoImplicit false

namespace SmwRecomp.Foreign

/-- `ForeignTraceEntry`; floats and doubles are their bit patterns. -/
structure ForeignTraceEntry where
  frame : UInt64
  rawButtons : Int32
  stickX : UInt32
  stickY : UInt32
  state : Int32
  ownership : UInt8
  grounded : UInt8
  fastFall : UInt8
  hitWall : UInt8
  hitCeiling : UInt8
  hitFloor : UInt8
  attackConnected : UInt8
  airCause : UInt8
  jumpPhase : UInt8
  reseeded : UInt8
  x : UInt64
  y : UInt64
  vx : UInt64
  vy : UInt64
  requestedDx : UInt64
  requestedDy : UInt64
  resolvedDx : UInt64
  resolvedDy : UInt64
  hasImposedVy : UInt8
  imposedVy : UInt64
  collisionFlags : UInt32
  nativeX : Int32
  nativeY : Int32
  deriving DecidableEq, Inhabited

/-- What `snes_foreign_resolve` notes of a `ForeignCollisionResult`. -/
structure Resolved where
  actualDx : UInt64
  actualDy : UInt64
  hitWall : UInt8
  hitCeiling : UInt8
  hitFloor : UInt8
  attackConnected : UInt8
  hasImposedVy : UInt8
  imposedVy : UInt64
  flags : UInt32

namespace ForeignTraceEntry

/-- `snes_foreign_trace_note_native`. -/
def noteNative (nativeX nativeY : Int32) (entry : ForeignTraceEntry) : ForeignTraceEntry :=
  { entry with nativeX, nativeY }

/-- `snes_foreign_trace_note_reseed`. -/
def noteReseed (entry : ForeignTraceEntry) : ForeignTraceEntry := { entry with reseeded := 1 }

/-- `snes_foreign_trace_note_flags`. -/
def noteFlags (flags : UInt32) (entry : ForeignTraceEntry) : ForeignTraceEntry :=
  { entry with collisionFlags := entry.collisionFlags ||| flags }

/-- The entry as `snes_foreign_resolve` leaves it. -/
def noteResolved (hit : Resolved) (entry : ForeignTraceEntry) : ForeignTraceEntry :=
  { entry with
    resolvedDx := hit.actualDx
    resolvedDy := hit.actualDy
    hitWall := hit.hitWall
    hitCeiling := hit.hitCeiling
    hitFloor := hit.hitFloor
    attackConnected := hit.attackConnected
    hasImposedVy := hit.hasImposedVy
    imposedVy := hit.imposedVy
    collisionFlags := entry.collisionFlags ||| hit.flags }

end ForeignTraceEntry

namespace Trace

variable {ε : Type}

/-- `snes_foreign_trace_count`. -/
def count (t : Trace ε) : Nat := if t.head < FTRING_N then t.head.toNat else FTRING_N.toNat

/-- `snes_foreign_trace_last`: the entries it stores, as many as it returns. -/
def last (t : Trace ε) (n : Int) : List ε :=
  if n ≤ 0 then []
  else
    let available : Int := t.count
    let n := if n > available then available else n
    let start := t.head - UInt32.ofInt n
    (List.range n.toNat).map fun i => t.ring ((start + UInt32.ofNat i) &&& (FTRING_N - 1)).toNat

end Trace

/-- What the host does with the trace between two times it is cleared. -/
inductive TraceOp where
  | push (entry : ForeignTraceEntry)
  | noteNative (nativeX nativeY : Int32)
  | noteReseed
  | noteFlags (flags : UInt32)
  | noteResolved (hit : Resolved)

namespace TraceOp

/-- An operation on the ring. -/
def apply (t : Trace ForeignTraceEntry) : TraceOp → Trace ForeignTraceEntry
  | push entry => t.push entry
  | noteNative nativeX nativeY => t.amend (.noteNative nativeX nativeY)
  | noteReseed => t.amend .noteReseed
  | noteFlags flags => t.amend (.noteFlags flags)
  | noteResolved hit => t.amend (.noteResolved hit)

/-- What was pushed, with its notes. -/
def log (entries : List ForeignTraceEntry) : TraceOp → List ForeignTraceEntry
  | push entry => entries ++ [entry]
  | noteNative nativeX nativeY => amendLast (.noteNative nativeX nativeY) entries
  | noteReseed => amendLast .noteReseed entries
  | noteFlags flags => amendLast (.noteFlags flags) entries
  | noteResolved hit => amendLast (.noteResolved hit) entries

end TraceOp

def traced (ops : List TraceOp) : Trace ForeignTraceEntry := ops.foldl TraceOp.apply .cleared

def logged (ops : List TraceOp) : List ForeignTraceEntry := ops.foldl TraceOp.log []

/-- Count and read-back are those of the log. -/
def Faithful (t : Trace ForeignTraceEntry) (entries : List ForeignTraceEntry) : Prop :=
  t.count = min entries.length 16384 ∧
    ∀ n : Int, t.last n = entries.rtake (min (min n.toNat entries.length) 16384)

/-! ## The running counter -/

/-- A slot is the running counter modulo the size of the ring, also when the counter has wrapped. -/
theorem slot_eq (w : UInt32) : (w &&& (FTRING_N - 1)).toNat = w.toNat % 16384 := by
  have hmask : (FTRING_N - 1).toNat = 2 ^ 14 - 1 := rfl
  rw [UInt32.toNat_and, hmask, Nat.and_two_pow_sub_one_eq_mod]

theorem mod_ring (n : Nat) : n % 4294967296 % 16384 = n % 16384 := Nat.mod_mod_of_dvd n (by decide)

/-- Head and cells as the log has them: an entry that a head of zero stands for may lack its notes.
-/
structure Tracked (t : Trace ForeignTraceEntry) (entries : List ForeignTraceEntry) : Prop where
  head : t.head.toNat = entries.length % 4294967296
  cells : RingHolds 16384 (fun i => (i + 1) % 4294967296 ≠ 0) t.ring entries

theorem Tracked.cleared : Tracked .cleared [] := ⟨rfl, .nil⟩

theorem Tracked.push {t : Trace ForeignTraceEntry} {entries : List ForeignTraceEntry}
    (h : Tracked t entries)
    (entry : ForeignTraceEntry) : Tracked (t.push entry) (entries ++ [entry]) := by
  refine ⟨?_, ?_⟩
  · change (t.head + 1).toNat = _
    rw [UInt32.toNat_add, h.head, List.length_append]
    simp
  · change RingHolds _ _ (Function.update t.ring (t.head &&& (FTRING_N - 1)).toNat entry) _
    rw [slot_eq, h.head, mod_ring]
    exact h.cells.push entry

theorem Tracked.amend {t : Trace ForeignTraceEntry} {entries : List ForeignTraceEntry}
    (h : Tracked t entries)
    (f : ForeignTraceEntry → ForeignTraceEntry) : Tracked (t.amend f) (amendLast f entries) := by
  rcases List.eq_nil_or_concat entries with rfl | ⟨entries, e, rfl⟩
  · have hzero : t.head = 0 := UInt32.toNat_inj.1 h.head
    rw [Trace.amend, if_pos hzero]
    exact h
  · rw [List.concat_eq_append] at h ⊢
    rw [amendLast_snoc]
    have hhead := h.head
    rw [List.length_append, List.length_singleton] at hhead
    unfold Trace.amend
    split
    case isTrue hzero =>
      -- the note is lost, and so is the entry's place among the kept
      rw [hzero] at hhead
      refine ⟨?_, h.cells.skip (fun hkept => hkept hhead.symm) (f e)⟩
      rw [h.head, List.length_append, List.length_append]
      rfl
    case isFalse hpos =>
      have hpos : t.head.toNat ≠ 0 := fun hz => hpos (UInt32.toNat_inj.1 hz)
      have hone : (1 : UInt32) ≤ t.head := UInt32.le_iff_toNat_le.2 (Nat.one_le_iff_ne_zero.2 hpos)
      have hprev : (t.head - 1).toNat = t.head.toNat - 1 := UInt32.toNat_sub_of_le _ _ hone
      have hslot : ((t.head - 1) &&& (FTRING_N - 1)).toNat = entries.length % 16384 := by
        rw [slot_eq, hprev]
        omega
      have hlatest : t.ring (entries.length % 16384) = e := by
        rw [h.cells entries.length (by simp) (by simp) (by omega), List.getElem_concat_length rfl]
      refine ⟨?_, ?_⟩
      · change t.head.toNat = _
        rw [h.head, List.length_append, List.length_append]
        rfl
      · change RingHolds _ _ (Function.update t.ring _ _) _
        rw [hslot, hlatest]
        exact h.cells.amend (f e)

/-- Every operation on the ring is what it means for the log. -/
theorem Tracked.apply {t : Trace ForeignTraceEntry} {entries : List ForeignTraceEntry}
    (h : Tracked t entries)
    (op : TraceOp) : Tracked (op.apply t) (op.log entries) := by
  cases op with
  | push entry => exact h.push entry
  | noteNative nativeX nativeY => exact h.amend _
  | noteReseed => exact h.amend _
  | noteFlags flags => exact h.amend _
  | noteResolved hit => exact h.amend _

theorem tracked (ops : List TraceOp) : Tracked (traced ops) (logged ops) := by
  unfold traced logged
  have hrun : ∀ t entries, Tracked t entries →
    Tracked (ops.foldl TraceOp.apply t) (ops.foldl TraceOp.log entries) := by
    induction ops with
    | nil => exact fun _ _ h => h
    | cons op ops ih => exact fun _ _ h => ih _ _ (h.apply op)
  exact hrun _ _ .cleared

/-! ## Count and read-back -/

theorem Tracked.count_eq {t : Trace ForeignTraceEntry} {entries : List ForeignTraceEntry}
    (h : Tracked t entries) :
    t.count = min (entries.length % 4294967296) 16384 := by
  have hlt : t.head < FTRING_N ↔ t.head.toNat < 16384 := UInt32.lt_iff_toNat_lt
  rw [← h.head]
  unfold Trace.count
  split
  case isTrue hsmall => exact (Nat.min_eq_left (Nat.le_of_lt (hlt.1 hsmall))).symm
  case isFalse hfull => exact (Nat.min_eq_right (Nat.le_of_not_lt fun hn => hfull (hlt.2 hn))).symm

/-- The slot the read-back starts from, and each one after it. -/
theorem Tracked.slot_read {t : Trace ForeignTraceEntry} {entries : List ForeignTraceEntry}
    (h : Tracked t entries)
    {m i : Nat} (hm : m ≤ entries.length) (hring : m ≤ 16384) (hi : i < m) :
    (((t.head - UInt32.ofInt m) + UInt32.ofNat i) &&& (FTRING_N - 1)).toNat =
      (entries.length - m + i) % 16384 := by
  have hhead := h.head
  have hmod : (UInt32.ofInt m).toNat = m := by
    unfold UInt32.ofInt
    rw [UInt32.toNat_ofNat_of_lt' (by simp only [UInt32.size]; omega)]
    omega
  have hindex : (UInt32.ofNat i).toNat = i :=
    UInt32.toNat_ofNat_of_lt' (by simp only [UInt32.size]; omega)
  rw [slot_eq, UInt32.toNat_add, UInt32.toNat_sub, hmod, hindex]
  omega

/-- The read-back of entries that are all in the ring with their notes. -/
theorem Tracked.last_eq {t : Trace ForeignTraceEntry} {entries : List ForeignTraceEntry}
    (h : Tracked t entries)
    (hcount : t.count = min entries.length 16384)
    (hkept : ∀ i, entries.length - min entries.length 16384 ≤ i → i < entries.length →
      (i + 1) % 4294967296 ≠ 0)
    (n : Int) : t.last n = entries.rtake (min (min n.toNat entries.length) 16384) := by
  unfold Trace.last
  by_cases hn : n ≤ 0
  · rw [if_pos hn, Int.toNat_of_nonpos hn, Nat.zero_min, Nat.zero_min, List.rtake_zero]
  · rw [if_neg hn]
    obtain ⟨m, hm⟩ : ∃ m : Nat, m = min (min n.toNat entries.length) 16384 := ⟨_, rfl⟩
    have hclamp : (if n > (t.count : Int) then (t.count : Int) else n) = m := by
      rw [hcount]
      split <;> omega
    simp only [hclamp, Int.toNat_natCast]
    rw [← hm, ← h.cells.read (by omega) (by omega) fun i hlow hhigh => hkept i (by omega) hhigh]
    refine List.map_congr_left fun i hi => ?_
    rw [h.slot_read (by omega) (by omega) (List.mem_range.1 hi)]

theorem Tracked.told_iff {t : Trace ForeignTraceEntry} {entries : List ForeignTraceEntry}
    (h : Tracked t entries) :
    Faithful t entries ↔ entries.length < 2 ^ 32 ∨ 16384 ≤ entries.length % 2 ^ 32 := by
  have hcount := h.count_eq
  constructor
  · rintro ⟨hfull, -⟩
    omega
  · intro hin
    have hfull : t.count = min entries.length 16384 := by omega
    exact ⟨hfull, h.last_eq hfull fun i hlow hhigh => by omega⟩

/-- For any pushes since the trace was cleared, with notes in between. -/
theorem faithful_iff (ops : List TraceOp) :
    Faithful (traced ops) (logged ops) ↔ (logged ops).length < 2 ^ 32 ∨
    16384 ≤ (logged ops).length % 2 ^ 32 :=
  (tracked ops).told_iff

/-- `2 ^ 32` entries are pushed: the counter is back at zero, and the full ring counts as empty. -/
theorem forgotten_ring : ∃ ops, (logged ops).length = 2 ^ 32 ∧ (traced ops).count = 0 ∧
    ¬ Faithful (traced ops) (logged ops) := by
  have hlength : ∀ (k : Nat) (entries : List ForeignTraceEntry),
      ((List.replicate k (TraceOp.push default)).foldl TraceOp.log entries).length =
        entries.length + k := by
    intro k
    induction k with
    | zero => exact fun _ => rfl
    | succ k ih =>
        intro entries
        rw [List.replicate_succ, List.foldl_cons, ih, TraceOp.log, List.length_append,
          List.length_singleton]
        omega
  have hfull : (logged (List.replicate (2 ^ 32) (TraceOp.push default))).length = 2 ^ 32 := by
    unfold logged
    rw [hlength, List.length_nil, Nat.zero_add]
  refine ⟨_, hfull, ?_, ?_⟩
  · rw [(tracked _).count_eq, hfull]
    rfl
  · rw [(tracked _).told_iff, hfull]
    omega

end SmwRecomp.Foreign
