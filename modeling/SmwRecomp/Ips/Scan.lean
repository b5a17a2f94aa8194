import SmwRecomp.Ips.Create

/-!
# What the records of a patch write

* `Starts`, `Covered` — where a record has to start, said of the two byte strings alone.
* `Scans` — the records of a patch, with what is known of each.
* `patchRecords_write` — written one after the other they give the target.
* `before_ne_target` — without all of them they do not.
-/

set_option autoImplicit false

namespace SmwRecomp.Ips

variable {source target : Bytes}

/-! ## Where records start -/

/-- A byte that a literal can hold behind its first one. -/
def loose (source target : Bytes) (j : Nat) : Bool :=
  decide (j < target.length) && decide (sourceByte source j ≠ target.getD j 0) &&
    decide (sameByteRun target j < 4)

/-- How many bytes a record at a differing byte takes: its run of equal bytes, or with less than
four of them the loose bytes behind it; each up to `0xFFFF`. -/
def recordLength (source target : Bytes) (pos : Nat) : Nat :=
  if sameByteRun target pos ≥ 4 then sameByteRun target pos
  else 1 + ((List.range' (pos + 1) 0xFFFE).takeWhile (loose source target)).length

/-- A byte that differs, and that no record in front of it reaches. -/
def Starts (source target : Bytes) (p : Nat) : Prop :=
  p < target.length ∧ sourceByte source p ≠ target.getD p 0 ∧
    ∀ s, s < p → Starts source target s → s + recordLength source target s ≤ p
termination_by p

/-- A record in front of `p` reaches it. -/
def Covered (source target : Bytes) (p : Nat) : Prop :=
  ∃ s, s < p ∧ Starts source target s ∧ p < s + recordLength source target s

theorem loose_iff {j : Nat} : loose source target j = true ↔
    j < target.length ∧ sourceByte source j ≠ target.getD j 0 ∧ sameByteRun target j < 4 := by
  simp only [loose, Bool.and_eq_true, decide_eq_true_eq, and_assoc]

theorem collect_length (source target : Bytes) (pos : Nat) (literal : Bytes) (h : literal ≠ []) :
    (collect source target pos literal).1 =
      pos + ((List.range' pos (0xFFFF - literal.length)).takeWhile
        (loose source target)).length := by
  fun_induction collect source target pos literal with
  | case1 pos literal hlt hsame =>
      obtain ⟨k, hk⟩ : ∃ k, 0xFFFF - literal.length = k + 1 :=
        ⟨0xFFFF - literal.length - 1, by omega⟩
      rw [hk, List.range'_succ, List.takeWhile_cons_of_neg (fun h => (loose_iff.1 h).2.1 hsame)]
      rfl
  | case2 pos literal hlt hdiffers htight =>
      obtain ⟨k, hk⟩ : ∃ k, 0xFFFF - literal.length = k + 1 :=
        ⟨0xFFFF - literal.length - 1, by omega⟩
      rw [hk, List.range'_succ,
        List.takeWhile_cons_of_neg (fun h => absurd (loose_iff.1 h).2.2 (by omega))]
      rfl
  | case3 pos literal hlt hdiffers hloose ih =>
      obtain ⟨k, hk⟩ : ∃ k, 0xFFFF - literal.length = k + 1 :=
        ⟨0xFFFF - literal.length - 1, by omega⟩
      have hshort : sameByteRun target pos < 4 := Nat.not_le.1 fun hrun => hloose ⟨h, hrun⟩
      rw [ih (by simp), List.length_append, List.length_singleton, hk, List.range'_succ,
        List.takeWhile_cons_of_pos (loose_iff.2 ⟨hlt.1, hdiffers, hshort⟩), List.length_cons,
        show 0xFFFF - (literal.length + 1) = k by omega]
      omega
  | case4 pos literal hend =>
      by_cases hlen : pos < target.length
      · rw [show 0xFFFF - literal.length = 0 by omega]
        rfl
      · cases 0xFFFF - literal.length with
        | zero => rfl
        | succ k =>
            rw [List.range'_succ, List.takeWhile_cons_of_neg (fun h => hlen (loose_iff.1 h).1)]
            rfl

/-- The records from `pos` on: a byte that agrees is passed over, one that differs starts a record.
-/
inductive Scans (source target : Bytes) : Nat → List Record → Prop where
  | done {pos : Nat} : target.length ≤ pos → Scans source target pos []
  | same {pos : Nat} {rs : List Record} : pos < target.length →
    sourceByte source pos = target.getD pos 0 →
      Scans source target (pos + 1) rs → Scans source target pos rs
  | record {r : Record} {rs : List Record} : r.offset < target.length →
      sourceByte source r.offset ≠ target.getD r.offset 0 → Faithful target r →
      r.bytes.length = recordLength source target r.offset → Scans source target r.stop rs →
      Scans source target r.offset (r :: rs)

theorem scan_scans (source target : Bytes) (pos : Nat) :
    Scans source target pos (scan source target pos) := by
  fun_induction scan source target pos with
  | case1 pos hpos hsame ih => exact .same hpos hsame ih
  | case2 pos hpos hdiffers hrun ih =>
      refine .record (r := .fill pos (sameByteRun target pos) (target.getD pos 0)) hpos hdiffers
        (faithful_fill hpos) ?_ ?_
      · simp [recordLength, hrun]
      · simpa [Record.stop] using ih
  | case3 pos hpos hdiffers hrun ih =>
      obtain ⟨hfaithful, hstop⟩ := faithful_data hpos hdiffers
      refine .record (r := .data pos (collect source target pos []).2) hpos hdiffers hfaithful ?_ ?_
      · have hfirst : collect source target pos [] = collect source target (pos + 1)
          [target.getD pos 0] := by
          conv => lhs; unfold collect
          rw [if_pos ⟨hpos, by simp⟩, if_neg hdiffers, if_neg (fun h => h.1 rfl)]
          rfl
        have hlen := collect_length source target (pos + 1) [target.getD pos 0] (by simp)
        rw [← hfirst, ← hstop, Record.stop] at hlen
        simp only [Record.offset_data, Record.bytes_data, List.length_singleton] at hlen ⊢
        rw [recordLength, if_neg hrun]
        rw [show 0xFFFF - 1 = 0xFFFE from rfl] at hlen
        omega
      · rwa [hstop]
  | case4 pos hpos => exact .done (Nat.not_lt.1 hpos)

namespace Scans

variable {pos : Nat} {rs : List Record}

theorem le_offset (h : Scans source target pos rs) : ∀ r ∈ rs, pos ≤ r.offset := by
  induction h with
  | done _ => exact fun _ hr => nomatch hr
  | same _ _ _ ih =>
      intro r hr
      have := ih r hr
      omega
  | @record r₀ rs _ _ hfaithful _ _ ih =>
      intro r hr
      rcases List.mem_cons.1 hr with rfl | hr
      · exact Nat.le_refl _
      · have := ih r hr
        unfold Record.stop at this
        omega

theorem faithful (h : Scans source target pos rs) :
    ∀ r ∈ rs, Faithful target r ∧ r.bytes.length = recordLength source target r.offset := by
  induction h with
  | done _ => exact fun _ hr => nomatch hr
  | same _ _ _ ih => exact ih
  | record _ _ hfaithful hlen _ ih => exact List.forall_mem_cons.2 ⟨⟨hfaithful, hlen⟩, ih⟩

/-- From a position that no record reaches over, the records start where they have to. -/
theorem starts_iff (h : Scans source target pos rs)
    (hclear : ∀ s, s < pos → Starts source target s → s + recordLength source target s ≤ pos) :
    ∀ p, pos ≤ p → (Starts source target p ↔ ∃ r ∈ rs, r.offset = p) := by
  induction h with
  | @done pos hend =>
      intro p hp
      constructor
      · intro hstarts
        unfold Starts at hstarts
        omega
      · rintro ⟨r, hr, -⟩
        cases hr
  | @same pos rs hpos hsame hrest ih =>
      have hidle : ¬ Starts source target pos := by
        intro hstarts
        unfold Starts at hstarts
        exact hstarts.2.1 hsame
      have hnext : ∀ s, s < pos + 1 → Starts source target s →
        s + recordLength source target s ≤ pos + 1 := by
        intro s hs hstarts
        by_cases hsp : s = pos
        · exact absurd (hsp ▸ hstarts) hidle
        · have := hclear s (by omega) hstarts
          omega
      intro p hp
      by_cases hpp : p = pos
      · subst hpp
        refine ⟨fun hstarts => absurd hstarts hidle, ?_⟩
        rintro ⟨r, hr, hoffset⟩
        have := hrest.le_offset r hr
        omega
      · exact ih hnext p (by omega)
  | @record r rs hpos hdiffers hfaithful hlen hrest ih =>
      have hstarts : Starts source target r.offset := by
        unfold Starts
        exact ⟨hpos, hdiffers, hclear⟩
      have hover : ∀ s, r.offset < s → s < r.stop → ¬ Starts source target s := by
        intro s hlt hstop hs
        unfold Starts at hs
        have := hs.2.2 r.offset hlt hstarts
        unfold Record.stop at hstop
        omega
      have hnext : ∀ s, s < r.stop → Starts source target s →
        s + recordLength source target s ≤ r.stop := by
        intro s hs hstart
        rcases Nat.lt_trichotomy s r.offset with hlt | heq | hgt
        · have := hclear s hlt hstart
          unfold Record.stop
          omega
        · rw [heq, ← hlen]
          exact Nat.le_refl _
        · exact absurd hstart (hover s hgt hs)
      intro p hp
      by_cases hpo : p = r.offset
      · subst hpo
        exact ⟨fun _ => ⟨r, List.mem_cons_self, rfl⟩, fun _ => hstarts⟩
      · have hcons : (∃ r' ∈ r :: rs, r'.offset = p) ↔ ∃ r' ∈ rs, r'.offset = p := by
          simp [Ne.symm hpo]
        rw [hcons]
        by_cases hps : p < r.stop
        · refine ⟨fun hstart => absurd hstart (hover p (by omega) hps), ?_⟩
          rintro ⟨r', hr', hoffset⟩
          have := hrest.le_offset r' hr'
          omega
        · exact ih hnext p (by omega)

end Scans

/-! ## What the records write -/

/-- A buffer with the target's bytes in front of `pos` and the source's from there on. -/
def Agrees (source target : Bytes) (pos : Nat) (rom : Bytes) : Prop :=
  ∀ j, rom.getD j 0 = if j < pos then target.getD j 0 else source.getD j 0

theorem Agrees.write {pos : Nat} {rom : Bytes} {r : Record} (h : Agrees source target pos rom)
    (hr : Faithful target r) (hpos : r.offset ≤ pos) (hstop : pos ≤ r.stop) :
    Agrees source target r.stop (r.write rom) := by
  intro j
  rw [Record.write, overlay_getD, h j]
  unfold Record.stop at hstop ⊢
  by_cases hin : r.offset ≤ j ∧ j < r.offset + r.bytes.length
  · rw [if_pos hin, if_pos hin.2, hr.bytes _ (by omega), Nat.add_sub_cancel' hin.1]
  · rw [if_neg hin]
    by_cases hj : j < pos
    · rw [if_pos hj, if_pos (by omega)]
    · rw [if_neg hj, if_neg (by omega)]

theorem Agrees.same {pos : Nat} {rom : Bytes} (h : Agrees source target pos rom)
    (hsame : sourceByte source pos = target.getD pos 0) : Agrees source target (pos + 1) rom := by
  intro j
  rw [h j]
  by_cases hj : j = pos
  · rw [hj, if_neg (Nat.lt_irrefl pos), if_pos (Nat.lt_succ_self pos)]
    exact hsame
  · by_cases hlt : j < pos
    · rw [if_pos hlt, if_pos (by omega)]
    · rw [if_neg hlt, if_neg (by omega)]

namespace Scans

variable {pos : Nat} {rs : List Record} {rom : Bytes}

/-- All records together bring the whole target. -/
theorem agrees (h : Scans source target pos rs) (hpos : pos ≤ target.length)
    (hrom : Agrees source target pos rom) :
    Agrees source target target.length (rs.foldl Record.write rom) := by
  induction h generalizing rom with
  | done hend =>
      rw [Nat.le_antisymm hpos hend] at hrom
      exact hrom
  | same hlt hsame _ ih => exact ih (by omega) (hrom.same hsame)
  | record _ _ hfaithful _ _ ih =>
      exact ih hfaithful.inside
        (hrom.write hfaithful (Nat.le_refl _) (by unfold Record.stop; omega))

/-- Up to a record its byte is still the source's, and that is not the target's. -/
theorem agrees_before {before after : List Record} {r : Record}
    (h : Scans source target pos (before ++ r :: after)) (hrom : Agrees source target pos rom) :
    Agrees source target r.offset (before.foldl Record.write rom) ∧
      sourceByte source r.offset ≠ target.getD r.offset 0 := by
  generalize hrs : before ++ r :: after = rs at h
  induction h generalizing before rom with
  | done _ => simp at hrs
  | same _ hsame _ ih => exact ih (hrom.same hsame) hrs
  | @record r' rs _ hdiffers hfaithful _ _ ih =>
      cases before with
      | nil =>
          cases hrs
          exact ⟨hrom, hdiffers⟩
      | cons r₀ before =>
          cases hrs
          have hnext := hrom.write hfaithful (Nat.le_refl _) (by unfold Record.stop; omega)
          have hrest := ih hnext rfl
          exact hrest

end Scans

theorem foldl_max (rs : List Record) : ∀ n : Nat,
    rs.foldl (fun highest r => max highest r.stop) n = max n (highestWritten rs) := by
  induction rs with
  | nil => intro n; simp [highestWritten]
  | cons r rs ih =>
      intro n
      unfold highestWritten
      rw [List.foldl_cons, List.foldl_cons, ih, ih (max 0 r.stop)]
      omega

theorem highestWritten_cons (r : Record) (rs : List Record) :
    highestWritten (r :: rs) = max r.stop (highestWritten rs) := by
  have hmax := foldl_max rs (max 0 r.stop)
  rwa [Nat.zero_max] at hmax

theorem highestWritten_lt {rs : List Record} {n : Nat} (hn : 0 < n) :
    highestWritten rs < n ↔ ∀ r ∈ rs, r.stop < n := by
  induction rs with
  | nil => simp [highestWritten, hn]
  | cons r rs ih =>
      rw [List.forall_mem_cons, ← ih, highestWritten_cons]
      omega

theorem foldl_write_length (rs : List Record) : ∀ rom : Bytes,
    (rs.foldl Record.write rom).length = max rom.length (highestWritten rs) := by
  induction rs with
  | nil => intro rom; simp [highestWritten]
  | cons r rs ih =>
      intro rom
      rw [List.foldl_cons, ih, highestWritten_cons, Record.write, overlay_length, Record.stop]
      omega

section Patch

variable (hle : source.length ≤ target.length)

theorem start_agrees : Agrees source target 0 source := fun j => by rw [if_neg (Nat.not_lt_zero j)]

theorem tailRecord_faithful {highest : Nat} :
    ∀ r ∈ tailRecord source target highest, Faithful target r ∧ r.offset + 1 = target.length ∧
      r.stop = target.length := by
  intro r hr
  unfold tailRecord at hr
  split at hr
  · rw [List.mem_singleton.1 hr]
    refine ⟨⟨by simp, by simp, by simp [Record.stop]; omega,
      fun j hj => ?_⟩, by simp; omega, by simp [Record.stop]; omega⟩
    simp only [Record.bytes_data, List.length_singleton, Record.offset_data] at hj ⊢
    rw [show j = 0 by omega]
    rfl
  · cases hr

theorem tailRecord_mem {highest : Nat}
    (h : target.length > source.length ∧ highest < target.length) :
    .data (target.length - 1) [target.getD (target.length - 1) 0] ∈
      tailRecord source target highest := by
  unfold tailRecord
  rw [if_pos h]
  exact List.mem_singleton_self _

include hle in
/-- Written one after the other, the records of a patch give the target. -/
theorem patchRecords_write : (patchRecords source target).foldl Record.write source = target := by
  have hscan := scan_scans source target 0
  have hagrees := hscan.agrees (Nat.zero_le _) start_agrees
  have hinside : highestWritten (scan source target 0) ≤ target.length := by
    refine Nat.le_of_lt_succ ((highestWritten_lt (Nat.succ_pos _)).2 fun r hr => ?_)
    exact Nat.lt_succ_of_le (hscan.faithful r hr).1.inside
  have hlen := foldl_write_length (scan source target 0) source
  have hext : ∀ rom : Bytes, Agrees source target target.length rom → rom.length = target.length →
    rom = target := by
    intro rom hrom hsame
    refine getD_ext (d := 0) hsame fun j => ?_
    rw [hrom j]
    split
    · rfl
    · simp [List.getD_eq_getElem?_getD, List.getElem?_eq_none (show source.length ≤ j by omega),
        List.getElem?_eq_none (show target.length ≤ j by omega)]
  unfold patchRecords
  dsimp only
  rw [List.foldl_append]
  by_cases htail : target.length > source.length ∧
    highestWritten (scan source target 0) < target.length
  · obtain ⟨hfaithful, hoffset, hstop⟩ := tailRecord_faithful _ (tailRecord_mem htail)
    rw [tailRecord, if_pos htail, List.foldl_cons, List.foldl_nil]
    have hwritten := hagrees.write hfaithful (by omega) (by omega)
    rw [hstop] at hwritten
    refine hext _ hwritten ?_
    rw [Record.write, overlay_length, hlen]
    unfold Record.stop at hstop
    omega
  · unfold tailRecord
    rw [if_neg htail, List.foldl_nil]
    exact hext _ hagrees (by omega)

end Patch

theorem tailRecord_written {highest : Nat} {r : Record} (h : r ∈ tailRecord source target highest) :
    target.length > source.length ∧ highest < target.length := by
  unfold tailRecord at h
  split at h
  · assumption
  · cases h

/-- What is written in front of a record of a patch is not yet the target. -/
theorem before_ne_target {before after : List Record} {r : Record}
    (h : patchRecords source target = before ++ r :: after) :
    before.foldl Record.write source ≠ target := by
  have hscan := scan_scans source target 0
  have hstill : ∀ rest, scan source target 0 = before ++ r :: rest →
    before.foldl Record.write source ≠ target := by
    intro rest hrest heq
    rw [hrest] at hscan
    obtain ⟨hagrees, hdiffers⟩ := hscan.agrees_before start_agrees
    have hbyte := hagrees r.offset
    rw [heq, if_neg (Nat.lt_irrefl _)] at hbyte
    exact hdiffers hbyte.symm
  have hshort : ∀ r' ∈ tailRecord source target (highestWritten (scan source target 0)),
      (scan source target 0).foldl Record.write source ≠ target := by
    intro r' hr' heq
    have hwritten := tailRecord_written hr'
    have hlen := foldl_write_length (scan source target 0) source
    rw [heq] at hlen
    omega
  rcases List.append_eq_append_iff.1 h with ⟨rest, hbefore, htail⟩ | ⟨rest, hbefore, htail⟩
  · have hrest : rest = [] := by
      have hlen := congrArg List.length htail
      have : (tailRecord source target (highestWritten (scan source target 0))).length ≤ 1 := by
        unfold tailRecord
        split <;> simp
      refine List.length_eq_zero_iff.1 ?_
      simp only [List.length_append, List.length_cons] at hlen
      omega
    rw [hrest, List.append_nil] at hbefore
    rw [hbefore]
    exact hshort r (by rw [htail]; simp)
  · cases rest with
    | nil =>
        rw [List.append_nil] at hbefore
        rw [← hbefore]
        exact hshort r (by rw [← List.nil_append (tailRecord _ _ _), ← htail]; simp)
    | cons r' rest =>
        cases htail
        exact hstill rest hbefore

end SmwRecomp.Ips
