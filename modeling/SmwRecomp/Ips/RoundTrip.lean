import SmwRecomp.Ips.Scan

/-!
# The round trip of a patch

* `coopPatch_encoded` — the C function writes the records up to the first end mark.
* `MarkFree` — no record is needed at the offset that reads as the end mark; `markFree_iff` says the
  same of the records.
* `ips_round_trip` — a patch gives the target exactly then.
-/

set_option autoImplicit false

namespace SmwRecomp.Ips

variable {source target : Bytes}

/-- The offset whose bytes read `EOF`. -/
def markOffset : Nat := 0x454f46

/-- No record of its own is needed at the mark's offset: the target ends before it, a record in
front reaches it, or the source has its byte (and has it even where the target ends with it). -/
def MarkFree (source target : Bytes) : Prop :=
  target.length ≤ markOffset ∨ Covered source target markOffset ∨
    (sourceByte source markOffset = target.getD markOffset 0 ∧
      (markOffset < source.length ∨ target.length ≠ markOffset + 1))

/-! ## What the C function makes of them -/

section Encoded

variable {p a b : Bytes} {i v : Nat}

theorem bigEndian_three (v : Nat) :
    bigEndian 3 v = [UInt8.ofNat (v / 256 / 256), UInt8.ofNat (v / 256), UInt8.ofNat v] := by
  simp [bigEndian]

theorem ofBe24_bigEndian (h : v < 0x1000000) :
    ofBe24 (UInt8.ofNat (v / 256 / 256)) (UInt8.ofNat (v / 256)) (UInt8.ofNat v) = v := by
  simp [ofBe24]
  omega

theorem ofBe16_bigEndian (h : v < 0x10000) :
    ofBe16 (UInt8.ofNat (v / 256)) (UInt8.ofNat v) = v := by
  simp [ofBe16]
  omega

theorem fetch8_at {x : UInt8} (hp : p = a ++ (x :: b)) (hi : i = a.length) :
    CoopPatch.fetch8 p i = .ok x := by
  simp [CoopPatch.fetch8, hp, hi]

theorem fetchBe16_at (hp : p = a ++ (bigEndian 2 v ++ b)) (hi : i = a.length) (h : v < 0x10000) :
    CoopPatch.fetchBe16 p i = .ok v := by
  have hhigh : p = a ++ (UInt8.ofNat (v / 256) :: (UInt8.ofNat v :: b)) := by simp [hp, bigEndian]
  have hlow : p = (a ++ [UInt8.ofNat (v / 256)]) ++ (UInt8.ofNat v :: b) := by simp [hhigh]
  unfold CoopPatch.fetchBe16
  rw [fetch8_at hhigh hi, ok_bind, fetch8_at hlow (by simp [hi]), ok_bind, ofBe16_bigEndian h]
  rfl

theorem fetchBe24_at (hp : p = a ++ (bigEndian 3 v ++ b)) (hi : i = a.length) (h : v < 0x1000000) :
    CoopPatch.fetchBe24 p i = .ok v := by
  have hhigh : p =
    a ++ (UInt8.ofNat (v / 256 / 256) :: (UInt8.ofNat (v / 256) :: (UInt8.ofNat v :: b))) := by
    simp [hp, bigEndian]
  have hmiddle : p = (a ++ [UInt8.ofNat (v / 256 / 256)]) ++
    (UInt8.ofNat (v / 256) :: (UInt8.ofNat v :: b)) := by
    simp [hhigh]
  have hlow : p = (a ++ [UInt8.ofNat (v / 256 / 256), UInt8.ofNat (v / 256)]) ++
    (UInt8.ofNat v :: b) := by
    simp [hhigh]
  unfold CoopPatch.fetchBe24
  rw [fetch8_at hhigh hi, ok_bind, fetch8_at hmiddle (by simp [hi]), ok_bind,
    fetch8_at hlow (by simp [hi]), ok_bind, ofBe24_bigEndian h]
  rfl

/-- Only the mark's offset reads as the mark. -/
theorem bigEndian_eof (h : v < 0x1000000) : bigEndian 3 v = eof ↔ v = markOffset := by
  constructor
  · intro heq
    rw [bigEndian_three] at heq
    injection heq with ha heq
    injection heq with hb heq
    injection heq with hc _
    have hv := ofBe24_bigEndian h
    rw [ha, hb, hc] at hv
    exact hv.symm
  · rintro rfl
    rfl

theorem ensureCapacity_granted {rom : Bytes} {needed : Nat} (h : needed ≤ 0x1000000) :
    CoopPatch.ensureCapacity (fun _ => true) rom needed = some (padTo 0 needed rom) := by
  unfold CoopPatch.ensureCapacity
  split
  · rw [padTo_of_le ‹_›]
  · rw [if_neg (by omega), if_pos rfl]

/-- A pass of the C loop at a record. -/
theorem pass_encoded {r : Record} {rom : Bytes} (hr : r.Encodable) (hmark : r.offset ≠ markOffset)
    (hp : p = a ++ (r.encode ++ b)) :
    CoopPatch.pass (fun _ => true) p rom a.length =
      .ok (.next (r.write rom) (a ++ r.encode).length) := by
  have hstop := hr.inside
  have hshort := hr.short
  have hsome := hr.nonempty
  have hmax : Coop.SIZE_MAX = 18446744073709551615 := rfl
  have hthree : ∀ v : Nat, (bigEndian 3 v).length = 3 := fun _ => rfl
  have htwo : ∀ v : Nat, (bigEndian 2 v).length = 2 := fun _ => rfl
  have hunmarked : bigEndian 3 r.offset ≠ eof :=
    fun heq => hmark ((bigEndian_eof (by unfold Record.stop at hstop; omega)).1 heq)
  unfold CoopPatch.pass Record.write
  cases r with
  | data offset bytes =>
      simp only [Record.stop, Record.offset_data, Record.bytes_data]
        at hstop hshort hsome hunmarked ⊢
      rw [Record.encode] at hp ⊢
      have hlen : p.length = a.length + (3 + (2 + bytes.length)) + b.length := by
        rw [hp]
        simp only [List.length_append, hthree, htwo]
        omega
      have hoffset : p =
        a ++ (bigEndian 3 offset ++ (bigEndian 2 bytes.length ++ (bytes ++ b))) := by simp [hp]
      have hcount : p = (a ++ bigEndian 3 offset) ++
        (bigEndian 2 bytes.length ++ (bytes ++ b)) := by simp [hp]
      have hbytes : p = (a ++ (bigEndian 3 offset ++ bigEndian 2 bytes.length)) ++
        (bytes ++ b) := by simp [hp]
      rw [if_neg (by omega), fetchBytes_at hoffset rfl (hthree offset).symm, ok_bind,
        if_neg hunmarked, if_neg (by omega), fetchBe24_at hoffset rfl (by omega), ok_bind,
        fetchBe16_at hcount (by rw [List.length_append, hthree]) (by omega), ok_bind,
        if_neg (by omega), if_neg (by omega), ensureCapacity_granted hstop]
      show (fetchBytes p (a.length + 5) bytes.length >>= fun data =>
        store (padTo 0 (offset + bytes.length) rom) offset data >>= fun rom =>
          pure (CoopPatch.Pass.next rom (a.length + 5 + bytes.length))) = _
      have hend : (a ++ (bigEndian 3 offset ++ (bigEndian 2 bytes.length ++ bytes))).length =
          a.length + 5 + bytes.length := by
        simp only [List.length_append, hthree, htwo]
        omega
      rw [fetchBytes_at hbytes (by simp only [List.length_append, hthree, htwo]) rfl, ok_bind,
        CoopPatch.store_padTo, ok_bind, hend]
      rfl
  | fill offset count value =>
      simp only [Record.stop, Record.offset_fill, Record.bytes_fill, List.length_replicate]
        at hstop hshort hsome hunmarked ⊢
      rw [Record.encode] at hp ⊢
      have hlen : p.length = a.length + (3 + (2 + (2 + 1))) + b.length := by
        rw [hp]
        simp only [List.length_append, hthree, htwo, List.length_cons, List.length_nil]
        omega
      have hoffset : p =
        a ++ (bigEndian 3 offset ++ ([0, 0] ++ (bigEndian 2 count ++ (value :: b)))) := by simp [hp]
      have hzero : p = (a ++ bigEndian 3 offset) ++
        (bigEndian 2 0 ++ (bigEndian 2 count ++ (value :: b))) := by
        simp [hp, bigEndian]
      have hcount : p = (a ++ (bigEndian 3 offset ++ [0, 0])) ++
        (bigEndian 2 count ++ (value :: b)) := by simp [hp]
      have hvalue : p = (a ++ (bigEndian 3 offset ++ ([0, 0] ++ bigEndian 2 count))) ++
        (value :: b) := by simp [hp]
      have hstore := CoopPatch.store_padTo rom offset (List.replicate count value)
      rw [List.length_replicate] at hstore
      rw [if_neg (by omega), fetchBytes_at hoffset rfl (hthree offset).symm, ok_bind,
        if_neg hunmarked, if_neg (by omega), fetchBe24_at hoffset rfl (by omega), ok_bind,
        fetchBe16_at hzero (by rw [List.length_append, hthree]) (by omega), ok_bind, if_pos rfl,
        if_neg (by omega), fetchBe16_at hcount (by simp [hthree]) (by omega), ok_bind,
        fetch8_at hvalue (by simp [hthree, htwo]), ok_bind,
        if_neg (by omega), ensureCapacity_granted hstop]
      show (store (padTo 0 (offset + count) rom) offset (List.replicate count value) >>= fun rom =>
        pure (CoopPatch.Pass.next rom (a.length + 5 + 3))) = _
      rw [hstore, ok_bind]
      simp only [List.length_append, hthree, htwo, List.length_cons, List.length_nil, Nat.add_assoc]
      rfl

/-- The C loop over encoded records, up to the mark. -/
theorem loop_encoded (p tail : Bytes) : ∀ (rs : List Record) (a rom : Bytes),
    (∀ r ∈ rs, r.Encodable ∧ r.offset ≠ markOffset) → p = a ++ (encodeAll rs ++ (eof ++ tail)) →
      CoopPatch.loop (fun _ => true) p rom a.length = .ok (rs.foldl Record.write rom, none)
  | [], a, rom, _, hp => by
    rw [encodeAll_nil, List.nil_append] at hp
    have hdone : CoopPatch.pass (fun _ => true) p rom a.length = .ok .done := by
      unfold CoopPatch.pass
      have hroom : ¬ a.length + 3 > p.length := by
        simp only [hp, eof, List.length_append, List.length_cons]
        omega
      rw [if_neg hroom, fetchBytes_at hp rfl (show 3 = eof.length from rfl), ok_bind, if_pos rfl]
      rfl
    unfold CoopPatch.loop
    rw [hdone]
    rfl
  | r :: rs, a, rom, hrs, hp => by
    rw [List.forall_mem_cons] at hrs
    rw [encodeAll_cons, List.append_assoc] at hp
    have hpass : CoopPatch.pass (fun _ => true) p rom a.length =
        .ok (.next (r.write rom) (a ++ r.encode).length) := pass_encoded hrs.1.1 hrs.1.2 hp
    have hrest :=
      loop_encoded p tail rs (a ++ r.encode) (r.write rom) hrs.2 (by rw [hp, List.append_assoc])
    unfold CoopPatch.loop
    rw [hpass]
    exact hrest

/-- The C function writes the records in front of the first mark. -/
theorem coopPatch_encoded (rom tail : Bytes) {rs : List Record}
    (hrs : ∀ r ∈ rs, r.Encodable ∧ r.offset ≠ markOffset) :
    CoopPatch.applyIps (fun _ => true) rom (magic ++ (encodeAll rs ++ (eof ++ tail))) =
      .ok (rs.foldl Record.write rom, none) := by
  have hloop := loop_encoded (magic ++ (encodeAll rs ++ (eof ++ tail))) tail rs magic rom hrs rfl
  have hmagic : fetchBytes (magic ++ (encodeAll rs ++ (eof ++ tail))) 0 5 = .ok magic :=
    fetchBytes_at (List.nil_append _).symm rfl rfl
  unfold CoopPatch.applyIps
  rw [if_neg (by simp [magic, eof]; omega), hmagic, ok_bind, if_neg (fun h => h rfl)]
  exact hloop

end Encoded

/-! ## The mark's offset -/

theorem starts_scan (source target : Bytes) (p : Nat) :
    Starts source target p ↔ ∃ r ∈ scan source target 0, r.offset = p :=
  (scan_scans source target 0).starts_iff (fun s hs _ => absurd hs (Nat.not_lt_zero s)) p
    (Nat.zero_le p)

theorem covered_scan (source target : Bytes) (p : Nat) :
    Covered source target p ↔ ∃ r ∈ scan source target 0, r.offset < p ∧ p < r.stop := by
  have hall := (scan_scans source target 0).faithful
  constructor
  · rintro ⟨s, hsp, hstarts, hreach⟩
    obtain ⟨r, hr, rfl⟩ := (starts_scan source target s).1 hstarts
    rw [← (hall r hr).2] at hreach
    exact ⟨r, hr, hsp, hreach⟩
  · rintro ⟨r, hr, hlt, hreach⟩
    unfold Record.stop at hreach
    rw [(hall r hr).2] at hreach
    exact ⟨r.offset, hlt, (starts_scan source target r.offset).2 ⟨r, hr, rfl⟩, hreach⟩

/-- The condition on the two byte strings is that no record has the mark's offset. -/
theorem markFree_iff : MarkFree source target ↔ ∀ r ∈ patchRecords source target, r.offset ≠
    markOffset := by
  have hall := (scan_scans source target 0).faithful
  constructor
  · intro hfree r hr hmark
    rcases List.mem_append.1 hr with hr | hr
    · have hstarts := (starts_scan source target markOffset).2 ⟨r, hr, hmark⟩
      unfold Starts at hstarts
      rcases hfree with hend | ⟨s, hs, hstart, hreach⟩ | ⟨hsame, -⟩
      · omega
      · have := hstarts.2.2 s hs hstart
        omega
      · exact hstarts.2.1 hsame
    · obtain ⟨hlonger, hhighest⟩ := tailRecord_written hr
      obtain ⟨-, hlast, -⟩ := tailRecord_faithful r hr
      rw [hmark] at hlast
      rcases hfree with hend | hcovered | ⟨-, hlast'⟩
      · omega
      · obtain ⟨r', hr', -, hreach⟩ := (covered_scan source target markOffset).1 hcovered
        have := (highestWritten_lt (by omega)).1 hhighest r' hr'
        omega
      · omega
  · intro hrecords
    by_cases hend : target.length ≤ markOffset
    · exact Or.inl hend
    by_cases hcovered : Covered source target markOffset
    · exact Or.inr (Or.inl hcovered)
    have hsame : sourceByte source markOffset = target.getD markOffset 0 := by
      refine Classical.byContradiction fun hdiffers => ?_
      have hstarts : Starts source target markOffset := by
        unfold Starts
        exact ⟨by omega, hdiffers, fun s hs hstart => Nat.not_lt.1 fun hreach =>
          hcovered ⟨s, hs, hstart, hreach⟩⟩
      obtain ⟨r, hr, hmark⟩ := (starts_scan source target markOffset).1 hstarts
      exact hrecords r (List.mem_append_left _ hr) hmark
    refine Or.inr (Or.inr ⟨hsame, Classical.byContradiction fun hlast => ?_⟩)
    have hhighest : highestWritten (scan source target 0) < target.length := by
      refine (highestWritten_lt (by omega)).2 fun r hr => ?_
      have hinside := (hall r hr).1.inside
      have hsome := (hall r hr).1.nonempty
      have hne := hrecords r (List.mem_append_left _ hr)
      have hreach : ¬ (r.offset < markOffset ∧ markOffset < r.stop) := fun h =>
        hcovered ((covered_scan source target markOffset).2 ⟨r, hr, h⟩)
      have hstop : r.stop = r.offset + r.bytes.length := rfl
      omega
    have htail := tailRecord_mem (show target.length > source.length ∧ _ from ⟨by omega, hhighest⟩)
    have := hrecords _ (List.mem_append_right _ htail)
    rw [Record.offset_data] at this
    omega

/-! ## The round trip -/

theorem exists_first {α : Type} {P : α → Prop} : ∀ {xs : List α}, (∃ x ∈ xs, P x) →
    ∃ before x after, xs = before ++ x :: after ∧ P x ∧ ∀ y ∈ before, ¬ P y
  | [], h => by simp at h
  | x :: xs, h => by
    by_cases hx : P x
    · exact ⟨[], x, xs, rfl, hx, fun y hy => nomatch hy⟩
    · have hrest : ∃ y ∈ xs, P y := by
        obtain ⟨y, hy, hP⟩ := h
        rcases List.mem_cons.1 hy with rfl | hy
        · exact absurd hP hx
        · exact ⟨y, hy, hP⟩
      obtain ⟨before, y, after, rfl, hy, hbefore⟩ := exists_first hrest
      exact ⟨x :: before, y, after, rfl, hy, List.forall_mem_cons.2 ⟨hx, hbefore⟩⟩

/-- What the C function makes of a patch, and when that is the target. -/
theorem coopPatch_patch (hle : source.length ≤ target.length)
    (htarget : target.length ≤ 0x1000000) :
    ∃ bytes, CoopPatch.applyIps (fun _ => true) source
      (magic ++ (encodeAll (patchRecords source target) ++ eof)) =
      .ok (bytes, none) ∧ (bytes = target ↔ MarkFree source target) := by
  have hencodable : ∀ r ∈ patchRecords source target, r.Encodable := by
    intro r hr
    have hfaithful : Faithful target r := by
      rcases List.mem_append.1 hr with hr | hr
      · exact ((scan_scans source target 0).faithful r hr).1
      · exact (tailRecord_faithful r hr).1
    have hinside := hfaithful.inside
    exact ⟨hfaithful.nonempty, hfaithful.short, by omega⟩
  by_cases hfree : MarkFree source target
  · have hmark := markFree_iff.1 hfree
    have happly := coopPatch_encoded source [] fun r hr => ⟨hencodable r hr, hmark r hr⟩
    rw [List.append_nil] at happly
    exact ⟨_, happly, iff_of_true (patchRecords_write hle) hfree⟩
  · have hbad : ∃ r ∈ patchRecords source target, r.offset = markOffset := by
      refine Classical.byContradiction fun hnone =>
        hfree (markFree_iff.2 fun r hr hmark => hnone ⟨r, hr, hmark⟩)
    obtain ⟨before, r, after, hsplit, hmark, hbefore⟩ := exists_first hbad
    obtain ⟨rest, hrest⟩ : ∃ rest, r.encode = eof ++ rest := by
      cases r with
      | data offset bytes =>
          rw [Record.offset_data] at hmark
          exact ⟨_, by rw [Record.encode, hmark]; rfl⟩
      | fill offset count value =>
          rw [Record.offset_fill] at hmark
          exact ⟨_, by rw [Record.encode, hmark]; rfl⟩
    have happly := coopPatch_encoded source (rest ++ (encodeAll after ++ eof)) fun r hr =>
      ⟨hencodable r (by rw [hsplit]; exact List.mem_append_left _ hr), hbefore r hr⟩
    refine ⟨before.foldl Record.write source, ?_, iff_of_false (before_ne_target hsplit) hfree⟩
    rw [← happly, hsplit]
    simp [hrest]

/-- **Round trip.**  For a target of at most 16 MiB that is no shorter than its source, a patch is
created, and each of the two appliers makes the target of it exactly when no record is needed at the
offset that reads as the end mark. -/
theorem ips_round_trip (hle : source.length ≤ target.length) (htarget : target.length ≤ 0x1000000) :
    ∃ patch, createIps source target = .ok patch ∧
      ((∃ records, MsuPatch.applyIps source patch = .ok (records, target)) ↔
        MarkFree source target) ∧
      (CoopPatch.applyIps (fun _ => true) source patch = .ok (target, none) ↔
        MarkFree source target) := by
  obtain ⟨bytes, happly, hiff⟩ := coopPatch_patch hle htarget
  obtain ⟨records, hpython⟩ := msuPatch_follows happly
  refine ⟨_, createIps_eq htarget, ?_, ?_⟩
  · rw [← hiff, hpython]
    constructor
    · rintro ⟨n, hn⟩
      cases hn
      rfl
    · rintro rfl
      exact ⟨records, rfl⟩
  · rw [← hiff, happly]
    constructor
    · intro h
      cases h
      rfl
    · rintro rfl
      rfl

theorem ips_round_trip_grown : ∃ patch, createIps [0, 0] [0, 1, 1, 1, 1, 1] = .ok patch ∧
    CoopPatch.applyIps (fun _ => true) [0, 0] patch = .ok ([0, 1, 1, 1, 1, 1], none) := by
  obtain ⟨patch, hcreate, -, hiff⟩ :=
    ips_round_trip (show [0, 0].length ≤ [0, 1, 1, 1, 1, 1].length by decide)
    (by decide)
  exact ⟨patch, hcreate, hiff.2 (Or.inl (by decide))⟩

/-- One byte set behind `markOffset` cleared ones. -/
def markedTarget : Bytes := List.replicate markOffset 0 ++ [1]

theorem markedTarget_getD : ∀ j, markedTarget.getD j 0 = if j = markOffset then 1 else 0 := by
  intro j
  rw [markedTarget, List.getD_eq_getElem?_getD, List.getElem?_append, List.getElem?_replicate,
    List.length_replicate]
  by_cases hlt : j < markOffset
  · rw [if_pos hlt, if_pos hlt, if_neg (by omega)]
    rfl
  · rw [if_neg hlt]
    by_cases heq : j = markOffset
    · rw [if_pos heq, heq, Nat.sub_self]
      rfl
    · obtain ⟨k, hk⟩ : ∃ k, j - markOffset = k + 1 := ⟨j - markOffset - 1, by omega⟩
      rw [if_neg heq, hk]
      rfl

theorem markedTarget_marked : ¬ MarkFree (List.replicate (markOffset + 1) 0) markedTarget := by
  have hsource : ∀ j, sourceByte (List.replicate (markOffset + 1) 0) j = 0 := by
    intro j
    rw [sourceByte, List.getD_eq_getElem?_getD, List.getElem?_replicate]
    split <;> rfl
  rintro (hend | ⟨s, hs, hstarts, -⟩ | ⟨hsame, -⟩)
  · rw [markedTarget, List.length_append, List.length_replicate, List.length_singleton] at hend
    omega
  · unfold Starts at hstarts
    refine hstarts.2.1 ?_
    rw [hsource, markedTarget_getD, if_neg (by omega)]
  · rw [hsource, markedTarget_getD, if_pos rfl] at hsame
    cases hsame

/-- A single byte that differs at the mark's offset is lost: its record reads as the end mark. -/
theorem marked_byte_lost :
    ∃ patch, createIps (List.replicate (markOffset + 1) 0) markedTarget = .ok patch ∧
    (∀ records, MsuPatch.applyIps (List.replicate (markOffset + 1) 0) patch ≠
      .ok (records, markedTarget)) ∧
    CoopPatch.applyIps (fun _ => true) (List.replicate (markOffset + 1) 0) patch ≠
      .ok (markedTarget, none) := by
  have hlen : markedTarget.length = markOffset + 1 := by simp [markedTarget]
  have hsmall : markOffset + 1 ≤ 0x1000000 := by decide
  have hle : (List.replicate (markOffset + 1) (0 : UInt8)).length ≤ markedTarget.length := by
    simp [hlen]
  obtain ⟨bytes, happly, hiff⟩ := coopPatch_patch hle (hlen ▸ hsmall)
  have hne : bytes ≠ markedTarget := fun heq => markedTarget_marked (hiff.1 heq)
  obtain ⟨n, hpython⟩ := msuPatch_follows happly
  refine ⟨_, createIps_eq (hlen ▸ hsmall), fun records h => ?_, fun h => ?_⟩
  · rw [hpython] at h
    injection h with h
    exact hne (congrArg Prod.snd h)
  · rw [happly] at h
    injection h with h
    exact hne (congrArg Prod.fst h)

end SmwRecomp.Ips
