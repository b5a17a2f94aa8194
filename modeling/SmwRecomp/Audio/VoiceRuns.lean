import SmwRecomp.Audio.Mix
import Mathlib.Algebra.Order.BigOperators.Group.Finset
import Mathlib.Algebra.Order.Floor.Div
import Mathlib.GroupTheory.GroupAction.Ring

/-!
# How long a voice lasts

* `standing` — a voice `n` output frames behind its start; `next_standing`, `iterate_standing`.
* `Audibles` — the rates and lengths of the clips the pool lets in.
* `voice_step`, `voice_run` — a voice that is left to the mixer, over one call and over a run.
* `share_plain` — at equal rates a voice gives the frames of its clip as they are.
* `voice_length` — all of it, behind the call that starts the voice.
-/

set_option autoImplicit false

namespace SmwRecomp.Audio

/-! ## One voice by itself -/

/-- `step`: the advance in one output frame. -/
def stepOf (slot : ClipSlot) (outputRate : UInt32) : Nat :=
  slot.sampleRate.toNat * 2 ^ 32 / outputRate.toNat

/-- The output frames a voice lasts. -/
def lengthOf (slot : ClipSlot) (outputRate : UInt32) : Nat :=
  slot.frameCount.toNat * 2 ^ 32 ⌈/⌉ stepOf slot outputRate

/-- A voice `n` output frames behind its start. -/
def standing (slot : ClipSlot) (outputRate : UInt32) (clip gainPercent : Int32) (n : Nat) : Voice :=
  if n < lengthOf slot outputRate then ⟨clip, .ofNat (n * stepOf slot outputRate), gainPercent⟩
    else .idle

/-- What the pool lets in of a clip. -/
structure ClipSlot.Audible (slot : ClipSlot) : Prop where
  frames : 0 < slot.frameCount.toNat ∧ slot.frameCount.toNat ≤ 2 ^ 23
  rate : 8000 ≤ slot.sampleRate.toNat ∧ slot.sampleRate.toNat ≤ 192000

section Standing

variable {slot : ClipSlot} (hslot : slot.Audible) {outputRate : UInt32}
  (hrate : 8000 ≤ outputRate.toNat ∧ outputRate.toNat ≤ 192000)

include hslot hrate

theorem stepOf_bounds : 0 < stepOf slot outputRate ∧ stepOf slot outputRate ≤ 24 * 2 ^ 32 := by
  obtain ⟨hlow, hhigh⟩ := hslot.rate
  unfold stepOf
  constructor
  · apply Nat.div_pos <;> omega
  · apply Nat.div_le_of_le_mul
    calc slot.sampleRate.toNat * 2 ^ 32 ≤ 8000 * (24 * 2 ^ 32) := by omega
      _ ≤ outputRate.toNat * (24 * 2 ^ 32) := Nat.mul_le_mul_right _ hrate.1

theorem lt_lengthOf {n : Nat} :
    n < lengthOf slot outputRate ↔ n * stepOf slot outputRate < slot.frameCount.toNat * 2 ^ 32 := by
  unfold lengthOf
  rw [← Nat.not_le, ceilDiv_le_iff_le_mul (stepOf_bounds hslot hrate).1, Nat.not_le, Nat.mul_comm n]

omit hslot hrate in
theorem stepOf_same (hsame : slot.sampleRate = outputRate) (hpos : 0 < outputRate.toNat) :
    stepOf slot outputRate = 2 ^ 32 := by
  unfold stepOf
  rw [hsame]
  exact Nat.mul_div_cancel_left _ hpos

/-- At equal rates a voice lasts as long as its clip. -/
theorem lengthOf_same (hsame : slot.sampleRate = outputRate) :
    lengthOf slot outputRate = slot.frameCount.toNat := by
  have hlt := fun n => lt_lengthOf hslot hrate (n := n)
  rw [stepOf_same hsame (by omega)] at hlt
  refine Nat.le_antisymm ?_ ?_
  · rw [← Nat.not_lt, hlt]
    exact Nat.lt_irrefl _
  · by_contra hless
    have hlast := hlt (lengthOf slot outputRate)
    omega

omit hrate in
theorem step_toNat : (slot.sampleRate.toUInt64 <<< 32 / outputRate.toUInt64).toNat =
    stepOf slot outputRate := by
  have hhigh := hslot.rate.2
  have hshift : (slot.sampleRate.toUInt64 <<< 32).toNat = slot.sampleRate.toNat * 2 ^ 32 := by
    have hbits : (32 : UInt64).toNat % 64 = 32 := rfl
    rw [UInt64.toNat_shiftLeft, UInt32.toNat_toUInt64, hbits, Nat.shiftLeft_eq]
    exact Nat.mod_eq_of_lt (by omega)
  rw [UInt64.toNat_div, hshift, UInt32.toNat_toUInt64]
  rfl

/-- The position of a voice that is not at its end. -/
theorem phase_toNat {n : Nat} (hn : n < lengthOf slot outputRate) :
    (UInt64.ofNat (n * stepOf slot outputRate)).toNat = n * stepOf slot outputRate := by
  have hlt := (lt_lengthOf hslot hrate).1 hn
  have hframes := hslot.frames.2
  rw [UInt64.toNat_ofNat']
  exact Nat.mod_eq_of_lt (by omega)

omit hslot hrate in
theorem clip_active {clips : Clips} {clip : Int32} {k : Fin SNES_MOD_AUDIO_MAX_CLIPS}
    (hk : clipSlot clips clip = some k) : clip ≠ SNES_MOD_AUDIO_CLIP_INVALID := by
  intro hinvalid
  have hindex := (clipSlot_eq_some_iff.1 hk).1
  have hzero : SNES_MOD_AUDIO_CLIP_INVALID.toInt = 0 := rfl
  rw [hinvalid, hzero] at hindex
  omega

omit hslot hrate in
theorem sourceFrame_toNat (phase : UInt64) (hphase : phase.toNat < 2 ^ 55) :
    (phase >>> 32).toUInt32.toNat = phase.toNat / 2 ^ 32 := by
  have hbits : (32 : UInt64).toNat % 64 = 32 := rfl
  rw [UInt64.toNat_toUInt32, UInt64.toNat_shiftRight, hbits, Nat.shiftRight_eq_div_pow]
  exact Nat.mod_eq_of_lt (by omega)

theorem heard_standing {clips : Clips} {clip gainPercent : Int32}
    {k : Fin SNES_MOD_AUDIO_MAX_CLIPS} {n : Nat}
    (hclip : n < lengthOf slot outputRate → clipSlot clips clip = some k ∧ clips k = slot) :
    heard clips (standing slot outputRate clip gainPercent n) =
      if n < lengthOf slot outputRate
        then some (slot, ⟨clip, .ofNat (n * stepOf slot outputRate), gainPercent⟩)
      else none := by
  unfold standing
  by_cases hn : n < lengthOf slot outputRate
  · unfold heard
    obtain ⟨hk, hsame⟩ := hclip hn
    have hactive := clip_active hk
    have hphase := phase_toNat hslot hrate hn
    have hlt := (lt_lengthOf hslot hrate).1 hn
    have hframes := hslot.frames.2
    have hinside : ¬ (UInt64.ofNat (n * stepOf slot outputRate) >>> 32).toUInt32 ≥
      slot.frameCount := by
      rw [ge_iff_le, UInt32.le_iff_toNat_le, sourceFrame_toNat _ (by rw [hphase]; omega), hphase]
      omega
    simp only [if_pos hn, if_neg hactive, hk, hsame, if_neg hinside]
  · rw [if_neg hn, if_neg hn, heard_idle]

/-- One output frame on. -/
theorem next_standing {clips : Clips} {clip gainPercent : Int32}
    {k : Fin SNES_MOD_AUDIO_MAX_CLIPS} {n : Nat}
    (hclip : n < lengthOf slot outputRate → clipSlot clips clip = some k ∧ clips k = slot) :
    (standing slot outputRate clip gainPercent n).next clips outputRate =
      standing slot outputRate clip gainPercent (n + 1) := by
  have hbounds := stepOf_bounds hslot hrate
  have hstep : (slot.sampleRate.toUInt64 <<< 32 / outputRate.toUInt64).toNat =
    stepOf slot outputRate :=
    step_toNat hslot
  have hframes := hslot.frames.2
  have hnext := lt_lengthOf hslot hrate (n := n + 1)
  rw [Nat.add_mul, Nat.one_mul] at hnext
  unfold standing
  by_cases hn : n < lengthOf slot outputRate
  · unfold Voice.next
    obtain ⟨hk, hsame⟩ := hclip hn
    have hactive := clip_active hk
    have hphase := phase_toNat hslot hrate hn
    have hlt := (lt_lengthOf hslot hrate).1 hn
    have hinside : ¬ (UInt64.ofNat (n * stepOf slot outputRate) >>> 32).toUInt32 ≥
      slot.frameCount := by
      rw [ge_iff_le, UInt32.le_iff_toNat_le, sourceFrame_toNat _ (by rw [hphase]; omega), hphase]
      omega
    simp only [if_pos hn, if_neg hactive, hk, hsame, if_neg hinside]
    unfold advance Voice.forward
    have hroom : ¬ UInt64.ofNat (n * stepOf slot outputRate) >
        UINT64_MAX - slot.sampleRate.toUInt64 <<< 32 / outputRate.toUInt64 := by
      have hmax : UINT64_MAX.toNat = 2 ^ 64 - 1 := rfl
      have hle : slot.sampleRate.toUInt64 <<< 32 / outputRate.toUInt64 ≤ UINT64_MAX := by
        rw [UInt64.le_iff_toNat_le, hmax, hstep]
        omega
      rw [gt_iff_lt, UInt64.lt_iff_toNat_lt, UInt64.toNat_sub_of_le _ _ hle, hmax, hstep, hphase]
      omega
    have hsum : UInt64.ofNat (n * stepOf slot outputRate) + slot.sampleRate.toUInt64 <<<
      32 / outputRate.toUInt64 =
        .ofNat ((n + 1) * stepOf slot outputRate) := by
      apply UInt64.toNat_inj.1
      rw [UInt64.toNat_add, hphase, hstep, UInt64.toNat_ofNat', Nat.add_mul, Nat.one_mul]
    have hsumNat : (UInt64.ofNat ((n + 1) * stepOf slot outputRate)).toNat =
        n * stepOf slot outputRate + stepOf slot outputRate := by
      rw [UInt64.toNat_ofNat', Nat.add_mul, Nat.one_mul]
      exact Nat.mod_eq_of_lt (by omega)
    dsimp only
    rw [if_neg hroom, hsum]
    unfold Voice.stopAt
    have hend : (UInt64.ofNat ((n + 1) * stepOf slot outputRate)) >>> 32 ≥
      slot.frameCount.toUInt64 ↔
        ¬ n + 1 < lengthOf slot outputRate := by
      have hbits : (32 : UInt64).toNat % 64 = 32 := rfl
      rw [ge_iff_le, UInt64.le_iff_toNat_le, UInt64.toNat_shiftRight, hbits,
        Nat.shiftRight_eq_div_pow, hsumNat, UInt32.toNat_toUInt64, hnext]
      omega
    by_cases hgoes : n + 1 < lengthOf slot outputRate
    · rw [if_pos hgoes, if_neg fun h => hend.1 h.2 hgoes]
    · rw [if_neg hgoes, if_pos ⟨hactive, hend.2 hgoes⟩]
  · have hover : ¬ n + 1 < lengthOf slot outputRate := by omega
    rw [if_neg hn, if_neg hover, next_idle]

/-- Any number of output frames on. -/
theorem iterate_standing {clips : Clips} {clip gainPercent : Int32}
    {k : Fin SNES_MOD_AUDIO_MAX_CLIPS} {n : Nat}
    (hclip : n < lengthOf slot outputRate → clipSlot clips clip = some k ∧ clips k = slot) : ∀ m,
    (Voice.next clips outputRate)^[m] (standing slot outputRate clip gainPercent n) =
      standing slot outputRate clip gainPercent (n + m)
  | 0 => by rw [Function.iterate_zero_apply, Nat.add_zero]
  | m + 1 => by
      rw [Function.iterate_succ_apply', iterate_standing hclip m,
        next_standing hslot hrate fun hlt => hclip (by omega), Nat.add_assoc]

end Standing

/-! ## Runs -/

/-- The clips a pool holds are audible. -/
def Audibles (s : Pool) : Prop := ∀ i, (s.clips i).samples.isSome → (s.clips i).Audible

theorem PoolInv.frames_le {s : Pool} (h : PoolInv s) {i : Fin SNES_MOD_AUDIO_MAX_CLIPS}
    (hlive : (s.clips i).samples.isSome) : (s.clips i).frameCount.toNat ≤ 2 ^ 23 := by
  have hmax : SNES_MOD_AUDIO_MAX_TOTAL_BYTES.toNat = 16777216 := rfl
  have hbudget := UInt64.le_iff_toNat_le.1 h.budget
  have hone : (s.clips i).size ≤ ∑ j, (s.clips j).size :=
    Finset.single_le_sum (f := fun j => (s.clips j).size) (fun _ _ => Nat.zero_le _)
      (Finset.mem_univ i)
  have hbytes := (h.slots i).bytes hlive
  rw [pcmBytes_toNat ((h.slots i).channels hlive)] at hbytes
  have hchannels : 1 ≤ (s.clips i).channels.toNat := by
    rcases (h.slots i).channels hlive with hc | hc <;> rw [hc] <;> decide
  have hframes := Nat.mul_le_mul_left (s.clips i).frameCount.toNat hchannels
  have hsum := h.bytes
  omega

theorem second_ok {α : Type} {r : Except Stop (α × Pool)} {t : Pool}
    (h : (r >>= fun x => pure x.2 : Except Stop Pool) = .ok t) : ∃ a, r = .ok (a, t) := by
  cases r with
  | error stop => cases h
  | ok x => cases h; exact ⟨x.1, rfl⟩

theorem register_clips {s t : Pool} {samples : Option (List Int16)}
    {frameCount sampleRate channels : UInt32}
    {allocated : Bool} {handle : Int32}
    (h : s.registerPcmS16 samples frameCount sampleRate channels allocated = .ok (handle, t)) :
    t.clips = s.clips ∨ ∃ i slot, (s.clips i).samples = none ∧
    t.clips = Function.update s.clips i slot ∧
      8000 ≤ slot.sampleRate.toNat ∧ slot.sampleRate.toNat ≤ 192000 := by
  unfold Pool.registerPcmS16 copySamples at h
  cases samples with
  | none => cases h; exact Or.inl rfl
  | some samples =>
      dsimp only at h
      split at h
      · cases h; exact Or.inl rfl
      rename_i hvalid
      split at h
      · cases h; exact Or.inl rfl
      split at h
      · cases h; exact Or.inl rfl
      split at h
      · cases h; exact Or.inl rfl
      rename_i index hfind
      split at h
      · cases h; exact Or.inl rfl
      split at h
      · cases h
        have hnone := List.find?_some hfind
        unfold pcmInvalid at hvalid
        simp only [not_or, not_and_or, not_not, UInt32.not_lt, gt_iff_lt] at hvalid
        obtain ⟨-, hlow, hhigh, -⟩ := hvalid
        exact Or.inr ⟨index, _, Option.isNone_iff_eq_none.1 hnone, rfl,
          UInt32.le_iff_toNat_le.1 hlow, UInt32.le_iff_toNat_le.1 hhigh⟩
      · cases h

theorem play_cases {s t : Pool} {clip gainPercent : Int32} {played : Bool}
    (h : s.play clip gainPercent = .ok (played, t)) : t.clips = s.clips ∧ (played = true →
      (clipSlot s.clips clip).isSome ∧
      ∃ i, t.voices = Function.update s.voices i ⟨clip, 0, clampGain gainPercent⟩) := by
  unfold Pool.play at h
  split at h
  · cases h
    exact ⟨rfl, fun hno => absurd hno (by decide)⟩
  rename_i hclip
  rw [Bool.not_eq_true, Option.isNone_eq_false_iff] at hclip
  dsimp only at h
  split at h
  · cases h
    exact ⟨rfl, fun _ => ⟨hclip, _, rfl⟩⟩
  split at h
  · cases h
    exact ⟨rfl, fun _ => ⟨hclip, _, rfl⟩⟩
  · cases h

theorem map_ok {α β : Type} {r : Except Stop α} {f : α → β} {b : β} (h : r.map f = .ok b) :
    ∃ a, r = .ok a ∧ f a = b := by
  cases r with
  | error stop => cases h
  | ok a => cases h; exact ⟨a, rfl, rfl⟩

theorem mix_clips {s t : Pool} {dst dst' : List Int16} {frameCount : Int32}
    {outputRate outputChannels : UInt32}
    (h : s.mix dst frameCount outputRate outputChannels = .ok (dst', t)) : t.clips = s.clips := by
  by_cases hinvalid : mixInvalid frameCount outputRate outputChannels
  · unfold Pool.mix at h
    rw [if_pos hinvalid] at h
    cases h
    rfl
  · rw [mix_valid hinvalid] at h
    obtain ⟨r, -, hr⟩ := map_ok h
    cases hr
    rfl

/-- What a call does to the clips: nothing, or a clip enters a free slot, or one leaves with its
voices. -/
theorem perform_clips {s t : Pool} {act : Act} (h : s.perform act = .ok t) :
    t.clips = s.clips ∨
    (∃ i slot, (s.clips i).samples = none ∧ t.clips = Function.update s.clips i slot ∧
      8000 ≤ slot.sampleRate.toNat ∧ slot.sampleRate.toNat ≤ 192000) ∨
    ∃ clip i, clipSlot s.clips clip = some i ∧ t.clips = Function.update s.clips i .free ∧
      act = .unregister clip ∧ t.voices = fun j => if (s.voices j).clip = clip then .idle
      else s.voices j := by
  cases act with
  | register samples frameCount sampleRate channels allocated =>
      obtain ⟨handle, hregister⟩ := second_ok h
      rcases register_clips hregister with hsame | hentered
      · exact Or.inl hsame
      · exact Or.inr (Or.inl hentered)
  | unregister clip =>
      cases h
      unfold Pool.unregister
      cases hclip : clipSlot s.clips clip with
      | none => exact Or.inl rfl
      | some i => exact Or.inr (Or.inr ⟨clip, i, hclip, rfl, rfl, rfl⟩)
  | play clip gainPercent =>
      obtain ⟨played, hplay⟩ := second_ok h
      exact Or.inl (play_cases hplay).1
  | stopAll => cases h; exact Or.inl rfl
  | mix dst frameCount outputRate outputChannels =>
      obtain ⟨dst', hmix⟩ := second_ok h
      exact Or.inl (mix_clips hmix)

theorem Audibles.step {s t : Pool} {act : Act} (h : Audibles s) (ht : PoolInv t)
    (hperform : s.perform act = .ok t) :
    Audibles t := by
  intro j hlive
  refine ⟨⟨(ht.slots j).frames hlive, ht.frames_le hlive⟩, ?_⟩
  rcases perform_clips hperform with hsame | ⟨i, slot, -, hclips, hrates⟩ | ⟨clip, i, -, hclips, -⟩
  · rw [hsame] at hlive ⊢
    exact (h j hlive).rate
  · rw [hclips] at hlive ⊢
    by_cases hj : j = i
    · rw [hj, Function.update_self]
      exact hrates
    · rw [Function.update_of_ne hj] at hlive ⊢
      exact (h j hlive).rate
  · rw [hclips] at hlive ⊢
    by_cases hj : j = i
    · rw [hj, Function.update_self] at hlive
      cases hlive
    · rw [Function.update_of_ne hj] at hlive ⊢
      exact (h j hlive).rate

/-- What a voice gives to the output frames of a step. -/
def heardIn (i : Fin SNES_MOD_AUDIO_MAX_VOICES) :
    Pool × Act × Pool → List (Option (ClipSlot × Voice))
  | (s, .mix dst frameCount outputRate outputChannels, _) =>
    if mixInvalid frameCount outputRate outputChannels then []
    else (List.range frameCount.toInt.toNat).map fun frame =>
      heardAt s dst outputRate outputChannels frame i
  | _ => []

/-- The output frames of a step. -/
def framesIn : Pool × Act × Pool → Nat
  | (_, .mix _ frameCount outputRate outputChannels, _) =>
    if mixInvalid frameCount outputRate outputChannels then 0 else frameCount.toInt.toNat
  | _ => 0

def framesMixed (steps : List (Pool × Act × Pool)) : Nat := (steps.map framesIn).sum

/-- A step leaves the voice to the mixer: it is not stolen, stopped or unregistered, nor started
again, and what is mixed is mixed at one rate. -/
def Spares (i : Fin SNES_MOD_AUDIO_MAX_VOICES) (outputRate : UInt32) : Pool × Act × Pool → Prop
  | (_, .mix _ frameCount outputRate' outputChannels, _) =>
    mixInvalid frameCount outputRate' outputChannels ∨ outputRate' = outputRate
  | (s, _, t) => t.voices i = s.voices i

/-- What a voice gives `n` output frames behind its start. -/
def given (slot : ClipSlot) (outputRate : UInt32) (clip gainPercent : Int32) (n : Nat) :
    Option (ClipSlot × Voice) :=
  if n < lengthOf slot outputRate
    then some (slot, ⟨clip, .ofNat (n * stepOf slot outputRate), gainPercent⟩) else none

section Runs

variable {slot : ClipSlot} (hslot : slot.Audible) {outputRate : UInt32}
  (hrate : 8000 ≤ outputRate.toNat ∧ outputRate.toNat ≤ 192000) {clip gainPercent : Int32}
  {i : Fin SNES_MOD_AUDIO_MAX_VOICES} {k : Fin SNES_MOD_AUDIO_MAX_CLIPS}

omit hslot hrate in
/-- A clip stays where it is as long as a voice on it is left alone. -/
theorem clip_kept {s t : Pool} {act : Act} (hperform : s.perform act = .ok t)
    (hspares : t.voices i = s.voices i)
    (hvoice : (s.voices i).clip = clip) (hclip : clipSlot s.clips clip = some k) :
    clipSlot t.clips clip = some k ∧ t.clips k = s.clips k := by
  obtain ⟨hindex, hlive⟩ := clipSlot_eq_some_iff.1 hclip
  have hother : ∀ {j : Fin SNES_MOD_AUDIO_MAX_CLIPS} {slot : ClipSlot}, k ≠ j →
    t.clips = Function.update s.clips j slot →
      clipSlot t.clips clip = some k ∧ t.clips k = s.clips k := by
    intro j slot hne hclips
    have hsame : t.clips k = s.clips k := by rw [hclips, Function.update_of_ne hne]
    exact ⟨clipSlot_eq_some_iff.2 ⟨hindex, by rw [hsame]; exact hlive⟩, hsame⟩
  rcases perform_clips hperform with hsame | ⟨j, entered, hfree, hclips, -⟩
    | ⟨gone, j, hgone, hclips, -, hvoices⟩
  · exact ⟨by rw [hsame]; exact hclip, by rw [hsame]⟩
  · refine hother ?_ hclips
    rintro rfl
    rw [hfree] at hlive
    cases hlive
  · refine hother ?_ hclips
    rintro rfl
    have hclipGone : clip = gone := by
      apply Int32.toInt_inj.1
      rw [hindex, (clipSlot_eq_some_iff.1 hgone).1]
    have hidle : t.voices i = .idle := by
      rw [hvoices]
      exact if_pos (hvoice.trans hclipGone)
    rw [hspares] at hidle
    rw [hidle] at hvoice
    exact clip_active hclip hvoice.symm

include hslot hrate

/-- One call. -/
theorem voice_step {s t : Pool} {act : Act} (hs : PoolInv s) (hstep : s.Step act t)
    (hspares : Spares i outputRate (s, act, t)) {n : Nat}
    (hvoice : s.voices i = standing slot outputRate clip gainPercent n)
    (hclip : n < lengthOf slot outputRate → clipSlot s.clips clip = some k ∧ s.clips k = slot) :
    t.voices i = standing slot outputRate clip gainPercent (n + framesIn (s, act, t)) ∧
      (n + framesIn (s, act, t) < lengthOf slot outputRate → clipSlot t.clips clip = some k ∧
        t.clips k = slot) ∧
      heardIn i (s, act, t) =
        (List.range (framesIn (s, act, t))).map
          (fun m => given slot outputRate clip gainPercent (n + m)) ∧
      Sums (s, act, t) := by
  obtain ⟨hfits, hperform⟩ := hstep
  have hleft : t.voices i = s.voices i → framesIn (s, act, t) = 0 → heardIn i (s, act, t) = [] →
    Sums (s, act, t) →
      t.voices i = standing slot outputRate clip gainPercent (n + framesIn (s, act, t)) ∧
      (n + framesIn (s, act, t) < lengthOf slot outputRate → clipSlot t.clips clip = some k ∧
        t.clips k = slot) ∧
      heardIn i (s, act, t) =
        (List.range (framesIn (s, act, t))).map
          (fun m => given slot outputRate clip gainPercent (n + m)) ∧
      Sums (s, act, t) := by
    intro hkept hframes hheard hsums
    rw [hframes, hheard, Nat.add_zero]
    refine ⟨hkept.trans hvoice, fun hn => ?_, rfl, hsums⟩
    obtain ⟨hk, hsame⟩ := hclip hn
    have hactive : (s.voices i).clip = clip := by
      rw [hvoice, standing, if_pos hn]
    obtain ⟨hk', hsame'⟩ := clip_kept hperform hkept hactive hk
    exact ⟨hk', hsame'.trans hsame⟩
  cases act with
  | register samples frameCount sampleRate channels allocated => exact hleft hspares rfl rfl trivial
  | unregister gone => exact hleft hspares rfl rfl trivial
  | play other gain => exact hleft hspares rfl rfl trivial
  | stopAll => exact hleft hspares rfl rfl trivial
  | mix dst frameCount outputRate' outputChannels =>
      by_cases hinvalid : mixInvalid frameCount outputRate' outputChannels
      · have hsame : t = s := by
          obtain ⟨dst', hmix⟩ := second_ok hperform
          unfold Pool.mix at hmix
          rw [if_pos hinvalid] at hmix
          cases hmix
          rfl
        refine hleft (by rw [hsame]) (if_pos hinvalid) (if_pos hinvalid) fun hvalid =>
          absurd hinvalid hvalid
      · have hsameRate : outputRate' = outputRate := hspares.resolve_left hinvalid
        subst hsameRate
        obtain ⟨hclips, hvoices, hsums⟩ := mix_eq hs hinvalid hfits hperform
        have hcount : framesIn (s, .mix dst frameCount outputRate' outputChannels, t) =
          frameCount.toInt.toNat :=
          if_neg hinvalid
        have hiterate : ∀ m, (Voice.next s.clips outputRate')^[m]
          (standing slot outputRate' clip gainPercent n) =
            standing slot outputRate' clip gainPercent (n + m) := iterate_standing hslot hrate hclip
        rw [hcount]
        refine ⟨?_, ?_, ?_, hsums⟩
        · rw [hvoices]
          dsimp only
          rw [hvoice]
          exact hiterate _
        · intro hn
          rw [hclips]
          exact hclip (by omega)
        · have hheard : heardIn i (s, .mix dst frameCount outputRate' outputChannels, t) =
              (List.range frameCount.toInt.toNat).map fun frame =>
              heardAt s dst outputRate' outputChannels frame i :=
            if_neg hinvalid
          rw [hheard]
          refine List.map_congr_left fun frame hframe => ?_
          have hlt := List.mem_range.1 hframe
          unfold mixInvalid at hinvalid
          simp only [not_or, not_and_or, not_not] at hinvalid
          obtain ⟨hpositive, -, -, houtput⟩ := hinvalid
          have hroom : frame * outputChannels.toNat ≤ dst.length := by
            have hnat : (frameCount.toInt.toNat : Int) = frameCount.toInt :=
              Int.toNat_of_nonneg (by omega)
            have hfits' : frameCount.toInt * outputChannels.toNat ≤ dst.length := hfits
            rw [← hnat] at hfits'
            have hall : frameCount.toInt.toNat * outputChannels.toNat ≤ dst.length := by
              exact_mod_cast hfits'
            exact Nat.le_trans (Nat.mul_le_mul_right _ (Nat.le_of_lt hlt)) hall
          rw [heardAt_eq hs houtput hroom, hvoice, hiterate, heard_standing hslot hrate fun hn =>
            hclip (by omega)]
          rfl

/-- A run of calls. -/
theorem voice_run {s t : Pool} {steps : List (Pool × Act × Pool)} (hrun : Run Pool.Step s steps t) :
    ∀ {n : Nat}, PoolInv s → (∀ x ∈ steps, Spares i outputRate x) →
      s.voices i = standing slot outputRate clip gainPercent n →
      (n < lengthOf slot outputRate → clipSlot s.clips clip = some k ∧ s.clips k = slot) →
      t.voices i = standing slot outputRate clip gainPercent (n + framesMixed steps) ∧
      steps.flatMap (heardIn i) =
        (List.range (framesMixed steps)).map
          (fun m => given slot outputRate clip gainPercent (n + m)) ∧
      ∀ x ∈ steps, Sums x := by
  induction hrun with
  | nil s => exact fun _ _ hvoice _ => ⟨hvoice, rfl, fun _ hx => nomatch hx⟩
  | @cons s s' t act steps hst _ ih =>
      intro n hs hspares hvoice hclip
      rw [List.forall_mem_cons] at hspares
      obtain ⟨hvoice', hclip', hheard, hsums⟩ :=
        voice_step hslot hrate hs hst hspares.1 hvoice hclip
      obtain ⟨hvoice'', hheard', hsums'⟩ := ih (hs.step hst) hspares.2 hvoice' hclip'
      have hcount : framesMixed ((s, act, s') :: steps) = framesIn (s, act, s') +
        framesMixed steps := by
        unfold framesMixed
        rw [List.map_cons, List.sum_cons]
      refine ⟨?_, ?_, List.forall_mem_cons.2 ⟨hsums, hsums'⟩⟩
      · rw [hvoice'', hcount, Nat.add_assoc]
      · rw [List.flatMap_cons, hheard, hheard', hcount, List.range_add,
          List.map_append, List.map_map]
        simp only [Function.comp_def, Nat.add_assoc]

end Runs

/-! ## Equal rates -/

/-- A frame of a clip as it is, mixed down where one channel is asked for and the clip has two. -/
def ClipSlot.plain (slot : ClipSlot) (outputChannels : UInt32) (frame channel : Nat) : Int :=
  let place := fun c => (slot.sample (frame * slot.channels.toNat + c)).toOption.getD 0
  if outputChannels = 1 ∧ slot.channels = 2 then (place 0 + place 1).tdiv 2
  else place (if slot.channels = 1 then 0 else channel)

theorem interpolatedSample_whole {slot : ClipSlot} (hslot : slot.Ok) (hlive : slot.samples.isSome)
    {frame : UInt32}
    (hframe : frame < slot.frameCount) {channel : UInt32} (hchannel : channel.toNat < 2) :
    interpolatedSample slot frame 0 channel =
      slot.sample
        (frame.toNat * slot.channels.toNat + (if slot.channels = 1 then 0 else channel.toNat)) := by
  obtain ⟨x, hx⟩ := interpolatedSample_ok hslot hlive hframe 0 hchannel
  have hzero : (0 : UInt32).toNat = 0 := rfl
  have hsource : (if slot.channels = 1 then (0 : UInt32) else channel).toNat =
      if slot.channels = 1 then 0 else channel.toNat := by
    split <;> rfl
  unfold interpolatedSample at hx ⊢
  dsimp only at hx ⊢
  rw [hsource] at hx ⊢
  cases hs0 : slot.sample
    (frame.toNat * slot.channels.toNat + (if slot.channels = 1 then 0 else channel.toNat)) with
  | error stop =>
      rw [hs0] at hx
      cases hx
  | ok s0 =>
      rw [hs0, ok_bind] at hx
      rw [ok_bind]
      by_cases hnext : frame + 1 < slot.frameCount
      · rw [if_pos hnext] at hx ⊢
        cases hs1 : slot.sample
          (frame.toNat * slot.channels.toNat + (if slot.channels = 1 then 0 else channel.toNat) +
            slot.channels.toNat) with
        | error stop =>
            rw [hs1] at hx
            cases hx
        | ok s1 =>
            rw [ok_bind, hzero]
            simp
            rfl
      · rw [if_neg hnext, hzero]
        simp
        rfl

theorem share_plain {slot : ClipSlot} (hslot : slot.Ok) (hlive : slot.samples.isSome) {n : Nat}
    (hn : n < slot.frameCount.toNat) (hframes : slot.frameCount.toNat ≤ 2 ^ 23)
    {outputChannels : UInt32}
    (houtput : outputChannels = 1 ∨ outputChannels = 2) {channel : Nat}
    (hchannel : channel < outputChannels.toNat)
    (clip : Int32) :
    share outputChannels (slot, ⟨clip, .ofNat (n * 2 ^ 32), 100⟩) channel =
      slot.plain outputChannels n channel := by
  have hphase : (UInt64.ofNat (n * 2 ^ 32)).toNat = n * 2 ^ 32 := by
    rw [UInt64.toNat_ofNat']
    exact Nat.mod_eq_of_lt (by omega)
  have hfraction : (UInt64.ofNat (n * 2 ^ 32)).toUInt32 = 0 := by
    apply UInt32.toNat_inj.1
    rw [UInt64.toNat_toUInt32, hphase, Nat.mul_mod_left]
    rfl
  have hframe : (UInt64.ofNat (n * 2 ^ 32) >>> 32).toUInt32.toNat = n := by
    rw [sourceFrame_toNat _ (by rw [hphase]; omega), hphase]
    omega
  have hinside : (UInt64.ofNat (n * 2 ^ 32) >>> 32).toUInt32 < slot.frameCount := by
    rw [UInt32.lt_iff_toNat_lt, hframe]
    exact hn
  have htwo : outputChannels.toNat ≤ 2 := by
    rcases houtput with rfl | rfl <;> decide
  have hsmall : (UInt32.ofNat channel).toNat = channel := by
    rw [UInt32.toNat_ofNat']
    exact Nat.mod_eq_of_lt (by omega)
  have hhundred : ∀ x : Int, (x * (100 : Int32).toInt).tdiv 100 = x := fun x =>
    Int.mul_tdiv_cancel x (by decide)
  unfold share ClipSlot.plain
  dsimp only
  rw [hfraction, hhundred]
  unfold sampleForOutput
  by_cases hdown : outputChannels = 1 ∧ slot.channels = 2
  · have hzero : (0 : UInt32).toNat = 0 := rfl
    have hone : (1 : UInt32).toNat = 1 := rfl
    have hstereo : slot.channels ≠ 1 := by
      rw [hdown.2]
      decide
    obtain ⟨left, hleft⟩ :=
      interpolatedSample_ok hslot hlive hinside 0 (show (0 : UInt32).toNat < 2 by decide)
    obtain ⟨right, hright⟩ :=
      interpolatedSample_ok hslot hlive hinside 0 (show (1 : UInt32).toNat < 2 by decide)
    rw [if_pos hdown, if_pos hdown, hleft, hright, ok_bind, ok_bind]
    rw [interpolatedSample_whole hslot hlive hinside (by decide), if_neg hstereo, hframe, hzero]
      at hleft
    rw [interpolatedSample_whole hslot hlive hinside (by decide), if_neg hstereo, hframe, hone]
      at hright
    rw [hleft, hright]
    rfl
  · rw [if_neg hdown, if_neg hdown,
      interpolatedSample_whole hslot hlive hinside (by rw [hsmall]; omega), hframe, hsmall]

/-! ## Voice length -/

theorem given_isSome (slot : ClipSlot) (outputRate : UInt32) (clip gainPercent : Int32) (n : Nat) :
    (given slot outputRate clip gainPercent n).isSome = decide (n < lengthOf slot outputRate) := by
  unfold given
  by_cases hn : n < lengthOf slot outputRate
  · rw [if_pos hn, decide_eq_true hn, Option.isSome_some]
  · rw [if_neg hn, decide_eq_false hn, Option.isSome_none]

theorem countP_given (slot : ClipSlot) (outputRate : UInt32) (clip gainPercent : Int32) : ∀ n,
    (List.range n).countP (fun n => (given slot outputRate clip gainPercent n).isSome) =
      min n (lengthOf slot outputRate)
  | 0 => (Nat.zero_min _).symm
  | n + 1 => by
      rw [List.range_succ, List.countP_append, countP_given slot outputRate clip gainPercent n,
        List.countP_singleton, given_isSome]
      by_cases hn : n < lengthOf slot outputRate
      · rw [if_pos (decide_eq_true hn)]
        omega
      · rw [if_neg (by rw [decide_eq_false hn]; decide)]
        omega

/-- Behind every call that starts a voice, as long as the voice is left to the mixer and whatever
the buffers: it gives to the first `lengthOf` output frames, to each at its own position, and to no
other; at equal rates and a gain of 100 these are the frames of the clip, each once; and every
sample of a buffer becomes the sum held inside sixteen bits. -/
theorem voice_length {steps : List (Pool × Act × Pool)} {s started : Pool}
    (hrun : Run Pool.Step .start steps s)
    {clip gainPercent : Int32} (hplay : s.play clip gainPercent = .ok (true, started)) :
    ∃ i k, started.voices = Function.update s.voices i ⟨clip, 0, clampGain gainPercent⟩ ∧
      clipSlot started.clips clip = some k ∧
      ∀ outputRate : UInt32, 8000 ≤ outputRate.toNat ∧ outputRate.toNat ≤ 192000 →
      ∀ later t, Run Pool.Step started later t → (∀ x ∈ later, Spares i outputRate x) →
        let slot := started.clips k
        let step := slot.sampleRate.toNat * 2 ^ 32 / outputRate.toNat
        let length := slot.frameCount.toNat * 2 ^ 32 ⌈/⌉ step
        0 < step ∧
        later.flatMap (heardIn i) = (List.range (framesMixed later)).map (fun n =>
          if n < length then some (slot, ⟨clip, .ofNat (n * step), clampGain gainPercent⟩)
            else none) ∧
        (later.flatMap (heardIn i)).countP Option.isSome = min (framesMixed later) length ∧
        ((t.voices i).clip = SNES_MOD_AUDIO_CLIP_INVALID ↔ length ≤ framesMixed later) ∧
        (slot.sampleRate = outputRate → length = slot.frameCount.toNat ∧ ∀ n < length,
          n * step = n * 2 ^ 32 ∧
          (gainPercent = 100 → ∀ outputChannels : UInt32, outputChannels = 1 ∨ outputChannels = 2 →
            ∀ channel < outputChannels.toNat,
              share outputChannels
                (slot, ⟨clip, .ofNat (n * step), clampGain gainPercent⟩) channel =
                slot.plain outputChannels n channel)) ∧
        ∀ x ∈ later, Sums x := by
  have hinv : PoolInv s := hrun.invariant (fun _ _ _ hstep ha => ha.step hstep) poolInv_start
  have haudible : Audibles s := (hrun.invariant (I := fun s => PoolInv s ∧ Audibles s)
    (fun _ _ _ hstep ha => ⟨ha.1.step hstep, ha.2.step (ha.1.step hstep) hstep.2⟩)
    ⟨poolInv_start, fun _ hlive => nomatch hlive⟩).2
  obtain ⟨hclips, hplayed⟩ := play_cases hplay
  obtain ⟨hlive, i, hvoices⟩ := hplayed rfl
  obtain ⟨k, hk⟩ := Option.isSome_iff_exists.1 hlive
  have hslotLive := (clipSlot_eq_some_iff.1 hk).2
  obtain ⟨played, started', hplay', hstarted⟩ := hinv.play clip gainPercent
  rw [hplay] at hplay'
  cases hplay'
  rw [hclips]
  refine ⟨i, k, hvoices, hk, fun outputRate hrate later t hlater hspares => ?_⟩
  have hslot := haudible k hslotLive
  have hlt : ∀ {n}, n < lengthOf (s.clips k) outputRate ↔
      n * stepOf (s.clips k) outputRate < (s.clips k).frameCount.toNat * 2 ^ 32 :=
      lt_lengthOf hslot hrate
  have hstart : started.voices i = standing (s.clips k) outputRate clip
    (clampGain gainPercent) 0 := by
    have hfirst : 0 < lengthOf (s.clips k) outputRate := by
      have hframes := hslot.frames.1
      rw [hlt]
      omega
    rw [hvoices, Function.update_self, standing, if_pos hfirst, Nat.zero_mul]
    rfl
  obtain ⟨hvoice, hheard, hsums⟩ := voice_run hslot hrate hlater hstarted hspares hstart
    fun _ => ⟨by rw [hclips]; exact hk, by rw [hclips]⟩
  simp only [Nat.zero_add] at hvoice hheard
  refine ⟨(stepOf_bounds hslot hrate).1, hheard, ?_, ?_, ?_, hsums⟩
  · rw [hheard, List.countP_map]
    exact countP_given _ _ _ _ _
  · change _ ↔ lengthOf (s.clips k) outputRate ≤ _
    rw [hvoice, ← Nat.not_lt]
    unfold standing
    split
    · rename_i hgoes
      exact ⟨fun hno => absurd hno (clip_active hk), fun hno => absurd hgoes hno⟩
    · rename_i hends
      exact ⟨fun _ => hends, fun _ => rfl⟩
  · intro hsame
    have hstep := stepOf_same hsame (by omega)
    have hlength := lengthOf_same hslot hrate hsame
    refine ⟨hlength, fun n hn => ⟨congrArg (n * ·) hstep, ?_⟩⟩
    rintro rfl outputChannels houtput channel hchannel
    have hn' : n < (s.clips k).frameCount.toNat := hlength ▸ hn
    have hposition : n * stepOf (s.clips k) outputRate = n * 2 ^ 32 := congrArg (n * ·) hstep
    have hgain : clampGain 100 = 100 := by decide
    change share outputChannels
      (s.clips k, ⟨clip, .ofNat (n * stepOf (s.clips k) outputRate), clampGain 100⟩) channel = _
    rw [hposition, hgain]
    exact share_plain (hinv.slots k) hslotLive hn' hslot.frames.2 houtput hchannel clip

/-- Two frames at half the output rate last four output frames, mixed here three and two at a time.
-/
theorem voice_length_two :
    ∃ (s started : Pool) (later : List (Pool × Act × Pool)) (t : Pool) (i : Fin 8), s.play 1 100 =
    .ok (true, started) ∧ Run Pool.Step started later t ∧
    later.map (fun x => x.2.1) = [.mix [0, 0, 0] 3 16000 1, .mix [0, 0] 2 16000 1] ∧
    (later.flatMap (heardIn i)).countP Option.isSome = 4 ∧
    (t.voices i).clip = SNES_MOD_AUDIO_CLIP_INVALID := by
  have hfacts : (Pool.start.perform (.register (some [5, 9]) 2 8000 1 true)).toOption.map
      (fun s => ((s.clips 0).frameCount, (s.clips 0).sampleRate)) = some (2, 8000) := by
      decide +kernel
  obtain ⟨s, hs, hinv⟩ := poolInv_start.perform (a := .register (some [5, 9]) 2 8000 1 true)
    (by intro xs hxs; cases hxs; decide)
  have hplays : ((Pool.start.perform (.register (some [5, 9]) 2 8000 1 true)).bind fun s =>
      (s.play 1 100).map Prod.fst).toOption = some true := by decide +kernel
  rw [hs] at hfacts hplays
  obtain ⟨hframes, hrate⟩ := Prod.mk.inj (Option.some.inj hfacts)
  obtain ⟨played, started, hplay, hstarted⟩ := hinv.play 1 100
  have hone : played = true := by
    rw [Except.bind, hplay] at hplays
    exact Option.some.inj hplays
  subst hone
  have hfit : (Act.mix [0, 0, 0] 3 16000 1).Fits :=
    show (3 : Int32).toInt * (1 : UInt32).toNat ≤ 3 by decide
  have hfit' : (Act.mix [0, 0] 2 16000 1).Fits := show (2 : Int32).toInt * (1 : UInt32).toNat ≤ 2 by
    decide
  obtain ⟨u, hu, hinvU⟩ := hstarted.perform hfit
  obtain ⟨t, ht, -⟩ := hinvU.perform hfit'
  have hlater : Run Pool.Step started [(started, .mix [0, 0, 0] 3 16000 1, u),
    (u, .mix [0, 0] 2 16000 1, t)] t :=
    .cons ⟨hfit, hu⟩ (.cons ⟨hfit', ht⟩ (.nil t))
  obtain ⟨i, k, -, hk, hlength⟩ := voice_length
    (.cons ⟨by intro xs hxs; cases hxs; decide, hs⟩ (.nil s)) hplay
  obtain ⟨-, -, hcount, hends, -⟩ := hlength 16000 ⟨by decide, by decide⟩ _ t hlater
    (by intro x hx; simp only [List.mem_cons, List.not_mem_nil, or_false] at hx; rcases hx with rfl
      | rfl <;> exact Or.inr rfl)
  have hzero : k = 0 := by
    have hindex := (clipSlot_eq_some_iff.1 hk).1
    have hclip : (1 : Int32).toInt = 1 := rfl
    apply Fin.ext
    have hval : (0 : Fin SNES_MOD_AUDIO_MAX_CLIPS).val = 0 := rfl
    omega
  have hmixed : framesMixed [(started, .mix [0, 0, 0] 3 16000 1, u),
    (u, .mix [0, 0] 2 16000 1, t)] = 5 := rfl
  have hfour : (2 : UInt32).toNat *
    2 ^ 32 ⌈/⌉ ((8000 : UInt32).toNat * 2 ^ 32 / (16000 : UInt32).toNat) = 4 := by
    decide +kernel
  rw [hzero, (play_cases hplay).1, hframes, hrate, hmixed, hfour] at hcount hends
  exact ⟨s, started, _, t, i, hplay, hlater, rfl, hcount, hends.2 (by decide)⟩

end SmwRecomp.Audio
