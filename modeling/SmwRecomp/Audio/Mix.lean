import SmwRecomp.Audio.Pool
import Mathlib.Algebra.BigOperators.Fin
import Mathlib.Logic.Function.Iterate

/-!
# The sums of the mixer

* `heard`, `share` — where a voice is heard in an output frame, and what it adds to a channel there.
* `mixVoice_eq`, `mixFrame_eq`, `mixFrames_eq` — the mixer as an equation, over voices, channels and
  frames.
* `Sums`, `mix_eq` — every sample of a buffer becomes the sum of the shares, held inside sixteen
  bits.
-/

set_option autoImplicit false

namespace SmwRecomp.Audio

/-! ## One voice in one output frame -/

/-- The clip and the position at which the mixer takes a sample from a voice, when it does. -/
def heard (clips : Clips) (voice : Voice) : Option (ClipSlot × Voice) :=
  if voice.clip = SNES_MOD_AUDIO_CLIP_INVALID then none
  else
    match clipSlot clips voice.clip with
    | none => none
    | some index => if (voice.phase >>> 32).toUInt32 ≥ (clips index).frameCount then none
        else some (clips index, voice)

/-- What a voice heard at a position adds to a channel. -/
def share (outputChannels : UInt32) (place : ClipSlot × Voice) (channel : Nat) : Int :=
  let sample :=
    sampleForOutput place.1 (place.2.phase >>> 32).toUInt32 place.2.phase.toUInt32
    (UInt32.ofNat channel)
    outputChannels
  (sample.toOption.getD 0 * place.2.gainPercent.toInt).tdiv 100

/-- What a voice adds to a channel of the coming output frame. -/
def added (clips : Clips) (outputChannels : UInt32) (voice : Voice) (channel : Nat) : Int :=
  (heard clips voice).elim 0 fun place => share outputChannels place channel

/-- A voice behind an output frame. -/
def Voice.next (clips : Clips) (outputRate : UInt32) (voice : Voice) : Voice :=
  if voice.clip = SNES_MOD_AUDIO_CLIP_INVALID then voice
  else
    match clipSlot clips voice.clip with
    | none => .idle
    | some index =>
      if (voice.phase >>> 32).toUInt32 ≥ (clips index).frameCount then .idle
        else advance (clips index) voice outputRate

theorem heard_idle (clips : Clips) : heard clips .idle = none := rfl

theorem next_idle (clips : Clips) (outputRate : UInt32) :
    Voice.idle.next clips outputRate = .idle := rfl

/-! ## One output frame -/

/-- What a sum becomes in the buffer. -/
def clamped (value : Int) : Int := max (-32768) (min 32767 value)

theorem clampS16_toInt (value : Int) : (clampS16 value).toInt = clamped value := by
  unfold clampS16 clamped
  split
  · rename_i h
    change (32767 : Int) = _
    omega
  · split
    · rename_i h
      change (-32768 : Int) = _
      omega
    · have hsize : Int16.size = 65536 := rfl
      rw [Int16.toInt_ofInt, Int.bmod_eq_of_le]
      all_goals omega

section Mixer

variable {clips : Clips} (hclips : ∀ i, (clips i).Ok)

include hclips

omit hclips in
theorem mixChannels_eq {voice : Voice} {slot : ClipSlot} (hslot : slot.Ok)
    (hlive : slot.samples.isSome)
    (hinside : (voice.phase >>> 32).toUInt32 < slot.frameCount) {outputChannels : UInt32}
    (houtput : outputChannels.toNat ≤ 2) : ∀ (n : Nat), n ≤ outputChannels.toNat →
    ∀ mixed : Nat → Int,
    (List.range n).foldlM (fun mixed channel => do
      let sample ← sampleForOutput slot (voice.phase >>> 32).toUInt32 voice.phase.toUInt32
        (UInt32.ofNat channel) outputChannels
      return Function.update mixed channel
        (mixed channel + (sample * voice.gainPercent.toInt).tdiv 100)) mixed =
      (.ok fun channel => if channel < n then mixed channel + share outputChannels
        (slot, voice) channel
        else mixed channel : Except Stop (Nat → Int)) := by
  intro n
  induction n with
  | zero => intro _ mixed; rfl
  | succ n ih =>
      intro hn mixed
      have hsmall : (UInt32.ofNat n).toNat < 2 := by
        rw [UInt32.toNat_ofNat_of_lt' (by simp [UInt32.size]; omega)]
        omega
      obtain ⟨x, hx⟩ :=
        sampleForOutput_ok hslot hlive hinside voice.phase.toUInt32 hsmall outputChannels
      rw [List.range_succ, List.foldlM_append, ih (by omega)]
      simp only [ok_bind, List.foldlM_cons, List.foldlM_nil, hx]
      refine congrArg Except.ok (funext fun channel => ?_)
      by_cases heq : channel = n
      · subst heq
        rw [Function.update_self, if_pos (Nat.lt_succ_self _), if_neg (Nat.lt_irrefl _)]
        unfold share
        dsimp only
        rw [hx]
        rfl
      · rw [Function.update_of_ne heq]
        have hiff : channel < n + 1 ↔ channel < n := by omega
        simp only [hiff]

theorem mixVoice_eq {voice : Voice} (hvoice : Playing clips voice) (outputRate : UInt32)
    {outputChannels : UInt32}
    (houtput : outputChannels.toNat ≤ 2) (mixed : Nat → Int) :
    mixVoice clips outputRate outputChannels voice mixed =
      .ok (voice.next clips outputRate, fun channel =>
      if channel < outputChannels.toNat
        then mixed channel + added clips outputChannels voice channel
      else mixed channel) := by
  unfold mixVoice Voice.next added heard
  by_cases hidle : voice.clip = SNES_MOD_AUDIO_CLIP_INVALID
  · simp [hidle]
  · obtain ⟨i, hi, hphase⟩ := hvoice hidle
    rw [if_neg hidle, if_neg hidle, if_neg hidle, hi]
    dsimp only
    by_cases hend : (voice.phase >>> 32).toUInt32 ≥ (clips i).frameCount
    · simp [hend]
    · rw [if_neg hend, if_neg hend, if_neg hend]
      have heq :=
        mixChannels_eq (hclips i) (clipSlot_eq_some_iff.1 hi).2 (UInt32.not_le.1 hend) houtput
        outputChannels.toNat (Nat.le_refl _) mixed
      unfold mixChannels
      rw [heq, ok_bind]
      rfl

theorem playing_next {voice : Voice} (hvoice : Playing clips voice) (outputRate : UInt32) :
    Playing clips (voice.next clips outputRate) := by
  obtain ⟨voice', mixed', hmix, hplaying⟩ := mixVoice_ok hclips hvoice outputRate
    (show (0 : UInt32).toNat ≤ 2 by decide) fun _ => 0
  rw [mixVoice_eq hclips hvoice outputRate (by decide)] at hmix
  cases hmix
  exact hplaying

theorem mixVoices_list (outputRate : UInt32) {outputChannels : UInt32}
    (houtput : outputChannels.toNat ≤ 2) :
    ∀ {l : List (Fin SNES_MOD_AUDIO_MAX_VOICES)} {voices : Voices} {mixed : Nat → Int}, l.Nodup →
      (∀ i ∈ l, Playing clips (voices i)) →
      l.foldlM (fun (voices, mixed) i => do
        let (voice, mixed) ← mixVoice clips outputRate outputChannels (voices i) mixed
        return (Function.update voices i voice, mixed)) (voices, mixed) =
      (.ok (fun i => if i ∈ l then (voices i).next clips outputRate else voices i, fun channel =>
        if channel < outputChannels.toNat then
          mixed channel + (l.map fun i => added clips outputChannels (voices i) channel).sum
        else mixed channel) : Except Stop (Voices × (Nat → Int))) := by
  intro l
  induction l with
  | nil =>
      intro voices mixed _ _
      simp
      rfl
  | cons i l ih =>
      intro voices mixed hnodup hplaying
      rw [List.nodup_cons] at hnodup
      have hother : ∀ j ∈ l, Function.update voices i ((voices i).next clips outputRate) j =
        voices j := by
        intro j hj
        apply Function.update_of_ne
        rintro rfl
        exact hnodup.1 hj
      have hrest := @ih (Function.update voices i ((voices i).next clips outputRate))
        (fun channel => if channel < outputChannels.toNat then
          mixed channel + added clips outputChannels (voices i) channel else mixed channel) hnodup.2
            fun j hj => by
        rw [hother j hj]
        exact hplaying j (List.mem_cons_of_mem i hj)
      rw [List.foldlM_cons]
      dsimp only
      rw [mixVoice_eq hclips (hplaying i List.mem_cons_self) outputRate houtput, ok_bind]
      refine hrest.trans (congrArg Except.ok (Prod.ext ?_ ?_))
      · refine funext fun j => ?_
        dsimp only
        by_cases hj : j = i
        · subst hj
          rw [if_neg hnodup.1, Function.update_self, if_pos List.mem_cons_self]
        · rw [Function.update_of_ne hj]
          simp only [List.mem_cons, hj, false_or]
      · refine funext fun channel => ?_
        have hsum : (l.map fun j => added clips outputChannels
            (Function.update voices i ((voices i).next clips outputRate) j) channel) =
            l.map fun j => added clips outputChannels (voices j) channel := by
          refine List.map_congr_left fun j hj => ?_
          rw [hother j hj]
        dsimp only
        rw [hsum, List.map_cons, List.sum_cons]
        split
        · rw [Int.add_assoc]
        · rfl

theorem mixVoices_eq {voices : Voices} (hvoices : ∀ i, Playing clips (voices i))
    (outputRate : UInt32)
    {outputChannels : UInt32} (houtput : outputChannels.toNat ≤ 2) (mixed : Nat → Int) :
    mixVoices clips outputRate outputChannels voices mixed =
      .ok (fun i => (voices i).next clips outputRate, fun channel =>
      if channel < outputChannels.toNat then
        mixed channel + ∑ i, added clips outputChannels (voices i) channel
      else mixed channel) := by
  unfold mixVoices
  rw [mixVoices_list hclips outputRate houtput (List.nodup_finRange _) fun i _ => hvoices i]
  refine congrArg Except.ok
    (Prod.ext (funext fun i => if_pos (List.mem_finRange i)) (funext fun channel => ?_))
  dsimp only
  rw [Fin.sum_univ_def]

omit hclips in
theorem readFrame_eq {dst : List Int16} {i : Nat} (h : i < dst.length) :
    ∃ x, dst[i]? = some x ∧ readFrame dst i = .ok x.toInt := by
  unfold readFrame
  rw [List.getElem?_eq_getElem h]
  exact ⟨_, rfl, rfl⟩

omit hclips in
/-- The samples of one frame, written one by one. -/
theorem writeFrames_eq (first : Nat) (x : Nat → Int16) :
    ∀ (n : Nat) (dst : List Int16), first + n ≤ dst.length →
    ∃ dst', (List.range n).foldlM (fun dst channel => writeFrame dst (first + channel) (x channel))
      dst = .ok dst' ∧
      dst'.length = dst.length ∧ (∀ channel < n, dst'[first + channel]? = some (x channel)) ∧
      ∀ p, p < first ∨ first + n ≤ p → dst'[p]? = dst[p]? := by
  intro n
  induction n with
  | zero =>
      intro dst _; exact ⟨dst, rfl, rfl, fun _ h => absurd h (Nat.not_lt_zero _), fun _ _ => rfl⟩
  | succ n ih =>
      intro dst hroom
      obtain ⟨dst', hrun, hlen, hwritten, hkept⟩ := ih dst (by omega)
      have hlt : first + n < dst'.length := by omega
      refine ⟨dst'.set (first + n) (x n), ?_, by rw [List.length_set, hlen], ?_, ?_⟩
      · rw [List.range_succ, List.foldlM_append, hrun, ok_bind, List.foldlM_cons]
        unfold writeFrame
        rw [if_pos hlt]
        rfl
      · intro channel hchannel
        by_cases heq : channel = n
        · rw [heq, List.getElem?_set_self hlt]
        · rw [List.getElem?_set_ne (by omega)]
          exact hwritten channel (by omega)
      · intro p hp
        rw [List.getElem?_set_ne (by omega)]
        exact hkept p (by omega)

/-- What the mixer leaves of one output frame. -/
theorem mixFrame_eq {voices : Voices} (hvoices : ∀ i, Playing clips (voices i))
    (outputRate : UInt32)
    {outputChannels : UInt32} (houtput : outputChannels = 1 ∨ outputChannels = 2)
    {dst : List Int16} {frame : Nat}
    (hframe : (frame + 1) * outputChannels.toNat ≤ dst.length) :
    ∃ dst', mixFrame clips outputRate outputChannels voices dst frame =
        .ok (fun i => (voices i).next clips outputRate, dst') ∧ dst'.length = dst.length ∧
      (∀ channel < outputChannels.toNat, ∃ x,
        dst[frame * outputChannels.toNat + channel]? = some x ∧
        dst'[frame * outputChannels.toNat + channel]?.map Int16.toInt =
          some (clamped (x.toInt + ∑ i, added clips outputChannels (voices i) channel))) ∧
      ∀ p, p < frame * outputChannels.toNat ∨ (frame + 1) * outputChannels.toNat ≤ p →
      dst'[p]? = dst[p]? := by
  have hcount : outputChannels.toNat = 1 ∨ outputChannels.toNat = 2 := by
    rcases houtput with rfl | rfl
    · exact Or.inl rfl
    · exact Or.inr rfl
  have htwo : outputChannels = 2 ↔ outputChannels.toNat = 2 := by
    rw [← UInt32.toNat_inj]
    rfl
  rw [Nat.add_mul, Nat.one_mul] at hframe ⊢
  obtain ⟨first, hfirst, hfirstRead⟩ :=
    readFrame_eq (show frame * outputChannels.toNat < dst.length by omega)
  have hread : ∃ second, (if outputChannels = 2 then readFrame dst (frame * 2 + 1) else pure 0) =
    .ok second ∧
      (outputChannels.toNat = 2 → ∃ x, dst[frame * 2 + 1]? = some x ∧ second = x.toInt) := by
    by_cases h : outputChannels = 2
    · rw [htwo.1 h] at hframe
      obtain ⟨x, hx, hread⟩ := readFrame_eq (show frame * 2 + 1 < dst.length by omega)
      rw [if_pos h]
      exact ⟨_, hread, fun _ => ⟨x, hx, rfl⟩⟩
    · rw [if_neg h]
      exact ⟨0, rfl, fun hno => absurd (htwo.2 hno) h⟩
  obtain ⟨second, hsecond, hsecondValue⟩ := hread
  obtain ⟨dst', hwrite, hlen, hwritten, hkept⟩ := writeFrames_eq (frame * outputChannels.toNat)
    (fun channel => clampS16 (if channel < outputChannels.toNat then
      (if channel = 0 then first.toInt else second) + ∑ i,
        added clips outputChannels (voices i) channel
      else if channel = 0 then first.toInt else second))
    outputChannels.toNat dst hframe
  refine ⟨dst', ?_, hlen, ?_, hkept⟩
  · unfold mixFrame
    rw [hfirstRead, ok_bind, hsecond, ok_bind,
      mixVoices_eq hclips hvoices outputRate (by omega), ok_bind]
    dsimp only
    rw [hwrite, ok_bind]
    rfl
  · intro channel hchannel
    have hout := hwritten channel hchannel
    rw [if_pos hchannel] at hout
    rw [hout, Option.map_some, clampS16_toInt]
    by_cases hzero : channel = 0
    · subst hzero
      exact ⟨first, hfirst, rfl⟩
    · have hone : channel = 1 := by omega
      have hstereo : outputChannels.toNat = 2 := by omega
      obtain ⟨x, hx, rfl⟩ := hsecondValue hstereo
      rw [hone, hstereo]
      exact ⟨x, hx, rfl⟩

theorem playing_iterate {voice : Voice} (hvoice : Playing clips voice) (outputRate : UInt32) :
    ∀ n, Playing clips ((Voice.next clips outputRate)^[n] voice)
  | 0 => hvoice
  | n + 1 => by
      rw [Function.iterate_succ_apply']
      exact playing_next hclips (playing_iterate hvoice outputRate n) outputRate

/-- What the mixer leaves of a buffer. -/
theorem mixFrames_eq {voices : Voices} (hvoices : ∀ i, Playing clips (voices i))
    (outputRate : UInt32)
    {outputChannels : UInt32} (houtput : outputChannels = 1 ∨ outputChannels = 2)
    {dst : List Int16} :
    ∀ {n : Nat}, n * outputChannels.toNat ≤ dst.length →
    ∃ dst', (List.range n).foldlM (fun (voices, dst) frame =>
        mixFrame clips outputRate outputChannels voices dst frame) (voices, dst) =
        .ok (fun i => (Voice.next clips outputRate)^[n] (voices i), dst') ∧
        dst'.length = dst.length ∧
      (∀ frame < n, ∀ channel < outputChannels.toNat, ∃ x,
        dst[frame * outputChannels.toNat + channel]? = some x ∧
        dst'[frame * outputChannels.toNat + channel]?.map Int16.toInt = some (clamped (x.toInt +
          ∑ i, added clips outputChannels
            ((Voice.next clips outputRate)^[frame] (voices i)) channel))) ∧
      ∀ p, n * outputChannels.toNat ≤ p → dst'[p]? = dst[p]? := by
  intro n
  induction n with
  | zero => exact fun _ => ⟨dst, rfl, rfl, fun _ h => absurd h (Nat.not_lt_zero _), fun _ _ => rfl⟩
  | succ n ih =>
      intro hroom
      have hsplit : (n + 1) * outputChannels.toNat = n * outputChannels.toNat +
        outputChannels.toNat := by
        rw [Nat.add_mul, Nat.one_mul]
      obtain ⟨dst', hrun, hlen, hmixed, hkept⟩ := ih (by omega)
      obtain ⟨dst'', hframe, hlen', hmixed', hkept'⟩ := mixFrame_eq hclips
        (fun i => playing_iterate hclips (hvoices i) outputRate n) outputRate houtput
        (show (n + 1) * outputChannels.toNat ≤ dst'.length by omega)
      refine ⟨dst'', ?_, hlen'.trans hlen, ?_, ?_⟩
      · rw [List.range_succ, List.foldlM_append, hrun, ok_bind, List.foldlM_cons]
        dsimp only
        rw [hframe, ok_bind]
        refine congrArg Except.ok (Prod.ext (funext fun i => ?_) rfl)
        exact (Function.iterate_succ_apply' (Voice.next clips outputRate) n (voices i)).symm
      · intro frame hlt channel hchannel
        by_cases heq : frame = n
        · subst heq
          obtain ⟨x, hx, hout⟩ := hmixed' channel hchannel
          rw [hkept _ (by omega)] at hx
          exact ⟨x, hx, hout⟩
        · obtain ⟨x, hx, hout⟩ := hmixed frame (by omega) channel hchannel
          have hbelow : (frame + 1) * outputChannels.toNat ≤ n * outputChannels.toNat :=
            Nat.mul_le_mul_right _ (by omega)
          rw [Nat.add_mul, Nat.one_mul] at hbelow
          refine ⟨x, hx, ?_⟩
          rw [hkept' _ (Or.inl (by omega))]
          exact hout
      · intro p hp
        rw [hkept' p (Or.inr hp)]
        exact hkept p (by omega)

end Mixer

/-! ## The sums of a buffer -/

/-- The voices in front of an output frame of a buffer. -/
def voicesAt (s : Pool) (dst : List Int16) (outputRate outputChannels : UInt32) (frame : Nat) :
    Except Stop Voices := do
  let (voices, _) ← (List.range frame).foldlM (fun (voices, dst) frame =>
    mixFrame s.clips outputRate outputChannels voices dst frame) (s.voices, dst)
  return voices

/-- What a voice gives to an output frame of a buffer. -/
def heardAt (s : Pool) (dst : List Int16) (outputRate outputChannels : UInt32) (frame : Nat)
    (i : Fin SNES_MOD_AUDIO_MAX_VOICES) : Option (ClipSlot × Voice) :=
  match voicesAt s dst outputRate outputChannels frame with
  | .ok voices => heard s.clips (voices i)
  | .error _ => none

/-- Every sample of the buffer becomes the held sum of itself and of what the voices give. -/
def Sums : Pool × Act × Pool → Prop
  | (s, .mix dst frameCount outputRate outputChannels, t) =>
      ¬ mixInvalid frameCount outputRate outputChannels →
    ∃ dst', s.mix dst frameCount outputRate outputChannels = .ok (dst', t) ∧
      ∀ frame < frameCount.toInt.toNat, ∀ channel < outputChannels.toNat, ∃ x,
        dst[frame * outputChannels.toNat + channel]? = some x ∧
        dst'[frame * outputChannels.toNat + channel]?.map Int16.toInt = some (clamped (x.toInt +
          ∑ i, (heardAt s dst outputRate outputChannels frame i).elim 0 fun place =>
          share outputChannels place channel))
  | _ => True

section Sums

variable {s : Pool} (h : PoolInv s)

include h

theorem heardAt_eq {dst : List Int16} {outputRate outputChannels : UInt32}
    (houtput : outputChannels = 1 ∨ outputChannels = 2) {frame : Nat}
    (hroom : frame * outputChannels.toNat ≤ dst.length) (i : Fin SNES_MOD_AUDIO_MAX_VOICES) :
    heardAt s dst outputRate outputChannels frame i =
      heard s.clips ((Voice.next s.clips outputRate)^[frame] (s.voices i)) := by
  obtain ⟨dst', hrun, -⟩ := mixFrames_eq h.slots h.voices outputRate houtput hroom
  unfold heardAt voicesAt
  rw [hrun]
  rfl

/-- A mix that the checks let through. -/
theorem mix_eq {dst : List Int16} {frameCount : Int32} {outputRate outputChannels : UInt32}
    (hvalid : ¬ mixInvalid frameCount outputRate outputChannels)
    (hfits : (Act.mix dst frameCount outputRate outputChannels).Fits) {t : Pool}
    (hmix : s.perform (.mix dst frameCount outputRate outputChannels) = .ok t) :
    t.clips = s.clips ∧
      t.voices = (fun i => (Voice.next s.clips outputRate)^[frameCount.toInt.toNat] (s.voices i)) ∧
      Sums (s, .mix dst frameCount outputRate outputChannels, t) := by
  have hcases := hvalid
  unfold mixInvalid at hcases
  simp only [not_or, not_and_or, not_not] at hcases
  obtain ⟨hcount, -, -, houtput⟩ := hcases
  have hroom : frameCount.toInt.toNat * outputChannels.toNat ≤ dst.length := by
    have hnat : (frameCount.toInt.toNat : Int) = frameCount.toInt := Int.toNat_of_nonneg (by omega)
    have hfits' : frameCount.toInt * outputChannels.toNat ≤ dst.length := hfits
    rw [← hnat] at hfits'
    exact_mod_cast hfits'
  obtain ⟨dst', hrun, -, hmixed, -⟩ := mixFrames_eq h.slots h.voices outputRate houtput hroom
  have hmix' : s.mix dst frameCount outputRate outputChannels = .ok (dst',
      { s with voices := fun i =>
        (Voice.next s.clips outputRate)^[frameCount.toInt.toNat] (s.voices i) }) := by
    unfold Pool.mix
    rw [if_neg hvalid, hrun]
    rfl
  rw [Pool.perform, hmix', ok_bind] at hmix
  cases hmix
  refine ⟨rfl, rfl, fun _ => ⟨dst', hmix', fun frame hframe channel hchannel => ?_⟩⟩
  obtain ⟨x, hx, hout⟩ := hmixed frame hframe channel hchannel
  refine ⟨x, hx, ?_⟩
  have hbefore : frame * outputChannels.toNat ≤ dst.length :=
    Nat.le_trans (Nat.mul_le_mul_right _ (Nat.le_of_lt hframe)) hroom
  simp only [heardAt_eq h houtput hbefore]
  exact hout

end Sums

end SmwRecomp.Audio
