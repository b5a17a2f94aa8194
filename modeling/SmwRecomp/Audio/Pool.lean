import SmwRecomp.Audio.ModAudio
import SmwRecomp.Lib.Run
import Mathlib.Algebra.BigOperators.Group.Finset.Basic

/-!
# The clip pool and its voices

* `ClipSlot.Ok` — a live clip has the samples its frames and channels call for.
* `Playing` — an active voice names a live clip, and its position is inside.
* `PoolInv` — the accounted bytes are those of the live clips and within the budget.
* `mix_ok` — the mixer reads inside the clips.
* `mod_audio_pool` — over every sequence of calls.
-/

set_option autoImplicit false

namespace SmwRecomp.Audio

/-! ## Clips -/

/-- The bytes of a clip's array. -/
def ClipSlot.size (slot : ClipSlot) : Nat :=
  match slot.samples with
  | none => 0
  | some samples => 2 * samples.length

structure ClipSlot.Ok (slot : ClipSlot) : Prop where
  length : ∀ xs ∈ slot.samples, xs.length = slot.frameCount.toNat * slot.channels.toNat
  frames : slot.samples.isSome → 0 < slot.frameCount.toNat
  channels : slot.samples.isSome → slot.channels = 1 ∨ slot.channels = 2

theorem ok_free : ClipSlot.free.Ok where
  length _ h := nomatch h
  frames h := nomatch h
  channels h := nomatch h

theorem pcmBytes_toNat {frameCount channels : UInt32} (h : channels = 1 ∨ channels = 2) :
    (pcmBytes frameCount channels).toNat = 2 * (frameCount.toNat * channels.toNat) := by
  have hframes := frameCount.toNat_lt
  unfold pcmBytes
  rcases h with rfl | rfl
  · simp [UInt64.toNat_mul]
    omega
  · simp [UInt64.toNat_mul]
    omega

theorem ClipSlot.Ok.bytes {slot : ClipSlot} (h : slot.Ok) (hlive : slot.samples.isSome) :
    (pcmBytes slot.frameCount slot.channels).toNat = slot.size := by
  obtain ⟨xs, hxs⟩ := Option.isSome_iff_exists.1 hlive
  rw [pcmBytes_toNat (h.channels hlive), ClipSlot.size, hxs]
  dsimp only
  rw [h.length xs hxs]

theorem clipSlot_eq_some_iff {clips : Clips} {clip : Int32} {i : Fin SNES_MOD_AUDIO_MAX_CLIPS} :
    clipSlot clips clip = some i ↔ clip.toInt = i + 1 ∧ (clips i).samples.isSome := by
  have hi : i.val < 64 := i.isLt
  unfold clipSlot
  split
  · rename_i hout
    constructor
    · intro h
      cases h
    · rintro ⟨hclip, -⟩
      omega
  · rename_i hin
    dsimp only
    split
    · rename_i hnone
      constructor
      · intro h
        cases h
      · rintro ⟨hclip, hlive⟩
        have heq : (⟨(clip.toInt - 1).toNat, by omega⟩ : Fin SNES_MOD_AUDIO_MAX_CLIPS) = i :=
          Fin.ext (by dsimp only; omega)
        rw [heq, Option.isNone_iff_eq_none] at hnone
        rw [hnone] at hlive
        cases hlive
    · rename_i hsome
      rw [Bool.not_eq_true, Option.isNone_eq_false_iff] at hsome
      constructor
      · intro h
        cases h
        exact ⟨by dsimp only; omega, hsome⟩
      · rintro ⟨hclip, -⟩
        exact congrArg some (Fin.ext (by dsimp only; omega))

/-- The bytes of all clips, when one slot changes. -/
theorem sum_size_update (clips : Clips) (i : Fin SNES_MOD_AUDIO_MAX_CLIPS) (slot : ClipSlot) :
    ∑ j, (Function.update clips i slot j).size + (clips i).size = ∑ j,
    (clips j).size + slot.size := by
  have hbefore := Finset.add_sum_erase Finset.univ (fun j => (clips j).size) (Finset.mem_univ i)
  have hafter := Finset.add_sum_erase Finset.univ (fun j => (Function.update clips i slot j).size)
    (Finset.mem_univ i)
  have hrest : ∑ j ∈ Finset.univ.erase i, (Function.update clips i slot j).size =
      ∑ j ∈ Finset.univ.erase i, (clips j).size := by
    apply Finset.sum_congr rfl
    intro j hj
    rw [Function.update_of_ne (Finset.ne_of_mem_erase hj)]
  rw [Function.update_self] at hafter
  omega

/-! ## Voices -/

/-- A voice is idle, or plays a live clip from a frame the clip has. -/
def Playing (clips : Clips) (voice : Voice) : Prop :=
  voice.clip ≠ SNES_MOD_AUDIO_CLIP_INVALID → ∃ i, clipSlot clips voice.clip = some i ∧
    (voice.phase >>> 32).toNat < (clips i).frameCount.toNat

theorem playing_idle (clips : Clips) : Playing clips .idle := fun h => absurd rfl h

/-- What holds of a pool. -/
structure PoolInv (s : Pool) : Prop where
  slots : ∀ i, (s.clips i).Ok
  bytes : s.clipBytes.toNat = ∑ i, (s.clips i).size
  budget : s.clipBytes ≤ SNES_MOD_AUDIO_MAX_TOTAL_BYTES
  voices : ∀ i, Playing s.clips (s.voices i)
  cursor : s.replaceCursor.toNat < SNES_MOD_AUDIO_MAX_VOICES

theorem poolInv_start : PoolInv .start where
  slots _ := ok_free
  bytes := by simp [Pool.start, ClipSlot.size, ClipSlot.free]
  budget := by decide
  voices _ := playing_idle _
  cursor := by decide

/-- A voice on another clip does not notice a change of a slot. -/
theorem Playing.update {clips : Clips} {voice : Voice} {i : Fin SNES_MOD_AUDIO_MAX_CLIPS}
    {slot : ClipSlot}
    (h : Playing clips voice)
    (hother : voice.clip ≠ SNES_MOD_AUDIO_CLIP_INVALID → clipSlot clips voice.clip ≠ some i) :
    Playing (Function.update clips i slot) voice := by
  intro hactive
  obtain ⟨j, hj, hphase⟩ := h hactive
  have hne : j ≠ i := by
    rintro rfl
    exact hother hactive hj
  refine ⟨j, ?_, ?_⟩
  · rw [clipSlot_eq_some_iff, Function.update_of_ne hne]
    exact clipSlot_eq_some_iff.1 hj
  · rw [Function.update_of_ne hne]
    exact hphase

/-! ## The calls on the pool -/

section Calls

variable {s : Pool}

/-- A clip enters a free slot, within the budget. -/
theorem PoolInv.enter (h : PoolInv s) {i : Fin SNES_MOD_AUDIO_MAX_CLIPS}
    (hfree : (s.clips i).samples = none)
    {slot : ClipSlot} (hslot : slot.Ok) {bytes : UInt64} (hbytes : bytes.toNat = slot.size)
    (hroom : s.clipBytes ≤ SNES_MOD_AUDIO_MAX_TOTAL_BYTES - bytes)
    (hsmall : bytes ≤ SNES_MOD_AUDIO_MAX_TOTAL_BYTES) :
    PoolInv { s with
      clips := Function.update s.clips i slot
      clipBytes := s.clipBytes + bytes } := by
  have hmax : SNES_MOD_AUDIO_MAX_TOTAL_BYTES.toNat = 16777216 := rfl
  have hle : bytes.toNat ≤ 16777216 := by
    have := UInt64.le_iff_toNat_le.1 hsmall
    omega
  have hsum : s.clipBytes.toNat + bytes.toNat ≤ 16777216 := by
    have := UInt64.le_iff_toNat_le.1 hroom
    rw [UInt64.toNat_sub_of_le _ _ hsmall] at this
    omega
  have hadd : (s.clipBytes + bytes).toNat = s.clipBytes.toNat + bytes.toNat := by
    rw [UInt64.toNat_add]
    exact Nat.mod_eq_of_lt (by omega)
  constructor
  · intro j
    dsimp only
    by_cases hj : j = i
    · rw [hj, Function.update_self]
      exact hslot
    · rw [Function.update_of_ne hj]
      exact h.slots j
  · have hupdate := sum_size_update s.clips i slot
    have hnone : (s.clips i).size = 0 := by rw [ClipSlot.size, hfree]
    have hsums := h.bytes
    dsimp only
    omega
  · rw [UInt64.le_iff_toNat_le]
    dsimp only
    omega
  · intro j
    apply (h.voices j).update
    intro _ hclip
    have hlive := (clipSlot_eq_some_iff.1 hclip).2
    rw [hfree] at hlive
    cases hlive
  · exact h.cursor

/-- A clip leaves with the voices that play it. -/
theorem PoolInv.unregister (h : PoolInv s) (clip : Int32) : PoolInv (s.unregister clip) := by
  unfold Pool.unregister
  cases hclip : clipSlot s.clips clip with
  | none => exact h
  | some i =>
      obtain ⟨hindex, hlive⟩ := clipSlot_eq_some_iff.1 hclip
      have hsize := (h.slots i).bytes hlive
      have hupdate := sum_size_update s.clips i .free
      have hfree : ClipSlot.free.size = 0 := rfl
      have hsums := h.bytes
      have hle : pcmBytes (s.clips i).frameCount (s.clips i).channels ≤ s.clipBytes := by
        rw [UInt64.le_iff_toNat_le]
        omega
      have hsub := UInt64.toNat_sub_of_le _ _ hle
      constructor
      · intro j
        dsimp only
        by_cases hj : j = i
        · rw [hj, Function.update_self]
          exact ok_free
        · rw [Function.update_of_ne hj]
          exact h.slots j
      · dsimp only
        omega
      · have hbudget := UInt64.le_iff_toNat_le.1 h.budget
        rw [UInt64.le_iff_toNat_le]
        dsimp only
        omega
      · intro j
        dsimp only
        split
        · exact playing_idle _
        · rename_i hother
          apply (h.voices j).update
          intro _ hsame
          apply hother
          apply Int32.toInt_inj.1
          rw [(clipSlot_eq_some_iff.1 hsame).1, hindex]
      · exact h.cursor

theorem PoolInv.register (h : PoolInv s) {samples : Option (List Int16)}
    {frameCount channels : UInt32}
    (hfits : ∀ xs ∈ samples, frameCount.toNat * channels.toNat ≤ xs.length) (sampleRate : UInt32)
    (allocated : Bool) : ∃ handle t,
      s.registerPcmS16 samples frameCount sampleRate channels allocated = .ok (handle, t) ∧
      PoolInv t := by
  unfold Pool.registerPcmS16
  cases samples with
  | none => exact ⟨_, s, rfl, h⟩
  | some samples =>
      dsimp only
      by_cases hinvalid : pcmInvalid frameCount sampleRate channels
      · rw [if_pos hinvalid]
        exact ⟨_, s, rfl, h⟩
      rw [if_neg hinvalid]
      by_cases hbytes : pcmBytes frameCount channels > SNES_MOD_AUDIO_MAX_TOTAL_BYTES
      · rw [if_pos hbytes]
        exact ⟨_, s, rfl, h⟩
      rw [if_neg hbytes]
      by_cases hroom : s.clipBytes > SNES_MOD_AUDIO_MAX_TOTAL_BYTES - pcmBytes frameCount channels
      · rw [if_pos hroom]
        exact ⟨_, s, rfl, h⟩
      rw [if_neg hroom]
      cases hfind : (List.finRange SNES_MOD_AUDIO_MAX_CLIPS).find?
        (fun i => (s.clips i).samples.isNone) with
      | none => exact ⟨_, s, rfl, h⟩
      | some i =>
          dsimp only
          by_cases hmalloc : allocated = false
          · rw [if_pos hmalloc]
            exact ⟨_, s, rfl, h⟩
          rw [if_neg hmalloc]
          have hnone := List.find?_some hfind
          have hfree : (s.clips i).samples = none := Option.isNone_iff_eq_none.1 hnone
          unfold pcmInvalid at hinvalid
          simp only [not_or, not_and_or, not_not] at hinvalid
          obtain ⟨hframes, -, -, hchannels, -⟩ := hinvalid
          have hsize : (pcmBytes frameCount channels).toNat =
            2 * (frameCount.toNat * channels.toNat) :=
            pcmBytes_toNat hchannels
          have hcount : (pcmBytes frameCount channels).toNat / 2 = frameCount.toNat *
            channels.toNat := by
            omega
          have hcopy := hfits samples rfl
          have htake : (samples.take (frameCount.toNat * channels.toNat)).length =
              frameCount.toNat * channels.toNat := by
            rw [List.length_take]
            omega
          rw [copySamples, hcount, if_pos hcopy]
          refine ⟨_, _, rfl, h.enter hfree ?_ ?_ (UInt64.not_lt.1 hroom) (UInt64.not_lt.1 hbytes)⟩
          · constructor
            · intro xs hxs
              cases hxs
              exact htake
            · intro _
              have hne : frameCount.toNat ≠ 0 := fun hzero => hframes (UInt32.toNat_inj.1 hzero)
              exact Nat.pos_of_ne_zero hne
            · intro _
              exact hchannels
          · rw [hsize, ClipSlot.size]
            dsimp only
            rw [htake]

/-- A voice starts on a live clip. -/
theorem PoolInv.start_voice (h : PoolInv s) {clip : Int32} (hclip : (clipSlot s.clips clip).isSome)
    (i : Fin SNES_MOD_AUDIO_MAX_VOICES) (gainPercent : Int32) {cursor : UInt32}
    (hcursor : cursor.toNat < SNES_MOD_AUDIO_MAX_VOICES) : PoolInv { s with
      replaceCursor := cursor
      voices := Function.update s.voices i ⟨clip, 0, gainPercent⟩ } where
  slots := h.slots
  bytes := h.bytes
  budget := h.budget
  cursor := hcursor
  voices := by
    intro j
    dsimp only
    by_cases hj : j = i
    · rw [hj, Function.update_self]
      obtain ⟨k, hk⟩ := Option.isSome_iff_exists.1 hclip
      intro _
      refine ⟨k, hk, ?_⟩
      have hzero : ((0 : UInt64) >>> 32).toNat = 0 := rfl
      dsimp only
      rw [hzero]
      exact (h.slots k).frames (clipSlot_eq_some_iff.1 hk).2
    · rw [Function.update_of_ne hj]
      exact h.voices j

theorem PoolInv.play (h : PoolInv s) (clip gainPercent : Int32) :
    ∃ played t, s.play clip gainPercent = .ok (played, t) ∧ PoolInv t := by
  unfold Pool.play
  by_cases hnone : (clipSlot s.clips clip).isNone
  · rw [if_pos hnone]
    exact ⟨false, s, rfl, h⟩
  rw [if_neg hnone]
  rw [Bool.not_eq_true, Option.isNone_eq_false_iff] at hnone
  dsimp only
  split
  · exact ⟨true, _, rfl, h.start_voice hnone _ _ h.cursor⟩
  · rw [dif_pos h.cursor]
    refine ⟨true, _, rfl, h.start_voice hnone _ _ ?_⟩
    rw [UInt32.toNat_mod]
    exact Nat.mod_lt _ (by decide)

theorem PoolInv.stopAll (h : PoolInv s) : PoolInv s.stopAll where
  slots := h.slots
  bytes := h.bytes
  budget := h.budget
  voices _ := playing_idle _
  cursor := Nat.zero_lt_succ 7

end Calls

/-! ## The mixer -/

section Mixer

variable {clips : Clips} {slot : ClipSlot}

/-- A sample of a frame that the clip has. -/
theorem sample_ok (h : slot.Ok) (hlive : slot.samples.isSome) {frame channel : Nat}
    (hframe : frame < slot.frameCount.toNat) (hchannel : channel < slot.channels.toNat) :
    ∃ x, slot.sample (frame * slot.channels.toNat + channel) = .ok x := by
  obtain ⟨xs, hxs⟩ := Option.isSome_iff_exists.1 hlive
  have hlen := h.length xs hxs
  have hnext : (frame + 1) * slot.channels.toNat ≤ slot.frameCount.toNat * slot.channels.toNat :=
    Nat.mul_le_mul_right _ hframe
  rw [Nat.add_mul, Nat.one_mul] at hnext
  have hlt : frame * slot.channels.toNat + channel < xs.length := by omega
  unfold ClipSlot.sample
  rw [hxs, Option.bind_some, List.getElem?_eq_getElem hlt]
  exact ⟨_, rfl⟩

theorem interpolatedSample_ok (h : slot.Ok) (hlive : slot.samples.isSome) {frame : UInt32}
    (hframe : frame < slot.frameCount) (fraction : UInt32) {channel : UInt32}
    (hchannel : channel.toNat < 2) :
    ∃ x, interpolatedSample slot frame fraction channel = .ok x := by
  have hinside : frame.toNat < slot.frameCount.toNat := UInt32.lt_iff_toNat_lt.1 hframe
  have hsource : (if slot.channels = 1 then (0 : UInt32) else channel).toNat <
    slot.channels.toNat := by
    rcases h.channels hlive with hmono | hstereo
    · rw [if_pos hmono, hmono]
      decide
    · rw [hstereo, if_neg (by decide)]
      exact hchannel
  obtain ⟨s0, hs0⟩ := sample_ok h hlive hinside hsource
  unfold interpolatedSample
  dsimp only
  rw [hs0, ok_bind]
  by_cases hnext : frame + 1 < slot.frameCount
  · have hsum : (frame + 1).toNat = frame.toNat + 1 := by
      have hmax := slot.frameCount.toNat_lt
      rw [UInt32.toNat_add]
      exact Nat.mod_eq_of_lt (by simp; omega)
    have hinside' : frame.toNat + 1 < slot.frameCount.toNat := by
      rw [← hsum]
      exact UInt32.lt_iff_toNat_lt.1 hnext
    obtain ⟨s1, hs1⟩ := sample_ok h hlive hinside' hsource
    rw [Nat.add_mul, Nat.one_mul, Nat.add_right_comm] at hs1
    rw [if_pos hnext, hs1, ok_bind]
    exact ⟨_, rfl⟩
  · rw [if_neg hnext]
    exact ⟨_, rfl⟩

theorem sampleForOutput_ok (h : slot.Ok) (hlive : slot.samples.isSome) {frame : UInt32}
    (hframe : frame < slot.frameCount) (fraction : UInt32) {outputChannel : UInt32}
    (hchannel : outputChannel.toNat < 2) (outputChannels : UInt32) :
    ∃ x, sampleForOutput slot frame fraction outputChannel outputChannels = .ok x := by
  unfold sampleForOutput
  split
  · obtain ⟨left, hleft⟩ :=
      interpolatedSample_ok h hlive hframe fraction (show (0 : UInt32).toNat < 2 by decide)
    obtain ⟨right, hright⟩ :=
      interpolatedSample_ok h hlive hframe fraction (show (1 : UInt32).toNat < 2 by decide)
    rw [hleft, ok_bind, hright, ok_bind]
    exact ⟨_, rfl⟩
  · exact interpolatedSample_ok h hlive hframe fraction hchannel

theorem forward_cases (voice : Voice) (step : UInt64) :
    voice.forward step = .idle ∨ ∃ phase, voice.forward step = { voice with phase } := by
  unfold Voice.forward
  split
  · exact Or.inl rfl
  · exact Or.inr ⟨_, rfl⟩

theorem stopAt_cases (voice : Voice) (frameCount : UInt32) :
    voice.stopAt frameCount = .idle ∨ voice.stopAt frameCount = voice ∧
      (voice.clip ≠ SNES_MOD_AUDIO_CLIP_INVALID →
        (voice.phase >>> 32).toNat < frameCount.toNat) := by
  unfold Voice.stopAt
  split
  · exact Or.inl rfl
  · rename_i hgoes
    refine Or.inr ⟨rfl, ?_⟩
    intro hactive
    have hinside : ¬ voice.phase >>> 32 ≥ frameCount.toUInt64 := fun hend => hgoes ⟨hactive, hend⟩
    have hlt := UInt64.lt_iff_toNat_lt.1 (UInt64.not_le.1 hinside)
    rwa [UInt32.toNat_toUInt64] at hlt

/-- A voice that goes on stays inside its clip. -/
theorem playing_advance {voice : Voice} {i : Fin SNES_MOD_AUDIO_MAX_CLIPS}
    (hclip : clipSlot clips voice.clip = some i) (outputRate : UInt32) :
    Playing clips (advance (clips i) voice outputRate) := by
  unfold advance
  rcases stopAt_cases (voice.forward (((clips i).sampleRate.toUInt64 <<< 32) / outputRate.toUInt64))
    (clips i).frameCount with hidle | ⟨hsame, hinside⟩
  · rw [hidle]
    exact playing_idle clips
  · rw [hsame]
    intro hactive
    have hphase := hinside hactive
    rcases forward_cases voice (((clips i).sampleRate.toUInt64 <<< 32) / outputRate.toUInt64) with
      hidle | ⟨phase, hforward⟩
    · rw [hidle] at hactive
      exact absurd rfl hactive
    · rw [hforward] at hphase ⊢
      exact ⟨i, hclip, hphase⟩

theorem mixChannels_ok (h : slot.Ok) (hlive : slot.samples.isSome) {voice : Voice}
    (hinside : (voice.phase >>> 32).toUInt32 < slot.frameCount) {outputChannels : UInt32}
    (houtput : outputChannels.toNat ≤ 2) (mixed : Nat → Int) :
    ∃ mixed', mixChannels slot voice outputChannels mixed = .ok mixed' := by
  obtain ⟨mixed', hmixed, -⟩ := foldlM_ok (I := fun _ => True) (b := mixed)
    (l := List.range outputChannels.toNat) (f := fun mixed channel => do
      let sample ← sampleForOutput slot (voice.phase >>> 32).toUInt32 voice.phase.toUInt32
        (UInt32.ofNat channel) outputChannels
      return Function.update mixed channel
        (mixed channel + (sample * voice.gainPercent.toInt).tdiv 100)) (by
    intro mixed channel hchannel _
    have hlt := List.mem_range.1 hchannel
    have hsmall : (UInt32.ofNat channel).toNat < 2 := by
      rw [UInt32.toNat_ofNat_of_lt' (by simp [UInt32.size]; omega)]
      omega
    obtain ⟨x, hx⟩ := sampleForOutput_ok h hlive hinside voice.phase.toUInt32 hsmall outputChannels
    rw [hx, ok_bind]
    exact ⟨_, rfl, trivial⟩) trivial
  exact ⟨mixed', hmixed⟩

theorem mixVoice_ok (hclips : ∀ i, (clips i).Ok) {voice : Voice} (hvoice : Playing clips voice)
    (outputRate : UInt32) {outputChannels : UInt32} (houtput : outputChannels.toNat ≤ 2)
    (mixed : Nat → Int) : ∃ voice' mixed',
      mixVoice clips outputRate outputChannels voice mixed = .ok (voice', mixed') ∧
      Playing clips voice' := by
  unfold mixVoice
  by_cases hidle : voice.clip = SNES_MOD_AUDIO_CLIP_INVALID
  · rw [if_pos hidle]
    exact ⟨voice, mixed, rfl, hvoice⟩
  · obtain ⟨i, hi, -⟩ := hvoice hidle
    have hlive := (clipSlot_eq_some_iff.1 hi).2
    rw [if_neg hidle, hi]
    dsimp only
    split
    · exact ⟨.idle, mixed, rfl, playing_idle clips⟩
    · rename_i hinside
      obtain ⟨mixed', hmixed⟩ :=
        mixChannels_ok (hclips i) hlive (UInt32.not_le.1 hinside) houtput mixed
      rw [hmixed, ok_bind]
      exact ⟨_, _, rfl, playing_advance hi outputRate⟩

theorem mixVoices_ok (hclips : ∀ i, (clips i).Ok) {voices : Voices}
    (hvoices : ∀ i, Playing clips (voices i))
    (outputRate : UInt32) {outputChannels : UInt32} (houtput : outputChannels.toNat ≤ 2)
    (mixed : Nat → Int) : ∃ voices' mixed',
      mixVoices clips outputRate outputChannels voices mixed = .ok (voices', mixed') ∧
        ∀ i, Playing clips (voices' i) := by
  obtain ⟨⟨voices', mixed'⟩, hrun, hplaying⟩ := foldlM_ok (b := (voices, mixed))
    (I := fun r : Voices × (Nat → Int) => ∀ i, Playing clips (r.1 i))
    (l := List.finRange SNES_MOD_AUDIO_MAX_VOICES) (f := fun r i =>
      mixVoice clips outputRate outputChannels (r.1 i) r.2 >>= fun q =>
        .ok (Function.update r.1 i q.1, q.2)) (by
    rintro ⟨voices, mixed⟩ i - hvoices
    obtain ⟨voice', mixed', hmix, hvoice⟩ := mixVoice_ok hclips (hvoices i) outputRate houtput mixed
    dsimp only
    rw [hmix, ok_bind]
    refine ⟨_, rfl, ?_⟩
    intro j
    by_cases hj : j = i
    · rw [hj]
      dsimp only
      rwa [Function.update_self]
    · dsimp only
      rw [Function.update_of_ne hj]
      exact hvoices j) hvoices
  exact ⟨voices', mixed', hrun, hplaying⟩

theorem readFrame_ok {dst : List Int16} {i : Nat} (h : i < dst.length) :
    ∃ x, readFrame dst i = .ok x := by
  unfold readFrame
  rw [List.getElem?_eq_getElem h]
  exact ⟨_, rfl⟩

theorem mixFrame_ok (hclips : ∀ i, (clips i).Ok) {voices : Voices}
    (hvoices : ∀ i, Playing clips (voices i))
    (outputRate : UInt32) {outputChannels : UInt32}
    (houtput : outputChannels = 1 ∨ outputChannels = 2)
    {dst : List Int16} {frame : Nat} (hframe : (frame + 1) * outputChannels.toNat ≤ dst.length) :
    ∃ voices' dst', mixFrame clips outputRate outputChannels voices dst frame =
      .ok (voices', dst') ∧
      (∀ i, Playing clips (voices' i)) ∧ dst'.length = dst.length := by
  have hpositive : 0 < outputChannels.toNat ∧ outputChannels.toNat ≤ 2 := by
    rcases houtput with rfl | rfl
    · decide
    · decide
  rw [Nat.add_mul, Nat.one_mul] at hframe
  have hsecond : ∃ x, (if outputChannels = 2 then readFrame dst (frame * 2 + 1) else pure 0) =
    .ok x := by
    split
    · rename_i htwo
      apply readFrame_ok
      have htwo : outputChannels.toNat = 2 := by
        rw [htwo]
        rfl
      rw [htwo] at hframe
      omega
    · exact ⟨0, rfl⟩
  obtain ⟨first, hfirst⟩ := readFrame_ok (show frame * outputChannels.toNat < dst.length by omega)
  obtain ⟨second, hsecond⟩ := hsecond
  obtain ⟨voices', mixed, hmix, hplaying⟩ := mixVoices_ok hclips hvoices outputRate hpositive.2
    (fun channel => if channel = 0 then first else second)
  obtain ⟨dst', hwrite, hlen⟩ :=
    foldlM_ok (b := dst) (I := fun d : List Int16 => d.length = dst.length)
    (l := List.range outputChannels.toNat) (f := fun d channel =>
      writeFrame d (frame * outputChannels.toNat + channel) (clampS16 (mixed channel))) (by
    intro d channel hchannel hd
    have hlt := List.mem_range.1 hchannel
    unfold writeFrame
    rw [if_pos (by omega)]
    exact ⟨_, rfl, by rw [List.length_set, hd]⟩) rfl
  unfold mixFrame
  rw [hfirst, ok_bind, hsecond, ok_bind, hmix, ok_bind]
  dsimp only
  rw [hwrite, ok_bind]
  exact ⟨voices', dst', rfl, hplaying, hlen⟩

/-- A call that is not refused goes over its frames. -/
theorem mix_valid {s : Pool} {dst : List Int16} {frameCount : Int32}
    {outputRate outputChannels : UInt32}
    (h : ¬ mixInvalid frameCount outputRate outputChannels) :
    s.mix dst frameCount outputRate outputChannels =
      ((List.range frameCount.toInt.toNat).foldlM (fun r frame =>
        mixFrame s.clips outputRate outputChannels r.1 r.2 frame) (s.voices, dst)).map
          fun r => (r.2, { s with voices := r.1 }) := if_neg h

/-- The mixer stays inside the clips, and inside a buffer that holds its frames. -/
theorem PoolInv.mix {s : Pool} (h : PoolInv s) {dst : List Int16} {frameCount : Int32}
    (outputRate : UInt32)
    {outputChannels : UInt32} (hfits : frameCount.toInt * outputChannels.toNat ≤ dst.length) :
    ∃ dst' t, s.mix dst frameCount outputRate outputChannels = .ok (dst', t) ∧ PoolInv t := by
  by_cases hinvalid : mixInvalid frameCount outputRate outputChannels
  · unfold Pool.mix
    rw [if_pos hinvalid]
    exact ⟨dst, s, rfl, h⟩
  · rw [mix_valid hinvalid]
    unfold mixInvalid at hinvalid
    simp only [not_or, not_and_or, not_not] at hinvalid
    obtain ⟨hcount, -, -, houtput⟩ := hinvalid
    obtain ⟨n, hn⟩ := Int.eq_ofNat_of_zero_le (Int.le_of_lt (Int.not_le.1 hcount))
    rw [hn] at hfits ⊢
    have hroom : n * outputChannels.toNat ≤ dst.length := by
      exact_mod_cast hfits
    obtain ⟨⟨voices', dst'⟩, hrun, hplaying, -⟩ := foldlM_ok (b := (s.voices, dst))
      (I := fun r : Voices × List Int16 => (∀ i, Playing s.clips (r.1 i)) ∧ r.2.length = dst.length)
      (l := List.range n) (f := fun r frame =>
        mixFrame s.clips outputRate outputChannels r.1 r.2 frame) (by
      rintro ⟨voices, d⟩ frame hframe ⟨hvoices, hd⟩
      have hlt : frame + 1 ≤ n := List.mem_range.1 hframe
      have hinside : (frame + 1) * outputChannels.toNat ≤ d.length := by
        have := Nat.mul_le_mul_right outputChannels.toNat hlt
        dsimp only at hd
        omega
      obtain ⟨voices', d', hmix, hvoices', hd'⟩ :=
        mixFrame_ok h.slots hvoices outputRate houtput hinside
      exact ⟨(voices', d'), hmix, hvoices', hd'.trans hd⟩) ⟨h.voices, rfl⟩
    rw [Int.toNat_natCast, hrun]
    exact ⟨dst', _, rfl, h.slots, h.bytes, h.budget, hplaying, h.cursor⟩

end Mixer

/-! ## Runs -/

/-- Every call whose arrays hold what they should runs through, and keeps the pool. -/
theorem PoolInv.perform {s : Pool} (h : PoolInv s) {a : Act} (hfits : a.Fits) :
    ∃ t, s.perform a = .ok t ∧ PoolInv t := by
  cases a with
  | register samples frameCount sampleRate channels allocated =>
      obtain ⟨handle, t, hok, ht⟩ := h.register hfits sampleRate allocated
      refine ⟨t, ?_, ht⟩
      rw [Pool.perform, hok, ok_bind]
      rfl
  | unregister clip => exact ⟨_, rfl, h.unregister clip⟩
  | play clip gainPercent =>
      obtain ⟨played, t, hok, ht⟩ := h.play clip gainPercent
      refine ⟨t, ?_, ht⟩
      rw [Pool.perform, hok, ok_bind]
      rfl
  | stopAll => exact ⟨_, rfl, h.stopAll⟩
  | mix dst frameCount outputRate outputChannels =>
      obtain ⟨dst', t, hok, ht⟩ := h.mix outputRate hfits
      refine ⟨t, ?_, ht⟩
      rw [Pool.perform, hok, ok_bind]
      rfl

theorem PoolInv.step {s t : Pool} {act : Act} (h : PoolInv s) (hstep : s.Step act t) :
    PoolInv t := by
  obtain ⟨hfits, hperform⟩ := hstep
  obtain ⟨u, hok, hu⟩ := h.perform hfits
  rw [hperform] at hok
  cases hok
  exact hu

/-- After every sequence of calls the accounted bytes are those of the live clips and within the
budget, every active voice names a live clip and stands on one of its frames, and no further call
reads outside a clip. -/
theorem mod_audio_pool {steps : List (Pool × Act × Pool)} {s : Pool}
    (h : Run Pool.Step .start steps s) :
    s.clipBytes.toNat = ∑ i, (s.clips i).size ∧ s.clipBytes.toNat ≤ 16 * 1024 * 1024 ∧
      (∀ i, (s.voices i).clip ≠ SNES_MOD_AUDIO_CLIP_INVALID → ∃ k,
        clipSlot s.clips (s.voices i).clip = some k ∧
          ((s.voices i).phase >>> 32).toNat < (s.clips k).frameCount.toNat) ∧
      ∀ act : Act, act.Fits → ∃ t, s.perform act = .ok t := by
  have hinv : PoolInv s :=
    h.invariant (I := PoolInv) (fun _ _ _ hstep ha => ha.step hstep) poolInv_start
  have hmax : SNES_MOD_AUDIO_MAX_TOTAL_BYTES.toNat = 16777216 := rfl
  have hbudget := UInt64.le_iff_toNat_le.1 hinv.budget
  refine ⟨hinv.bytes, by omega, hinv.voices, ?_⟩
  intro act hfits
  obtain ⟨t, ht, -⟩ := hinv.perform hfits
  exact ⟨t, ht⟩

/-- Two frames are registered and played, and one output frame is mixed. -/
theorem mod_audio_pool_played : ∃ steps s, Run Pool.Step .start steps s ∧
    steps.map (fun x => x.2.1) = [.register (some [5, 9]) 2 8000 1 true, .play 1 100,
      .mix [0] 1 16000 1] ∧
    s.clipBytes = 4 ∧ (s.voices 0).clip = 1 ∧ (s.voices 0).phase = 0x80000000 ∧
    s.clipBytes.toNat = ∑ i, (s.clips i).size := by
  have hfacts : (((Pool.start.perform (.register (some [5, 9]) 2 8000 1 true)).bind
      fun s => s.perform (.play 1 100)).bind fun s => s.perform (.mix [0] 1 16000 1)).toOption.map
        (fun s => (s.clipBytes, (s.voices 0).clip, (s.voices 0).phase)) =
          some (4, 1, 0x80000000) := by
    decide +kernel
  obtain ⟨a, ha, hinv⟩ := poolInv_start.perform (a := .register (some [5, 9]) 2 8000 1 true)
    (by intro xs hxs; cases hxs; decide)
  obtain ⟨b, hb, hinv⟩ := hinv.perform (a := .play 1 100) trivial
  obtain ⟨c, hc, -⟩ := hinv.perform (a := .mix [0] 1 16000 1)
    (show (1 : Int32).toInt * (1 : UInt32).toNat ≤ 1 by decide)
  have hrun : Run Pool.Step .start [(.start, .register (some [5, 9]) 2 8000 1 true, a),
    (a, .play 1 100, b),
      (b, .mix [0] 1 16000 1, c)] c := by
    apply Run.cons ⟨by intro xs hxs; cases hxs; decide, ha⟩
    apply Run.cons ⟨trivial, hb⟩
    apply Run.cons ⟨show (1 : Int32).toInt * (1 : UInt32).toNat ≤ 1 by decide, hc⟩
    exact Run.nil c
  rw [ha, Except.bind, hb, Except.bind, hc] at hfacts
  obtain ⟨hbytes, hfacts⟩ := Prod.mk.inj (Option.some.inj hfacts)
  obtain ⟨hclip, hphase⟩ := Prod.mk.inj hfacts
  exact ⟨_, c, hrun, rfl, hbytes, hclip, hphase, (mod_audio_pool hrun).1⟩

end SmwRecomp.Audio
