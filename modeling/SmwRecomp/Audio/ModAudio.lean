import SmwRecomp.Lib.Bytes
import Mathlib.Data.Fintype.Basic
import Mathlib.Data.List.FinRange
import Mathlib.Logic.Function.Basic

/-!
# Host audio of the mods

`src/src/mod_audio.c`: a pool of PCM clips under a byte budget, eight voices that play them, and the
mixer.

* The arrays of the module are functions on their indices; an array a caller hands over is a list,
  and `outOfBounds` stops what would leave it.
* Samples, and the sums the mixer forms of them, are integers.
* `malloc` may fail.
-/

set_option autoImplicit false

namespace SmwRecomp.Audio

abbrev SNES_MOD_AUDIO_MAX_CLIPS : Nat := 64
abbrev SNES_MOD_AUDIO_MAX_VOICES : Nat := 8
def SNES_MOD_AUDIO_MAX_TOTAL_BYTES : UInt64 := 16 * 1024 * 1024
def SNES_MOD_AUDIO_CLIP_INVALID : Int32 := 0
def SNES_MOD_AUDIO_CHANNELS_MONO : UInt32 := 1
def SNES_MOD_AUDIO_CHANNELS_STEREO : UInt32 := 2
def SIZE_MAX : UInt64 := 0xffffffffffffffff
def UINT64_MAX : UInt64 := 0xffffffffffffffff

structure ClipSlot where
  samples : Option (List Int16)
  frameCount : UInt32
  sampleRate : UInt32
  channels : UInt32

structure Voice where
  clip : Int32
  /-- A position in frames, in 32.32. -/
  phase : UInt64
  gainPercent : Int32

abbrev Clips := Fin SNES_MOD_AUDIO_MAX_CLIPS → ClipSlot

abbrev Voices := Fin SNES_MOD_AUDIO_MAX_VOICES → Voice

/-- The static state of the module. -/
structure Pool where
  clips : Clips
  voices : Voices
  replaceCursor : UInt32
  clipBytes : UInt64

def ClipSlot.free : ClipSlot := ⟨none, 0, 0, 0⟩

def Voice.idle : Voice := ⟨0, 0, 0⟩

def Pool.start : Pool := ⟨fun _ => .free, fun _ => .idle, 0, 0⟩

/-- `clip_slot`. -/
def clipSlot (clips : Clips) (clip : Int32) : Option (Fin SNES_MOD_AUDIO_MAX_CLIPS) :=
  if h : clip.toInt ≤ 0 ∨ clip.toInt > 64 then none
  else
    let i : Fin SNES_MOD_AUDIO_MAX_CLIPS :=
      ⟨(clip.toInt - 1).toNat, by unfold SNES_MOD_AUDIO_MAX_CLIPS; omega⟩
    if (clips i).samples.isNone then none else some i

/-! ## The pool -/

/-- `(size_t)frame_count * channels * sizeof(*samples)`. -/
def pcmBytes (frameCount channels : UInt32) : UInt64 := frameCount.toUInt64 * channels.toUInt64 * 2

/-- What is wrong with a clip in itself. -/
def pcmInvalid (frameCount sampleRate channels : UInt32) : Prop :=
  frameCount = 0 ∨ sampleRate < 8000 ∨ sampleRate > 192000 ∨
    (channels ≠ SNES_MOD_AUDIO_CHANNELS_MONO ∧ channels ≠ SNES_MOD_AUDIO_CHANNELS_STEREO) ∨
    frameCount.toUInt64 > SIZE_MAX / (channels.toUInt64 * 2)

instance (frameCount sampleRate channels : UInt32) :
    Decidable (pcmInvalid frameCount sampleRate channels) :=
  inferInstanceAs (Decidable (_ ∨ _))

/-- `memcpy` of `n` samples. -/
def copySamples (samples : List Int16) (n : Nat) : Except Stop (List Int16) :=
  if n ≤ samples.length then .ok (samples.take n) else .error .outOfBounds

/-- `snes_mod_audio_register_pcm_s16`; `allocated` tells whether `malloc` delivers. -/
def Pool.registerPcmS16 (s : Pool) (samples : Option (List Int16))
    (frameCount sampleRate channels : UInt32)
    (allocated : Bool) : Except Stop (Int32 × Pool) :=
  match samples with
  | none => .ok (SNES_MOD_AUDIO_CLIP_INVALID, s)
  | some samples =>
    if pcmInvalid frameCount sampleRate channels then .ok (SNES_MOD_AUDIO_CLIP_INVALID, s)
    else
      let bytes := pcmBytes frameCount channels
      if bytes > SNES_MOD_AUDIO_MAX_TOTAL_BYTES then .ok (SNES_MOD_AUDIO_CLIP_INVALID, s)
      else if s.clipBytes > SNES_MOD_AUDIO_MAX_TOTAL_BYTES - bytes
        then .ok (SNES_MOD_AUDIO_CLIP_INVALID, s)
      else
        match (List.finRange SNES_MOD_AUDIO_MAX_CLIPS).find?
            (fun i => (s.clips i).samples.isNone) with
        | none => .ok (SNES_MOD_AUDIO_CLIP_INVALID, s)
        | some index =>
          if allocated = false then .ok (SNES_MOD_AUDIO_CLIP_INVALID, s)
          else do
            let copy ← copySamples samples (bytes.toNat / 2)
            return (Int32.ofNat (index + 1), { s with
              clips := Function.update s.clips index ⟨some copy, frameCount, sampleRate, channels⟩
              clipBytes := s.clipBytes + bytes })

/-- `snes_mod_audio_unregister`. -/
def Pool.unregister (s : Pool) (clip : Int32) : Pool :=
  match clipSlot s.clips clip with
  | none => s
  | some index =>
    let slot := s.clips index
    { s with
      voices := fun i => if (s.voices i).clip = clip then .idle else s.voices i
      clipBytes := s.clipBytes - pcmBytes slot.frameCount slot.channels
      clips := Function.update s.clips index .free }

def clampGain (gainPercent : Int32) : Int32 :=
  let gainPercent := if gainPercent < 0 then 0 else gainPercent
  if gainPercent > 200 then 200 else gainPercent

/-- `snes_mod_audio_play`. -/
def Pool.play (s : Pool) (clip gainPercent : Int32) : Except Stop (Bool × Pool) :=
  if (clipSlot s.clips clip).isNone then .ok (false, s)
  else
    let voice : Voice := ⟨clip, 0, clampGain gainPercent⟩
    match (List.finRange SNES_MOD_AUDIO_MAX_VOICES).find?
      (fun i => (s.voices i).clip = SNES_MOD_AUDIO_CLIP_INVALID) with
    | some index => .ok (true, { s with voices := Function.update s.voices index voice })
    | none =>
      if h : s.replaceCursor.toNat < SNES_MOD_AUDIO_MAX_VOICES then
        .ok (true, { s with
          replaceCursor := (s.replaceCursor + 1) % 8
          voices := Function.update s.voices ⟨s.replaceCursor.toNat, h⟩ voice })
      else .error .outOfBounds

/-- `snes_mod_audio_stop_all`. -/
def Pool.stopAll (s : Pool) : Pool := { s with
  voices := fun _ => .idle
  replaceCursor := 0 }

/-! ## The mixer -/

/-- `slot->samples[i]`. -/
def ClipSlot.sample (slot : ClipSlot) (i : Nat) : Except Stop Int :=
  match slot.samples.bind (fun samples => samples[i]?) with
  | some x => .ok x.toInt
  | none => .error .outOfBounds

/-- `dst[i]`. -/
def readFrame (dst : List Int16) (i : Nat) : Except Stop Int :=
  match dst[i]? with
  | some x => .ok x.toInt
  | none => .error .outOfBounds

/-- `dst[i] = x`. -/
def writeFrame (dst : List Int16) (i : Nat) (x : Int16) : Except Stop (List Int16) :=
  if i < dst.length then .ok (dst.set i x) else .error .outOfBounds

/-- `clamp_s16`. -/
def clampS16 (value : Int) : Int16 :=
  if value > 32767 then 32767 else if value < -32768 then -32768 else Int16.ofInt value

/-- `interpolated_sample`. -/
def interpolatedSample (slot : ClipSlot) (frame fraction channel : UInt32) : Except Stop Int := do
  let sourceChannel := if slot.channels = 1 then 0 else channel
  let first := frame.toNat * slot.channels.toNat + sourceChannel.toNat
  let s0 ← slot.sample first
  let s1 ← if frame + 1 < slot.frameCount then slot.sample (first + slot.channels.toNat)
    else pure s0
  return s0 + ((s1 - s0) * fraction.toNat).tdiv 4294967296

/-- `sample_for_output`. -/
def sampleForOutput (slot : ClipSlot) (frame fraction outputChannel outputChannels : UInt32) :
    Except Stop Int :=
  if outputChannels = 1 ∧ slot.channels = 2 then do
    let left ← interpolatedSample slot frame fraction 0
    let right ← interpolatedSample slot frame fraction 1
    return (left + right).tdiv 2
  else interpolatedSample slot frame fraction outputChannel

/-- The loop over the channels of one frame of one voice. -/
def mixChannels (slot : ClipSlot) (voice : Voice) (outputChannels : UInt32) (mixed : Nat → Int) :
    Except Stop (Nat → Int) :=
  (List.range outputChannels.toNat).foldlM (fun mixed channel => do
    let sample ← sampleForOutput slot (voice.phase >>> 32).toUInt32 voice.phase.toUInt32
      (UInt32.ofNat channel) outputChannels
    return Function.update mixed channel
      (mixed channel + (sample * voice.gainPercent.toInt).tdiv 100)) mixed

/-- A voice `step` further; the position does not wrap. -/
def Voice.forward (voice : Voice) (step : UInt64) : Voice :=
  if voice.phase > UINT64_MAX - step then .idle else { voice with phase := voice.phase + step }

/-- A voice behind the end of its clip is cleared. -/
def Voice.stopAt (voice : Voice) (frameCount : UInt32) : Voice :=
  if voice.clip ≠ SNES_MOD_AUDIO_CLIP_INVALID ∧ voice.phase >>> 32 ≥ frameCount.toUInt64 then .idle
    else voice

/-- A voice one output frame on. -/
def advance (slot : ClipSlot) (voice : Voice) (outputRate : UInt32) : Voice :=
  (voice.forward ((slot.sampleRate.toUInt64 <<< 32) / outputRate.toUInt64)).stopAt slot.frameCount

/-- The loop body of one voice. -/
def mixVoice (clips : Clips) (outputRate outputChannels : UInt32) (voice : Voice)
    (mixed : Nat → Int) :
    Except Stop (Voice × (Nat → Int)) :=
  if voice.clip = SNES_MOD_AUDIO_CLIP_INVALID then .ok (voice, mixed)
  else
    match clipSlot clips voice.clip with
    | none => .ok (.idle, mixed)
    | some index =>
      if (voice.phase >>> 32).toUInt32 ≥ (clips index).frameCount then .ok (.idle, mixed)
      else do
        let mixed ← mixChannels (clips index) voice outputChannels mixed
        return (advance (clips index) voice outputRate, mixed)

/-- The loop over the voices. -/
def mixVoices (clips : Clips) (outputRate outputChannels : UInt32) (voices : Voices)
    (mixed : Nat → Int) :
    Except Stop (Voices × (Nat → Int)) :=
  (List.finRange SNES_MOD_AUDIO_MAX_VOICES).foldlM (fun (voices, mixed) i => do
    let (voice, mixed) ← mixVoice clips outputRate outputChannels (voices i) mixed
    return (Function.update voices i voice, mixed)) (voices, mixed)

/-- The loop body of one output frame. -/
def mixFrame (clips : Clips) (outputRate outputChannels : UInt32) (voices : Voices)
    (dst : List Int16)
    (frame : Nat) : Except Stop (Voices × List Int16) := do
  let first ← readFrame dst (frame * outputChannels.toNat)
  let second ← (if outputChannels = 2 then readFrame dst (frame * 2 + 1) else pure 0)
  let (voices, mixed) ← mixVoices clips outputRate outputChannels voices
    (fun channel => if channel = 0 then first else second)
  let dst ← (List.range outputChannels.toNat).foldlM (fun dst channel =>
    writeFrame dst (frame * outputChannels.toNat + channel) (clampS16 (mixed channel))) dst
  return (voices, dst)

/-- The checks in front of the mixer. -/
def mixInvalid (frameCount : Int32) (outputRate outputChannels : UInt32) : Prop :=
  frameCount.toInt ≤ 0 ∨ outputRate < 8000 ∨ outputRate > 192000 ∨
    (outputChannels ≠ 1 ∧ outputChannels ≠ 2)

instance (frameCount : Int32) (outputRate outputChannels : UInt32) :
    Decidable (mixInvalid frameCount outputRate outputChannels) :=
  inferInstanceAs (Decidable (_ ∨ _))

/-- `snes_mod_audio_mix`, into a buffer that is there. -/
def Pool.mix (s : Pool) (dst : List Int16) (frameCount : Int32)
    (outputRate outputChannels : UInt32) :
    Except Stop (List Int16 × Pool) :=
  if mixInvalid frameCount outputRate outputChannels then .ok (dst, s)
  else do
    let (voices, dst) ← (List.range frameCount.toInt.toNat).foldlM (fun (voices, dst) frame =>
      mixFrame s.clips outputRate outputChannels voices dst frame) (s.voices, dst)
    return (dst, { s with voices })

/-! ## Runs -/

inductive Act where
  | register (samples : Option (List Int16)) (frameCount sampleRate channels : UInt32)
    (allocated : Bool)
  | unregister (clip : Int32)
  | play (clip gainPercent : Int32)
  | stopAll
  | mix (dst : List Int16) (frameCount : Int32) (outputRate outputChannels : UInt32)

/-- The state one call leaves. -/
def Pool.perform (s : Pool) : Act → Except Stop Pool
  | .register samples frameCount sampleRate channels allocated => do
    let (_, t) ← s.registerPcmS16 samples frameCount sampleRate channels allocated
    return t
  | .unregister clip => .ok (s.unregister clip)
  | .play clip gainPercent => do
    let (_, t) ← s.play clip gainPercent
    return t
  | .stopAll => .ok s.stopAll
  | .mix dst frameCount outputRate outputChannels => do
    let (_, t) ← s.mix dst frameCount outputRate outputChannels
    return t

/-- A caller's array holds as many samples as the caller says. -/
def Act.Fits : Act → Prop
  | .register samples frameCount _ channels _ =>
    ∀ xs ∈ samples, frameCount.toNat * channels.toNat ≤ xs.length
  | .mix dst frameCount _ outputChannels => frameCount.toInt * outputChannels.toNat ≤ dst.length
  | _ => True

def Pool.Step (s : Pool) (act : Act) (t : Pool) : Prop := act.Fits ∧ s.perform act = .ok t

end SmwRecomp.Audio
